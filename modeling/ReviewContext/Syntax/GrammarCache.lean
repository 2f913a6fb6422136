/-! A memo of loaded grammars. A grammar is loaded at its first use and kept; a load that fails
leaves no trace. -/
namespace ReviewContext.Syntax

/-- A parser cannot be had or cannot use a text; the name is that of the language. -/
structure ParseFailure where
  language : String
  message : String
deriving DecidableEq, Repr

/-- What is kept under a name: the grammar, none if the loader gave nothing, and how often it was
loaded. -/
structure GrammarCache (G : Type) where
  entries : List (String × Option G × Nat)

namespace GrammarCache

variable {G : Type}

def empty : GrammarCache G := ⟨[]⟩

def find? (cache : GrammarCache G) (name : String) : Option (Option G × Nat) :=
  (cache.entries.find? fun entry => entry.1 == name).map Prod.snd

def isLoaded (cache : GrammarCache G) (name : String) : Bool := (cache.find? name).isSome

def loadCount (cache : GrammarCache G) (name : String) : Nat :=
  match cache.find? name with
  | some (_, count) => count
  | none => 0

def loadCounts (cache : GrammarCache G) : List (String × Nat) :=
  cache.entries.map fun entry => (entry.1, entry.2.2)

def store (cache : GrammarCache G) (name : String) (grammar : Option G) : GrammarCache G :=
  if cache.isLoaded name then
    ⟨cache.entries.map fun entry =>
      if entry.1 == name then (name, grammar, entry.2.2 + 1) else entry⟩
  else ⟨cache.entries ++ [(name, grammar, 1)]⟩

/-- The grammar under a name. Nothing kept, or nothing but an empty load, runs the loader. -/
def get (cache : GrammarCache G) (name displayName : String) (load : Except String (Option G)) :
    Except ParseFailure (Option G) × GrammarCache G :=
  match cache.find? name with
  | some (some grammar, _) => (.ok (some grammar), cache)
  | _ =>
    match load with
    | .ok grammar => (.ok grammar, cache.store name grammar)
    | .error reason =>
      (.error ⟨name, "Could not load " ++ displayName ++ " grammar: " ++ reason⟩, cache)

end GrammarCache

end ReviewContext.Syntax
