import ReviewContext.Yaml.Evaluation
import ReviewContext.Yaml.Layout

/-! The value of a YAML text, which holds at most one document. -/
namespace ReviewContext.Yaml

def coreHandles : List (String × String) := [("!", "!"), ("!!", coreTag "")]

/-- Whether a directive may stand behind others: the version, whose major number is one, and each
handle are given once. -/
def Directive.mayFollow (before : List Directive) : Directive → Bool
  | .version major => major == 1 && before.all fun
    | .version _ => false
    | _ => true
  | .tag handle _ => before.all fun
    | .tag taken _ => taken != handle
    | _ => true
  | .other => true

def directives (before : List Directive) : List Token → Except Fault (List Directive × List Token)
  | .directive directive :: tokens =>
    if directive.mayFollow before then directives (before ++ [directive]) tokens
    else .error .malformed
  | tokens => .ok (before, tokens)

def handlesOf (directives : List Directive) : List (String × String) :=
  let given := directives.filterMap fun
    | .tag handle lead => some (handle, lead)
    | _ => none
  given ++ coreHandles

def isContent : Token → Bool
  | .directive _ | .documentStart | .documentEnd => false
  | _ => true

/-- What there is when the tokens are used up, unless a fault cut them short. -/
def atCut {α : Type} (cut : Option Fault) (result : Except Fault α) : Except Fault α :=
  match cut with
  | some fault => .error fault
  | none => result

/-- Behind a document there are only marks of its end; directives are read as if another one
came. -/
def endOfText (tokens : List Token) (cut : Option Fault) : Except Fault Unit := do
  match tokens.dropWhile (· == .documentEnd) with
  | [] => atCut cut (.ok ())
  | tokens =>
    match ← directives [] tokens with
    | (_, []) => atCut cut (.error .malformed)
    | _ => throw .malformed

def body (handles : List (String × String)) (tokens : List Token) (cut : Option Fault) :
    Except Fault (Array Node × Nat) := do
  let built ← (tokens.takeWhile isContent).foldlM Builder.step { handles }
  match tokens.dropWhile isContent with
  | [] => atCut cut built.finish
  | behind =>
    let nodes ← built.finish
    endOfText behind cut
    return nodes

/-- The nodes of the only document, none if there is no document. Behind a mark it may be empty. -/
def Tokens.nodes? (tokens : Tokens) : Except Fault (Option (Array Node × Nat)) := do
  match ← directives [] tokens.read with
  | ([], []) => atCut tokens.cut (.ok none)
  | (_, []) => atCut tokens.cut (.error .malformed)
  | (directives, .documentStart :: behind) =>
    if behind.head?.any isContent then some <$> body (handlesOf directives) behind tokens.cut
    else (fun _ => none) <$> endOfText behind tokens.cut
  | ([], read) => some <$> body coreHandles read tokens.cut
  | _ => throw .malformed

def normalLineEnds : List Char → List Char
  | '\r' :: '\n' :: cs => '\n' :: normalLineEnds cs
  | '\r' :: cs => '\n' :: normalLineEnds cs
  | c :: cs => c :: normalLineEnds cs
  | [] => []

/-- A text is read in blocks of so many characters, the first two at once. -/
def blockSize : Nat := 4096

def blockStart (position : Nat) : Nat :=
  if position < 2 * blockSize then 0 else position / blockSize * blockSize

/-- What is wrong with a text that cannot be read from some position on: a fault that the blocks
before it hold, or else that position itself. What is behind those blocks stands there as a
character that is not allowed. -/
def faultBefore (cs : List Char) (position : Nat) : Fault :=
  match (tokensOf (cs.take (blockStart position) ++ ['\x00'])).nodes? with
  | .error fault => fault
  | .ok _ => .malformed

/-- The value that a text stands for; without a document it is nothing. -/
def load (text : String) : Except Fault Value := do
  let cs := normalLineEnds text.toList
  match cs.findIdx? (!isAllowed ·) with
  | some position => throw (faultBefore cs position)
  | none =>
    match ← (tokensOf cs).nodes? with
    | some (nodes, root) => valueOf nodes root
    | none => return .null

end ReviewContext.Yaml
