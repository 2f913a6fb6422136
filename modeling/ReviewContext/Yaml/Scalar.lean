import ReviewContext.Text.Base64
import ReviewContext.Yaml.Number
import ReviewContext.Yaml.Timestamp

/-! What the text of a scalar stands for. -/
namespace ReviewContext.Yaml

/-- What a scalar can be. One kind joins a mapping to the one around it, and one stands for the
mapping itself; only keys have them. -/
inductive ScalarKind
  | null
  | bool
  | int
  | real
  | bytes
  | timestamp
  | merge
  | default
  | text
deriving DecidableEq, Repr

def nullWords : List String := ["", "~", "null", "Null", "NULL"]

def boolWords : List (String × Bool) :=
  [("yes", true), ("no", false), ("true", true), ("false", false), ("on", true), ("off", false)]

/-- A word in small letters, with a capital, or in capitals. -/
def isSpelling (word text : String) : Bool :=
  text == word || text == word.capitalize || text == word.toUpper

def coreTag (name : String) : String := "tag:yaml.org,2002:" ++ name

namespace ScalarKind

def tags : List (String × ScalarKind) :=
  [("null", null), ("bool", bool), ("int", int), ("float", real), ("binary", bytes),
    ("timestamp", timestamp),
    ("merge", merge), ("value", default), ("str", text)]

def dropLineEnd (written : String) : String :=
  match written.toList.reverse with
  | '\n' :: c :: cs => String.ofList (c :: cs).reverse
  | _ => written

def ofText (text : String) : ScalarKind :=
  let written := dropLineEnd text
  if boolWords.any fun entry => isSpelling entry.1 written then bool
  else if Number.isReal written.toList then real
  else if Number.isWhole written.toList then int
  else if written = "<<" then merge
  else if nullWords.contains written then null
  else if Timestamp.isTimestamp written.toList then timestamp
  else if written = "=" then default
  else .text

def ofPlain (written : Text.Pieces) : ScalarKind :=
  match written.chars? with
  | some cs => ofText (String.ofList cs)
  | none => text

def readTimestamp (written : String) : Except Fault Value :=
  match Timestamp.ofChars? (dropLineEnd written).toList with
  | none => .error .noTimestamp
  | some found =>
    match found.fault? with
    | some fault => .error fault
    | none =>
      .ok (if found.time.isSome then .moment written else .date found.year found.month found.day)

/-- Reads the text of a kind, which it has to fit if a tag gives the kind. -/
def readText (kind : ScalarKind) (written : String) : Except Fault Value :=
  match kind with
  | null => .ok .null
  | text => .ok (.text written)
  | bool =>
    let word := Text.lower written
    match boolWords.lookup word with
    | some value => .ok (.bool value)
    | none => .error (.noTruth (.ofChars word.toList))
  | int => (Number.readWhole written.toList).map Value.int
  | real => (Number.readReal written).map Value.real
  | bytes =>
    match Text.Base64.decode written.toList with
    | some value =>
      if written.toList.all fun c => c.toNat < 128 then .ok (.bytes value) else .error .malformed
    | none => .error .malformed
  | timestamp => readTimestamp written
  | merge | default => .error .malformed

def readHalved (kind : ScalarKind) (written : Text.Pieces) : Except Fault Value :=
  match kind with
  | null => .ok .null
  | text => .ok (.halved written)
  | bool => .error (.noTruth written.lower)
  | int => .error (Number.wholeFault written)
  | real => .error (Number.realFault written)
  | timestamp => .error .noTimestamp
  | bytes | merge | default => .error .malformed

def read (kind : ScalarKind) (written : Text.Pieces) : Except Fault Value :=
  match written.chars? with
  | some cs => kind.readText (String.ofList cs)
  | none => kind.readHalved written

end ScalarKind

end ReviewContext.Yaml
