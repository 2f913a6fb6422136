import ReviewContext.Settings.LogPath
import ReviewContext.Settings.Validation
import ReviewContext.Text.Digit
import ReviewContext.Text.Word

/-! The state of logging: it follows the settings, and a log file once opened stays open. -/
namespace ReviewContext.Settings

structure Logging where
  console : Bool := false
  level : Nat := 0
  files : List LogPath := []
deriving DecidableEq, Repr

def isDigit (c : Char) : Bool := (Text.digitValue? c).isSome

/-- A letter that says how a field is written, in any case; three letters beyond ASCII have such a
case. -/
def isConversion (c : Char) : Bool :=
  "diouxefgcrsa%".toList.contains c.toLower || "\u0130\u0131\u017f".toList.contains c

def size? : List Char → Option (List Char)
  | [] => none
  | c :: cs =>
    if c = '*' then some cs else if isDigit c then some (cs.dropWhile isDigit) else none

def skipPrecision (cs : List Char) : List Char :=
  match cs with
  | '.' :: rest => (size? rest).getD cs
  | _ => cs

/-- A named field at the head of a text: its name in brackets, flags, a width, a precision and a
conversion. -/
def opensWithField (cs : List Char) : Bool :=
  match cs with
  | '%' :: '(' :: rest =>
    match rest.span Text.isWordChar with
    | (_ :: _, ')' :: rest) =>
      let rest := rest.dropWhile fun c => "#0+ -".toList.contains c
      (skipPrecision ((size? rest).getD rest)).head?.any isConversion
    | _ => false
  | _ => false

def hasField : List Char → Bool
  | [] => false
  | c :: cs => opensWithField (c :: cs) || hasField cs

/-- A format without any field is refused; an empty one stands for the standard. -/
def checkFormat (format : Value) : Except SettingsError Unit :=
  match format with
  | .text written =>
    if written = "" ∨ hasField written.toList then .ok () else .error (.format written)
  | .halved pieces =>
    if hasField (pieces.map fun piece => piece.char?.getD '\uFFFD') then .ok ()
    else .error (.format pieces.written)
  | value => if value.isTruthy then .error (.kind (.notSearchable value.typeName)) else .ok ()

def pathOf (host : Host) (value : Value) : Except SettingsError LogPath :=
  match value with
  | .text written => (host.place .text (.ofChars written.toList)).mapError .host
  | .halved pieces => (host.place .text pieces).mapError .host
  | .bytes bytes =>
    (host.place .bytes (.ofChars (bytes.map fun byte => Char.ofNat byte.toNat))).mapError .host
  | value => .error (.kind (.notPath value.typeName))

def Config.logLevel (config : Config) : Nat :=
  if config.debug.isTruthy then LogLevel.debug.number
  else ((config.logging.level.text?.bind LogLevel.ofName?).getD .info).number

namespace Logging

def openFile (state : Logging) (host : Host) (settings : LogSettings) :
    Except SettingsError Logging := do
  if !settings.filePath.isTruthy then return state
  if !state.files.isEmpty then
    let path ← pathOf host settings.filePath
    if state.files.contains path then return state
  let _ ← settings.maxFileSize.aboveZero.mapError .kind
  let path ← pathOf host settings.filePath
  (host.opening path).mapError .host
  checkFormat settings.format
  return { state with files := state.files ++ [path] }

/-- Opens the console at first, sets the level and opens the log file. What was done before a
failure stays done. -/
def adopt (state : Logging) (host : Host) (config : Config) :
    Logging × Except SettingsError Unit :=
  match if state.console then .ok () else checkFormat config.logging.format with
  | .error error => (state, .error error)
  | .ok () =>
    let state := { state with console := true, level := config.logLevel }
    match state.openFile host config.logging with
    | .error error => (state, .error error)
    | .ok state => (state, .ok ())

end Logging

end ReviewContext.Settings
