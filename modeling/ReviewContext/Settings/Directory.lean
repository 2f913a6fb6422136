import ReviewContext.Settings.Error
import ReviewContext.Yaml.Fault

/-! Where files are looked for: the working folder, the folders above it, and the root with the
folders that every system has. -/
namespace ReviewContext.Settings

abbrev Directory := List (String × String)

inductive LoadError
  | settings (error : SettingsError)
  | noFile (path : String)
  | isFolder (path : String)
  | tooLongPath (path : String)
  | document (fault : Yaml.Fault)
deriving DecidableEq, Repr

def LoadError.message : LoadError → String
  | settings error => error.message
  | noFile path => "Config file not found: " ++ path
  | isFolder path => "[Errno 21] Is a directory: " ++ Text.quoted path
  | tooLongPath path => "[Errno 36] File name too long: " ++ Text.quoted path
  | document fault => fault.message

namespace Directory

/-- What a path leads to: the working folder or one above it, the root or a folder in it, a file, or
nothing. -/
inductive Target
  | here
  | above
  | root
  | system (folder : String)
  | file (text : String)
  | nothing
  | tooLong

def nameLimit : Nat := 255

def pathLimit : Nat := 4096

def Target.outer? : Target → Option Target
  | here | above => some above
  | root | system _ => some root
  | file _ | nothing | tooLong => none

def systemFolders : List String := ["dev", "etc", "proc", "tmp", "usr"]

/-- What lies in a folder under a name. Of the folders above nothing is known, of those of the
system only the empty device. -/
def inside (directory : Directory) (target : Target) (part : String) : Target :=
  match target with
  | .here => ((directory.lookup part).map Target.file).getD .nothing
  | .root => if systemFolders.contains part then .system part else .nothing
  | .system "dev" => if part = "null" then .file "" else .nothing
  | _ => .nothing

def step (directory : Directory) (target : Target) (part : String) : Target :=
  match target.outer? with
  | some outer =>
    if part = ".." then outer
    else if nameLimit < part.utf8ByteSize then .tooLong
    else directory.inside target part
  | none =>
    match target with
    | .tooLong => .tooLong
    | _ => .nothing

def parts (path : String) : List String :=
  ((path.toList.splitOn '/').map String.ofList).filter fun part => part != "" && part != "."

/-- Where a path leads; no file has a path with a null character. -/
def follow (directory : Directory) (path : String) : Target :=
  let parts := parts path
  let slashes := LogPath.leadingSlashes (.ofChars path.toList)
  let bytes := slashes + ("/".intercalate parts).utf8ByteSize
  if path.toList.contains '\x00' then .nothing
  else if pathLimit ≤ bytes then .tooLong
  else parts.foldl directory.step (if 0 < slashes then .root else .here)

def read (directory : Directory) (path : String) : Except LoadError String :=
  match directory.follow path with
  | .file text => .ok text
  | .nothing => .error (.noFile path)
  | .here | .above | .root | .system _ => .error (.isFolder path)
  | .tooLong => .error (.tooLongPath path)

end Directory

end ReviewContext.Settings
