import ReviewContext.Text.Piece

/-! Paths of log files, apart from the way they are written, and the host that the files are
opened on. -/
namespace ReviewContext.Settings

open Text (Pieces)

/-- A path is given as a text or as bytes; no path of one form is a path of the other. -/
inductive PathForm
  | text
  | bytes
deriving DecidableEq, Repr

/-- The parts on the way from the root, which is written with one slash or two. -/
structure LogPath where
  form : PathForm
  slashes : Nat
  parts : List Pieces
deriving DecidableEq, Repr

namespace LogPath

def step (path : LogPath) : Pieces → LogPath
  | [] | [.char '.'] => path
  | [.char '.', .char '.'] => { path with parts := path.parts.dropLast }
  | part => { path with parts := path.parts ++ [part] }

/-- Two leading slashes are kept apart from one; three or more are one. -/
def leadingSlashes (written : Pieces) : Nat :=
  match (written.takeWhile (· = .char '/')).length with
  | 2 => 2
  | n => min n 1

def partsOf (written : Pieces) : List Pieces := written.splitOn (.char '/')

def fromRoot (form : PathForm) (slashes : Nat) (parts : List Pieces) : LogPath :=
  parts.foldl step ⟨form, slashes, []⟩

end LogPath

structure HostFault where
  kind : String
  message : String
deriving DecidableEq, Repr

/-- What a call finds around it: the folder that the program works in, and what comes of opening
a file for more text. Either may have changed by the next call. -/
structure Host where
  folder : PathForm → Except HostFault (List Pieces)
  opening : LogPath → Except HostFault Unit

namespace Host

def place (host : Host) (form : PathForm) (written : Pieces) : Except HostFault LogPath :=
  match LogPath.leadingSlashes written with
  | 0 => (host.folder form).map fun folder => .fromRoot form 1 (folder ++ LogPath.partsOf written)
  | slashes => .ok (.fromRoot form slashes (LogPath.partsOf written))

end Host

end ReviewContext.Settings
