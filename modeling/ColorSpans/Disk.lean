import ColorSpans.Path
import Std.Data.ExtTreeMap

/-! Files as a program sees them from outside: when each was changed last, and its lines. -/
namespace ColorSpans

structure File where
  stamp : Int
  lines : List String
  deriving DecidableEq, Repr

/-- A file is found under the very spelling that it is kept by. -/
structure Disk where
  /-- Where relative paths start. -/
  working : String
  files : Std.ExtTreeMap String File
  /-- Paths that cannot be read, whether or not they are files. -/
  unreadable : List String

namespace Disk

def stamp? (disk : Disk) (path : String) : Option Int := disk.files[path]?.map File.stamp

def lines? (disk : Disk) (path : String) : Option (List String) :=
  if disk.unreadable.contains path then none else disk.files[path]?.map File.lines

/-- No path is a symbolic link, so the spelling of a path alone tells which file it is. -/
def real (disk : Disk) (path : String) : String := Path.real disk.working path

/-- A new version of a file is one later than the version before it unless its time is given. -/
def write (disk : Disk) (path : String) (lines : List String) (stamp : Option Int) : Disk :=
  let next := (disk.stamp? path).elim 1 (· + 1)
  { disk with files := disk.files.insert path ⟨stamp.getD next, lines⟩ }

def delete (disk : Disk) (path : String) : Disk := { disk with files := disk.files.erase path }

def setUnreadable (disk : Disk) (path : String) (on : Bool) : Disk :=
  let others := disk.unreadable.filter (· != path)
  { disk with unreadable := if on then path :: others else others }

end Disk

/-- A registered interest of one owner in the changes of a file. -/
structure Watch where
  path : String
  owner : Nat
  live : Bool
  deriving DecidableEq, Repr

/-- All watches that were ever registered, in order; a watch is known by its position. -/
abbrev Board := List Watch

namespace Board

def register (board : Board) (path : String) (owner : Nat) : Board := board ++ [⟨path, owner, true⟩]

def cancel (board : Board) (watch : Nat) : Board := board.modify watch ({ · with live := false })

def isLive (board : Board) (watch : Nat) : Bool := board[watch]?.any Watch.live

/-- The watches on a path, in the order of their registration. -/
def onPath (board : Board) (path : String) : List Nat :=
  (board.zipIdx.filter fun entry => entry.1.path == path).map Prod.snd

/-- The paths of the live watches, one entry per watch. -/
def livePaths (board : Board) : List String := (board.filter Watch.live).map Watch.path

end Board

/-- What lies outside a program: the files, the watches on them, and which paths were read, in
order. -/
structure World where
  disk : Disk
  board : Board
  reads : List String

end ColorSpans
