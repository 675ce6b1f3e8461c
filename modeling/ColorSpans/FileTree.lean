import ColorSpans.Path
import ColorSpans.Text.Encoding
import ColorSpans.Text.Lines
import ColorSpans.Text.Quoted
import Std.Data.ExtTreeMap

/-! A tree of folders and files. Paths are followed one part after another, as a system opens
them. -/
namespace ColorSpans

inductive Entry
  | folder
  | file (bytes : List UInt8) (stamp : Int)
  deriving DecidableEq

inductive OpenError
  | missing
  | isFolder
  | notFolder
  deriving DecidableEq, Repr

def OpenError.number : OpenError → Nat
  | .missing => 2
  | .isFolder => 21
  | .notFolder => 20

def OpenError.text : OpenError → String
  | .missing => "No such file or directory"
  | .isFolder => "Is a directory"
  | .notFolder => "Not a directory"

def OpenError.message (e : OpenError) (path : String) : String :=
  "[Errno " ++ toString e.number ++ "] " ++ e.text ++ ": " ++ Text.quoted path

inductive LinesError
  | unopened (e : OpenError)
  | undecodable (e : Text.DecodingError)

/-- Entries by their real paths; the root is always a folder. -/
structure FileTree where
  entries : Std.ExtTreeMap String Entry

namespace FileTree

def empty : FileTree := ⟨∅⟩

def entry? (tree : FileTree) (place : String) : Option Entry :=
  if place = "/" then some .folder else tree.entries[place]?

def child (place name : String) : String :=
  if place = "/" then "/" ++ name else place ++ "/" ++ name

def addFolders (tree : FileTree) (places : List String) : FileTree :=
  ⟨places.foldl (fun out place => out.insertIfNew place .folder) tree.entries⟩

/-- Folders above a new entry are made as well. -/
def addFolder (tree : FileTree) (place : String) : FileTree :=
  tree.addFolders (place :: Path.above place)

def addFile (tree : FileTree) (place : String) (bytes : List UInt8) (stamp : Int) : FileTree :=
  ⟨(tree.addFolders (Path.above place)).entries.insert place (.file bytes stamp)⟩

def remove (tree : FileTree) (place : String) : FileTree := ⟨tree.entries.erase place⟩

/-- Goes on from an existing place; only a folder leads on. -/
def follow (tree : FileTree) (place : String) : List String → Except OpenError String
  | [] => .ok place
  | part :: rest =>
      match tree.entry? place with
      | some .folder =>
          if part = "" ∨ part = "." then tree.follow place rest
          else if part = ".." then tree.follow (Path.real "/" (place ++ "/..")) rest
          else
            let next := child place part
            if (tree.entry? next).isSome then tree.follow next rest else .error .missing
      | _ => .error .notFolder

/-- The place that a path leads to from a working folder. -/
def locate (tree : FileTree) (working path : String) : Except OpenError String :=
  if path = "" then .error .missing
  else
    let parts := (Path.splitParts path.toList).map String.ofList
    tree.follow (if Path.isAbsolute path then "/" else working) parts

def openFile (tree : FileTree) (working path : String) : Except OpenError (List UInt8 × Int) := do
  match tree.entry? (← tree.locate working path) with
  | some (.file bytes stamp) => .ok (bytes, stamp)
  | some .folder => .error .isFolder
  | none => .error .missing

def bytes (tree : FileTree) (working path : String) : Except OpenError (List UInt8) :=
  (tree.openFile working path).map Prod.fst

/-- When a file was changed last. -/
def stamp? (tree : FileTree) (working path : String) : Option Int :=
  ((tree.openFile working path).map Prod.snd).toOption

def isFolder (tree : FileTree) (place : String) : Bool :=
  match tree.locate "/" place with
  | .ok place => tree.entry? place == some .folder
  | .error _ => false

/-- The lines of a file; what cannot be decoded is replaced, but the encoding has to be known and
the order of its bytes told. -/
def lines (tree : FileTree) (working encoding path : String) : Except LinesError (List String) := do
  let bytes ← (tree.bytes working path).mapError LinesError.unopened
  let encoding ← (Text.namedEncoding encoding).mapError LinesError.undecodable
  (Text.checkMark encoding bytes).mapError LinesError.undecodable
  return Text.fileLines (Text.decodeLenient encoding bytes)

end FileTree

/-- A watch that looks at a file's time again and again and counts its changes. -/
structure PollingWatch where
  path : String
  last : Option Int
  calls : Nat
  live : Bool

namespace PollingWatch

def start (tree : FileTree) (working path : String) : PollingWatch :=
  ⟨path, tree.stamp? working path, 0, true⟩

/-- A file that appears, changes its time or disappears counts as a change. -/
def poll (tree : FileTree) (working : String) (w : PollingWatch) : PollingWatch :=
  let now := tree.stamp? working w.path
  if w.live && w.last != now then { w with last := now, calls := w.calls + 1 } else w

def cancel (w : PollingWatch) : PollingWatch := { w with live := false }

end PollingWatch

end ColorSpans
