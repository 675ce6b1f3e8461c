import ColorSpans.Sass.Loading

/-! The variables of one buffer: those that its lines declare and those of every file that they
import, directly or not. -/
namespace ColorSpans.Sass

structure Variables where
  owner : Nat
  matcher : Option Matcher
  root : Option String
  sheets : Sheets
  stamps : Std.ExtTreeMap String Int
  watches : Std.ExtTreeMap String Nat
  definitions : Definitions

namespace Variables

def new (owner : Nat) (matcher : Option Matcher) : Variables :=
  ⟨owner, matcher, none, ∅, ∅, ∅, ∅⟩

/-- The key of a buffer that has no file. -/
def bufferKey : String := "<buffer>"

def keyOf (disk : Disk) (path : Option String) : String :=
  match path with
  | none | some "" => bufferKey
  | some path => disk.real path

def loader (v : Variables) : Loader := ⟨v.owner, v.matcher, v.root⟩

def start (v : Variables) (world : World) : Loaded := ⟨world, v.sheets, v.stamps, v.watches⟩

/-- Sheets that the root no longer leads to are forgotten; the rest make the new definitions. -/
def commit (v : Variables) (s : Loaded) : Variables × World :=
  let order := reachable s.sheets v.root
  let s := s.dropAll (s.sheets.keys.filter fun path => !order.contains path)
  ({ v with
      sheets := s.sheets, stamps := s.stamps, watches := s.watches
      definitions := resolveAll (mergeSheets s.sheets order) }, s.world)

/-- A failed load leaves the sheets and definitions as they were. -/
def finish (v : Variables) (outcome : Except LoadError Unit × Loaded) :
    Except LoadError Unit × Variables × World :=
  match outcome with
  | (.ok _, s) => (.ok (), v.commit s)
  | (.error e, s) => (.error e, { v with stamps := s.stamps, watches := s.watches }, s.world)

/-- Another root takes the place of the one before. -/
def setRoot (v : Variables) (key : String) : Variables := { v with root := some key }

def sheetsWithoutOldRoot (v : Variables) (key : String) : Sheets :=
  match v.root with
  | some root => if root = key then v.sheets else v.sheets.erase root
  | none => v.sheets

/-- The buffer's own sheet once a range of its lines is read anew. -/
def rereadSheet (v : Variables) (key : String) (lines : List String) (range : Sheet.Range) :
    Except LoadError Sheet :=
  let old := ((v.sheetsWithoutOldRoot key)[key]?).getD .empty
  (Sheet.readFrom v.matcher (old.erase range) range.start false lines).mapError .numeral

/-- Follows the imports of the buffer's own sheet. -/
def loadRoot (v : Variables) (key : String) (sheet : Sheet) : Loading Unit := do
  modify fun s => { s with sheets := (v.sheetsWithoutOldRoot key).insert key sheet }
  let l := (v.setRoot key).loader
  l.followImports (fun next stamp => l.load [next, key] next stamp) key [key]

/-- Reads the lines of a range of the buffer anew, then loads new and changed imports. -/
def update (v : Variables) (world : World) (path : Option String) (lines : List String)
    (range : Sheet.Range) : Except LoadError Unit × Variables × World :=
  let key := keyOf world.disk path
  match v.rereadSheet key lines range with
  | .error e => (.error e, v.setRoot key, world)
  | .ok sheet => (v.setRoot key).finish ((v.loadRoot key sheet).run.run (v.start world))

/-- Loads a changed file, or forgets it if it is gone. -/
def reload (v : Variables) (path : String) : Loading Unit := do
  match (← get).world.disk.stamp? path with
  | none => modify (·.drop path)
  | some stamp => v.loader.load [path] path stamp

/-- Whether a change was taken in; a file that is not watched is none of this buffer's. -/
def fileChanged (v : Variables) (world : World) (path : String) :
    Except LoadError Bool × Variables × World :=
  if v.watches.contains path then
    let (outcome, rest) := v.finish ((v.reload path).run.run (v.start world))
    (outcome.map fun _ => true, rest)
  else (.ok false, v, world)

/-- Cancels every watch and forgets everything. -/
def close (v : Variables) (world : World) : Variables × World :=
  (new v.owner v.matcher,
    { world with board := v.watches.foldl (fun board _ watch => board.cancel watch) world.board })

def resolve (v : Variables) (name : String) : Option String :=
  v.definitions[String.ofList (name.toList.dropWhile (· == '$'))]?

def sheetAt (v : Variables) (disk : Disk) (path : Option String) : Option Sheet :=
  v.sheets[keyOf disk path]?

/-- The files that a file leads to, with the time of each one's last change where it is known. -/
def importsOf (v : Variables) (disk : Disk) (path : Option String) : List (String × Int) :=
  match v.sheetAt disk path with
  | none => []
  | some sheet => sheet.edges.filterMap fun edge => v.stamps[edge]?.map fun stamp => (edge, stamp)

def declarationsOf (v : Variables) (disk : Disk) (path : Option String) : Declarations :=
  ((v.sheetAt disk path).map Sheet.flatten).getD ∅

end Variables

end ColorSpans.Sass
