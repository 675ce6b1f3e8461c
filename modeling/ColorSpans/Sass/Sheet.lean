import ColorSpans.Path
import ColorSpans.Sass.Line

/-! The parsed view of one stylesheet, kept line by line so that a part of it can be read anew. -/
namespace ColorSpans.Sass
open Numeral

structure Sheet where
  declarations : Std.ExtTreeMap Int Declarations
  imports : Std.ExtTreeMap Int (List String)
  /-- The files that the imports led to when they were last followed. -/
  edges : List String

namespace Sheet

def empty : Sheet := ⟨∅, ∅, []⟩

def addDeclarations (sheet : Sheet) (number : Int) (found : Declarations) : Sheet :=
  if found.isEmpty then sheet
  else { sheet with declarations := sheet.declarations.insert number found }

def addImports (sheet : Sheet) (number : Int) (targets : List String) : Sheet :=
  if targets.isEmpty then sheet
  else { sheet with imports := sheet.imports.insert number targets }

/-- Reads lines numbered from `first` into a sheet. Each read replaces what its line said. -/
def readFrom (matcher : Option Matcher) (sheet : Sheet) (first : Int) (pending : Bool) :
    List String → Except NumeralError Sheet
  | [] => .ok sheet
  | raw :: rest => do
      let line := dropComments raw.toList
      let found ← readDeclarations matcher line
      let imports := readImports pending line
      readFrom matcher ((sheet.addDeclarations first found).addImports first imports.targets)
        (first + 1) imports.pending rest

def read (matcher : Option Matcher) (lines : List String) : Except NumeralError Sheet :=
  readFrom matcher empty 0 false lines

/-- The lines from `start` up to `stop`, or up to the end. -/
structure Range where
  start : Int
  stop : Option Int

def Range.contains (range : Range) (number : Int) : Bool :=
  range.start ≤ number && range.stop.all fun stop => number < stop

/-- Forgets what the lines of a range said. -/
def erase (sheet : Sheet) (range : Range) : Sheet :=
  ⟨sheet.declarations.filter fun number _ => !range.contains number,
    sheet.imports.filter fun number _ => !range.contains number, []⟩

/-- The declarations of all lines; a later line counts. -/
def flatten (sheet : Sheet) : Declarations :=
  sheet.declarations.foldl (fun out _ found => out.insertMany found.toList) ∅

/-- The imported targets in the order of the lines. -/
def targets (sheet : Sheet) : List String := sheet.imports.toList.flatMap Prod.snd

end Sheet

def extensions : List String := [".scss", ".sass"]

def hasExtension (name : String) : Bool := extensions.any fun e => e.toList.isSuffixOf name.toList

/-- A file may be written with an underscore before its name, and without its extension. -/
def fileNames (name : String) : List String :=
  (if hasExtension name then [name] else extensions.map (name ++ ·)).flatMap fun n => [n, "_" ++ n]

/-- The files that a target may stand for, seen from the importing file. -/
def candidates (importer target : String) : List String :=
  let name := Path.name target
  if name = "" then []
  else
    let base := Path.join (Path.folder importer) (Path.folder target)
    (fileNames name).map fun n => Path.normal (Path.join base n)

/-- The files that the imports of a sheet may stand for, in order. -/
def Sheet.candidates (sheet : Sheet) (importer : String) : List String :=
  sheet.targets.flatMap (Sass.candidates importer)

/-- The color at the end of a chain of at most `limit` aliases; a cycle never ends. -/
def followAlias (merged : Declarations) : (limit : Nat) → Option Declaration → Option String
  | _, none => none
  | _, some (.color hex) => some hex
  | 0, some (.alias _) => none
  | limit + 1, some (.alias target) => followAlias merged limit merged[target]?

def resolveAlias (merged : Declarations) (limit : Nat) (name : String) : Option String :=
  followAlias merged limit merged[name]?

/-- No chain without a cycle is longer than there are variables. -/
def resolveAll (merged : Declarations) : Definitions :=
  merged.filterMap fun name _ => resolveAlias merged merged.size name

end ColorSpans.Sass
