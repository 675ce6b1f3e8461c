import ColorSpans.DataFolder.Loader
import ColorSpans.Names.Table
import ColorSpans.Options

/-! The data that the program works with, loaded from a data folder when it is first needed. -/
namespace ColorSpans

namespace Palette

def prefixesOf? (value : Json) : Option (List String) :=
  match value with
  | .arr items => items.mapM fun
      | .str s => some s
      | _ => none
  | _ => none

def shadeOf (entry : String × Json) : Except String (String × String) :=
  match entry.2 with
  | .str s => if isHexText s then .ok (entry.1, s) else .error (fault entry)
  | _ => .error (fault entry)
where
  fault (entry : String × Json) : String :=
    "bad hex for " ++ Text.quoted entry.1 ++ ": " ++ entry.2.display

/-- A palette's document lists its prefixes and its shades with their colors. -/
def ofMembers (members : Json.Members) : Except String Palette := do
  let some prefixes := (Json.member? "prefixes" members).bind prefixesOf?
    | throw "'prefixes' must be a list of strings"
  let some (.obj colors) := Json.member? "colors" members
    | throw "'colors' must be an object of name -> hex"
  return ⟨prefixes, ← colors.mapM shadeOf⟩

end Palette

structure Library where
  tree : FileTree
  /-- The folder of the data that comes with the program. -/
  packaged : String
  /-- The folder set for this program, before the one that it may share with others. -/
  own : Option String
  shared : Option String
  /-- What the setting was before each temporary folder, the latest first. -/
  replaced : List (Option String)
  kept : Documents
  options : Option Options
  palette : Option Palette

namespace Library

def new (tree : FileTree) (packaged : String) : Library :=
  ⟨tree, packaged, none, none, [], [], none, none⟩

/-- An empty setting counts as none, and a home folder is already written out in a setting. -/
def folder (lib : Library) : String :=
  (([lib.own, lib.shared].filterMap id).find? (· ≠ "")).getD lib.packaged

def load (lib : Library) (request : LoadRequest) (validator : Option Validator) :
    Except DocumentError LoadedDocument × Library :=
  let (outcome, kept) :=
    loadDocument lib.tree lib.kept (request.folder.getD lib.folder) request validator
  (outcome, { lib with kept })

def forget (lib : Library) : Library := { lib with kept := [] }

/-- Uses another folder until the matching `leave`. -/
def enter (lib : Library) (folder : String) : Library :=
  { lib with own := some folder, replaced := lib.own :: lib.replaced }.forget

def leave (lib : Library) : Library :=
  match lib.replaced with
  | [] => lib
  | own :: replaced => { lib with own, replaced }.forget

/-- Loads an object that passes a check, from the configured folder. -/
def loadChecked (lib : Library) (file : String) (relaxed : Bool) (validate : Validator) :
    Except DocumentError Json × Library :=
  let (outcome, lib) := lib.load ⟨file, .object, none, "utf-8", relaxed⟩ (some validate)
  (outcome.map (·.document), lib)

def validateOptions : Validator := fun members =>
  (Options.check members).map (fun _ => members) |>.mapError OptionError.message

/-- Once loaded, the default options stay. -/
def defaultOptions (lib : Library) : Except DocumentError Options × Library :=
  match lib.options with
  | some options => (.ok options, lib)
  | none =>
      match lib.loadChecked "default_options" true validateOptions with
      | (.ok (.obj options), lib) => (.ok options, { lib with options := some options })
      | (.ok _, lib) => (.ok [], lib)
      | (.error e, lib) => (.error e, lib)

def validatePalette : Validator := fun members => (Palette.ofMembers members).map fun _ => members

/-- Once loaded, the palette stays until the names are cleared. -/
def namePalette (lib : Library) : Except DocumentError Palette × Library :=
  match lib.palette with
  | some palette => (.ok palette, lib)
  | none =>
      match lib.loadChecked "tailwind_colors" false validatePalette with
      | (.ok (.obj members), lib) =>
          match Palette.ofMembers members with
          | .ok palette => (.ok palette, { lib with palette := some palette })
          | .error reason => (.error (.refused "tailwind_colors.json" reason), lib)
      | (.ok _, lib) => (.ok ⟨[], []⟩, lib)
      | (.error e, lib) => (.error e, lib)

def clearNames (lib : Library) : Library := { lib with palette := none }

/-- The folders named `data` in a folder and in those above it. -/
def dataFolders (start : String) : List String :=
  let start := Path.real "/" start
  (start :: Path.above start).map fun folder => Path.real "/" (folder ++ "/data")

/-- The nearest folder named `data`. -/
def discover (tree : FileTree) (start : String) : Except DocumentError String :=
  match (dataFolders start).find? tree.isFolder with
  | some folder => .ok folder
  | none => .error (.noDataFolder (dataFolders start))

end Library

end ColorSpans
