import ColorSpans.Json.Display

/-! User-facing options: which of them exist, which values they take, and what is wrong with
others. -/
namespace ColorSpans

abbrev Options := Json.Members

inductive OptionError
  | notBoolean (option : String) (value : Json)
  | unknownPaletteMode (value : Json)
  | notBooleanOrObject
  /-- A color value that is a list or an object cannot be told from others. -/
  | compoundColor (value : Json)

/-- Where the palette's colors come from: nowhere, its names, an external source, or both. -/
inductive PaletteMode
  | off
  | normal
  | lsp
  | both
  deriving DecidableEq, Repr

namespace PaletteMode

def name : PaletteMode → String
  | .off => "none"
  | .normal => "normal"
  | .lsp => "lsp"
  | .both => "both"

/-- In the order of their names. -/
def all : List PaletteMode := [.both, .lsp, .off, .normal]

def usesNames : PaletteMode → Bool
  | .normal | .both => true
  | _ => false

def isExternal : PaletteMode → Bool
  | .lsp | .both => true
  | _ => false

def ofOption (value : Json) : Except OptionError PaletteMode :=
  match value with
  | .null | .bool false => .ok .off
  | .bool true => .ok .normal
  | .str s =>
      match all.find? fun mode => mode.name == s with
      | some mode => .ok mode
      | none => .error (.unknownPaletteMode value)
  | _ => .error (.unknownPaletteMode value)

end PaletteMode

def OptionError.message : OptionError → String
  | .notBoolean option value =>
      "option " ++ Text.quoted option ++ " must be a boolean, got " ++ value.kind
  | .unknownPaletteMode value =>
      "Invalid tailwind option: " ++ value.display ++ " (expected bool or one of " ++
        (Json.arr (PaletteMode.all.map fun mode => .str mode.name)).display ++ ")"
  | .notBooleanOrObject => "option 'sass' must be a boolean or an object with 'enable'"
  | .compoundColor value => "unhashable type: " ++ Text.quoted value.kind

namespace Options

def booleans : List String :=
  ["css", "css_fn", "names", "RGB", "RRGGBB", "RRGGBBAA", "AARRGGBB", "rgb_fn", "hsl_fn"]

def paletteOption : String := "tailwind"

def variablesOption : String := "sass"

/-- Options of the host's display, which are accepted and ignored. -/
def display : List String := ["mode", "virtualtext"]

def known : List String := booleans ++ [paletteOption, variablesOption] ++ display

def checkBoolean (options : Options) (option : String) : Except OptionError Unit :=
  match Json.member? option options with
  | none | some (.bool _) => .ok ()
  | some value => .error (.notBoolean option value)

def paletteMode (options : Options) : Except OptionError PaletteMode :=
  match Json.member? paletteOption options with
  | none => .ok .off
  | some value => PaletteMode.ofOption value

/-- Variables are on for `true` and for an object whose member `enable` counts as true. -/
def usesVariables (options : Options) : Except OptionError Bool :=
  match Json.member? variablesOption options with
  | none => .ok false
  | some (.bool b) => .ok b
  | some (.obj members) => .ok ((Json.member? "enable" members).any Json.isTruthy)
  | some _ => .error .notBooleanOrObject

/-- The first fault in the order boolean options, palette, variables. -/
def check (options : Options) : Except OptionError Unit := do
  booleans.forM (checkBoolean options)
  let _ ← paletteMode options
  let _ ← usesVariables options

def isOn (options : Options) (option : String) : Bool :=
  match Json.member? option options with
  | some (.bool b) => b
  | _ => false

/-- Values given later replace earlier ones. -/
def merge (defaults options : Options) : Options :=
  options.foldl (fun out m => Json.setMember m.1 m.2 out) defaults

/-- The names of unknown options, sorted. -/
def unknown (options : Options) : List String :=
  ((options.map Prod.fst).filter fun option => !known.contains option).mergeSort

def warnings (options : Options) : List String :=
  match unknown options with
  | [] => []
  | names => ["Ignoring unknown matcher options: " ++ String.intercalate ", " names]

end Options

end ColorSpans
