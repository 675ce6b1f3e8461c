import ColorSpans.Literal.Functional
import ColorSpans.Literal.Hex
import ColorSpans.Names.Css
import ColorSpans.Options

/-! A configuration: the kinds of literals that are recognized. -/
namespace ColorSpans

/-- Literals told by their first characters. -/
inductive Prefixed
  | argb
  | function (f : ColorFunction)
  deriving DecidableEq, Repr

namespace Prefixed

def opening : Prefixed → String
  | .argb => "0x"
  | .function f => f.keyword

def literalAt (a : Arithmetic) (line : List Char) (column : Int) :
    Prefixed → Except Numeral.NumeralError (Option Reading)
  | .argb => .ok (readArgbAt line column)
  | .function f => readFunctionAt a f line column

end Prefixed

structure Config where
  names : Bool
  hexLengths : HexLengths
  argb : Bool
  rgbFunctions : Bool
  hslFunctions : Bool
  paletteMode : PaletteMode
  usesVariables : Bool
  /-- The host's own names, in place of the CSS names. -/
  hostNames : Option HostNames

namespace Config

def hexLengthsOf (options : Options) : HexLengths :=
  let css := Options.isOn options "css"
  ⟨css || Options.isOn options "RGB", css || Options.isOn options "RRGGBB",
    css || Options.isOn options "RRGGBBAA"⟩

/-- Color values are compared, so none may be a list or an object. -/
def checkHostNames (named : HostNames) : Except OptionError Unit :=
  named.forM fun entry =>
    match entry.2 with
    | .arr _ | .obj _ => .error (.compoundColor entry.2)
    | _ => .ok ()

/-- The option `css` stands for names, all hexadecimal lengths and both families of functions;
`css_fn` for the functions alone. -/
def ofMerged (options : Options) (hostNames : Option HostNames) : Except OptionError Config := do
  Options.check options
  let paletteMode ← Options.paletteMode options
  let usesVariables ← Options.usesVariables options
  if let some named := hostNames then checkHostNames named
  let css := Options.isOn options "css"
  let functions := css || Options.isOn options "css_fn"
  return {
    names := css || Options.isOn options "names"
    hexLengths := hexLengthsOf options
    argb := Options.isOn options "AARRGGBB"
    rgbFunctions := functions || Options.isOn options "rgb_fn"
    hslFunctions := functions || Options.isOn options "hsl_fn"
    paletteMode, usesVariables, hostNames }

def ofOptions (defaults options : Options) (hostNames : Option HostNames) :
    Except OptionError Config :=
  ofMerged (Options.merge defaults options) hostNames

/-- The recognized openings, in the order in which they are listed. -/
def prefixed (c : Config) : List Prefixed :=
  (if c.argb then [.argb] else []) ++
    (if c.rgbFunctions then [.function .rgb, .function .rgba] else []) ++
    (if c.hslFunctions then [.function .hsl, .function .hsla] else [])

def paletteNames (c : Config) : Bool := c.paletteMode.usesNames

def isExternal (c : Config) : Bool := c.paletteMode.isExternal

def isEnabled (c : Config) : Bool :=
  c.names || !c.hexLengths.isEmpty || !c.prefixed.isEmpty || c.paletteNames || c.usesVariables

end Config

end ColorSpans
