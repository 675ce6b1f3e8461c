import ColorSpans.Config
import ColorSpans.Literal.Column
import ColorSpans.Span

/-! A matcher: everything that a configuration needs to read literals from lines. -/
namespace ColorSpans
open Numeral

def Prefixed.readAt (a : Arithmetic) :
    Prefixed → List Char → Int → Except ColumnError (Option Reading)
  | .argb, line, column => .ok (readArgbAt line column)
  | .function f, line, column => readFunctionFrom a f line column

structure Matcher where
  arithmetic : Arithmetic
  config : Config
  openings : Trie
  names : Option NameTable

/-- What a configuration's name table is made of. -/
structure NameRequest where
  palette : Bool
  hostNames : Option HostNames

namespace Config

/-- With names off, only the palette's names are left. -/
def nameRequest (c : Config) : Option NameRequest :=
  if c.names then some ⟨c.paletteNames, c.hostNames⟩
  else if c.paletteNames then some ⟨true, some []⟩
  else none

end Config

def NameRequest.table (r : NameRequest) (palette : Palette) : NameTable :=
  NameTable.build {} (r.hostNames.getD cssNames) (if r.palette then some palette else none)

namespace Matcher

def ofTable (arithmetic : Arithmetic) (config : Config) (names : Option NameTable) : Matcher :=
  { arithmetic, config, names
    openings := Trie.ofWords (config.prefixed.map fun p => p.opening.toList) }

def compileWith (arithmetic : Arithmetic) (config : Config) (palette : Palette) : Matcher :=
  ofTable arithmetic config (config.nameRequest.map (·.table palette))

def compile (config : Config) (palette : Palette) : Matcher := compileWith .double config palette

/-- `none` if the configuration recognizes nothing. -/
def compile? (config : Config) (palette : Palette) : Option Matcher :=
  if config.isEnabled then some (compile config palette) else none

/-- The literal kind whose opening is the longest one at the column. -/
def prefixedAt (m : Matcher) (line : List Char) (column : Nat) : Option Prefixed :=
  (m.openings.longestAt line column).bind fun word =>
    m.config.prefixed.find? fun p => p.opening.toList == word

/-- A number sign belongs to hexadecimal literals if there are any, then openings are tried, then
variables, then names; the first of them that applies decides. -/
def readAt (m : Matcher) (definitions : Option Definitions) (chars : List Char) (column : Nat) :
    Except NumeralError (Option Reading) :=
  match chars[column]? with
  | none => .ok none
  | some c =>
      if c == '#' && !m.config.hexLengths.isEmpty then
        .ok (readHashAt m.config.hexLengths chars column)
      else match m.prefixedAt chars column with
        | some p => p.literalAt m.arithmetic chars column
        | none =>
            match c == '$', definitions with
            | true, some definitions => .ok (readReferenceAt definitions chars column)
            | _, _ => .ok (m.names.bind fun table => table.readAt chars column)

/-- From left to right, without overlaps: after a literal the scan goes on behind it. -/
def scanFrom (m : Matcher) (definitions : Option Definitions) (line : List Char) (column : Nat) :
    Except NumeralError (List Span) := do
  if column < line.length then
    match ← m.readAt definitions line column with
    | none => m.scanFrom definitions line (column + 1)
    | some r =>
        let more ← m.scanFrom definitions line (column + 1 + (r.length - 1))
        return ⟨column, column + r.length, r.color⟩ :: more
  else return []
termination_by line.length - column

def scan (m : Matcher) (definitions : Option Definitions) (line : String) :
    Except NumeralError (List Span) :=
  m.scanFrom definitions line.toList 0

/-- The lines that hold at least one literal, numbered from `first`. -/
def scanLines (m : Matcher) (definitions : Option Definitions) (first : Int) :
    List String → Except NumeralError LineSpans
  | [] => .ok []
  | line :: rest => do
      let spans ← m.scan definitions line
      let more ← m.scanLines definitions (first + 1) rest
      return if spans.isEmpty then more else (first, spans) :: more

/-- The literal kind of an opening. -/
def prefixed (m : Matcher) (word : List Char) : Except ColumnError Prefixed :=
  match m.config.prefixed.find? fun p => p.opening.toList == word with
  | some p => .ok p
  | none => .error (.noEntry (String.ofList word))

/-- The literal at a negative column, where `c` stands. -/
def readFromEnd (m : Matcher) (definitions : Option Definitions) (c : Char) (line : List Char)
    (column : Int) : Except ColumnError (Option Reading) := do
  if c == '#' && !m.config.hexLengths.isEmpty then
    return readHashAt m.config.hexLengths line column
  else match ← m.openings.longestFrom line column with
    | some word => (← m.prefixed word).readAt m.arithmetic line column
    | none =>
        match c == '$', definitions, m.names with
        | true, some definitions, _ => readReferenceFrom definitions line column
        | _, _, some table => readNameFromEnd table line column
        | _, _, none => return none

/-- The literal at a column. The column has to lie in the line, counted from either end. -/
def readColumn (m : Matcher) (definitions : Option Definitions) (line : String) (column : Int) :
    Except ColumnError (Option Reading) := do
  let cs := line.toList
  match Text.charAt? cs column with
  | none => throw (.outside column)
  | some c =>
      if column < 0 then m.readFromEnd definitions c cs column
      else (m.readAt definitions cs column.toNat).mapError .numeral

end Matcher

end ColorSpans
