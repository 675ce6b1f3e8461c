import ColorSpans.Options

/-! The command line: options and paths. An option may be shortened as long as it is the only one
that begins so, and may hold its value behind an equals sign. -/
namespace ColorSpans.CommandLine

inductive Switch
  | help
  | text
  | css
  | cssFunctions
  | noNames
  | surveyNames
  | palette
  | sass
  | debug
  deriving DecidableEq, Repr

namespace Switch

/-- All spellings, in the order in which they are listed. -/
def spellings : List (String × Switch) :=
  [("-h", help), ("--help", help), ("--text", text), ("--css", css), ("--css-fn", cssFunctions),
   ("--no-names", noNames), ("--xkcd", surveyNames), ("--tailwind", palette), ("--sass", sass),
   ("--debug", debug)]

def takesValue : Switch → Bool
  | .text | .palette => true
  | _ => false

def label : Switch → String
  | .help => "-h/--help"
  | switch => ((spellings.find? fun s => s.2 = switch).map Prod.fst).getD ""

end Switch

inductive UsageError
  | ambiguous (word : String) (candidates : List String)
  | expectedValue (switch : Switch)
  | ignoredValue (switch : Switch) (value : String)
  | invalidChoice (switch : Switch) (value : String) (choices : List String)
  | unrecognized (words : List String)
  | nothingToScan

def UsageError.message : UsageError → String
  | .ambiguous word candidates =>
      "ambiguous option: " ++ word ++ " could match " ++ String.intercalate ", " candidates
  | .expectedValue switch => "argument " ++ switch.label ++ ": expected one argument"
  | .ignoredValue switch value =>
      "argument " ++ switch.label ++ ": ignored explicit argument " ++ Text.quoted value
  | .invalidChoice switch value choices =>
      "argument " ++ switch.label ++ ": invalid choice: " ++ Text.quoted value ++
        " (choose from " ++ String.intercalate ", " (choices.map Text.quoted) ++ ")"
  | .unrecognized words => "unrecognized arguments: " ++ String.intercalate " " words
  | .nothingToScan => "give at least one path or --text"

/-- What a word of the command line is taken for. -/
inductive Word
  | plain (word : String)
  /-- Behind two dashes nothing is an option. -/
  | dashes
  | option (switch : Switch) (value : Option String)
  | unknown (word : String)
  deriving DecidableEq, Repr

/-- The text before the first equals sign and the text after it. -/
def splitEquals (word : String) : String × Option String :=
  let cs := word.toList
  match cs.dropWhile (· != '=') with
  | _ :: value => (String.ofList (cs.takeWhile (· != '=')), some (String.ofList value))
  | [] => (word, none)

/-- Digits with at most one point among them, behind a dash; a line feed may follow. -/
def isNegativeNumber (word : String) : Bool :=
  match word.toList with
  | '-' :: rest =>
      let body := if rest.getLast? = some '\n' then rest.dropLast else rest
      let fraction := (body.dropWhile Text.isDigit).drop 1
      match body.dropWhile Text.isDigit with
      | [] => !body.isEmpty
      | '.' :: _ => !fraction.isEmpty && fraction.all Text.isDigit
      | _ => false
  | _ => false

/-- The switches that a word with leading dashes may be short for, each with the value in the word.
A single dash and a letter may be followed by the value at once. -/
def shortFor (word : String) : List (String × Switch × Option String) :=
  let begins (s t : String) : Bool := s.toList.isPrefixOf t.toList
  match word.toList with
  | '-' :: '-' :: _ =>
      let (name, value) := splitEquals word
      (Switch.spellings.filter fun s => begins name s.1).map fun s => (s.1, s.2, value)
  | '-' :: letter :: rest =>
      Switch.spellings.filterMap fun s =>
        if s.1 = String.ofList ['-', letter] then some (s.1, s.2, some (String.ofList rest))
        else if begins word s.1 then some (s.1, s.2, none)
        else none
  | _ => []

def spelled? (name : String) : Option Switch :=
  (Switch.spellings.find? fun s => s.1 = name).map Prod.snd

/-- Words with a blank and negative numbers are no options, whatever they begin with. -/
def classify (word : String) : Except UsageError Word :=
  let (name, value) := splitEquals word
  if word.toList.head? ≠ some '-' ∨ word.length = 1 then .ok (.plain word)
  else match spelled? word, spelled? name, value with
    | some switch, _, _ => .ok (.option switch none)
    | none, some switch, some value => .ok (.option switch (some value))
    | _, _, _ =>
        match shortFor word with
        | [(_, switch, value)] => .ok (.option switch value)
        | [] =>
            if isNegativeNumber word || word.contains ' ' then .ok (.plain word)
              else .ok (.unknown word)
        | found => .error (.ambiguous word (found.map Prod.fst))

def classifyAll : List String → Except UsageError (List Word)
  | [] => .ok []
  | word :: rest =>
      if word = "--" then .ok (.dashes :: rest.map .plain)
      else do return (← classify word) :: (← classifyAll rest)

structure Arguments where
  paths : List String := []
  inline : Option String := none
  palette : Option String := none
  switches : List Switch := []

def Arguments.has (a : Arguments) (switch : Switch) : Bool := a.switches.contains switch

def paletteChoices : List String := ["none", "normal", "lsp", "both"]

def setValue (a : Arguments) (switch : Switch) (value : String) : Except UsageError Arguments :=
  match switch with
  | .palette =>
      if paletteChoices.contains value then .ok { a with palette := some value }
      else .error (.invalidChoice switch value paletteChoices)
  | _ => .ok { a with inline := some value }

/-- What was read so far; paths are taken from one place only. -/
structure Progress where
  arguments : Arguments
  hasPaths : Bool
  extra : List String

/-- Words in a row that are no options are the paths, once; two dashes among them are left out. -/
def takePlain (p : Progress) (words : List String) : Progress :=
  if words.isEmpty then p
  else if p.hasPaths then { p with extra := p.extra ++ words }
  else { p with arguments := { p.arguments with paths := words.erase "--" }, hasPaths := true }

def takeFlag (p : Progress) (switch : Switch) : Progress :=
  { p with arguments := { p.arguments with switches := switch :: p.arguments.switches } }

/-- `run` holds the plain words that were met since the last option. -/
def consume (p : Progress) (run : List String) : List Word → Except UsageError Progress
  | [] => .ok (takePlain p run)
  | .plain word :: rest => consume p (run ++ [word]) rest
  | .dashes :: rest => consume p (run ++ ["--"]) rest
  | .unknown word :: rest =>
      let p := takePlain p run
      consume { p with extra := p.extra ++ [word] } [] rest
  | .option switch (some value) :: rest => do
      let p := takePlain p run
      if !switch.takesValue then throw (.ignoredValue switch value)
      consume { p with arguments := ← setValue p.arguments switch value } [] rest
  | .option switch none :: rest =>
      let p := takePlain p run
      if switch.takesValue then
        match rest with
        | .plain value :: rest => do
            consume { p with arguments := ← setValue p.arguments switch value } [] rest
        | _ => .error (.expectedValue switch)
      else if switch = .help then .ok (takeFlag p switch)
      else consume (takeFlag p switch) [] rest

/-- Reads a command line. Nothing behind a call for help is looked at. -/
def parse (args : List String) : Except UsageError Arguments := do
  let p ← consume ⟨{}, false, []⟩ [] (← classifyAll args)
  if p.arguments.has .help then return p.arguments
  if !p.extra.isEmpty then throw (.unrecognized p.extra)
  if p.arguments.paths.isEmpty && p.arguments.inline.isNone then throw .nothingToScan
  return p.arguments

def Arguments.options (a : Arguments) : Options :=
  [("css", .bool (a.has .css)), ("css_fn", .bool (a.has .cssFunctions)),
   ("names", .bool (!a.has .noNames))] ++
    (a.palette.toList.map fun mode => ("tailwind", .str mode)) ++
    if a.has .sass then [("sass", .obj [("enable", .bool true)])] else []

end ColorSpans.CommandLine
