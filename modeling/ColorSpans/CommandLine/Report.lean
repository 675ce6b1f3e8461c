import ColorSpans.CommandLine.Arguments
import ColorSpans.FileTree
import ColorSpans.Json.Printer
import ColorSpans.Session.Highlight
import ColorSpans.Shipped

/-! Finding the colors of texts and files and listing them as JSON. -/
namespace ColorSpans.CommandLine

/-- What a run leaves behind. -/
structure Outcome where
  exit : Nat
  output : String
  errors : List String
  deriving DecidableEq, Repr

/-- Why a run fails with a message of its own. -/
inductive ScanError
  | openFile (e : OpenError) (path : String)
  | decoding (e : Text.DecodingError)
  | session (e : SessionError)
  | invalidColor (e : InvalidHexText)

def ScanError.message : ScanError → String
  | .openFile e path => e.message path
  | .decoding e => e.message
  | .session e => e.message
  | .invalidColor e => e.message

/-- Whether the fault lies with the input. Any other fault ends the program without a report. -/
def ScanError.isReported : ScanError → Bool
  | .session (.numeral e) | .session (.table (.numeral e)) =>
      match e with
      | .infinite | .tooLarge => false
      | _ => true
  | .session (.table (.forgotten _)) | .session .noSuchLine => false
  | _ => true

/-- A text to scan. -/
structure Source where
  name : String
  lines : List String

def inlineName : String := "<text>"

/-- Inline text belongs to no file. -/
def Source.path (s : Source) : Option String := if s.name = inlineName then none else some s.name

def inlineSources (a : Arguments) : List Source :=
  a.inline.toList.map fun text => ⟨inlineName, Text.lines text⟩

def readSource (tree : FileTree) (working path : String) : Except ScanError Source := do
  let bytes ← (tree.bytes working path).mapError (.openFile · path)
  let text ← (Text.decode .utf8 bytes).mapError .decoding
  return ⟨path, Text.fileLines text⟩

/-- Inline text first, then the files. -/
def readSources (tree : FileTree) (working : String) (a : Arguments) :
    Except ScanError (List Source) := do
  return inlineSources a ++ (← a.paths.mapM (readSource tree working))

/-- The spelling of a place below the working folder that starts there. -/
def relative? (working place : String) : Option String :=
  if Path.isWithin working place then
    let parts := (Path.normalParts place.toList).drop (Path.normalParts working.toList).length
    some (Path.normal (String.ofList (Path.joinParts parts)))
  else none

def importedFile (bytes : List UInt8) (stamp : Int) : File :=
  ⟨stamp, Text.fileLines (Text.decodeLenient .utf8 bytes)⟩

/-- Every file under its real path and, below the working folder, under its relative one. -/
def diskOf (tree : FileTree) (working : String) : Disk :=
  { working, unreadable := []
    files := tree.entries.foldl (fun out place entry =>
      match entry with
      | .folder => out
      | .file bytes stamp =>
          let file := importedFile bytes stamp
          let out := out.insert place file
          match relative? working place with
          | some path => out.insert path file
          | none => out) ∅ }

/-- A black text is read well on a bright color, a white one on a dark color. -/
def foreground (rgb : Rgb) : Except Numeral.NumeralError String :=
  rgb.isBright.map fun bright => if bright then "#000000" else "#ffffff"

def describe (source : Source) (number : Int) (span : Span) : Except ScanError Json := do
  let line := (source.lines[number.toNat]?.getD "").toList
  let rgb ← span.rgb.mapError .invalidColor
  let foreground ← (foreground rgb).mapError fun e => .session (.numeral e)
  let text := (line.take span.stop.toNat).drop span.start.toNat
  return .obj [("source", .str source.name), ("line", .int number), ("start", .int span.start),
    ("end", .int span.stop), ("text", .str (String.ofList text)),
      ("color", .str ("#" ++ span.color)),
    ("foreground", .str foreground)]

def describeAll (source : Source) (found : SpanMap) : Except ScanError (List Json) :=
  (found.toList.flatMap fun line => line.2.map fun span => (line.1, span)).mapM fun entry =>
    describe source entry.1 entry.2

/-- Every source is a buffer of its own, named like it. -/
def scanSource (source : Source) : SessionStep SpanMap := do
  let id := BufferId.name source.name
  Session.attach id source.path
  let _ ← Session.updateVariables id source.lines ⟨0, none⟩
  Session.highlight id source.lines 0

def scanSources (s : Session) : List Source → Except ScanError (List Json)
  | [] => .ok []
  | source :: rest => do
      let (outcome, s) := (scanSource source).run.run s
      let found ← outcome.mapError .session
      return (← describeAll source found) ++ (← scanSources s rest)

def scan (tree : FileTree) (working : String) (a : Arguments) : Except ScanError (List Json) := do
  let host : Host := ⟨Shipped.defaultOptions, Shipped.palette, none⟩
  let s ← (Session.new host a.options ⟨diskOf tree working, [], []⟩).mapError fun e =>
    .session (.option e)
  scanSources s (← readSources tree working a)

def programName : String := "colorizer-demo"

def usage : String :=
  "usage: " ++ programName ++ " [-h] [--text TEXT] [--css] [--css-fn] [--no-names] [--xkcd]\n" ++
    "                      [--tailwind \x7bnone,normal,lsp,both\x7d] [--sass] [--debug]\n" ++
    "                      [paths ...]\n"

/-- Runs the program on a tree of files; a fault that is not reported is the result itself. -/
def run (tree : FileTree) (working : String) (args : List String) : Except ScanError Outcome :=
  match parse args with
  | .error e => .ok ⟨2, "", [usage ++ programName ++ ": error: " ++ e.message]⟩
  | .ok a =>
      if a.has .help then .ok ⟨0, usage, []⟩
      else match scan tree working a with
        | .ok reports => .ok ⟨0, (Json.arr reports).pretty "\n" ++ "\n", []⟩
        | .error e => if e.isReported then .ok ⟨1, "", ["❌ Error: " ++ e.message]⟩ else .error e

end ColorSpans.CommandLine
