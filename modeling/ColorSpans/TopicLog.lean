import ColorSpans.Json.Display
import ColorSpans.Numeral.Binary
import ColorSpans.Text.Blank
import ColorSpans.Text.Lowercase

/-! A debug log that is switched on topic by topic. -/
namespace ColorSpans

/-- The topics that are on; `all` stands for every topic. -/
structure TopicLog where
  topics : List String

structure LogRecord where
  logger : String
  level : Int
  message : String

inductive FormatError
  | tooFewArguments
  | tooManyArguments
  | notNumber (value : Json)
  | numeral (e : Numeral.NumeralError)

def FormatError.message : FormatError → String
  | .tooFewArguments => "not enough arguments for format string"
  | .tooManyArguments => "not all arguments converted during string formatting"
  | .notNumber value => "%d format: a real number is required, not " ++ value.kind
  | .numeral e => e.message

/-- A value in running text: a text stands for itself. -/
def Json.inText : Json → String
  | .str s => s
  | value => value.display

/-- A number without its fraction. -/
def Json.wholeText : Json → Except FormatError String
  | .int n => .ok (toString n)
  | .bool b => .ok (if b then "1" else "0")
  | .float x =>
      (if x < 0 then (Numeral.floor (-x)).map Neg.neg else Numeral.floor x).map toString
        |>.mapError .numeral
  | value => .error (.notNumber value)

/-- Puts arguments in the places `%s` and `%d`; `%%` is a percent sign. -/
def fillIn : List Char → List Json → Except FormatError (List Char)
  | [], [] => .ok []
  | [], _ :: _ => .error .tooManyArguments
  | '%' :: '%' :: rest, args => (fillIn rest args).map ('%' :: ·)
  | '%' :: 's' :: _, [] | '%' :: 'd' :: _, [] => .error .tooFewArguments
  | '%' :: 's' :: rest, arg :: args => (fillIn rest args).map (arg.inText.toList ++ ·)
  | '%' :: 'd' :: rest, arg :: args => do
      let text ← arg.wholeText
      return text.toList ++ (← fillIn rest args)
  | c :: rest, args => (fillIn rest args).map (c :: ·)

/-- A message without arguments is taken as it is. An object that is the only argument may be left
over, unless it is empty. -/
def formatMessage (message : String) (args : List Json) : Except FormatError String :=
  if args.isEmpty then .ok message
  else
    let text := match args, fillIn message.toList args with
      | [.obj (_ :: _)], .error .tooManyArguments => fillIn message.toList []
      | _, text => text
    text.map String.ofList

namespace TopicLog

def everyTopic : String := "all"

def splitCommas : List Char → List (List Char)
  | [] => [[]]
  | c :: rest =>
      if c == ',' then [] :: splitCommas rest
      else match splitCommas rest with
        | [] => [[c]]
        | part :: parts => (c :: part) :: parts

/-- The topics of a list with commas between them. -/
def ofSetting (setting : String) : TopicLog :=
  ⟨((splitCommas setting.toList).map Text.trim).filterMap fun topic =>
    if topic.isEmpty then none else some (Text.lower (String.ofList topic))⟩

def key (topic : String) : String := Text.trimText (Text.lower topic)

def isEnabled (log : TopicLog) (topic : String) : Bool :=
  log.topics.contains everyTopic || log.topics.contains (key topic)

/-- The level that a logger without one takes over. -/
def inheritedLevel : Int := 30

def passes (threshold level : Int) : Bool :=
  0 < level && (if threshold = 0 then inheritedLevel else threshold) ≤ level

def logger (topic : String) : String := "color_literal_highlighter." ++ key topic

/-- What a message leaves in the log. -/
def debug (log : TopicLog) (threshold : Int) (message : String) (args : List Json) (topic : String)
    (level : Int) : Except FormatError (List LogRecord) :=
  if log.isEnabled topic && passes threshold level then
    (formatMessage message args).map fun text => [⟨logger topic, level, text⟩]
  else .ok []

end TopicLog

end ColorSpans
