/-! Slash-separated paths as texts. A path is normalized by its spelling alone. -/
namespace ColorSpans.Path

/-- The parts between slashes. -/
def splitParts : List Char → List (List Char)
  | [] => [[]]
  | c :: rest =>
      if c == '/' then [] :: splitParts rest
      else match splitParts rest with
        | [] => [[c]]
        | part :: parts => (c :: part) :: parts

def joinParts : List (List Char) → List Char
  | [] => []
  | [part] => part
  | part :: parts => part ++ '/' :: joinParts parts

/-- The leading slashes that a normalized path keeps: exactly two stay two, any other number is
one. -/
def leadingSlashes : List Char → Nat
  | '/' :: '/' :: '/' :: _ => 1
  | '/' :: '/' :: _ => 2
  | '/' :: _ => 1
  | _ => 0

def isAbsolute (path : String) : Bool := path.toList.head? == some '/'

/-- `..` takes back the part before it; above the root there is nothing to take back, and at the
beginning of a relative path it stays. The parts are kept last first. -/
def addPart (absolute : Bool) (parts : List (List Char)) (part : List Char) : List (List Char) :=
  if part = [] ∨ part = ['.'] then parts
  else if part = ['.', '.'] then
    match parts with
    | [] => if absolute then [] else [part]
    | last :: rest => if last = part then part :: parts else rest
  else part :: parts

def normalParts (path : List Char) : List (List Char) :=
  ((splitParts path).foldl (addPart (leadingSlashes path != 0)) []).reverse

def normal (path : String) : String :=
  let cs := path.toList
  let slashes := leadingSlashes cs
  let body := joinParts (normalParts cs)
  String.ofList (if slashes = 0 ∧ body = [] then ['.'] else List.replicate slashes '/' ++ body)

def join (folder path : String) : String :=
  if isAbsolute path then path
  else if folder = "" ∨ folder.toList.getLast? = some '/' then folder ++ path
  else folder ++ "/" ++ path

/-- The part after the last slash. -/
def name (path : String) : String := String.ofList ((splitParts path.toList).getLast?.getD [])

/-- What stands before the last slash, without slashes at its end unless it has nothing else. -/
def folder (path : String) : String :=
  let head := joinParts (splitParts path.toList).dropLast
  let trimmed := (head.reverse.dropWhile (· == '/')).reverse
  if trimmed.isEmpty then
    if isAbsolute path then String.ofList (head ++ ['/']) else ""
  else String.ofList trimmed

/-- The one spelling of a path that all its spellings share, seen from a working directory. -/
def real (working path : String) : String :=
  String.ofList ('/' :: joinParts (normalParts (join working path).toList))

/-- A real path is at a folder or below it, part by part. -/
def isWithin (folder path : String) : Bool :=
  (normalParts folder.toList).isPrefixOf (normalParts path.toList)

/-- The folders above a real path, from the nearest to the root. -/
def above (path : String) : List String :=
  let parts := normalParts path.toList
  (List.range parts.length).reverse.map fun n => String.ofList ('/' :: joinParts (parts.take n))

theorem splitParts_ne_nil (cs : List Char) : splitParts cs ≠ [] := by
  cases cs with
  | nil => simp [splitParts]
  | cons c rest => simp only [splitParts]; split <;> (try split) <;> simp

end ColorSpans.Path
