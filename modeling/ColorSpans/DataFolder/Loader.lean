import ColorSpans.FileTree
import ColorSpans.Json.Relaxed
import ColorSpans.Json.Strict

/-! Loading documents from a data folder. A document is kept until its file changes, and is given
out again to a request that reads it in the same way. -/
namespace ColorSpans

/-- What a document may be: anything, or an object. -/
inductive LoadMode
  | anything
  | object
  | unknown (name : String)
  deriving DecidableEq, Repr

namespace LoadMode

def name : LoadMode → String
  | .anything => "raw"
  | .object => "validated_dict"
  | .unknown name => name

def ofName (name : String) : LoadMode :=
  if name = anything.name then .anything
  else if name = object.name then .object
  else .unknown name

end LoadMode

structure LoadRequest where
  file : String
  mode : LoadMode
  /-- A data folder to use in place of the configured one. -/
  folder : Option String
  encoding : String
  /-- Comments and the other freedoms of the relaxed dialect. -/
  relaxed : Bool

inductive DocumentError
  | noDataFolder (tried : List String)
  | outside (place folder : String)
  | missing (place : String)
  | malformed (relaxed : Bool) (place : String)
  | notObject (name kind : String)
  | unknownMode (name : String)
  | unknownEncoding (name : String)
  | refused (name reason : String)

def DocumentError.message : DocumentError → String
  | .noDataFolder tried =>
      "No 'data' directory found.\nTried:\n  " ++ String.intercalate "\n  " tried
  | .outside place folder =>
      "Refusing to access file outside data dir: " ++ place ++ " (base=" ++ folder ++ ")"
  | .missing place => "Config file not found: " ++ place
  | .malformed relaxed place =>
      (if relaxed then "Invalid JSON5 in " else "Invalid JSON in ") ++ place
  | .notObject name kind => name ++ ": expected dict for mode 'validated_dict', got " ++ kind
  | .unknownMode name => "Unknown mode '" ++ name ++ "'"
  | .unknownEncoding name => "unknown encoding: " ++ name
  | .refused name reason => name ++ ": validator failed: " ++ reason

/-- All that the reading of a file depends on. -/
structure DocumentKey where
  place : String
  stamp : Int
  mode : LoadMode
  encoding : String
  relaxed : Bool
  deriving DecidableEq

/-- Looks at the members of an object and gives them on, or says what is wrong with them. -/
abbrev Validator := Json.Members → Except String Json.Members

/-- Only a misspelled document of the strict dialect counts as a fault of that dialect; undecodable
bytes and numbers of too many digits do not. -/
def readDocument (key : DocumentKey) (bytes : List UInt8) : Except DocumentError Json := do
  let some encoding := Text.Encoding.ofName? key.encoding | throw (.unknownEncoding key.encoding)
  match Text.decode encoding bytes with
  | .error _ => throw (.malformed true key.place)
  | .ok text =>
      if key.relaxed then
        (Json.readRelaxed text).mapError fun _ => .malformed true key.place
      else
        (Json.readStrict text).mapError fun
          | .malformed => .malformed false key.place
          | .unreadableNumber _ => .malformed true key.place

def checkMode (mode : LoadMode) (name : String) (document : Json) : Except DocumentError Json :=
  match mode, document with
  | .anything, _ => .ok document
  | .object, .obj _ => .ok document
  | .object, _ => .error (.notObject name document.kind)
  | .unknown mode, _ => .error (.unknownMode mode)

def documentName (file : String) : String :=
  if ".json".toList.isSuffixOf file.toList then file else file ++ ".json"

/-- Documents that were read, under all that their reading depended on; the latest first. -/
abbrev Documents := List (DocumentKey × Json)

/-- A loaded document, and whether it was kept from an earlier load. -/
structure LoadedDocument where
  document : Json
  kept : Bool

/-- Where a request's file is, and what its reading depends on. -/
def findFile (tree : FileTree) (folder : String) (request : LoadRequest) :
    Except DocumentError (DocumentKey × List UInt8) :=
  let folder := Path.real "/" folder
  let place := Path.real "/" (Path.join folder (documentName request.file))
  if !Path.isWithin folder place then .error (.outside place folder)
  else match tree.openFile "/" place with
    | .error _ => .error (.missing place)
    | .ok (bytes, stamp) =>
        .ok (⟨place, stamp, request.mode, request.encoding, request.relaxed⟩, bytes)

/-- Reads a found file and checks what it holds. -/
def readFound (key : DocumentKey) (bytes : List UInt8) (validator : Option Validator) :
    Except DocumentError Json := do
  let name := Path.name key.place
  let document ← checkMode key.mode name (← readDocument key bytes)
  match validator, key.mode, document with
  | some validate, .object, .obj members =>
      (validate members).map Json.obj |>.mapError fun reason => .refused name reason
  | _, _, _ => return document

/-- What is validated is read every time and not kept. -/
def loadDocument (tree : FileTree) (kept : Documents) (folder : String) (request : LoadRequest)
    (validator : Option Validator) : Except DocumentError LoadedDocument × Documents :=
  match findFile tree folder request with
  | .error e => (.error e, kept)
  | .ok (key, bytes) =>
      match if validator.isNone then kept.lookup key else none with
      | some document => (.ok ⟨document, true⟩, kept)
      | none =>
          match readFound key bytes validator with
          | .error e => (.error e, kept)
          | .ok document =>
              (.ok ⟨document, false⟩,
                if validator.isSome && key.mode == .object then kept else (key, document) :: kept)

end ColorSpans
