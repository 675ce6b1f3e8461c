import ColorSpans.Numeral.Hexadecimal

/-! Decoding bytes. A decoder cuts its input into characters and faults, in order; a strict reader
stops at the first fault, a lenient one shows a replacement character for each. -/
namespace ColorSpans.Text

inductive FaultReason
  | startByte
  | continuationByte
  | unexpectedEnd
  | notAscii
  | surrogate
  | truncated
  | surrogateCodePoint
  | pastLast
  | undefined

def FaultReason.message : FaultReason → String
  | .startByte => "invalid start byte"
  | .continuationByte => "invalid continuation byte"
  | .unexpectedEnd => "unexpected end of data"
  | .notAscii => "ordinal not in range(128)"
  | .surrogate => "illegal UTF-16 surrogate"
  | .truncated => "truncated data"
  | .surrogateCodePoint => "code point in surrogate code point range(0xd800, 0xe000)"
  | .pastLast => "code point not in range(0x110000)"
  | .undefined => "character maps to <undefined>"

/-- `length` bytes from `start` that spell no character; `first` is the byte at `start`. -/
structure Fault where
  start : Nat
  length : Nat
  first : UInt8
  reason : FaultReason

inductive Piece
  | char (c : Char)
  | fault (f : Fault)

inductive ByteOrder
  | little
  | big
  deriving DecidableEq

/-- Without an order of its own, a text of wide units tells it by the mark that it begins with. -/
inductive Encoding
  | utf8
  | utf8Signed
  | ascii
  | latin1
  | windows1252
  | utf16 (order : Option ByteOrder)
  | utf32 (order : Option ByteOrder)
  deriving DecidableEq

namespace Encoding

/-- Letters, digits and points in lower case; whatever stands between two of them counts as one
underscore. -/
def nameKey (name : String) : String :=
  let inWord (c : Char) : Bool := c.isAlphanum || c == '.'
  let words := (name.toList.splitBy fun a b => inWord a == inWord b).filter fun word =>
    word.any inWord
  String.intercalate "_" (words.map fun word => String.ofList (word.map Char.toLower))

def aliases : List (Encoding × List String) :=
  [(.utf8, ["utf_8", "utf8", "u8", "utf", "utf8_ucs2", "utf8_ucs4", "cp65001"]),
   (.utf8Signed, ["utf_8_sig"]),
   (.ascii, ["ascii", "us_ascii", "us", "646", "iso646_us", "iso_ir_6", "cp367",
     "ibm367", "csascii", "ansi_x3_4_1968", "ansi_x3_4_1986"]),
   (.latin1, ["latin_1", "latin1", "latin", "l1", "8859", "iso8859", "iso8859_1", "iso_8859_1",
     "iso_8859_1_1987", "iso_ir_100", "cp819", "ibm819", "csisolatin1"]),
   (.windows1252, ["cp1252", "1252", "windows_1252"]),
   (.utf16 none, ["utf_16", "utf16", "u16"]),
   (.utf16 (some .little), ["utf_16_le", "utf_16le", "unicodelittleunmarked"]),
   (.utf16 (some .big), ["utf_16_be", "utf_16be", "unicodebigunmarked"]),
   (.utf32 none, ["utf_32", "utf32", "u32"]),
   (.utf32 (some .little), ["utf_32_le", "utf_32le"]),
   (.utf32 (some .big), ["utf_32_be", "utf_32be"])]

def ofName? (name : String) : Option Encoding :=
  let key := nameKey name
  aliases.findSome? fun (encoding, names) => if names.contains key then some encoding else none

def name : Encoding → String
  | .utf8 => "utf-8"
  | .utf8Signed => "utf-8-sig"
  | .ascii => "ascii"
  | .latin1 => "latin-1"
  | .windows1252 => "cp1252"
  | .utf16 _ => "utf-16"
  | .utf32 _ => "utf-32"

end Encoding

def isContinuation (b : UInt8) : Bool := 0x80 ≤ b && b < 0xc0

/-- Bounds of the second byte after a first byte of three or four; the narrower ones rule out
needlessly long forms, surrogates and values past the last code point. -/
def secondInRange (first second : UInt8) : Bool :=
  isContinuation second &&
    (first != 0xe0 || 0xa0 ≤ second) && (first != 0xed || second < 0xa0) &&
    (first != 0xf0 || 0x90 ≤ second) && (first != 0xf4 || second < 0x90)

/-- The number of bytes that a first byte announces; 0 for a byte that starts no character. -/
def announced (b : UInt8) : Nat :=
  if b < 0x80 then 1 else if b < 0xc2 then 0 else if b < 0xe0 then 2
  else if b < 0xf0 then 3 else if b < 0xf5 then 4 else 0

def joinBytes (b : UInt8) (tail : List UInt8) : Char :=
  let head := match tail.length with
    | 0 => b.toNat
    | 1 => b.toNat % 0x20
    | 2 => b.toNat % 0x10
    | _ => b.toNat % 0x08
  Char.ofNat (tail.foldl (fun n t => n * 64 + t.toNat % 64) head)

/-- The bytes after `b` that may follow it, at most as many as it announces. -/
def fitting (b : UInt8) (rest : List UInt8) : List UInt8 :=
  match rest with
  | [] => []
  | second :: more =>
      if announced b < 2 || !secondInRange b second then []
      else second :: (more.take (announced b - 2)).takeWhile isContinuation

def utf8Pieces (pos : Nat) : List UInt8 → List Piece
  | [] => []
  | b :: rest =>
      if announced b == 0 then .fault ⟨pos, 1, b, .startByte⟩ :: utf8Pieces (pos + 1) rest
      else
        let tail := fitting b rest
        let after := rest.drop tail.length
        let used := 1 + tail.length
        let piece : Piece :=
          if used == announced b then .char (joinBytes b tail)
          else .fault ⟨pos, used, b, if after.isEmpty then .unexpectedEnd else .continuationByte⟩
        piece :: utf8Pieces (pos + used) after
termination_by bytes => bytes.length
decreasing_by
  · simp
  · simp only [List.length_drop, List.length_cons]; omega

def asciiPieces (pos : Nat) : List UInt8 → List Piece
  | [] => []
  | b :: rest =>
      (if b < 0x80 then .char (Char.ofNat b.toNat) else .fault ⟨pos, 1, b, .notAscii⟩) ::
        asciiPieces (pos + 1) rest

def latin1Pieces (bytes : List UInt8) : List Piece :=
  bytes.map fun b => .char (Char.ofNat b.toNat)

/-- What the bytes from 0x80 to 0x9f stand for; five of them stand for nothing. -/
def windowsHigh : List (Option Char) :=
  [some '€', none, some '‚', some 'ƒ', some '„', some '…', some '†', some '‡',
   some 'ˆ', some '‰', some 'Š', some '‹', some 'Œ', none, some 'Ž', none,
   none, some '‘', some '’', some '“', some '”', some '•', some '–', some '—',
   some '˜', some '™', some 'š', some '›', some 'œ', none, some 'ž', some 'Ÿ']

def windowsPieces (pos : Nat) : List UInt8 → List Piece
  | [] => []
  | b :: rest =>
      let piece : Piece :=
        if b < 0x80 || 0xa0 ≤ b then .char (Char.ofNat b.toNat)
        else match windowsHigh[b.toNat - 0x80]? with
          | some (some c) => .char c
          | _ => .fault ⟨pos, 1, b, .undefined⟩
      piece :: windowsPieces (pos + 1) rest

/-- The number that the bytes of one unit spell. -/
def unitOf (order : ByteOrder) (bytes : List UInt8) : Nat :=
  let bytes := match order with
    | .big => bytes
    | .little => bytes.reverse
  bytes.foldl (fun n b => n * 256 + b.toNat) 0

def utf16Pieces (order : ByteOrder) (pos : Nat) : List UInt8 → List Piece
  | [] => []
  | [a] => [.fault ⟨pos, 1, a, .truncated⟩]
  | a :: b :: rest =>
      let unit := unitOf order [a, b]
      if unit < 0xd800 || 0xe000 ≤ unit
        then .char (Char.ofNat unit) :: utf16Pieces order (pos + 2) rest
      else if 0xdc00 ≤ unit then .fault ⟨pos, 2, a, .surrogate⟩ :: utf16Pieces order (pos + 2) rest
      else match rest with
        | c :: d :: more =>
            let low := unitOf order [c, d]
            if 0xdc00 ≤ low && low < 0xe000 then
              .char (Char.ofNat (0x10000 + (unit - 0xd800) * 0x400 + (low - 0xdc00))) ::
                utf16Pieces order (pos + 4) more
            else .fault ⟨pos, 2, a, .surrogate⟩ :: utf16Pieces order (pos + 2) (c :: d :: more)
        | short => [.fault ⟨pos, 2 + short.length, a, .unexpectedEnd⟩]

def utf32Pieces (order : ByteOrder) (pos : Nat) : List UInt8 → List Piece
  | a :: b :: c :: d :: rest =>
      let unit := unitOf order [a, b, c, d]
      let piece : Piece :=
        if unit.isValidChar then .char (Char.ofNat unit)
        else .fault ⟨pos, 4, a, if unit < 0xe000 then .surrogateCodePoint else .pastLast⟩
      piece :: utf32Pieces order (pos + 4) rest
  | a :: short => [.fault ⟨pos, 1 + short.length, a, .truncated⟩]
  | [] => []

/-- The order that the mark of wide units tells, and what follows the mark. -/
def readMark (width : Nat) (bytes : List UInt8) : Option (ByteOrder × List UInt8) :=
  if bytes.length < width then none
  else
    let order := [ByteOrder.little, .big].find? fun order =>
      unitOf order (bytes.take width) == 0xfeff
    order.map fun order => (order, bytes.drop width)

/-- Units without a mark are read from the lower byte on. -/
def markedPieces (width : Nat) (read : ByteOrder → Nat → List UInt8 → List Piece)
    (bytes : List UInt8) : List Piece :=
  match readMark width bytes with
  | some (order, rest) => read order width rest
  | none => read .little 0 bytes

/-- A text that breaks off within its signature is empty. -/
def signature : List UInt8 := [0xef, 0xbb, 0xbf]

def pieces (encoding : Encoding) (bytes : List UInt8) : List Piece :=
  match encoding with
  | .utf8 => utf8Pieces 0 bytes
  | .utf8Signed =>
      if bytes.isPrefixOf signature then []
      else if signature.isPrefixOf bytes then utf8Pieces 3 (bytes.drop 3)
      else utf8Pieces 0 bytes
  | .ascii => asciiPieces 0 bytes
  | .latin1 => latin1Pieces bytes
  | .windows1252 => windowsPieces 0 bytes
  | .utf16 (some order) => utf16Pieces order 0 bytes
  | .utf16 none => markedPieces 2 utf16Pieces bytes
  | .utf32 (some order) => utf32Pieces order 0 bytes
  | .utf32 none => markedPieces 4 utf32Pieces bytes

/-- How many bytes the mark takes that a text must begin with. -/
def Encoding.markWidth : Encoding → Nat
  | .utf16 none => 2
  | .utf32 none => 4
  | _ => 0

inductive DecodingError
  | unknownEncoding (name : String)
  | unmarked (encoding : Encoding)
  | fault (encoding : Encoding) (f : Fault)

def Fault.place (f : Fault) : String :=
  if f.length == 1 then
    "byte 0x" ++ String.ofList (Numeral.paddedHex 2 f.first.toNat) ++ " in position " ++
      toString f.start
  else "bytes in position " ++ toString f.start ++ "-" ++ toString (f.start + f.length - 1)

def DecodingError.message : DecodingError → String
  | .unknownEncoding name => "unknown encoding: " ++ name
  | .unmarked encoding =>
      String.ofList (encoding.name.toList.map Char.toUpper) ++ " stream does not start with BOM"
  | .fault encoding f =>
      "'" ++ encoding.name ++ "' codec can't decode " ++ f.place ++ ": " ++ f.reason.message

def namedEncoding (name : String) : Except DecodingError Encoding :=
  match Encoding.ofName? name with
  | some encoding => .ok encoding
  | none => .error (.unknownEncoding name)

/-- Bytes too few for a mark need none. -/
def checkMark (encoding : Encoding) (bytes : List UInt8) : Except DecodingError Unit :=
  let width := encoding.markWidth
  if width = 0 ∨ bytes.length < width ∨ (readMark width bytes).isSome then .ok ()
  else .error (.unmarked encoding)

def Piece.strict (encoding : Encoding) : List Piece → Except DecodingError (List Char)
  | [] => .ok []
  | .char c :: rest => (Piece.strict encoding rest).map (c :: ·)
  | .fault f :: _ => .error (.fault encoding f)

def Piece.lenient : Piece → Char
  | .char c => c
  | .fault _ => '\ufffd'

def decode (encoding : Encoding) (bytes : List UInt8) : Except DecodingError (List Char) := do
  checkMark encoding bytes
  Piece.strict encoding (pieces encoding bytes)

/-- Every fault becomes one replacement character. -/
def decodeLenient (encoding : Encoding) (bytes : List UInt8) : List Char :=
  (pieces encoding bytes).map Piece.lenient

end ColorSpans.Text
