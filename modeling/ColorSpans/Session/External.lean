import ColorSpans.Session.Highlight

/-! Requests for external colors. A request is answered some time after it was made; by then it may
have been cancelled, and its buffer may be gone. -/
namespace ColorSpans.Session

/-- Asks for the colors of a range, in place of any earlier request of the buffer; `none` if there
is nobody to ask. -/
def request (id : BufferId) (range : LineRange) : SessionStep (Option Nat) := do
  let s ← get
  if !s.hasSource || !s.config.isExternal then return none
  ensure id
  let s ← get
  let some b := s.buffer? id | return none
  let s := s.cancelPending b
  let number := s.requests.length
  let version := b.version + 1
  let made : ColorRequest := ⟨id, range, version, false, false⟩
  set ({ s with requests := s.requests ++ [made] }.modifyBuffer id
    ({ · with version, pending := some number }))
  return some number

/-- The lines of the range are replaced, and colors for other lines are added. -/
def replaceLines (external : SpanMap) (range : LineRange) (found : SpanMap) : SpanMap :=
  (external.filter fun line _ => !range.contains line).insertMany found.toList

/-- The line at a number; a negative one counts from the end. -/
def lineAt (lines : List String) (number : Int) : SessionStep String :=
  let place := if number < 0 then number + lines.length else number
  match if place < 0 then none else lines[place.toNat]? with
  | some line => return line
  | none => throw .noSuchLine

/-- The scanned spans of a line that an answer names; none behind the end of the text. -/
def scannedLine (matcher : Option Matcher) (b : Buffer) (number : Int) :
    SessionStep (List Span) := do
  match matcher with
  | some m =>
      if number < b.lines.length then
        orFail .numeral (m.scan b.definitions? (← lineAt b.lines number))
      else return []
  | none => return []

/-- Takes in the colors that a buffer's request found, unless a later request was made since. -/
def receive (id : BufferId) (range : LineRange) (version : Int) (found : SpanMap) :
    SessionStep Unit := do
  let s ← get
  if let some b := s.buffer? id then
    if version = b.version then
      set (s.modifyBuffer id
        ({ · with pending := none, external := replaceLines b.external range found }))
      found.toList.forM fun entry => do
        let scanned ← scannedLine s.matcher b entry.1
        emit id entry.1 (Span.merge scanned entry.2)

/-- Completes a request with colors, whatever became of it. -/
def deliver (number : Nat) (colors : List ExternalColor) (version : Option Int) :
    SessionStep Unit := do
  if let some r := (← get).requests[number]? then
    let found ← orFail .numeral (ExternalColor.spans colors none)
    receive r.buffer r.range (version.getD r.version) found

/-- What an uncancelled request does with the source's colors. -/
def complete (r : ColorRequest) (colors : List ExternalColor) : SessionStep Unit := do
  let found ← orFail .numeral (ExternalColor.spans colors (some r.range))
  receive r.buffer r.range r.version found

/-- The source of a request answers, or fails. Nobody waits for the request, so an error on the way
is seen by nobody; what was changed before it stays. -/
def answer (s : Session) (number : Nat) (colors : Option (List ExternalColor)) : Session :=
  match s.requests[number]?, colors with
  | some r, some colors =>
      let s := if r.cancelled then s else ((complete r colors).run.run s).2
      { s with requests := s.requests.modify number ({ · with done := true }) }
  | _, _ => { s with requests := s.requests.modify number ({ · with done := true }) }

end ColorSpans.Session
