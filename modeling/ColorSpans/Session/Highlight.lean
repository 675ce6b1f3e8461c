import ColorSpans.Session.Basic

/-! Scanning the buffers of a session. What is found is handed to the host line by line. -/
namespace ColorSpans.Session

def emit (id : BufferId) (line : Int) (spans : List Span) : SessionStep Unit :=
  modify fun s => { s with emitted := s.emitted ++ [⟨id, line, spans⟩] }

/-- Joins known external spans of the lines of a range to the scanned ones. -/
def mergeExternal (found external : SpanMap) (range : LineRange) : SpanMap :=
  external.foldl (fun out line spans =>
    if range.contains line then out.insert line (Span.merge (out[line]?.getD []) spans)
      else out) found

def scanBuffer (id : BufferId) (lines : List String) (first : Int) : SessionStep SpanMap := do
  let s ← get
  match s.matcher, s.buffer? id with
  | some m, some b =>
      let found ← orFail .numeral (m.scanLines b.definitions? first lines)
      let all := mergeExternal (.ofList found) b.external ⟨first, first + lines.length⟩
      all.toList.forM fun entry => emit id entry.1 entry.2
      return all
  | _, _ => return ∅

/-- Lines from the first one on are taken as the whole text and remembered. -/
def highlight (id : BufferId) (lines : List String) (first : Int) : SessionStep SpanMap := do
  ensure id
  if first = 0 then modify (·.modifyBuffer id ({ · with lines }))
  scanBuffer id lines first

/-- Scans what a window newly shows. -/
def rehighlight (id : BufferId) (lines : List String) (window : LineRange) :
    SessionStep SpanMap := do
  ensure id
  modify (·.modifyBuffer id ({ · with lines }))
  let some b := (← get).buffer? id | return ∅
  let (part, viewport) ← orFail .range (b.viewport.update window)
  modify (·.modifyBuffer id ({ · with viewport }))
  let part : LineRange := ⟨part.start, min part.stop lines.length⟩
  if part.stop ≤ part.start then return ∅
  scanBuffer id (Text.between lines part.start part.stop) part.start

/-- The buffer whose variables registered a watch. -/
def ownerOf? (s : Session) (owner : Nat) : Option (BufferId × Buffer) :=
  s.buffers.find? fun e => e.2.table.any fun v => v.owner == owner

/-- After a change of its variables a buffer is scanned as it was seen last. -/
def notify (id : BufferId) : SessionStep Unit := do
  if let some b := (← get).buffer? id then
    unless b.lines.isEmpty do
      let _ ← scanBuffer id b.lines 0

/-- Tells the owner of a watch that its file changed. -/
def callWatch (watch : Watch) : SessionStep Unit := do
  let s ← get
  if let some (id, { table := some v, .. }) := s.ownerOf? watch.owner then
    let (outcome, v, world) := v.fileChanged s.world watch.path
    set ({ s with world }.modifyBuffer id ({ · with table := some v }))
    if ← orFail .table outcome then notify id

/-- Calls the watches on a path in order, cancelled ones only if `stale` says so. -/
def fire (path : String) (stale : Bool) : SessionStep Unit := do
  ((← get).world.board.onPath path).forM fun i => do
    if let some watch := (← get).world.board[i]? then
      if watch.live || stale then callWatch watch

end ColorSpans.Session
