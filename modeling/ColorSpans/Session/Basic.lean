import ColorSpans.ExternalColor
import ColorSpans.Sass.Variables

/-! A session: buffers that share one configuration. -/
namespace ColorSpans

inductive BufferId
  | number (n : Int)
  | name (s : String)
  deriving DecidableEq, Repr

structure Buffer where
  path : Option String
  viewport : Viewport
  table : Option Sass.Variables
  /-- The whole text as it was seen last. -/
  lines : List String
  /-- Counts the requests for external colors. -/
  version : Nat
  pending : Option Nat
  external : SpanMap

namespace Buffer

def new (path : Option String) : Buffer := ⟨path, .new, none, [], 0, none, ∅⟩

def definitions? (b : Buffer) : Option Definitions := b.table.map Sass.Variables.definitions

end Buffer

/-- A request for the external colors of a range. -/
structure ColorRequest where
  buffer : BufferId
  range : LineRange
  version : Nat
  cancelled : Bool
  done : Bool

/-- Spans handed to the host. -/
structure Emission where
  buffer : BufferId
  line : Int
  spans : List Span

/-- What a session takes from its host. -/
structure Host where
  defaults : Options
  palette : Palette
  hostNames : Option HostNames

def Host.config (host : Host) (options : Options) : Except OptionError Config :=
  Config.ofOptions host.defaults options host.hostNames

structure Session where
  host : Host
  config : Config
  matcher : Option Matcher
  hasSource : Bool
  world : World
  /-- In the order in which they were attached. -/
  buffers : List (BufferId × Buffer)
  /-- Owner numbers of watches from here on are free. -/
  nextOwner : Nat
  /-- All requests ever made; a request is known by its position. -/
  requests : List ColorRequest
  emitted : List Emission

inductive SessionError
  | option (e : OptionError)
  | range (e : InvalidRange)
  | numeral (e : Numeral.NumeralError)
  | table (e : Sass.LoadError)
  | noSuchLine

def SessionError.message : SessionError → String
  | .option e => e.message
  | .range e => e.message
  | .numeral e => e.message
  | .table e => e.message
  | .noSuchLine => "list index out of range"

/-- A failing step keeps what it changed so far. -/
abbrev SessionStep := ExceptT SessionError (StateM Session)

def orFail {ε α : Type} (cause : ε → SessionError) (outcome : Except ε α) : SessionStep α :=
  match outcome with
  | .ok a => return a
  | .error e => throw (cause e)

namespace Session

def new (host : Host) (options : Options) (world : World) : Except OptionError Session :=
  (host.config options).map fun config =>
    ⟨host, config, Matcher.compile? config host.palette, false, world, [], 0, [], []⟩

def buffer? (s : Session) (id : BufferId) : Option Buffer := s.buffers.lookup id

def ids (s : Session) : List BufferId := s.buffers.map Prod.fst

def modifyBuffer (s : Session) (id : BufferId) (f : Buffer → Buffer) : Session :=
  { s with buffers := s.buffers.map fun e => if e.1 = id then (e.1, f e.2) else e }

def cancelRequest (s : Session) (request : Nat) : Session :=
  { s with requests := s.requests.modify request ({ · with cancelled := true }) }

def cancelPending (s : Session) (b : Buffer) : Session :=
  match b.pending with
  | some request => s.cancelRequest request
  | none => s

def closeVariables (s : Session) (b : Buffer) : Session :=
  match b.table with
  | some v => { s with world := (v.close s.world).2 }
  | none => s

/-- Cancels the pending request and every watch of a buffer, and forgets it. -/
def detach (s : Session) (id : BufferId) : Session :=
  match s.buffer? id with
  | none => s
  | some b =>
      let s := { s with buffers := s.buffers.filter fun e => e.1 ≠ id }
      (s.cancelPending b).closeVariables b

def close (s : Session) : Session := s.ids.foldl detach s

/-- Reads a range of a buffer's variables anew. -/
def updateTable (id : BufferId) (lines : List String) (range : Sass.Sheet.Range) :
    SessionStep Definitions := do
  let s ← get
  match s.buffer? id with
  | some { path, table := some v, .. } =>
      let (outcome, v, world) := v.update s.world path lines range
      set ({ s with world }.modifyBuffer id ({ · with table := some v }))
      orFail .table outcome
      return v.definitions
  | _ => return ∅

/-- A new table reads what is known of the buffer's lines. One that is there already takes the
matcher for later reads. -/
def syncVariables (id : BufferId) : SessionStep Unit := do
  let s ← get
  if let some b := s.buffer? id then
    if !s.config.usesVariables then
      set ((s.closeVariables b).modifyBuffer id ({ · with table := none }))
    else match b.table with
      | some v => set (s.modifyBuffer id ({ · with table := some { v with matcher := s.matcher } }))
      | none =>
          let v := Sass.Variables.new s.nextOwner s.matcher
          set ({ s with nextOwner := s.nextOwner + 1 }.modifyBuffer id ({ · with table := some v }))
          unless b.lines.isEmpty do
            let _ ← updateTable id b.lines ⟨0, none⟩

/-- A buffer that is attached already keeps its path if none is given. -/
def attach (id : BufferId) (path : Option String) : SessionStep Unit := do
  match (← get).buffer? id with
  | none => modify fun s => { s with buffers := s.buffers ++ [(id, .new path)] }
  | some b => modify (·.modifyBuffer id ({ · with path := path.or b.path }))
  syncVariables id

/-- Every step on a buffer attaches it. -/
def ensure (id : BufferId) : SessionStep Unit := do
  if ((← get).buffer? id).isNone then attach id none

/-- A whole text is remembered, for later scans. -/
def updateVariables (id : BufferId) (lines : List String) (range : Sass.Sheet.Range) :
    SessionStep Definitions := do
  ensure id
  if range.start = 0 ∧ range.stop = none then
    modify (·.modifyBuffer id ({ · with lines }))
  updateTable id lines range

/-- The next look at a buffer scans all of its window. Colors that wait for a source which is no
longer asked are given up. -/
def refresh (id : BufferId) : SessionStep Unit := do
  let s ← get
  if let some b := s.buffer? id then
    if !s.config.isExternal && b.pending.isSome then
      set ((s.cancelPending b).modifyBuffer id
        ({ · with viewport := .new, pending := none, external := ∅ }))
    else set (s.modifyBuffer id ({ · with viewport := .new }))
    syncVariables id

/-- Replaces the configuration. -/
def setOptions (options : Options) : SessionStep Unit := do
  let config ← orFail .option ((← get).host.config options)
  modify fun s => { s with config, matcher := Matcher.compile? config s.host.palette }
  (← get).ids.forM refresh

end Session

end ColorSpans
