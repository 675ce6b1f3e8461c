/-! The visible window of a buffer, and which of its lines are new since it was last looked at. -/
namespace ColorSpans

/-- The lines from `start` up to `stop`. -/
structure LineRange where
  start : Int
  stop : Int
  deriving DecidableEq, Repr

namespace LineRange

def contains (range : LineRange) (line : Int) : Bool := range.start ≤ line && line < range.stop

def length (range : LineRange) : Int := range.stop - range.start

end LineRange

/-- A window that ends before it starts. -/
structure InvalidRange where
  range : LineRange

def InvalidRange.message (e : InvalidRange) : String :=
  "Invalid line range: (" ++ toString e.range.start ++ ", " ++ toString e.range.stop ++ ")"

/-- The part of a window that another window did not show: its end after a move down, its beginning
after a move up, all of it if an edge stayed. -/
def revealed (previous new : LineRange) : LineRange :=
  if previous.stop = new.stop ∨ previous.start = new.start then new
  else if previous.stop < new.stop then ⟨previous.stop, new.stop⟩
  else ⟨new.start, new.start + (previous.stop - new.stop)⟩

/-- The lines to scan when a window appears or moves; never more than the window itself is long. -/
def nextRange (previous : Option LineRange) (new : LineRange) : Except InvalidRange LineRange :=
  if new.stop < new.start then .error ⟨new⟩
  else match previous with
    | none => .ok new
    | some previous =>
        let part := revealed previous new
        .ok (if new.length < part.length then new else part)

/-- The window that was looked at last. -/
structure Viewport where
  previous : Option LineRange
  deriving DecidableEq, Repr

namespace Viewport

def new : Viewport := ⟨none⟩

/-- A refused window is not remembered. -/
def update (viewport : Viewport) (range : LineRange) : Except InvalidRange (LineRange × Viewport) :=
  (nextRange viewport.previous range).map fun part => (part, ⟨some range⟩)

end Viewport

end ColorSpans
