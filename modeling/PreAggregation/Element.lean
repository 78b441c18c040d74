/-!
# Stream elements

What flows between a task and its neighbours: records, watermarks, and the mark
behind the last of them.
-/

namespace PreAggregation

/-- One unit of a stream. -/
inductive Element (α : Type)
  /-- A record, with the event time in milliseconds if it has one. -/
  | record (value : α) (time : Option Int)
  /-- No record up to this event time follows. -/
  | watermark (time : Int)
  | finished
  deriving DecidableEq, BEq, Repr

namespace Element

/-- Whether an element is the mark behind the last record. -/
def isFinished {α : Type} : Element α → Bool
  | .finished => true
  | .record .. | .watermark _ => false

/-- The order of two watermarks by their times. -/
def compareWatermarks {α : Type} : Element α → Element α → Option Ordering
  | .watermark first, .watermark second => some (compare first second)
  | _, _ => none

/-- One line about a watermark. -/
def watermarkLabel (time : Int) : String :=
  s!"Watermark({time}ms)"

end Element
end PreAggregation
