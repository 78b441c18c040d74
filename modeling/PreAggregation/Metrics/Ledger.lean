import PreAggregation.Adjustment

/-!
# Metrics

What a stage reports about itself: its flushes and the adjustments it received.
-/

namespace PreAggregation

/-- The counters of a stage. -/
structure Ledger where
  /-- The number of flushes. -/
  flushes : Nat := 0
  /-- The number of keys in the bundles at the flushes. -/
  flushedKeys : Nat := 0
  /-- The number of outputs of the flushes. -/
  emittedRecords : Nat := 0
  /-- The number of flush intervals. -/
  intervals : Nat := 0
  /-- The kinds of the outcomes of all adjustments, the newest first. -/
  adjustments : List OutcomeKind := []
  deriving DecidableEq, Repr

namespace Ledger

/-- The counters before anything happened. -/
def empty : Ledger := {}

/-- Counts a flush of `keys` keys with `outputs` outputs. -/
def recordFlush (ledger : Ledger) (keys outputs : Nat) : Ledger :=
  { ledger with
    flushes := ledger.flushes + 1
    flushedKeys := ledger.flushedKeys + keys
    emittedRecords := ledger.emittedRecords + outputs
    intervals := ledger.intervals + 1 }

/-- Counts the outcome of an adjustment. -/
def recordAdjustment (ledger : Ledger) (kind : OutcomeKind) : Ledger :=
  { ledger with adjustments := kind :: ledger.adjustments }

/-- The number of adjustments with an outcome of this kind. -/
def adjusted (ledger : Ledger) (kind : OutcomeKind) : Nat :=
  ledger.adjustments.count kind

/-- The counters of two stages together. -/
def add (first second : Ledger) : Ledger where
  flushes := first.flushes + second.flushes
  flushedKeys := first.flushedKeys + second.flushedKeys
  emittedRecords := first.emittedRecords + second.emittedRecords
  intervals := first.intervals + second.intervals
  adjustments := first.adjustments ++ second.adjustments

/-- The counters of all stages together. -/
def total (ledgers : List Ledger) : Ledger :=
  ledgers.foldl add empty

/-- All counters by name. -/
def counters (ledger : Ledger) : List (String × Nat) :=
  [("combinecrab_flushes_total", ledger.flushes),
    ("combinecrab_flushed_keys_total", ledger.flushedKeys),
    ("combinecrab_emitted_records_total", ledger.emittedRecords),
    ("combinecrab_flush_interval_ms", ledger.intervals)] ++
  OutcomeKind.all.map fun kind =>
    ("combinecrab_adjustments_total\x7boutcome=" ++ kind.label ++ "\x7d", ledger.adjusted kind)

/-- The counters that are not zero, by name. -/
def shown (ledger : Ledger) : List (String × Nat) :=
  ledger.counters.filter fun counter => counter.2 ≠ 0

end Ledger
end PreAggregation
