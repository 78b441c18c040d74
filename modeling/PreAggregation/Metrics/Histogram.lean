/-!
# Flush intervals

A histogram keeps the most recent samples up to a fixed number.  A snapshot holds
them in ascending order.
-/

namespace PreAggregation

/-- The most recent samples. -/
structure Histogram where
  /-- How many samples are kept. -/
  window : Nat
  /-- The samples, the oldest first. -/
  samples : List Nat
  deriving DecidableEq, Repr

/-- Samples in ascending order. -/
structure Snapshot where
  /-- The samples. -/
  sorted : List Nat
  deriving DecidableEq, Repr

namespace Histogram

/-- A histogram without samples, which keeps at least one.  There may not be room for it. -/
def ofWindow (window : Nat) : Histogram :=
  ⟨max window 1, []⟩

/-- The greatest number of samples for which there can be room: a sample takes eight bytes, and
all of them together take fewer than `2 ^ 63`. -/
def greatestWindow : Nat :=
  0x0fffffffffffffff

/-- A histogram with room for all samples that it keeps, if there can be room for so many.
Whether the machine has the memory is not decided here. -/
def allocate? (window : Nat) : Option Histogram :=
  if (ofWindow window).window ≤ greatestWindow then some (ofWindow window) else none

/-- Records a sample.  A full histogram gives up its oldest one. -/
def update (histogram : Histogram) (sample : Nat) : Histogram :=
  let kept :=
    if histogram.samples.length = histogram.window then histogram.samples.drop 1
    else histogram.samples
  { histogram with samples := kept ++ [sample] }

/-- Records samples one after another. -/
def updateAll (histogram : Histogram) (samples : List Nat) : Histogram :=
  let all := histogram.samples ++ samples
  { histogram with samples := all.drop (all.length - histogram.window) }

/-- The newest sample. -/
def last? (histogram : Histogram) : Option Nat :=
  histogram.samples.getLast?

/-- The samples in ascending order. -/
def snapshot (histogram : Histogram) : Snapshot :=
  ⟨histogram.samples.mergeSort⟩

/-! ## Room -/

/-- There can be room for the one sample that a window of zero keeps. -/
theorem allocate?_eq (window : Nat) :
    allocate? window = if window ≤ greatestWindow then some (ofWindow window) else none := by
  have room : (ofWindow window).window ≤ greatestWindow ↔ window ≤ greatestWindow := by
    change max window 1 ≤ 0x0fffffffffffffff ↔ window ≤ 0x0fffffffffffffff
    omega
  simp only [allocate?, room]

/-! ## Samples in a row -/

/-- A histogram never holds more samples than it keeps. -/
theorem length_samples_update_le {histogram : Histogram} {sample : Nat}
    (windowPositive : 0 < histogram.window)
    (fits : histogram.samples.length ≤ histogram.window) :
    (histogram.update sample).samples.length ≤ (histogram.update sample).window := by
  simp only [update]
  split <;> simp <;> omega

theorem updateAll_nil {histogram : Histogram}
    (fits : histogram.samples.length ≤ histogram.window) :
    histogram.updateAll [] = histogram := by
  simp [updateAll, Nat.sub_eq_zero_of_le fits]

/-- Samples are recorded in their order. -/
theorem updateAll_cons {histogram : Histogram} {sample : Nat} {rest : List Nat}
    (windowPositive : 0 < histogram.window)
    (fits : histogram.samples.length ≤ histogram.window) :
    histogram.updateAll (sample :: rest) = (histogram.update sample).updateAll rest := by
  obtain ⟨window, samples⟩ := histogram
  simp only [updateAll, update, mk.injEq, true_and] at windowPositive fits ⊢
  split
  · rename_i full
    cases samples with
    | nil => simp at full; omega
    | cons oldest others =>
        simp only [List.length_cons] at full
        have early : (oldest :: others ++ sample :: rest).length - window = rest.length + 1 := by
          simp
          omega
        have late : (others ++ [sample] ++ rest).length - window = rest.length := by
          simp
          omega
        simp only [List.drop_succ_cons, List.drop_zero]
        rw [early, late]
        simp
  · simp

end Histogram

namespace Snapshot

/-- The number of samples. -/
def count (snapshot : Snapshot) : Nat :=
  snapshot.sorted.length

/-- The least sample. -/
def least? (snapshot : Snapshot) : Option Nat :=
  snapshot.sorted.head?

/-- The greatest sample. -/
def greatest? (snapshot : Snapshot) : Option Nat :=
  snapshot.sorted.getLast?

/-- The mean of the samples. -/
def mean? (snapshot : Snapshot) : Option Float :=
  if snapshot.sorted.isEmpty then none
  else some (Float.ofNat (snapshot.sorted.foldr (· + ·) 0) / Float.ofNat snapshot.sorted.length)

/-- The place of a quantile among `count` samples, counted from one.  Quantiles are
taken between zero and one, and what is not a number has place zero. -/
def rank (quantile : Float) (count : Nat) : Nat :=
  let lower := if quantile < 0.0 then 0.0 else quantile
  let bounded := if 1.0 < lower then 1.0 else lower
  (bounded * Float.ofNat count).ceil.toUInt64.toNat

/-- The sample at a place counted from one.  Places before the first and behind the
last sample are taken as those. -/
def atRank? (snapshot : Snapshot) (rank : Nat) : Option Nat :=
  snapshot.sorted[min (rank - 1) (snapshot.sorted.length - 1)]?

/-- The least sample that is not below the given part of all samples. -/
def percentile? (snapshot : Snapshot) (quantile : Float) : Option Nat :=
  snapshot.atRank? (rank quantile snapshot.sorted.length)

end Snapshot
end PreAggregation
