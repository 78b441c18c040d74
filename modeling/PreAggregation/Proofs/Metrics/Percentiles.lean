import Mathlib.Data.List.DropRight
import Mathlib.Data.List.Sort
import PreAggregation.Metrics.Histogram

/-!
# Windows and percentiles

A histogram is made if there can be room for its window, and holds the newest samples, as many
as the window says.  A snapshot of it has the same samples in ascending order, so that its
percentiles are order statistics: whatever rank is computed for a quantile, the percentile is
the sample of this rank, with ranks out of range taken as the first or the last.
-/

namespace PreAggregation

/-! ## The window -/

namespace Histogram

/-- Recording samples one by one is recording all of them. -/
theorem foldl_update
    {histogram : Histogram}
    (windowPositive : 0 < histogram.window)
    (fits : histogram.samples.length ≤ histogram.window)
    (values : List Nat) :
    values.foldl update histogram = histogram.updateAll values := by
  induction values generalizing histogram with
  | nil => exact (updateAll_nil fits).symm
  | cons value rest inductionHypothesis =>
      rw [List.foldl_cons, updateAll_cons windowPositive fits]
      exact inductionHypothesis windowPositive (length_samples_update_le windowPositive fits)

/-- The samples are the newest of all that were recorded, up to the window. -/
theorem samples_foldl_update
    (window : Nat)
    (values : List Nat) :
    (values.foldl update (ofWindow window)).samples =
      values.rtake (min values.length (max window 1)) := by
  have positive : 0 < (ofWindow window).window :=
    Nat.lt_of_lt_of_le Nat.zero_lt_one (le_max_right _ _)
  rw [foldl_update positive (Nat.zero_le _), updateAll, List.rtake]
  change values.drop (values.length - max window 1) = _
  congr 1
  omega

end Histogram

/-! ## Order statistics -/

/-- A value is the one at a place of some samples in ascending order, counted from one:
fewer samples are below it, and as many are not above it. -/
def IsRanked
    (samples : List Nat)
    (place value : Nat) : Prop :=
  samples.countP (· < value) < place ∧ place ≤ samples.countP (· ≤ value)

instance
    (samples : List Nat)
    (place value : Nat) :
    Decidable (IsRanked samples place value) :=
  inferInstanceAs (Decidable (_ ∧ _))

/-- No two values are at one place. -/
theorem IsRanked.unique
    {samples : List Nat}
    {place value other : Nat}
    (ranked : IsRanked samples place value)
    (otherRanked : IsRanked samples place other) :
    value = other := by
  have notAbove {low high : Nat} (lowRanked : IsRanked samples place low)
      (highRanked : IsRanked samples place high) : ¬low < high := by
    intro above
    have fewer : samples.countP (· ≤ low) ≤ samples.countP (· < high) := by
      apply List.countP_mono_left
      intro sample _ notAbove
      exact decide_eq_true (Nat.lt_of_le_of_lt (of_decide_eq_true notAbove) above)
    exact absurd (Nat.lt_of_le_of_lt (lowRanked.2.trans fewer) highRanked.1) (Nat.lt_irrefl _)
  exact Nat.le_antisymm (Nat.not_lt.mp (notAbove otherRanked ranked))
    (Nat.not_lt.mp (notAbove ranked otherRanked))

theorem IsRanked.perm
    {samples others : List Nat}
    {place value : Nat}
    (ranked : IsRanked samples place value)
    (perm : samples.Perm others) :
    IsRanked others place value := by
  rwa [IsRanked, ← perm.countP_eq, ← perm.countP_eq]

/-- In ascending order the samples before a place are not above the one at the place, and
those behind it are not below. -/
theorem isRanked_append_cons
    {before after : List Nat}
    {value : Nat}
    (ascending : (before ++ value :: after).Pairwise (· ≤ ·)) :
    IsRanked (before ++ value :: after) (before.length + 1) value := by
  rw [List.pairwise_append, List.pairwise_cons] at ascending
  obtain ⟨_, ⟨notBelow, _⟩, notAbove⟩ := ascending
  constructor
  · have none : (value :: after).countP (· < value) = 0 := by
      rw [List.countP_eq_zero]
      intro sample member below
      rcases List.mem_cons.mp member with rfl | behind
      · exact absurd (of_decide_eq_true below) (Nat.lt_irrefl _)
      · exact absurd (of_decide_eq_true below) (Nat.not_lt.mpr (notBelow sample behind))
    rw [List.countP_append, none, Nat.add_zero, Nat.lt_succ_iff]
    exact List.countP_le_length
  · have all : before.countP (· ≤ value) = before.length := by
      rw [List.countP_eq_length]
      intro sample member
      exact decide_eq_true (notAbove sample member value List.mem_cons_self)
    rw [List.countP_append, all, List.countP_cons_of_pos (by simp)]
    omega

theorem isRanked_getElem
    {sorted : List Nat}
    (ascending : sorted.Pairwise (· ≤ ·))
    {index : Nat}
    (inRange : index < sorted.length) :
    IsRanked sorted (index + 1) sorted[index] := by
  have division : sorted.take index ++ sorted[index] :: sorted.drop (index + 1) = sorted := by
    rw [← List.drop_eq_getElem_cons, List.take_append_drop]
  have ranked := isRanked_append_cons (division.symm ▸ ascending)
  rwa [division, List.length_take_of_le (Nat.le_of_lt inRange)] at ranked

/-! ## Snapshots -/

namespace Snapshot

/-- A snapshot has some samples in ascending order, and tells of them what it is asked. -/
structure Summarizes
    (snapshot : Snapshot)
    (samples : List Nat) : Prop where
  /-- It has the samples and no others. -/
  perm : snapshot.sorted.Perm samples
  /-- They are in ascending order. -/
  ascending : snapshot.sorted.Pairwise (· ≤ ·)
  count_eq : snapshot.count = samples.length
  least?_eq : snapshot.least? = samples.min?
  greatest?_eq : snapshot.greatest? = samples.max?
  /-- Whatever a quantile is, it is taken as a rank of 64 bits, and its percentile is the
  sample of this rank. -/
  percentile?_eq : ∀ quantile : Float,
    rank quantile samples.length < UInt64.size ∧
      snapshot.percentile? quantile = snapshot.atRank? (rank quantile samples.length)
  /-- Without samples there is none at any rank. -/
  atRank?_nil : samples = [] → ∀ rank, snapshot.atRank? rank = none
  /-- Otherwise the place that is looked up is there for every rank, -/
  place_lt : samples ≠ [] → ∀ rank,
    min (rank - 1) (snapshot.sorted.length - 1) < snapshot.sorted.length
  /-- what stands there is the sample of the rank or of the nearest one in range, -/
  atRank?_eq_some_iff : samples ≠ [] → ∀ rank value,
    snapshot.atRank? rank = some value ↔ IsRanked samples (min (max rank 1) samples.length) value
  /-- there is one, -/
  isSome_atRank? : samples ≠ [] → ∀ rank, (snapshot.atRank? rank).isSome
  /-- it is one of the samples, between the least and the greatest, -/
  within : ∀ rank, ∀ value ∈ snapshot.atRank? rank, value ∈ samples ∧
    (∀ least ∈ snapshot.least?, least ≤ value) ∧
    ∀ greatest ∈ snapshot.greatest?, value ≤ greatest
  /-- and a greater rank never has a smaller one. -/
  monotone : ∀ rank higher, rank ≤ higher → ∀ value ∈ snapshot.atRank? rank,
    ∀ other ∈ snapshot.atRank? higher, value ≤ other

section Summary

variable {snapshot : Snapshot} {samples : List Nat}

theorem least?_eq_min?
    (ascending : snapshot.sorted.Pairwise (· ≤ ·))
    (perm : snapshot.sorted.Perm samples) :
    snapshot.least? = samples.min? := by
  obtain ⟨sorted⟩ := snapshot
  cases sorted with
  | nil => rw [perm.nil_eq.symm]; rfl
  | cons first rest =>
      refine (List.min?_eq_some_iff.mpr ⟨perm.mem_iff.mp List.mem_cons_self, ?_⟩).symm
      intro sample member
      rcases List.mem_cons.mp (perm.mem_iff.mpr member) with rfl | behind
      · exact Nat.le_refl _
      · exact (List.pairwise_cons.mp ascending).1 sample behind

theorem greatest?_eq_max?
    (ascending : snapshot.sorted.Pairwise (· ≤ ·))
    (perm : snapshot.sorted.Perm samples) :
    snapshot.greatest? = samples.max? := by
  obtain ⟨sorted⟩ := snapshot
  cases sorted using List.reverseRecOn with
  | nil => rw [perm.nil_eq.symm]; rfl
  | append_singleton front last =>
      rw [greatest?, List.getLast?_concat]
      refine (List.max?_eq_some_iff.mpr ⟨perm.mem_iff.mp (by simp), ?_⟩).symm
      intro sample member
      rcases List.mem_append.mp (perm.mem_iff.mpr member) with before | isLast
      · exact (List.pairwise_append.mp ascending).2.2 sample before last (List.mem_singleton_self _)
      · exact Nat.le_of_eq (List.mem_singleton.mp isLast)

/-- The sample at a rank stands at a place that is there. -/
theorem exists_place_of_mem_atRank?
    {rank value : Nat}
    (found : value ∈ snapshot.atRank? rank) :
    ∃ inRange : min (rank - 1) (snapshot.sorted.length - 1) < snapshot.sorted.length,
      snapshot.sorted[min (rank - 1) (snapshot.sorted.length - 1)] = value :=
  List.getElem?_eq_some_iff.mp found

theorem isRanked_of_mem_atRank?
    (ascending : snapshot.sorted.Pairwise (· ≤ ·))
    (perm : snapshot.sorted.Perm samples)
    {rank value : Nat}
    (found : value ∈ snapshot.atRank? rank) :
    IsRanked samples (min (max rank 1) samples.length) value := by
  obtain ⟨inRange, rfl⟩ := exists_place_of_mem_atRank? found
  have ranked := (isRanked_getElem ascending inRange).perm perm
  rw [← perm.length_eq]
  have place : min (rank - 1) (snapshot.sorted.length - 1) + 1 =
      min (max rank 1) snapshot.sorted.length := by
    omega
  rwa [place] at ranked

theorem le_of_mem_atRank?
    (ascending : snapshot.sorted.Pairwise (· ≤ ·))
    {rank higher value other : Nat}
    (le : rank ≤ higher)
    (found : value ∈ snapshot.atRank? rank)
    (otherFound : other ∈ snapshot.atRank? higher) :
    value ≤ other := by
  obtain ⟨inRange, rfl⟩ := exists_place_of_mem_atRank? found
  obtain ⟨otherInRange, rfl⟩ := exists_place_of_mem_atRank? otherFound
  have places : min (rank - 1) (snapshot.sorted.length - 1) ≤
      min (higher - 1) (snapshot.sorted.length - 1) := by
    omega
  rcases Nat.eq_or_lt_of_le places with same | before
  · exact Nat.le_of_eq (getElem_congr_idx same)
  · exact List.pairwise_iff_getElem.mp ascending _ _ inRange otherInRange before

/-- Samples in ascending order summarize themselves in any order. -/
theorem summarizes_of_perm
    (ascending : snapshot.sorted.Pairwise (· ≤ ·))
    (perm : snapshot.sorted.Perm samples) :
    snapshot.Summarizes samples := by
  have place_lt (occupied : samples ≠ []) (rank : Nat) :
      min (rank - 1) (snapshot.sorted.length - 1) < snapshot.sorted.length := by
    have positive := List.length_pos_iff.mpr occupied
    rw [← perm.length_eq] at positive
    omega
  have isSome_atRank? (occupied : samples ≠ []) (rank : Nat) :
      (snapshot.atRank? rank).isSome := by
    rw [atRank?, List.getElem?_eq_getElem (place_lt occupied rank)]
    rfl
  refine ⟨perm, ascending, perm.length_eq, least?_eq_min? ascending perm,
    greatest?_eq_max? ascending perm, ?_, ?_, place_lt, ?_, isSome_atRank?, ?_, ?_⟩
  · intro quantile
    rw [percentile?, perm.length_eq]
    exact ⟨UInt64.toNat_lt_size _, rfl⟩
  · rintro rfl rank
    rw [atRank?, perm.eq_nil]
    rfl
  · intro occupied rank value
    constructor
    · exact isRanked_of_mem_atRank? ascending perm
    · intro ranked
      obtain ⟨found, isFound⟩ := Option.isSome_iff_exists.mp (isSome_atRank? occupied rank)
      rw [isFound, ranked.unique (isRanked_of_mem_atRank? ascending perm isFound)]
  · intro rank value found
    have member : value ∈ samples := by
      obtain ⟨_, rfl⟩ := exists_place_of_mem_atRank? found
      exact perm.mem_iff.mp (List.getElem_mem _)
    refine ⟨member, ?_, ?_⟩
    · intro least isLeast
      rw [least?_eq_min? ascending perm] at isLeast
      exact (List.min?_eq_some_iff.mp isLeast).2 value member
    · intro greatest isGreatest
      rw [greatest?_eq_max? ascending perm] at isGreatest
      exact (List.max?_eq_some_iff.mp isGreatest).2 value member
  · intro rank higher le value found other otherFound
    exact le_of_mem_atRank? ascending le found otherFound

end Summary

end Snapshot

namespace Histogram

theorem summarizes_snapshot (histogram : Histogram) :
    histogram.snapshot.Summarizes histogram.samples :=
  Snapshot.summarizes_of_perm (List.pairwise_mergeSort' (· ≤ ·) histogram.samples)
    (List.mergeSort_perm _ _)

/-- A new histogram is made for every window that there can be room for, and for no other.
When it has recorded some values it holds the newest of them, as many as there are up to its
window, or one if the window is zero.  Its snapshot summarizes them. -/
theorem summarizes_newest_given_room
    (window : Nat)
    (values : List Nat) :
    ((allocate? window).isSome ↔ window ≤ greatestWindow) ∧
      ∀ fresh, allocate? window = some fresh →
        let histogram : Histogram := values.foldl update fresh
        let newest := values.rtake (min values.length (max window 1))
        histogram.samples = newest ∧
          newest.length = min values.length (max window 1) ∧
          histogram.last? = values.getLast? ∧
          histogram.snapshot.Summarizes newest := by
  rw [allocate?_eq]
  refine ⟨by simp, ?_⟩
  intro fresh made histogram newest
  obtain ⟨-, isNew⟩ := Option.ite_none_right_eq_some.mp made
  obtain rfl := Option.some.inj isNew
  have held : histogram.samples = newest := samples_foldl_update window values
  refine ⟨held, ?_, ?_, held ▸ summarizes_snapshot histogram⟩
  · change (values.drop _).length = _
    rw [List.length_drop]
    omega
  · rw [last?, held]
    change (values.drop _).getLast? = _
    rw [List.getLast?_drop]
    cases values with
    | nil => rfl
    | cons value rest => rw [if_neg (by rw [List.length_cons]; omega)]

/-- A window of three forgets two of five values.  The sample of rank two is the middle one
of the others, and no quantile leads out of them. -/
theorem summarizes_newest_given_room_three :
    ∃ fresh, allocate? 3 = some fresh ∧
      let histogram : Histogram := [5, 1, 9, 2, 7].foldl update fresh
      histogram.samples = [9, 2, 7] ∧
        histogram.snapshot.atRank? 2 = some 7 ∧
        ∀ quantile : Float, ∃ value, histogram.snapshot.percentile? quantile = some value ∧
          2 ≤ value ∧ value ≤ 9 := by
  obtain ⟨room, made⟩ := summarizes_newest_given_room 3 [5, 1, 9, 2, 7]
  obtain ⟨fresh, allocated⟩ := Option.isSome_iff_exists.mp (room.mpr (by decide))
  refine ⟨fresh, allocated, ?_⟩
  obtain ⟨held, _, _, summarizes⟩ := made fresh allocated
  have occupied : List.rtake [5, 1, 9, 2, 7] (min 5 (max 3 1)) ≠ [] := by decide
  refine ⟨held, (summarizes.atRank?_eq_some_iff occupied 2 7).mpr (by decide), ?_⟩
  intro quantile
  obtain ⟨value, found⟩ :=
    Option.isSome_iff_exists.mp (summarizes.isSome_atRank? occupied (Snapshot.rank quantile 3))
  obtain ⟨_, atLeast, atMost⟩ := summarizes.within _ value found
  refine ⟨value, (summarizes.percentile?_eq quantile).2.trans found, ?_, ?_⟩
  · exact atLeast 2 (summarizes.least?_eq.trans (by decide))
  · exact atMost 9 (summarizes.greatest?_eq.trans (by decide))

/-- No histogram is made for the greatest window of a word of 64 bits. -/
theorem no_room_for_greatest_word :
    (allocate? 0xffffffffffffffff : Option Histogram) = none :=
  if_neg (by decide)

end Histogram
end PreAggregation
