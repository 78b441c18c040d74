import Mathlib.Data.List.Nodup
import PreAggregation.Bundle

/-!
# Keys of a bundle

Assigning a partial adds its key at most once, and removing one takes its key away, so
no key of a bundle ever stands twice.
-/

namespace PreAggregation
namespace Bundle

variable {κ ν : Type} [DecidableEq κ]

/-- Assigning keeps the keys, or adds a new one behind them. -/
theorem map_fst_assign
    (key : κ)
    (value : ν)
    (entries : List (κ × ν)) :
    (assign key value entries).map Prod.fst =
      if key ∈ entries.map Prod.fst then entries.map Prod.fst
      else entries.map Prod.fst ++ [key] := by
  induction entries with
  | nil => rfl
  | cons entry rest inductionHypothesis =>
      obtain ⟨head, old⟩ := entry
      by_cases same : head = key
      · simp [assign, same]
      · simp only [assign, if_neg same, List.map_cons, inductionHypothesis, List.mem_cons,
          Ne.symm same, false_or]
        split <;> rfl

theorem nodup_map_fst_assign
    (key : κ)
    (value : ν)
    {entries : List (κ × ν)}
    (nodup : (entries.map Prod.fst).Nodup) :
    ((assign key value entries).map Prod.fst).Nodup := by
  rw [map_fst_assign]
  split
  · exact nodup
  · rename_i absent
    rw [List.nodup_append]
    refine ⟨nodup, List.nodup_singleton key, ?_⟩
    intro present member other isKey equal
    rw [List.mem_singleton] at isKey
    exact absent (isKey ▸ equal ▸ member)

theorem remove_sublist
    (key : κ)
    (entries : List (κ × ν)) :
    (remove key entries).Sublist entries := by
  induction entries with
  | nil => exact List.Sublist.refl []
  | cons entry rest inductionHypothesis =>
      obtain ⟨head, value⟩ := entry
      by_cases same : head = key
      · rw [remove, if_pos same]
        exact inductionHypothesis.cons _
      · rw [remove, if_neg same]
        exact inductionHypothesis.cons_cons _

theorem nodup_map_fst_remove
    (key : κ)
    {entries : List (κ × ν)}
    (nodup : (entries.map Prod.fst).Nodup) :
    ((remove key entries).map Prod.fst).Nodup :=
  nodup.sublist ((remove_sublist key entries).map Prod.fst)

/-- The keys are those with a partial. -/
theorem mem_keys_iff
    (bundle : Bundle κ ν)
    (key : κ) :
    key ∈ bundle.keys ↔ bundle.contains key = true := by
  obtain ⟨entries⟩ := bundle
  rw [contains, get?, keys]
  induction entries with
  | nil => simp [lookup]
  | cons entry rest inductionHypothesis =>
      obtain ⟨head, value⟩ := entry
      by_cases same : head = key
      · simp [lookup, same]
      · simpa [lookup, same, Ne.symm same] using inductionHypothesis

end Bundle
end PreAggregation
