import Mathlib.Data.Set.Card
import PreAggregation.Proofs.Bundle.Keys
import PreAggregation.Proofs.Histories

/-!
# Merges one after another

A bundle treats each key on its own.  The partial of a key is what the folds of the key
have made of no partial, one after another, since the bundle was last cleared or a fold of
the key last failed.  No key stands twice, so the size is the number of keys with a
partial.
-/

namespace PreAggregation
namespace Bundle

variable {κ ν ε : Type}

/-- A call that changes a bundle.  Every merge brings its own fold, which can fail. -/
inductive Call (κ ν ε : Type)
  | merge (key : κ) (fold : Option ν → Except ε ν)
  | clear

/-- A call with its result. -/
abbrev Record (κ ν ε : Type) := Call κ ν ε × Except ε Unit

/-- What the folds of one key make of no partial, one after another. -/
def compose (folds : List (Option ν → Except ε ν)) : Except ε (Option ν) :=
  folds.foldlM (fun current fold => (fold current).map some) none

variable [DecidableEq κ]

/-- The bundle behind a call, and the result. -/
def perform
    (bundle : Bundle κ ν) : Call κ ν ε → Bundle κ ν × Except ε Unit
  | .merge key fold => bundle.merge key fold
  | .clear => (.empty, .ok ())

/-- The bundle behind calls on an empty one, and the calls with their results. -/
def performAll (calls : List (Call κ ν ε)) : Bundle κ ν × List (Record κ ν ε) :=
  calls.foldl
    (fun (bundle, log) call =>
      let (next, result) := bundle.perform call
      (next, log ++ [(call, result)]))
    (.empty, [])

/-- Whether a call left nothing under a key: it cleared the bundle, or was a merge of the
key that failed. -/
def cuts (key : κ) : Record κ ν ε → Bool
  | (.clear, _) => true
  | (.merge other _, .error _) => other = key
  | (.merge _ _, .ok ()) => false

/-- The fold of a call that is a merge of a key. -/
def fold? (key : κ) : Record κ ν ε → Option (Option ν → Except ε ν)
  | (.merge other fold, _) => if other = key then some fold else none
  | (.clear, _) => none

/-- The folds of a key since the last call that left nothing under it. -/
def recentFolds
    (key : κ)
    (log : List (Record κ ν ε)) : List (Option ν → Except ε ν) :=
  (log.rtakeWhile fun record => !cuts key record).filterMap (fold? key)

/-! ## One merge -/

/-- A merge puts what the fold makes of the partial of its key in the place of this
partial, and leaves the other keys alone. -/
theorem get?_merge
    (bundle : Bundle κ ν)
    (key other : κ)
    (fold : Option ν → Except ε ν) :
    (bundle.merge key fold).1.get? other =
      if key = other then (fold (bundle.get? key)).toOption else bundle.get? other := by
  rw [merge]
  cases fold (bundle.get? key) with
  | ok merged => exact lookup_assign key other merged bundle.entries
  | error error => exact lookup_remove key other bundle.entries

theorem result_merge
    (bundle : Bundle κ ν)
    (key : κ)
    (fold : Option ν → Except ε ν) :
    (bundle.merge key fold).2 = (fold (bundle.get? key)).map fun _ => () := by
  rw [merge]
  cases fold (bundle.get? key) <;> rfl

theorem nodup_keys_merge
    {bundle : Bundle κ ν}
    (nodup : bundle.keys.Nodup)
    (key : κ)
    (fold : Option ν → Except ε ν) :
    (bundle.merge key fold).1.keys.Nodup := by
  rw [merge]
  cases fold (bundle.get? key) with
  | ok merged => exact nodup_map_fst_assign key merged nodup
  | error error => exact nodup_map_fst_remove key nodup

/-- If no key stands twice the size is the number of keys with a partial. -/
theorem size_eq_ncard
    {bundle : Bundle κ ν}
    (nodup : bundle.keys.Nodup) :
    bundle.size = {key | bundle.contains key = true}.ncard := by
  have present : {key | bundle.contains key = true} = (bundle.keys.toFinset : Set κ) := by
    ext key
    rw [Set.mem_ofPred_eq, Finset.mem_coe, List.mem_toFinset, mem_keys_iff]
  rw [present, Set.ncard_coe_finset, List.toFinset_card_of_nodup nodup, keys, List.length_map,
    size]

/-! ## One more call -/

theorem performAll_concat
    (calls : List (Call κ ν ε))
    (call : Call κ ν ε) :
    performAll (calls ++ [call]) =
      (((performAll calls).1.perform call).1,
        (performAll calls).2 ++ [(call, ((performAll calls).1.perform call).2)]) := by
  rw [performAll, List.foldl_append]
  rfl

theorem recentFolds_concat
    (key : κ)
    (log : List (Record κ ν ε))
    (record : Record κ ν ε) :
    recentFolds key (log ++ [record]) =
      if cuts key record then [] else recentFolds key log ++ (fold? key record).toList :=
  filterMap_rtakeWhile_concat (cuts key) (fold? key) log record

omit [DecidableEq κ] in
theorem compose_concat
    (folds : List (Option ν → Except ε ν))
    (fold : Option ν → Except ε ν) :
    compose (folds ++ [fold]) = (compose folds).bind fun current => (fold current).map some := by
  rw [compose, List.foldlM_append, compose]
  simp only [List.foldlM_cons, List.foldlM_nil, bind_pure]
  rfl

omit [DecidableEq κ] in
/-- Folds that succeed leave a partial, unless there are none. -/
theorem eq_none_iff_of_compose
    {folds : List (Option ν → Except ε ν)}
    {current : Option ν}
    (composed : compose folds = .ok current) :
    current = none ↔ folds = [] := by
  cases folds using List.reverseRecOn with
  | nil => simp [← Except.ok.inj composed]
  | append_singleton folds fold =>
      rw [compose_concat] at composed
      cases before : compose folds with
      | error error => simp [before, Except.bind] at composed
      | ok earlier =>
          cases folded : fold earlier with
          | error error => simp [before, folded, Except.bind, Except.map] at composed
          | ok merged =>
              simp only [before, folded, Except.bind, Except.map, Except.ok.injEq] at composed
              simp [← composed]

/-! ## Every history -/

/-- A bundle holds what the calls on it have left: under each key once what its recent folds
have made of no partial. -/
structure Holds
    (log : List (Record κ ν ε))
    (bundle : Bundle κ ν) : Prop where
  /-- No key stands twice. -/
  nodup_keys : bundle.keys.Nodup
  /-- The partial of a key. -/
  compose_recentFolds : ∀ key, compose (recentFolds key log) = .ok (bundle.get? key)

theorem holds_nil : Holds ([] : List (Record κ ν ε)) (.empty : Bundle κ ν) where
  nodup_keys := List.nodup_nil
  compose_recentFolds _ := rfl

theorem Holds.perform
    {log : List (Record κ ν ε)}
    {bundle : Bundle κ ν}
    (holds : Holds log bundle)
    (call : Call κ ν ε) :
    Holds (log ++ [(call, (bundle.perform call).2)]) (bundle.perform call).1 := by
  cases call with
  | clear =>
      refine ⟨List.nodup_nil, fun key => ?_⟩
      rw [recentFolds_concat, cuts, if_pos rfl]
      rfl
  | merge key fold =>
      refine ⟨nodup_keys_merge holds.nodup_keys key fold, fun other => ?_⟩
      rw [Bundle.perform, get?_merge, result_merge, recentFolds_concat, fold?]
      by_cases same : key = other
      · subst same
        cases folded : fold (bundle.get? key) with
        | error error => simp [cuts, Except.map, Except.toOption, compose, pure, Except.pure]
        | ok merged =>
            simp only [cuts, Except.map, Bool.false_eq_true, if_false, if_true,
              Option.toList_some, Except.toOption]
            rw [compose_concat, holds.compose_recentFolds, Except.bind, folded, Except.map]
      · have kept : cuts other (Call.merge key fold, (fold (bundle.get? key)).map fun _ => ()) =
            false := by
          cases fold (bundle.get? key) <;> simp [cuts, Except.map, same]
        rw [kept, if_neg Bool.false_ne_true, if_neg same, if_neg same, Option.toList_none,
          List.append_nil]
        exact holds.compose_recentFolds other

theorem holds_performAll (calls : List (Call κ ν ε)) :
    Holds (performAll calls).2 (performAll calls).1 := by
  induction calls using List.reverseRecOn with
  | nil => exact holds_nil
  | append_singleton calls call inductionHypothesis =>
      rw [performAll_concat]
      exact inductionHypothesis.perform call

theorem map_fst_performAll (calls : List (Call κ ν ε)) :
    (performAll calls).2.map Prod.fst = calls := by
  induction calls using List.reverseRecOn with
  | nil => rfl
  | append_singleton calls call inductionHypothesis =>
      rw [performAll_concat, List.map_append, inductionHypothesis]
      rfl

/-- Whatever calls a bundle has gone through, the partial of each key is what the recent
folds of the key have made of no partial.  The next merge gives its fold exactly this
partial, succeeds just if the fold does, and touches no other key.  No key stands twice,
and the size tells the number of keys with a partial. -/
theorem keeps_recent_folds (calls : List (Call κ ν ε)) :
    let bundle := (performAll calls).1
    let log := (performAll calls).2
    log.map Prod.fst = calls ∧
    (∀ key, compose (recentFolds key log) = .ok (bundle.get? key) ∧
      (bundle.get? key = none ↔ recentFolds key log = [])) ∧
    (∀ (key : κ) (fold : Option ν → Except ε ν),
      (bundle.merge key fold).2 = (fold (bundle.get? key)).map (fun _ => ()) ∧
      ∀ other, (bundle.merge key fold).1.get? other =
        if key = other then (fold (bundle.get? key)).toOption else bundle.get? other) ∧
    bundle.keys.Nodup ∧
    bundle.size = {key | bundle.contains key = true}.ncard ∧
    (bundle.isEmpty = true ↔ bundle.size = 0) := by
  intro bundle log
  have holds : Holds log bundle := holds_performAll calls
  refine ⟨map_fst_performAll calls, fun key => ?_, fun key fold => ?_, holds.nodup_keys,
    size_eq_ncard holds.nodup_keys, ?_⟩
  · exact ⟨holds.compose_recentFolds key, eq_none_iff_of_compose (holds.compose_recentFolds key)⟩
  · exact ⟨result_merge bundle key fold, fun other => get?_merge bundle key other fold⟩
  · rw [isEmpty, size, List.isEmpty_iff, List.length_eq_zero_iff]

end Bundle
end PreAggregation
