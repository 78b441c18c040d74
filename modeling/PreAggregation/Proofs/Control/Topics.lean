import PreAggregation.Control.Broker.Router
import Mathlib.Data.List.Nodup

/-!
# Topics and their subscribers

A table of topics is told by the list of subscribers that it has for each topic.  A
subscription adds one connection to one list, and the end of a connection takes it out
of all of them.
-/

namespace PreAggregation
namespace Router

/-- The subscribers that a table has for a topic. -/
def listed
    (table : List (String × List Nat))
    (topic : String) : List Nat :=
  ((table.find? fun entry => entry.1 = topic).map Prod.snd).getD []

theorem listed_cons
    (key : String)
    (subscribers : List Nat)
    (rest : List (String × List Nat))
    (topic : String) :
    listed ((key, subscribers) :: rest) topic =
      if key = topic then subscribers else listed rest topic := by
  unfold listed
  by_cases same : key = topic
  · rw [List.find?_cons_of_pos (by simpa using same), if_pos same]
    rfl
  · rw [List.find?_cons_of_neg (by simpa using same), if_neg same]

theorem listed_eq_nil_of_notMem
    {table : List (String × List Nat)}
    {topic : String}
    (absent : topic ∉ table.map Prod.fst) :
    listed table topic = [] := by
  induction table with
  | nil => rfl
  | cons entry rest inductionHypothesis =>
      obtain ⟨key, subscribers⟩ := entry
      rw [List.map_cons, List.mem_cons, not_or] at absent
      rw [listed_cons, if_neg fun same => absent.1 same.symm]
      exact inductionHypothesis absent.2

theorem listed_of_mem
    {table : List (String × List Nat)}
    (distinct : (table.map Prod.fst).Nodup)
    {entry : String × List Nat}
    (member : entry ∈ table) :
    listed table entry.1 = entry.2 := by
  induction table with
  | nil => exact absurd member List.not_mem_nil
  | cons head rest inductionHypothesis =>
      obtain ⟨key, subscribers⟩ := head
      rw [List.map_cons, List.nodup_cons] at distinct
      rw [listed_cons]
      rcases List.mem_cons.mp member with rfl | later
      · rw [if_pos rfl]
      · have other : key ≠ entry.1 := by
          intro same
          exact distinct.1 (List.mem_map.mpr ⟨entry, later, same.symm⟩)
        rw [if_neg other]
        exact inductionHypothesis distinct.2 later

/-! ## Subscriptions -/

theorem listed_enroll
    (table : List (String × List Nat))
    (topic other : String)
    (connection : Nat) :
    listed (enroll topic connection table) other =
      if other ≠ topic ∨ connection ∈ listed table topic then listed table other
      else listed table topic ++ [connection] := by
  induction table with
  | nil =>
      rw [enroll, listed_cons]
      by_cases same : topic = other
      · subst same
        simp [listed]
      · have different : other ≠ topic := fun equal => same equal.symm
        rw [if_neg same, if_pos (Or.inl different)]
  | cons entry rest inductionHypothesis =>
      obtain ⟨key, subscribers⟩ := entry
      rw [enroll]
      by_cases found : key = topic
      · subst found
        rw [if_neg (by simp), listed_cons, if_pos rfl]
        by_cases enrolled : connection ∈ subscribers
        · rw [if_pos enrolled, if_pos (Or.inr enrolled)]
        · rw [if_neg enrolled, listed_cons, listed_cons]
          by_cases same : key = other
          · subst same
            simp [enrolled]
          · have different : other ≠ key := fun equal => same equal.symm
            rw [if_neg same, if_neg same, if_pos (Or.inl different)]
      · rw [if_pos found, listed_cons, listed_cons, listed_cons, if_neg found, inductionHypothesis]
        by_cases same : key = other
        · subst same
          rw [if_pos rfl, if_pos rfl, if_pos (Or.inl found)]
        · rw [if_neg same, if_neg same]

theorem mem_listed_enroll
    (table : List (String × List Nat))
    (topic other : String)
    (connection subscriber : Nat) :
    subscriber ∈ listed (enroll topic connection table) other ↔
      subscriber ∈ listed table other ∨ subscriber = connection ∧ other = topic := by
  rw [listed_enroll]
  by_cases same : other = topic
  · subst same
    by_cases enrolled : connection ∈ listed table other
    · rw [if_pos (Or.inr enrolled)]
      refine ⟨Or.inl, ?_⟩
      rintro (member | ⟨rfl, _⟩)
      · exact member
      · exact enrolled
    · rw [if_neg (by simp [enrolled]), List.mem_append, List.mem_singleton]
      simp
  · rw [if_pos (Or.inl same)]
    simp [same]

theorem nodup_listed_enroll
    {table : List (String × List Nat)}
    (distinct : ∀ topic, (listed table topic).Nodup)
    (topic other : String)
    (connection : Nat) :
    (listed (enroll topic connection table) other).Nodup := by
  rw [listed_enroll]
  split
  · exact distinct other
  · rename_i new
    rw [not_or] at new
    rw [← List.concat_eq_append]
    exact List.Nodup.concat new.2 (distinct topic)

/-- Every entry is an old one or has the new subscriber. -/
theorem mem_enroll
    {table : List (String × List Nat)}
    {topic : String}
    {connection : Nat}
    {entry : String × List Nat}
    (member : entry ∈ enroll topic connection table) :
    entry ∈ table ∨ entry.1 = topic ∧ connection ∈ entry.2 := by
  induction table with
  | nil =>
      rw [enroll, List.mem_singleton] at member
      subst member
      exact Or.inr ⟨rfl, List.mem_singleton_self connection⟩
  | cons head rest inductionHypothesis =>
      obtain ⟨key, subscribers⟩ := head
      rw [enroll] at member
      split at member
      · rcases List.mem_cons.mp member with rfl | later
        · exact Or.inl List.mem_cons_self
        · exact (inductionHypothesis later).imp_left (List.mem_cons_of_mem _)
      · rename_i found
        split at member
        · exact Or.inl member
        · rcases List.mem_cons.mp member with rfl | later
          · refine Or.inr ⟨Decidable.of_not_not found, ?_⟩
            exact List.mem_append_right subscribers (List.mem_singleton_self connection)
          · exact Or.inl (List.mem_cons_of_mem _ later)

theorem nodup_map_fst_enroll
    {table : List (String × List Nat)}
    (distinct : (table.map Prod.fst).Nodup)
    (topic : String)
    (connection : Nat) :
    ((enroll topic connection table).map Prod.fst).Nodup := by
  induction table with
  | nil => exact List.nodup_cons.mpr ⟨List.not_mem_nil, List.nodup_nil⟩
  | cons head rest inductionHypothesis =>
      obtain ⟨key, subscribers⟩ := head
      rw [List.map_cons, List.nodup_cons] at distinct
      rw [enroll]
      split
      · rename_i other
        rw [List.map_cons, List.nodup_cons]
        refine ⟨?_, inductionHypothesis distinct.2⟩
        intro member
        obtain ⟨entry, among, key_eq⟩ := List.mem_map.mp member
        rcases mem_enroll among with old | ⟨new, _⟩
        · exact distinct.1 (key_eq ▸ List.mem_map_of_mem old)
        · exact other (key_eq.symm.trans new)
      · split
        · exact List.nodup_cons.mpr distinct
        · exact List.nodup_cons.mpr distinct

/-! ## Ends of connections -/

theorem map_fst_table_disconnect_sublist
    (router : Router)
    (connection : Nat) :
    ((router.disconnect connection).table.map Prod.fst).Sublist (router.table.map Prod.fst) := by
  have keys : (router.table.map fun entry => (entry.1, entry.2.filter (· ≠ connection))).map
      Prod.fst = router.table.map Prod.fst := by
    rw [List.map_map]
    rfl
  rw [← keys]
  exact List.filter_sublist.map Prod.fst

theorem subscribers_disconnect
    {router : Router}
    (distinct : (router.table.map Prod.fst).Nodup)
    (connection : Nat)
    (topic : String) :
    (router.disconnect connection).subscribers topic =
      (router.subscribers topic).filter (· ≠ connection) := by
  obtain ⟨nextId, connections, table⟩ := router
  change listed (List.filter _ (List.map _ table)) topic = (listed table topic).filter _
  induction table with
  | nil => rfl
  | cons head rest inductionHypothesis =>
      obtain ⟨key, subscribers⟩ := head
      change (key :: rest.map Prod.fst).Nodup at distinct
      rw [List.nodup_cons] at distinct
      have later := inductionHypothesis distinct.2
      rw [List.map_cons, listed_cons]
      by_cases rests : subscribers.filter (· ≠ connection) = []
      · rw [List.filter_cons_of_neg (by rw [rests]; simp), later]
        by_cases same : key = topic
        · rw [if_pos same, rests, listed_eq_nil_of_notMem (same ▸ distinct.1)]
          rfl
        · rw [if_neg same]
      · rw [List.filter_cons_of_pos (by simpa only [Bool.not_eq_true', List.isEmpty_eq_false_iff]), listed_cons]
        by_cases same : key = topic
        · rw [if_pos same, if_pos same]
        · rw [if_neg same, if_neg same, later]

end Router
end PreAggregation
