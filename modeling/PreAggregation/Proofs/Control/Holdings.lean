import Mathlib.Data.List.Nodup
import PreAggregation.Control.Broker.Exchange

/-!
# Sending ends and receiving ends

What the table of an exchange has for a topic are the numbers of the subscriptions to the
topic that are held and not being given up.  So a publication reaches all of them, and it
takes nothing out of the table.
-/

namespace PreAggregation
namespace Exchange

/-- The subscriptions to a topic that are held and not being given up. -/
def live
    (exchange : Exchange)
    (topic : String) : List Nat :=
  (exchange.holdings.filter (·.hears topic)).map Holding.id

/-! ## Subscriptions by number -/

theorem find?_eq_none_iff
    {exchange : Exchange}
    {id : Nat} :
    exchange.find? id = none ↔ id ∉ exchange.holdings.map Holding.id := by
  rw [find?, List.find?_eq_none, List.mem_map, not_exists]
  simp only [decide_eq_true_eq, not_and]

theorem id_of_find?
    {exchange : Exchange}
    {id : Nat}
    {holding : Holding}
    (found : exchange.find? id = some holding) :
    holding.id = id := by
  simpa using List.find?_some found

theorem find?_of_mem
    {exchange : Exchange}
    (distinct : (exchange.holdings.map Holding.id).Nodup)
    {holding : Holding}
    (member : holding ∈ exchange.holdings) :
    exchange.find? holding.id = some holding := by
  cases found : exchange.find? holding.id with
  | none => exact absurd (List.mem_map_of_mem member) (find?_eq_none_iff.mp found)
  | some other =>
      have same := id_of_find? found
      rw [List.inj_on_of_nodup_map distinct (List.mem_of_find?_eq_some found) member same]

theorem mem_live_iff
    {exchange : Exchange}
    (distinct : (exchange.holdings.map Holding.id).Nodup)
    {id : Nat}
    {topic : String} :
    id ∈ exchange.live topic ↔
      ∃ holding, exchange.find? id = some holding ∧ holding.hears topic = true := by
  rw [live, List.mem_map]
  constructor
  · rintro ⟨holding, member, rfl⟩
    obtain ⟨held, hears⟩ := List.mem_filter.mp member
    exact ⟨holding, find?_of_mem distinct held, hears⟩
  · rintro ⟨holding, found, hears⟩
    exact ⟨holding, List.mem_filter.mpr ⟨List.mem_of_find?_eq_some found, hears⟩,
      id_of_find? found⟩

/-! ## Changes that keep the numbers -/

section Changes

variable {change : Holding → Holding}

theorem find?_map
    (exchange : Exchange)
    (keeps : ∀ holding, (change holding).id = holding.id)
    (id : Nat) :
    { exchange with holdings := exchange.holdings.map change }.find? id =
      (exchange.find? id).map change := by
  simp only [find?, List.find?_map, Function.comp_def, keeps]

theorem live_map
    (exchange : Exchange)
    {topic : String}
    (keeps : ∀ holding, (change holding).id = holding.id)
    (same : ∀ holding ∈ exchange.holdings, (change holding).hears topic = holding.hears topic) :
    { exchange with holdings := exchange.holdings.map change }.live topic =
      exchange.live topic := by
  simp only [live, List.filter_map, List.map_map, Function.comp_def, keeps]
  rw [List.filter_congr same]

end Changes

theorem id_altered
    (id : Nat)
    (change : Holding → Holding)
    (holding : Holding) :
    (if holding.id = id then { change holding with id } else holding).id = holding.id := by
  split
  · exact Eq.symm ‹_›
  · rfl

theorem find?_alter
    (exchange : Exchange)
    (changed : Nat)
    (change : Holding → Holding)
    (id : Nat) :
    (exchange.alter changed change).find? id =
      (exchange.find? id).map fun holding =>
        if id = changed then { change holding with id } else holding := by
  rw [alter, find?_map exchange (id_altered changed change)]
  cases found : exchange.find? id with
  | none => rfl
  | some holding =>
      obtain rfl := id_of_find? found
      by_cases same : holding.id = changed
      · subst same
        rfl
      · simp only [Option.map_some, if_neg same]

theorem ids_alter
    (exchange : Exchange)
    (changed : Nat)
    (change : Holding → Holding) :
    (exchange.alter changed change).holdings.map Holding.id =
      exchange.holdings.map Holding.id := by
  rw [alter, List.map_map]
  exact List.map_congr_left fun holding _ => id_altered changed change holding

theorem live_alter
    (exchange : Exchange)
    (changed : Nat)
    {change : Holding → Holding}
    {topic : String}
    (same : ∀ holding ∈ exchange.holdings, holding.id = changed →
      (change holding).hears topic = holding.hears topic) :
    (exchange.alter changed change).live topic = exchange.live topic := by
  refine live_map exchange (id_altered changed change) fun holding member => ?_
  split
  · exact same holding member ‹_›
  · rfl

/-! ## Publications -/

theorem send_eq
    (exchange : Exchange)
    (payload : List UInt8)
    (id : Nat) :
    exchange.send payload id =
      (exchange.alter id (·.push payload), (exchange.find? id).isSome) := by
  cases found : exchange.find? id with
  | some holding => rw [send, found]; rfl
  | none =>
      have unchanged : exchange.alter id (·.push payload) = exchange := by
        have absent := find?_eq_none_iff.mp found
        have kept : ∀ holding ∈ exchange.holdings, (if holding.id = id then
            { holding.push payload with id } else holding) = holding := fun holding member =>
          if_neg fun (same : holding.id = id) => absent (same ▸ List.mem_map_of_mem member)
        rw [alter, List.map_congr_left kept, List.map_id']
      rw [send, found, unchanged]
      rfl

/-- Of subscriptions that are all held each gets the payload, and none is left out. -/
theorem sendAll_of_held
    {exchange : Exchange}
    (payload : List UInt8)
    {ids : List Nat}
    (distinct : ids.Nodup)
    (held : ∀ id ∈ ids, (exchange.find? id).isSome) :
    exchange.sendAll payload ids =
      ({ exchange with
          holdings := exchange.holdings.map fun holding =>
            if holding.id ∈ ids then holding.push payload else holding }, ids) := by
  induction ids generalizing exchange with
  | nil => simp [sendAll]
  | cons id rest inductionHypothesis =>
      obtain ⟨notLater, distinctRest⟩ := List.nodup_cons.mp distinct
      obtain ⟨idHeld, restHeld⟩ := List.forall_mem_cons.mp held
      have stillHeld : ∀ other ∈ rest,
          ((exchange.alter id (·.push payload)).find? other).isSome := by
        intro other member
        rw [find?_alter, Option.isSome_map]
        exact restHeld other member
      rw [sendAll, send_eq]
      dsimp only
      rw [inductionHypothesis distinctRest stillHeld, idHeld]
      dsimp only [alter]
      rw [List.map_map, if_pos rfl]
      congr 2
      apply List.map_congr_left
      intro holding _
      rw [Function.comp_apply]
      by_cases same : holding.id = id
      · subst same
        rw [if_pos rfl, if_neg notLater, if_pos List.mem_cons_self]
        rfl
      · rw [if_neg same]
        simp only [List.mem_cons, same, false_or]

/-- The table has the numbers of the subscriptions that are held and not being given up,
and no number is held twice. -/
structure Matched (exchange : Exchange) : Prop where
  distinct : (exchange.holdings.map Holding.id).Nodup
  senders_eq : ∀ topic, exchange.senders topic = exchange.live topic

theorem Matched.nodup_live
    {exchange : Exchange}
    (matched : exchange.Matched)
    (topic : String) :
    (exchange.live topic).Nodup :=
  matched.distinct.sublist (List.filter_sublist.map Holding.id)

theorem Matched.publish_eq
    {exchange : Exchange}
    (matched : exchange.Matched)
    (topic : String)
    (payload : List UInt8) :
    ∃ table, (∀ other, (Bundle.lookup other table).getD [] = exchange.senders other) ∧
      exchange.publish topic payload =
        ({ exchange with
            table
            holdings := exchange.holdings.map fun holding =>
              if holding.hears topic then holding.push payload else holding },
          (exchange.live topic).length) := by
  have hears_iff : ∀ holding ∈ exchange.holdings,
      holding.id ∈ exchange.live topic ↔ holding.hears topic = true := by
    intro holding member
    rw [mem_live_iff matched.distinct, find?_of_mem matched.distinct member]
    simp only [Option.some.injEq, exists_eq_left']
  have pushed_eq : (exchange.holdings.map fun holding =>
      if holding.id ∈ exchange.live topic then holding.push payload else holding) =
        exchange.holdings.map fun holding =>
          if holding.hears topic then holding.push payload else holding := by
    apply List.map_congr_left
    intro holding member
    simp only [hears_iff holding member]
  have row_eq := matched.senders_eq topic
  rw [senders] at row_eq
  unfold publish
  cases row : Bundle.lookup topic exchange.table with
  | none =>
      rw [row] at row_eq
      change [] = exchange.live topic at row_eq
      rw [← row_eq] at pushed_eq ⊢
      refine ⟨exchange.table, fun _ => rfl, ?_⟩
      rw [← pushed_eq]
      simp
  | some ids =>
      rw [row] at row_eq
      change ids = exchange.live topic at row_eq
      subst row_eq
      have held : ∀ id ∈ exchange.live topic, (exchange.find? id).isSome := by
        intro id member
        obtain ⟨holding, found, _⟩ := (mem_live_iff matched.distinct).mp member
        rw [found]
        rfl
      dsimp only
      rw [sendAll_of_held payload (matched.nodup_live topic) held, pushed_eq]
      refine ⟨_, fun other => ?_, rfl⟩
      rw [Bundle.lookup_assign, senders]
      by_cases same : topic = other
      · subst same
        rw [if_pos rfl, row]
      · rw [if_neg same]

theorem Matched.publish
    {exchange : Exchange}
    (matched : exchange.Matched)
    (topic : String)
    (payload : List UInt8) :
    (exchange.publish topic payload).1.Matched := by
  obtain ⟨table, senders_same, published⟩ := matched.publish_eq topic payload
  have keeps (holding : Holding) :
      (if holding.hears topic then holding.push payload else holding).id = holding.id := by
    split <;> rfl
  have same (other : String) (holding : Holding) :
      (if holding.hears topic then holding.push payload else holding).hears other =
        holding.hears other := by
    split <;> rfl
  rw [published]
  refine ⟨?_, fun other => ?_⟩
  · simpa only [List.map_map, Function.comp_def, keeps] using matched.distinct
  · exact (senders_same other).trans ((matched.senders_eq other).trans
      (live_map exchange keeps fun holding _ => same other holding).symm)

/-! ## Subscribing and giving up -/

theorem Matched.register
    {exchange : Exchange}
    (matched : exchange.Matched)
    {id : Nat}
    (absent : exchange.find? id = none)
    (topic : String) :
    (exchange.register id topic).Matched := by
  unfold Exchange.register
  split
  · refine ⟨?_, fun other => ?_⟩
    · rw [List.map_append, List.nodup_append]
      refine ⟨matched.distinct, List.nodup_singleton id, ?_⟩
      rintro held member other (_ | ⟨_, ⟨⟩⟩) rfl
      exact find?_eq_none_iff.mp absent member
    · change (Bundle.lookup other _).getD [] = _
      rw [Bundle.lookup_assign, live, List.filter_append, List.map_append, ← live,
        ← matched.senders_eq other]
      by_cases same : topic = other
      · subst same
        simp [Holding.hears, Subscription.ofTopic]
      · simp [Holding.hears, Subscription.ofTopic, same, senders]
  · exact matched

/-- A subscription may be replaced by one to the same topic. -/
theorem Matched.alter
    {exchange : Exchange}
    (matched : exchange.Matched)
    {id : Nat}
    {holding : Holding}
    (found : exchange.find? id = some holding)
    {change : Holding → Holding}
    (same : ∀ topic, (change holding).hears topic = holding.hears topic) :
    (exchange.alter id change).Matched where
  distinct := by
    rw [ids_alter]
    exact matched.distinct
  senders_eq topic := by
    refine (matched.senders_eq topic).trans (live_alter exchange id ?_).symm
    rintro other member rfl
    cases (find?_of_mem matched.distinct member).symm.trans found
    exact same topic

theorem remove_eq
    (exchange : Exchange)
    (topic : String)
    (id : Nat) :
    ∃ table, (∀ other, (Bundle.lookup other table).getD [] =
        if topic = other then (exchange.senders topic).filter (· ≠ id)
        else exchange.senders other) ∧
      exchange.remove topic id = { exchange with table } := by
  unfold remove senders
  cases row : Bundle.lookup topic exchange.table with
  | none =>
      refine ⟨exchange.table, fun other => ?_, rfl⟩
      by_cases same : topic = other
      · subst same
        simp [row]
      · rw [if_neg same]
  | some ids =>
      refine ⟨_, fun other => ?_, rfl⟩
      by_cases none : (ids.filter (· ≠ id)).isEmpty
      · rw [if_pos none, Bundle.lookup_remove]
        by_cases same : topic = other
        · rw [if_pos same, if_pos same, Option.getD_none, Option.getD_some,
            List.isEmpty_iff.mp none]
        · rw [if_neg same, if_neg same]
      · rw [if_neg none, Bundle.lookup_assign]
        by_cases same : topic = other
        · rw [if_pos same, if_pos same, Option.getD_some, Option.getD_some]
        · rw [if_neg same, if_neg same]

/-- The close hook has run before, or it takes one sending end out of the table. -/
theorem close_cases
    (exchange : Exchange)
    (id : Nat) :
    ((∀ holding, exchange.find? id = some holding → holding.hooked = false) ∧
        exchange.close id = exchange) ∨
      ∃ holding table, exchange.find? id = some holding ∧ holding.hooked = true ∧
        (∀ other, (Bundle.lookup other table).getD [] =
          if holding.subscription.topic = other then
            (exchange.senders holding.subscription.topic).filter (· ≠ id)
          else exchange.senders other) ∧
        exchange.close id =
          { exchange.alter id Holding.unhook with table, closed := exchange.closed ++ [id] } := by
  unfold close
  cases found : exchange.find? id with
  | none => exact .inl ⟨fun _ absent => absurd absent (by simp), rfl⟩
  | some holding =>
      dsimp only
      cases hooked : holding.hooked with
      | false =>
          refine .inl ⟨?_, if_neg Bool.false_ne_true⟩
          rintro other ⟨⟩
          exact hooked
      | true =>
          obtain ⟨table, senders_eq, removed⟩ := exchange.remove_eq holding.subscription.topic id
          refine .inr ⟨holding, table, rfl, hooked, senders_eq, ?_⟩
          rw [if_pos rfl, removed]
          rfl

theorem live_alter_unhook
    (exchange : Exchange)
    (id : Nat)
    (topic : String) :
    (exchange.alter id Holding.unhook).live topic = (exchange.live topic).filter (· ≠ id) := by
  have keeps := id_altered id Holding.unhook
  have heard (holding : Holding) :
      (if holding.id = id then { holding.unhook with id } else holding).hears topic =
        (decide (holding.id ≠ id) && holding.hears topic) := by
    by_cases same : holding.id = id
    · rw [if_pos same, decide_eq_false (not_not_intro same), Bool.false_and]
      rfl
    · rw [if_neg same, decide_eq_true same, Bool.true_and]
  simp only [live, alter, List.filter_map, Function.comp_def, heard, List.map_map, keeps,
    List.filter_filter]

theorem Matched.close
    {exchange : Exchange}
    (matched : exchange.Matched)
    (id : Nat) :
    (exchange.close id).Matched := by
  rcases exchange.close_cases id with
    ⟨_, unchanged⟩ | ⟨holding, table, found, _, senders_eq, closed⟩
  · rw [unchanged]
    exact matched
  · rw [closed]
    refine ⟨(exchange.ids_alter id Holding.unhook).symm ▸ matched.distinct, fun other => ?_⟩
    refine (senders_eq other).trans (Eq.trans ?_ (exchange.live_alter_unhook id other).symm)
    rw [matched.senders_eq, matched.senders_eq]
    by_cases same : holding.subscription.topic = other
    · rw [if_pos same, same]
    · have unheard : id ∉ exchange.live other := by
        rw [mem_live_iff matched.distinct, found]
        simp [Holding.hears, same]
      rw [if_neg same, eq_comm, List.filter_eq_self]
      intro heard member
      exact decide_eq_true fun (equal : heard = id) => unheard (equal ▸ member)

theorem Matched.release
    {exchange : Exchange}
    (matched : exchange.Matched)
    (id : Nat) :
    (exchange.release id).Matched where
  distinct := matched.distinct.sublist (List.filter_sublist.map Holding.id)
  senders_eq topic := by
    refine (matched.senders_eq topic).trans ?_
    rw [live, live, Exchange.release, List.filter_filter]
    congr 1
    apply List.filter_congr
    intro holding _
    cases hooked : holding.hooked <;> simp [Holding.hears, hooked]

end Exchange
end PreAggregation
