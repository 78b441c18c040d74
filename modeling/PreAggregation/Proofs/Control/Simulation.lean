import PreAggregation.Proofs.Control.Holdings

/-!
# The broker without the steps of its users

If subscriptions are made and given up at once, an exchange does what a broker does that
has only the subscriptions and no table of sending ends.
-/

namespace PreAggregation
namespace Exchange

/-- The broker that has the subscriptions that are held and not being given up. -/
def plain (exchange : Exchange) : MemoryBroker :=
  ⟨exchange.nextId,
    (exchange.holdings.filter Holding.hooked).map fun holding =>
      (holding.id, holding.subscription)⟩

theorem plain_empty : empty.plain = .empty :=
  rfl

theorem plain_subscribe
    (exchange : Exchange)
    (topic : String) :
    ((exchange.subscribe topic).1.plain, (exchange.subscribe topic).2) =
      exchange.plain.subscribe topic := by
  have reserved : exchange.nextId ∈ exchange.reserve.1.reserved := List.mem_cons_self
  change ((exchange.reserve.1.register exchange.nextId topic).plain, exchange.nextId) = _
  rw [register, if_pos reserved]
  simp [plain, reserve, MemoryBroker.subscribe]

theorem Matched.plain_publish
    {exchange : Exchange}
    (matched : exchange.Matched)
    (topic : String)
    (payload : List UInt8) :
    ((exchange.publish topic payload).1.plain, (exchange.publish topic payload).2) =
      exchange.plain.publish topic payload := by
  obtain ⟨table, _, published⟩ := matched.publish_eq topic payload
  have hooked_same (holding : Holding) :
      (if holding.hears topic then holding.push payload else holding).hooked = holding.hooked := by
    split <;> rfl
  rw [published]
  refine Prod.ext ?_ ?_
  · simp only [plain, MemoryBroker.publish, List.filter_map, Function.comp_def, hooked_same,
      List.map_map]
    congr 1
    apply List.map_congr_left
    intro holding member
    have hooked := (List.mem_filter.mp member).2
    by_cases same : holding.subscription.topic = topic
    · simp [Holding.hears, Holding.push, hooked, same]
    · simp [Holding.hears, same]
  · simp only [live, plain, MemoryBroker.publish, MemoryBroker.subscriberCount, List.length_map,
      List.countP_map, List.countP_filter, Function.comp_def, ← List.countP_eq_length_filter]
    congr 1
    funext holding
    rw [Holding.hears, Bool.and_comm]

theorem Matched.find?_plain
    {exchange : Exchange}
    (matched : exchange.Matched)
    {id : Nat}
    {holding : Holding}
    (found : exchange.find? id = some holding)
    (hooked : holding.hooked = true) :
    exchange.plain.find? id = some holding.subscription := by
  obtain rfl := id_of_find? found
  let kept : Exchange := { exchange with holdings := exchange.holdings.filter Holding.hooked }
  have distinct : (kept.holdings.map Holding.id).Nodup :=
    matched.distinct.sublist (List.filter_sublist.map Holding.id)
  have isKept : holding ∈ kept.holdings :=
    List.mem_filter.mpr ⟨List.mem_of_find?_eq_some found, hooked⟩
  have isFound := find?_of_mem distinct isKept
  rw [find?] at isFound
  rw [MemoryBroker.find?, plain, List.find?_map, Function.comp_def, isFound]
  rfl

theorem plain_alter
    (exchange : Exchange)
    (id : Nat)
    (subscription : Subscription) :
    (exchange.alter id fun holding => { holding with subscription }).plain =
      exchange.plain.update id subscription := by
  have hooked_same (holding : Holding) :
      (if holding.id = id then { holding with id, subscription } else holding).hooked =
        holding.hooked := by
    split <;> rfl
  simp only [plain, alter, MemoryBroker.update, List.filter_map, Function.comp_def, hooked_same,
    List.map_map]
  congr 1
  apply List.map_congr_left
  intro holding _
  split <;> rfl

theorem Matched.plain_receive
    {exchange : Exchange}
    (matched : exchange.Matched)
    {id : Nat}
    {result : Except Error (Option (List UInt8) × Exchange)}
    (received : exchange.receive? id = some result) :
    exchange.plain.tryReceive id = result.map fun (payload, next) => (payload, next.plain) := by
  unfold receive? at received
  cases found : exchange.find? id with
  | none =>
      rw [found] at received
      cases received
  | some holding =>
      cases hooked : holding.hooked with
      | false =>
          rw [found] at received
          simp [hooked] at received
      | true =>
          rw [found] at received
          dsimp only at received
          rw [if_pos hooked, Option.some.injEq] at received
          subst received
          rw [MemoryBroker.tryReceive, matched.find?_plain found hooked]
          dsimp only
          cases taken : holding.subscription.tryReceive with
          | error error => rfl
          | ok pair =>
              obtain ⟨payload, subscription⟩ := pair
              simp only [Except.map, plain_alter]

theorem plain_release
    (exchange : Exchange)
    (id : Nat) :
    (exchange.release id).plain = exchange.plain := by
  simp only [plain, release, List.filter_filter]
  congr 2
  apply List.filter_congr
  intro holding _
  cases holding.hooked <;> simp

theorem Matched.plain_drop
    {exchange : Exchange}
    (matched : exchange.Matched)
    (id : Nat) :
    (exchange.drop id).plain = exchange.plain.unsubscribe id := by
  rcases exchange.close_cases id with ⟨unhooked, unchanged⟩ | ⟨_, table, _, _, _, closed⟩
  · have others : ∀ holding ∈ exchange.holdings.filter Holding.hooked, holding.id ≠ id := by
      rintro holding member rfl
      obtain ⟨held, hooked⟩ := List.mem_filter.mp member
      rw [unhooked holding (find?_of_mem matched.distinct held)] at hooked
      cases hooked
    rw [drop, plain_release, unchanged, plain, MemoryBroker.unsubscribe, List.filter_map,
      Function.comp_def]
    rw [List.filter_eq_self.mpr fun holding member => decide_eq_true (others holding member)]
  · have hooked_eq (holding : Holding) :
        (if holding.id = id then { holding.unhook with id } else holding).hooked =
          (decide (holding.id ≠ id) && holding.hooked) := by
      by_cases same : holding.id = id
      · rw [if_pos same, decide_eq_false (not_not_intro same), Bool.false_and]
        rfl
      · rw [if_neg same, decide_eq_true same, Bool.true_and]
    rw [drop, plain_release, closed]
    simp only [plain, Exchange.alter, MemoryBroker.unsubscribe, List.filter_map, Function.comp_def,
      hooked_eq, List.map_map, List.filter_filter]
    congr 1
    apply List.map_congr_left
    intro holding member
    have other : holding.id ≠ id := by
      simpa using (Bool.and_eq_true_iff.mp (List.mem_filter.mp member).2).1
    rw [if_neg other]

end Exchange
end PreAggregation
