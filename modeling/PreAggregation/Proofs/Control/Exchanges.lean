import Mathlib.Data.List.Induction
import Mathlib.Data.List.Range
import PreAggregation.Proofs.Control.Holdings
import PreAggregation.Proofs.Histories

/-!
# Histories of an exchange

Behind every history of an exchange the table has the numbers of the subscriptions that are
held and not being given up.  The numbers are given one after another, and one that has no
subscription yet was never used for another.
-/

namespace PreAggregation
namespace Exchange

/-! ## What is read off a history -/

/-- The payloads that are published on a topic. -/
def published
    (topic : String)
    (events : List Event) : List (List UInt8) :=
  events.filterMap fun
    | .publish other payload => if other = topic then some payload else none
    | .reserve | .register _ _ | .receive _ | .close _ | .release _ => none

/-- The payload that a subscription receives at an event. -/
def yielded
    (id : Nat) : Event × Answer → Option (List UInt8)
  | (.receive other, .received payload) => if other = id then payload else none
  | _ => none

/-- The payloads that a subscription has received. -/
def received
    (id : Nat)
    (log : List (Event × Answer)) : List (List UInt8) :=
  log.filterMap (yielded id)

/-- The numbers that were given to subscriptions. -/
def numbers (log : List (Event × Answer)) : List Nat :=
  log.filterMap fun
    | (_, .number id) => some id
    | (_, .none) | (_, .delivered _) | (_, .received _) | (_, .failed _) => none

theorem run_append
    (exchange : Exchange)
    (earlier later : List Event) :
    exchange.run (earlier ++ later) =
      (((exchange.run earlier).1.run later).1,
        (exchange.run earlier).2 ++ ((exchange.run earlier).1.run later).2) := by
  induction earlier generalizing exchange with
  | nil => rfl
  | cons event rest inductionHypothesis =>
      rw [List.cons_append, run]
      dsimp only
      rw [inductionHypothesis]
      rfl

theorem run_concat
    (exchange : Exchange)
    (events : List Event)
    (event : Event) :
    exchange.run (events ++ [event]) =
      (((exchange.run events).1.step event).1,
        (exchange.run events).2 ++ [(event, ((exchange.run events).1.step event).2)]) :=
  run_append exchange events [event]

theorem received_concat
    (id : Nat)
    (log : List (Event × Answer))
    (entry : Event × Answer) :
    received id (log ++ [entry]) = received id log ++ (yielded id entry).toList :=
  filterMap_concat (yielded id) log entry

/-! ## What an event makes of a subscription -/

theorem find?_register
    {exchange : Exchange}
    {registered id : Nat}
    (other : id ≠ registered)
    (topic : String) :
    (exchange.register registered topic).find? id = exchange.find? id := by
  unfold register
  split
  · rw [find?, List.find?_append, List.find?_cons_of_neg (by simpa using other.symm),
      List.find?_nil, Option.or_none, find?]
  · rfl

theorem Matched.find?_publish
    {exchange : Exchange}
    (matched : exchange.Matched)
    (topic : String)
    (payload : List UInt8)
    (id : Nat) :
    (exchange.publish topic payload).1.find? id =
      (exchange.find? id).map fun holding =>
        if holding.hears topic then holding.push payload else holding := by
  obtain ⟨table, _, published⟩ := matched.publish_eq topic payload
  rw [published]
  refine find?_map exchange (fun holding => ?_) id
  split <;> rfl

theorem Matched.publish_frame
    {exchange : Exchange}
    (matched : exchange.Matched)
    (topic : String)
    (payload : List UInt8) :
    (exchange.publish topic payload).1.nextId = exchange.nextId ∧
      (exchange.publish topic payload).1.reserved = exchange.reserved ∧
      (exchange.publish topic payload).1.closed = exchange.closed := by
  obtain ⟨table, _, published⟩ := matched.publish_eq topic payload
  rw [published]
  exact ⟨rfl, rfl, rfl⟩

/-- A subscription without a sending end receives nothing, or the oldest payload is
received. -/
theorem step_receive_cases
    (exchange : Exchange)
    (id : Nat) :
    (∃ answer, exchange.step (.receive id) = (exchange, answer) ∧
        (answer = .none ∨ ∃ error, answer = .failed error) ∧
        ∀ holding, exchange.find? id = some holding → holding.hooked = true →
          holding.subscription.live = false) ∨
      ∃ holding, exchange.find? id = some holding ∧ holding.hooked = true ∧
        exchange.step (.receive id) =
          (exchange.alter id fun other =>
              { other with
                subscription :=
                  { holding.subscription with queue := holding.subscription.queue.tail } },
            .received holding.subscription.queue.head?) := by
  dsimp only [step, receive?]
  cases found : exchange.find? id with
  | none => exact .inl ⟨_, rfl, .inl rfl, fun _ absent => absurd absent (by simp)⟩
  | some holding =>
      obtain ⟨number, ⟨topic, queue, live⟩, hooked⟩ := holding
      cases hooked with
      | false => exact .inl ⟨_, rfl, .inl rfl, by rintro _ ⟨⟩ ⟨⟩⟩
      | true =>
          cases queue with
          | cons payload rest => exact .inr ⟨_, rfl, rfl, rfl⟩
          | nil =>
              cases live with
              | true => exact .inr ⟨_, rfl, rfl, rfl⟩
              | false => exact .inl ⟨_, rfl, .inr ⟨_, rfl⟩, by rintro _ ⟨⟩ _; rfl⟩

theorem find?_close
    (exchange : Exchange)
    (closing id : Nat) :
    (exchange.close closing).find? id =
      (exchange.find? id).map fun holding =>
        if id = closing ∧ holding.hooked = true then holding.unhook else holding := by
  rcases exchange.close_cases closing with
    ⟨unhooked, unchanged⟩ | ⟨closed, table, found, isHooked, _, isClosed⟩
  · rw [unchanged]
    cases found : exchange.find? id with
    | none => rfl
    | some holding =>
        have kept : ¬(id = closing ∧ holding.hooked = true) := by
          rintro ⟨rfl, hooked⟩
          rw [unhooked holding found] at hooked
          cases hooked
        rw [Option.map_some, if_neg kept]
  · rw [isClosed]
    refine (exchange.find?_alter closing Holding.unhook id).trans ?_
    by_cases same : id = closing
    · subst same
      obtain rfl := id_of_find? found
      rw [found, Option.map_some, Option.map_some, if_pos rfl, if_pos ⟨rfl, isHooked⟩]
      rfl
    · simp only [same, if_false, false_and]

theorem find?_release_of_ne
    (exchange : Exchange)
    {released id : Nat}
    (other : id ≠ released) :
    (exchange.release released).find? id = exchange.find? id := by
  rw [find?, release, List.find?_filter, find?]
  congr 1
  funext holding
  by_cases found : holding.id = id
  · simp [found, other]
  · simp [found]

theorem Matched.find?_release_of_hooked
    {exchange : Exchange}
    (matched : exchange.Matched)
    {id : Nat}
    {holding : Holding}
    (found : exchange.find? id = some holding)
    (hooked : holding.hooked = true) :
    (exchange.release id).find? id = some holding := by
  have kept : holding ∈ (exchange.release id).holdings :=
    List.mem_filter.mpr ⟨List.mem_of_find?_eq_some found, by simp [hooked]⟩
  have isFound := find?_of_mem (matched.release id).distinct kept
  rwa [id_of_find? found] at isFound

theorem find?_release_of_none
    {exchange : Exchange}
    {id : Nat}
    (absent : exchange.find? id = none)
    (released : Nat) :
    (exchange.release released).find? id = none := by
  rw [find?_eq_none_iff] at absent ⊢
  exact fun member => absent ((List.filter_sublist.map Holding.id).subset member)

/-! ## All numbers -/

/-- Nothing was done with a number. -/
structure Unused
    (exchange : Exchange)
    (log : List (Event × Answer))
    (id : Nat) : Prop where
  absent : exchange.find? id = none
  unclosed : id ∉ exchange.closed
  unheard : received id log = []

theorem Unused.keep
    {exchange next : Exchange}
    {log : List (Event × Answer)}
    {id : Nat}
    (unused : exchange.Unused log id)
    {entry : Event × Answer}
    (absent : next.find? id = none)
    (unclosed : id ∉ next.closed)
    (nothing : yielded id entry = none) :
    next.Unused (log ++ [entry]) id where
  absent := absent
  unclosed := unclosed
  unheard := by
    rw [received_concat, unused.unheard, nothing]
    rfl

/-- What holds of an exchange behind every history. -/
structure Sound
    (exchange : Exchange)
    (log : List (Event × Answer)) : Prop where
  matched : exchange.Matched
  numbers_eq : numbers log = List.range exchange.nextId
  reserved_lt : ∀ id ∈ exchange.reserved, id < exchange.nextId
  unused : ∀ id, id ∈ exchange.reserved ∨ exchange.nextId ≤ id → exchange.Unused log id

theorem sound_empty : Sound empty [] where
  matched := ⟨List.nodup_nil, fun _ => rfl⟩
  numbers_eq := rfl
  reserved_lt _ member := absurd member List.not_mem_nil
  unused _ _ := ⟨rfl, List.not_mem_nil, rfl⟩

section Steps

variable {exchange : Exchange} {log : List (Event × Answer)}

theorem Sound.reserve (sound : exchange.Sound log) :
    Sound exchange.reserve.1 (log ++ [(.reserve, .number exchange.nextId)]) where
  matched := ⟨sound.matched.distinct, sound.matched.senders_eq⟩
  numbers_eq := by
    rw [numbers, List.filterMap_append, ← numbers, sound.numbers_eq]
    exact List.range_succ.symm
  reserved_lt id member := by
    rcases List.mem_cons.mp member with rfl | earlier
    · exact Nat.lt_succ_self _
    · exact Nat.lt_succ_of_lt (sound.reserved_lt id earlier)
  unused id free := by
    have wasFree : id ∈ exchange.reserved ∨ exchange.nextId ≤ id := by
      rcases free with member | new
      · rcases List.mem_cons.mp member with rfl | earlier
        · exact .inr (Nat.le_refl _)
        · exact .inl earlier
      · exact .inr (Nat.le_of_succ_le new)
    have unused := sound.unused id wasFree
    exact unused.keep unused.absent unused.unclosed rfl

/-- An event that gives no number and no subscription keeps what holds. -/
theorem Sound.keep
    (sound : exchange.Sound log)
    {next : Exchange}
    {entry : Event × Answer}
    (matched : next.Matched)
    (nextId_eq : next.nextId = exchange.nextId)
    (reserved_eq : next.reserved = exchange.reserved)
    (unnumbered : numbers [entry] = [])
    (stillUnused : ∀ id, exchange.find? id = none → next.find? id = none ∧
      (id ∉ exchange.closed → id ∉ next.closed) ∧ yielded id entry = none) :
    next.Sound (log ++ [entry]) where
  matched := matched
  numbers_eq := by
    rw [numbers, List.filterMap_append, ← numbers, ← numbers, unnumbered, List.append_nil,
      sound.numbers_eq, nextId_eq]
  reserved_lt := by
    rw [reserved_eq, nextId_eq]
    exact sound.reserved_lt
  unused id free := by
    rw [reserved_eq, nextId_eq] at free
    have unused := sound.unused id free
    obtain ⟨stillAbsent, stillUnclosed, nothing⟩ := stillUnused id unused.absent
    exact unused.keep stillAbsent (stillUnclosed unused.unclosed) nothing

theorem Sound.ignore
    (sound : exchange.Sound log)
    {entry : Event × Answer}
    (unnumbered : numbers [entry] = [])
    (nothing : ∀ id, yielded id entry = none) :
    exchange.Sound (log ++ [entry]) :=
  sound.keep sound.matched rfl rfl unnumbered fun id absent =>
    ⟨absent, fun unclosed => unclosed, nothing id⟩

theorem Sound.register
    (sound : exchange.Sound log)
    (id : Nat)
    (topic : String) :
    Sound (exchange.register id topic) (log ++ [(.register id topic, .none)]) := by
  by_cases reserved : id ∈ exchange.reserved
  · have known := sound.reserved_lt id reserved
    have registered : exchange.register id topic = _ := if_pos reserved
    refine ⟨sound.matched.register (sound.unused id (.inl reserved)).absent topic, ?_, ?_, ?_⟩
    · rw [numbers, List.filterMap_append, ← numbers, sound.numbers_eq, registered]
      exact List.append_nil _
    · rw [registered]
      exact fun other member => sound.reserved_lt other (List.mem_of_mem_filter member)
    · intro other free
      rw [registered] at free
      -- The number that is used is free no more, so this is another one.
      have different : other ≠ id := by
        rintro rfl
        rcases free with member | new
        · simp at member
        · exact absurd known (Nat.not_lt.mpr new)
      have unused := sound.unused other (free.imp_left List.mem_of_mem_filter)
      refine unused.keep ((find?_register different topic).trans unused.absent) ?_ rfl
      rw [registered]
      exact unused.unclosed
  · have ignored : exchange.register id topic = exchange := if_neg reserved
    rw [ignored]
    exact sound.ignore rfl fun _ => rfl

theorem Sound.receive
    (sound : exchange.Sound log)
    (id : Nat) :
    Sound (exchange.step (.receive id)).1
      (log ++ [(.receive id, (exchange.step (.receive id)).2)]) := by
  rcases exchange.step_receive_cases id with
    ⟨answer, nothing, quiet, _⟩ | ⟨holding, found, hooked, taken⟩
  · rw [nothing]
    rcases quiet with rfl | ⟨error, rfl⟩
    · exact sound.ignore rfl fun _ => rfl
    · exact sound.ignore rfl fun _ => rfl
  · rw [taken]
    refine sound.keep (sound.matched.alter found fun _ => rfl) rfl rfl rfl
      fun other absent => ⟨?_, fun unclosed => unclosed, ?_⟩
    · rw [find?_alter, absent]
      rfl
    · have different : id ≠ other := by
        rintro rfl
        cases absent.symm.trans found
      exact if_neg different

theorem Sound.close
    (sound : exchange.Sound log)
    (id : Nat) :
    Sound (exchange.close id) (log ++ [(.close id, .none)]) := by
  have matched := sound.matched.close id
  rcases exchange.close_cases id with ⟨_, unchanged⟩ | ⟨holding, table, found, _, _, closed⟩
  · rw [unchanged]
    exact sound.ignore rfl fun _ => rfl
  · rw [closed] at matched ⊢
    refine sound.keep matched rfl rfl rfl fun other absent => ⟨?_, fun unclosed => ?_, rfl⟩
    · exact (find?_alter _ _ _ _).trans (by rw [absent]; rfl)
    · have different : other ≠ id := by
        rintro rfl
        cases absent.symm.trans found
      simpa [different] using unclosed

theorem Sound.step
    (sound : exchange.Sound log)
    (event : Event) :
    Sound (exchange.step event).1 (log ++ [(event, (exchange.step event).2)]) := by
  cases event with
  | reserve => exact sound.reserve
  | register id topic => exact sound.register id topic
  | publish topic payload =>
      obtain ⟨nextId_eq, reserved_eq, closed_eq⟩ := sound.matched.publish_frame topic payload
      refine sound.keep (sound.matched.publish topic payload) nextId_eq reserved_eq rfl
        fun id absent => ⟨?_, fun unclosed => closed_eq.symm ▸ unclosed, rfl⟩
      exact (sound.matched.find?_publish topic payload id).trans (by rw [absent]; rfl)
  | receive id => exact sound.receive id
  | close id => exact sound.close id
  | release id =>
      exact sound.keep (sound.matched.release id) rfl rfl rfl
        fun other absent => ⟨find?_release_of_none absent id, fun unclosed => unclosed, rfl⟩

end Steps

theorem sound_run (events : List Event) : Sound (empty.run events).1 (empty.run events).2 := by
  induction events using List.reverseRecOn with
  | nil => exact sound_empty
  | append_singleton events event inductionHypothesis =>
      rw [run_concat]
      exact inductionHypothesis.step event

end Exchange
end PreAggregation
