import Mathlib.Data.List.TakeWhile
import PreAggregation.Proofs.Control.Exchanges

/-!
# What the subscribers of a broker get

Between the step that puts its sending end into the table and its close hook a subscription
is open: it gets every payload of its topic, once and in order.  From then on it is over and
gets nothing more.  Neither publications nor what happens to other subscriptions end it.
-/

namespace PreAggregation
namespace Exchange

/-! ## One subscription -/

/-- A subscription is held and not being given up, and has got some payloads. -/
def Open
    (exchange : Exchange)
    (log : List (Event × Answer))
    (id : Nat)
    (topic : String)
    (payloads : List (List UInt8)) : Prop :=
  ∃ queue, exchange.find? id = some ⟨id, ⟨topic, queue, true⟩, true⟩ ∧
    received id log ++ queue = payloads

/-- A subscription is being given up, or it is gone. -/
structure Over
    (exchange : Exchange)
    (id : Nat) : Prop where
  known : id < exchange.nextId
  registered : id ∉ exchange.reserved
  unhooked : ∀ holding, exchange.find? id = some holding → holding.hooked = false

section Steps

variable {exchange : Exchange} {log : List (Event × Answer)} {id : Nat} {topic : String}
  {payloads : List (List UInt8)}

theorem Open.keep
    {next : Exchange}
    (isOpen : exchange.Open log id topic payloads)
    {entry : Event × Answer}
    (same : next.find? id = exchange.find? id)
    (nothing : yielded id entry = none) :
    next.Open (log ++ [entry]) id topic payloads := by
  rw [Open, same, received_concat, nothing, Option.toList_none, List.append_nil]
  exact isOpen

/-- A subscription gets what is published on its topic. -/
theorem Open.step
    (sound : exchange.Sound log)
    (isOpen : exchange.Open log id topic payloads)
    {event : Event}
    (other : event ≠ .close id) :
    (exchange.step event).1.Open (log ++ [(event, (exchange.step event).2)]) id topic
      (payloads ++ published topic [event]) := by
  have ⟨queue, found, complete⟩ := isOpen
  cases event with
  | reserve => exact (List.append_nil payloads).symm ▸ isOpen.keep rfl rfl
  | register registered newTopic =>
      have same : (exchange.register registered newTopic).find? id = exchange.find? id := by
        by_cases reserved : registered ∈ exchange.reserved
        · have absent := (sound.unused registered (.inl reserved)).absent
          apply find?_register
          rintro rfl
          cases absent.symm.trans found
        · rw [register, if_neg reserved]
      exact (List.append_nil payloads).symm ▸ isOpen.keep same rfl
  | publish newTopic payload =>
      have pushed := sound.matched.find?_publish newTopic payload id
      rw [found, Option.map_some] at pushed
      by_cases same : topic = newTopic
      · subst same
        refine ⟨queue ++ [payload], ?_, ?_⟩
        · refine pushed.trans ?_
          simp [Holding.hears, Holding.push, Subscription.push]
        · rw [received_concat, ← complete]
          simp [yielded, published]
      · have unheard : published topic [.publish newTopic payload] = [] := by
          simp [published, Ne.symm same]
        rw [unheard, List.append_nil]
        refine isOpen.keep ((pushed.trans ?_).trans found.symm) rfl
        simp [Holding.hears, same]
  | receive receiver =>
      rw [published, List.filterMap_cons_none rfl, List.filterMap_nil, List.append_nil]
      rcases exchange.step_receive_cases receiver with
        ⟨answer, nothing, quiet, cutOff⟩ | ⟨holding, isFound, _, taken⟩
      · rw [nothing]
        refine isOpen.keep rfl ?_
        rcases quiet with rfl | ⟨error, rfl⟩ <;> rfl
      · rw [taken]
        by_cases same : receiver = id
        · subst same
          cases found.symm.trans isFound
          refine ⟨queue.tail, ?_, ?_⟩
          · rw [find?_alter, found, Option.map_some, if_pos rfl]
          · rw [received_concat, ← complete, List.append_assoc]
            cases queue <;> simp [yielded]
        · refine isOpen.keep ?_ (if_neg same)
          rw [find?_alter, found, Option.map_some, if_neg (Ne.symm same)]
  | close closing =>
      have different : id ≠ closing := fun same => other (same ▸ rfl)
      refine (List.append_nil payloads).symm ▸ isOpen.keep ?_ rfl
      exact (exchange.find?_close closing id).trans (by simp [different])
  | release released =>
      refine (List.append_nil payloads).symm ▸ isOpen.keep ?_ rfl
      by_cases same : id = released
      · subst same
        exact (sound.matched.find?_release_of_hooked found rfl).trans found.symm
      · exact exchange.find?_release_of_ne same

theorem Sound.count_closed_step
    (sound : exchange.Sound log)
    {event : Event}
    (other : event ≠ .close id) :
    (exchange.step event).1.closed.count id = exchange.closed.count id := by
  cases event with
  | reserve => rfl
  | register registered topic =>
      change (exchange.register registered topic).closed.count id = _
      unfold Exchange.register
      split <;> rfl
  | publish topic payload =>
      obtain ⟨_, _, closed_eq⟩ := sound.matched.publish_frame topic payload
      exact congrArg (List.count id) closed_eq
  | receive receiver =>
      rcases exchange.step_receive_cases receiver with ⟨_, nothing, _⟩ | ⟨_, _, _, taken⟩
      · rw [nothing]
      · rw [taken]
        rfl
  | close closing =>
      have different : closing ≠ id := fun same => other (same ▸ rfl)
      change (exchange.close closing).closed.count id = _
      rcases exchange.close_cases closing with ⟨_, unchanged⟩ | ⟨_, _, _, _, _, closed⟩
      · rw [unchanged]
      · rw [closed]
        simp [different]
  | release released => rfl

theorem Over.of_map
    {next : Exchange}
    (isOver : exchange.Over id)
    (nextId_eq : next.nextId = exchange.nextId)
    (reserved_eq : next.reserved = exchange.reserved)
    {change : Holding → Holding}
    (changed : next.find? id = (exchange.find? id).map change)
    (keeps : ∀ holding, holding.hooked = false → (change holding).hooked = false) :
    next.Over id where
  known := nextId_eq ▸ isOver.known
  registered := reserved_eq ▸ isOver.registered
  unhooked holding found := by
    obtain ⟨earlier, wasFound, rfl⟩ := Option.map_eq_some_iff.mp (changed.symm.trans found)
    exact keeps earlier (isOver.unhooked earlier wasFound)

theorem Over.register
    (isOver : exchange.Over id)
    (registered : Nat)
    (topic : String) :
    (exchange.register registered topic).Over id := by
  by_cases reserved : registered ∈ exchange.reserved
  · have different : id ≠ registered := fun same => isOver.registered (same ▸ reserved)
    have same : (exchange.register registered topic).find? id = exchange.find? id :=
      find?_register different topic
    refine ⟨?_, ?_, fun holding found => isOver.unhooked holding (same ▸ found)⟩
    · rw [Exchange.register, if_pos reserved]
      exact isOver.known
    · rw [Exchange.register, if_pos reserved]
      exact fun member => isOver.registered (List.mem_of_mem_filter member)
  · have ignored : exchange.register registered topic = exchange := if_neg reserved
    rwa [ignored]

theorem Over.step
    (sound : exchange.Sound log)
    (isOver : exchange.Over id)
    (event : Event) :
    (exchange.step event).1.Over id := by
  cases event with
  | reserve =>
      refine ⟨Nat.lt_succ_of_lt isOver.known, fun member => ?_, isOver.unhooked⟩
      rcases List.mem_cons.mp member with rfl | earlier
      · exact Nat.lt_irrefl _ isOver.known
      · exact isOver.registered earlier
  | register registered topic => exact isOver.register registered topic
  | publish topic payload =>
      obtain ⟨nextId_eq, reserved_eq, _⟩ := sound.matched.publish_frame topic payload
      refine isOver.of_map nextId_eq reserved_eq
        (sound.matched.find?_publish topic payload id) fun holding unhooked => ?_
      split <;> exact unhooked
  | receive receiver =>
      rcases exchange.step_receive_cases receiver with ⟨_, nothing, _⟩ | ⟨_, _, _, taken⟩
      · rw [nothing]
        exact isOver
      · rw [taken]
        refine isOver.of_map rfl rfl (exchange.find?_alter receiver _ id) fun holding unhooked => ?_
        split <;> exact unhooked
  | close closing =>
      have frame : (exchange.close closing).nextId = exchange.nextId ∧
          (exchange.close closing).reserved = exchange.reserved := by
        rcases exchange.close_cases closing with ⟨_, unchanged⟩ | ⟨_, _, _, _, _, closed⟩
        · rw [unchanged]
          exact ⟨rfl, rfl⟩
        · rw [closed]
          exact ⟨rfl, rfl⟩
      refine isOver.of_map frame.1 frame.2 (exchange.find?_close closing id)
        fun holding unhooked => ?_
      split
      · rfl
      · exact unhooked
  | release released =>
      refine ⟨isOver.known, isOver.registered, fun holding found => ?_⟩
      obtain rfl := id_of_find? found
      exact isOver.unhooked holding (find?_of_mem sound.matched.distinct
        (List.mem_of_mem_filter (List.mem_of_find?_eq_some found)))

theorem Over.count_closed_step
    (sound : exchange.Sound log)
    (isOver : exchange.Over id)
    (event : Event) :
    (exchange.step event).1.closed.count id = exchange.closed.count id := by
  by_cases again : event = .close id
  · subst again
    change (exchange.close id).closed.count id = _
    rcases exchange.close_cases id with ⟨_, unchanged⟩ | ⟨holding, _, found, hooked, _⟩
    · rw [unchanged]
    · rw [isOver.unhooked holding found] at hooked
      cases hooked
  · exact sound.count_closed_step again

theorem Over.yielded_step
    (isOver : exchange.Over id)
    (event : Event) :
    yielded id (event, (exchange.step event).2) = none := by
  cases event with
  | receive receiver =>
      rcases exchange.step_receive_cases receiver with
        ⟨answer, nothing, quiet, _⟩ | ⟨holding, found, hooked, taken⟩
      · rw [nothing]
        rcases quiet with rfl | ⟨error, rfl⟩ <;> rfl
      · rw [taken]
        refine if_neg ?_
        rintro rfl
        rw [isOver.unhooked holding found] at hooked
        cases hooked
  | reserve => rfl
  | register _ _ => rfl
  | publish _ _ => rfl
  | close _ => rfl
  | release _ => rfl

theorem Open.run
    (sound : exchange.Sound log)
    (isOpen : exchange.Open log id topic payloads)
    {events : List Event}
    (others : .close id ∉ events) :
    (exchange.run events).1.Open (log ++ (exchange.run events).2) id topic
        (payloads ++ published topic events) ∧
      (exchange.run events).1.closed.count id = exchange.closed.count id := by
  induction events generalizing exchange log payloads with
  | nil =>
      refine ⟨?_, rfl⟩
      rw [published, List.filterMap_nil, List.append_nil]
      exact (List.append_nil log).symm ▸ isOpen
  | cons event rest inductionHypothesis =>
      rw [List.mem_cons, not_or] at others
      have other : event ≠ .close id := Ne.symm others.1
      obtain ⟨later, count_eq⟩ :=
        inductionHypothesis (sound.step event) (isOpen.step sound other) others.2
      refine ⟨?_, count_eq.trans (sound.count_closed_step other)⟩
      have split :
          published topic (event :: rest) = published topic [event] ++ published topic rest :=
        List.filterMap_append (l := [event])
      rw [List.append_assoc, List.append_assoc, ← split] at later
      exact later

theorem Over.run
    (sound : exchange.Sound log)
    (isOver : exchange.Over id)
    (events : List Event) :
    (exchange.run events).1.Over id ∧
      (exchange.run events).1.closed.count id = exchange.closed.count id ∧
      received id (exchange.run events).2 = [] := by
  induction events generalizing exchange log with
  | nil => exact ⟨isOver, rfl, rfl⟩
  | cons event rest inductionHypothesis =>
      obtain ⟨stillOver, count_eq, nothing⟩ :=
        inductionHypothesis (sound.step event) (isOver.step sound event)
      refine ⟨stillOver, count_eq.trans (isOver.count_closed_step sound event), ?_⟩
      exact (List.filterMap_cons_none (isOver.yielded_step event)).trans nothing

theorem open_register
    (sound : exchange.Sound log)
    (reserved : id ∈ exchange.reserved)
    (topic : String) :
    (exchange.register id topic).Open (log ++ [(.register id topic, .none)]) id topic [] ∧
      (exchange.register id topic).closed.count id = 0 := by
  obtain ⟨absent, unclosed, unheard⟩ := sound.unused id (.inl reserved)
  rw [register, if_pos reserved]
  refine ⟨⟨[], ?_, ?_⟩, List.count_eq_zero.mpr unclosed⟩
  · rw [find?] at absent
    rw [find?, List.find?_append, absent, Option.none_or, List.find?_cons_of_pos (by simp)]
    rfl
  · rw [received_concat, unheard]
    rfl

/-- A subscription that is held gives its oldest payload. -/
theorem answer_receive
    {queue : List (List UInt8)}
    (found : exchange.find? id = some ⟨id, ⟨topic, queue, true⟩, true⟩) :
    (exchange.step (.receive id)).2 = .received queue.head? := by
  rcases exchange.step_receive_cases id with ⟨_, _, _, cutOff⟩ | ⟨holding, isFound, _, taken⟩
  · cases cutOff _ found rfl
  · cases found.symm.trans isFound
    rw [taken]

/-- The close hook of a subscription runs once. -/
theorem Open.close
    (sound : exchange.Sound log)
    (isOpen : exchange.Open log id topic payloads) :
    (exchange.close id).Over id ∧
      (exchange.close id).closed.count id = exchange.closed.count id + 1 := by
  obtain ⟨queue, found, _⟩ := isOpen
  have isClosed := exchange.find?_close id id
  rw [found, Option.map_some, if_pos ⟨rfl, rfl⟩] at isClosed
  rcases exchange.close_cases id with ⟨unhooked, _⟩ | ⟨_, _, _, _, _, closed⟩
  · cases unhooked _ found
  · have used : ¬(id ∈ exchange.reserved ∨ exchange.nextId ≤ id) := by
      intro free
      cases (sound.unused id free).absent.symm.trans found
    rw [not_or, Nat.not_le] at used
    rw [closed] at isClosed ⊢
    refine ⟨⟨used.2, used.1, ?_⟩, ?_⟩
    · intro holding isFound
      cases isClosed.symm.trans isFound
      rfl
    · rw [List.count_append, List.count_singleton_self]

theorem Open.mem_senders_iff
    (sound : exchange.Sound log)
    (isOpen : exchange.Open log id topic payloads)
    (other : String) :
    id ∈ exchange.senders other ↔ other = topic := by
  obtain ⟨queue, found, _⟩ := isOpen
  rw [sound.matched.senders_eq, mem_live_iff sound.matched.distinct, found]
  simp only [Option.some.injEq, exists_eq_left', Holding.hears, Bool.true_and, decide_eq_true_eq]
  exact eq_comm

theorem Over.notMem_senders
    (sound : exchange.Sound log)
    (isOver : exchange.Over id)
    (other : String) :
    id ∉ exchange.senders other := by
  rw [sound.matched.senders_eq, mem_live_iff sound.matched.distinct]
  rintro ⟨holding, found, hears⟩
  rw [Holding.hears, isOver.unhooked holding found] at hears
  cases hears

end Steps

/-! ## Histories with a subscription -/

/-- Before its close hook runs, a subscription is open. -/
theorem open_of_register
    {earlier : List Event}
    {id : Nat}
    (reserved : id ∈ (empty.run earlier).1.reserved)
    (topic : String)
    {events : List Event}
    (others : .close id ∉ events) :
    (empty.run (earlier ++ .register id topic :: events)).1.Open
        (empty.run (earlier ++ .register id topic :: events)).2 id topic (published topic events) ∧
      (empty.run (earlier ++ .register id topic :: events)).1.closed.count id = 0 := by
  have sound := sound_run earlier
  obtain ⟨isOpen, none⟩ := open_register sound reserved topic
  obtain ⟨later, count_eq⟩ := isOpen.run (sound.step (.register id topic)) others
  rw [run_append]
  rw [List.append_assoc] at later
  exact ⟨later, count_eq.trans none⟩

/-- From then on nothing more is received, and the hook does not run again. -/
theorem over_of_close
    {earlier : List Event}
    {id : Nat}
    (reserved : id ∈ (empty.run earlier).1.reserved)
    (topic : String)
    {before : List Event}
    (others : .close id ∉ before)
    (after : List Event) :
    let closing := earlier ++ .register id topic :: before
    (empty.run (closing ++ .close id :: after)).1.Over id ∧
      (empty.run (closing ++ .close id :: after)).1.closed.count id = 1 ∧
      received id (empty.run (closing ++ .close id :: after)).2 =
        received id (empty.run closing).2 := by
  intro closing
  have sound := sound_run closing
  obtain ⟨isOpen, none⟩ := open_of_register reserved topic others
  obtain ⟨isOver, once⟩ := isOpen.close sound
  obtain ⟨stillOver, count_eq, nothing⟩ := isOver.run (sound.step (.close id)) after
  rw [run_append]
  refine ⟨stillOver, count_eq.trans (once.trans (congrArg (· + 1) none)), ?_⟩
  refine (List.filterMap_append ..).trans ?_
  exact (congrArg (received id (empty.run closing).2 ++ ·) nothing).trans (List.append_nil _)

/-- Every subscription gets, once and in order, what is published on its topic between the
step that puts it into the table and its close hook.  The hook runs once, and until then the
subscription is in the table, whatever is published or done to others.  A publication
reaches, and the count of subscribers tells, the subscriptions of the topic that are held
and not being given up.  No number is given twice. -/
theorem delivers_exactly_once (events : List Event) :
    (∀ earlier id topic later, events = earlier ++ .register id topic :: later →
      id ∈ (empty.run earlier).1.reserved →
      let before := later.takeWhile (· ≠ .close id)
      (∃ queue, (empty.run (earlier ++ .register id topic :: before)).1.find? id =
            some ⟨id, ⟨topic, queue, true⟩, true⟩ ∧
          received id (empty.run events).2 ++ queue = published topic before ∧
          ((empty.run (earlier ++ .register id topic :: before)).1.step (.receive id)).2 =
            .received queue.head?) ∧
        (empty.run events).1.closed.count id = (if .close id ∈ later then 1 else 0) ∧
        ∀ other, id ∈ (empty.run events).1.senders other ↔ other = topic ∧ .close id ∉ later) ∧
      (∀ topic payload,
        ((empty.run events).1.step (.publish topic payload)).2 =
            .delivered ((empty.run events).1.live topic).length ∧
          (empty.run events).1.subscriberCount topic = ((empty.run events).1.live topic).length) ∧
      (numbers (empty.run events).2).Nodup := by
  have sound := sound_run events
  refine ⟨?_, ?_, ?_⟩
  · rintro earlier id topic later rfl reserved before
    -- Up to its close hook the subscription is open, and behind it it is over.
    by_cases closes : .close id ∈ later
    · obtain ⟨untilThen, after, rfl, others⟩ := List.eq_append_cons_of_mem closes
      have before_eq : before = untilThen := by
        have going : ∀ event ∈ untilThen, decide (event ≠ .close id) = true :=
          fun event member => decide_eq_true fun same => others (same ▸ member)
        exact (List.takeWhile_append_of_pos going).trans (by simp)
      obtain ⟨isOver, once, received_eq⟩ := over_of_close reserved topic others after
      obtain ⟨⟨queue, found, complete⟩, _⟩ := open_of_register reserved topic others
      rw [List.append_assoc, List.cons_append] at isOver once received_eq
      rw [before_eq, if_pos closes, received_eq]
      refine ⟨⟨queue, found, complete, answer_receive found⟩, once, fun other => ?_⟩
      exact iff_of_false (isOver.notMem_senders sound other) fun both => both.2 closes
    · have before_eq : before = later :=
        List.takeWhile_eq_self_iff.mpr fun event member =>
          decide_eq_true fun same => closes (same ▸ member)
      obtain ⟨isOpen, none⟩ := open_of_register reserved topic closes
      rw [before_eq, if_neg closes]
      have ⟨queue, found, complete⟩ := isOpen
      refine ⟨⟨queue, found, complete, answer_receive found⟩, none, fun other => ?_⟩
      rw [isOpen.mem_senders_iff sound, and_iff_left closes]
  · intro topic payload
    obtain ⟨table, _, published⟩ := sound.matched.publish_eq topic payload
    refine ⟨?_, congrArg List.length (sound.matched.senders_eq topic)⟩
    dsimp only [step]
    rw [published]
  · rw [sound.numbers_eq]
    exact List.nodup_range

/-- Two subscriptions to one topic get their numbers and their places in the table in
different orders, and one is given up while payloads are published. -/
theorem delivers_exactly_once_two_subscribers :
    let earlier : List Event := [.reserve, .reserve, .register 1 "t"]
    let later : List Event := [.publish "t" [1], .close 1, .publish "t" [2], .receive 0,
      .release 1, .publish "u" [3], .publish "t" [4]]
    let events := earlier ++ .register 0 "t" :: later
    received 0 (empty.run events).2 = [[1]] ∧
      (empty.run events).1.find? 0 = some ⟨0, ⟨"t", [[2], [4]], true⟩, true⟩ ∧
      (empty.run events).1.closed = [1] ∧
      [[1]] ++ [[2], [4]] = published "t" later ∧
      0 ∈ (empty.run events).1.senders "t" := by
  intro earlier later events
  have received_eq : received 0 (empty.run events).2 = [[1]] := by decide +kernel
  have found : (empty.run events).1.find? 0 = some ⟨0, ⟨"t", [[2], [4]], true⟩, true⟩ := by
    decide +kernel
  have reserved : 0 ∈ (empty.run earlier).1.reserved := by decide +kernel
  have notClosed : .close 0 ∉ later := by decide
  obtain ⟨each, _, _⟩ := delivers_exactly_once events
  obtain ⟨⟨queue, isFound, complete, _⟩, _, registered⟩ := each earlier 0 "t" later rfl reserved
  have before_eq : later.takeWhile (· ≠ .close 0) = later := by decide
  rw [before_eq] at isFound complete
  cases found.symm.trans isFound
  rw [received_eq] at complete
  exact ⟨received_eq, found, by decide +kernel, complete, (registered "t").mpr ⟨rfl, notClosed⟩⟩

end Exchange
end PreAggregation
