import PreAggregation.Proofs.Deployment.Hearing
import PreAggregation.Proofs.Stage.Calls

/-!
# The scope of adjustments

The threshold of an open stage depends on the threshold that it was opened with and on
the payloads of its own topic that it has handled since.  What is published elsewhere or
at another time, and what other stages do, leaves no trace in it.
-/

namespace PreAggregation

/-- What is glued with a mark is told apart again at its last occurrence. -/
theorem eq_of_append_cons_eq
    {α : Type}
    {mark : α}
    {front otherFront tail otherTail : List α}
    (unmarked : mark ∉ tail)
    (otherUnmarked : mark ∉ otherTail)
    (same : front ++ mark :: tail = otherFront ++ mark :: otherTail) :
    front = otherFront ∧ tail = otherTail := by
  rcases List.append_eq_append_iff.mp same with ⟨rest, rfl, glued⟩ | ⟨rest, rfl, glued⟩
  · cases rest with
    | nil => exact ⟨(List.append_nil _).symm, (List.cons.inj glued).2⟩
    | cons head rest =>
        have isTail : tail = rest ++ mark :: otherTail := (List.cons.inj glued).2
        exact absurd (isTail ▸ List.mem_append_cons_self) unmarked
  · cases rest with
    | nil => exact ⟨List.append_nil _, (List.cons.inj glued).2.symm⟩
    | cons head rest =>
        have isTail : otherTail = rest ++ mark :: tail := (List.cons.inj glued).2
        exact absurd (isTail ▸ List.mem_append_cons_self) otherUnmarked

/-- The topic of an instance tells its base and its index: the last hyphen stands between
them. -/
theorem Strategy.eq_of_topic?_perInstance
    {base otherBase topic : String}
    {first second : Nat}
    (firstTopic : Strategy.perInstance.topic? base first = some topic)
    (secondTopic : Strategy.perInstance.topic? otherBase second = some topic) :
    base = otherBase ∧ first = second := by
  have noHyphen (index : Nat) : '-' ∉ index.repr.toList := by
    rw [Nat.toList_repr]
    intro member
    exact absurd (Nat.isDigit_of_mem_toDigits (by decide) (by decide) member) (by decide)
  have same : base ++ "-" ++ first.repr = otherBase ++ "-" ++ second.repr :=
    Option.some.inj (firstTopic.trans secondTopic.symm)
  have spelled : base.toList ++ '-' :: first.repr.toList =
      otherBase.toList ++ '-' :: second.repr.toList := by
    simpa using congrArg String.toList same
  obtain ⟨sameBase, sameDigits⟩ :=
    eq_of_append_cons_eq (noHyphen first) (noHyphen second) spelled
  rw [Nat.toList_repr, Nat.toList_repr] at sameDigits
  refine ⟨String.toList_injective sameBase, ?_⟩
  rw [← Nat.ofDigitChars_ten_toDigits (n := first), sameDigits, Nat.ofDigitChars_ten_toDigits]

theorem Strategy.index_eq_of_topic?_perInstance
    {base topic : String}
    {first second : Nat}
    (firstTopic : Strategy.perInstance.topic? base first = some topic)
    (secondTopic : Strategy.perInstance.topic? base second = some topic) :
    first = second :=
  (eq_of_topic?_perInstance firstTopic secondTopic).2

namespace Deployment

variable {κ ν : Type}

/-- All stages were built and none was opened. -/
def IsNew (deployment : Deployment κ ν) : Prop :=
  ∃ stages, deployment = ofStages stages ∧ ∀ stage ∈ stages,
    ∃ config trigger link now, Stage.ofTrigger config trigger link now = .ok stage

section New

variable {deployment : Deployment κ ν} {index : Nat} {stage : Stage κ ν}

theorem IsNew.closed
    (isNew : deployment.IsNew)
    (present : deployment.stages[index]? = some stage) :
    stage.controller = none ∧ stage.listening = none := by
  obtain ⟨stages, rfl, built⟩ := isNew
  obtain ⟨config, trigger, link, now, accepted⟩ := built stage (List.mem_of_getElem? present)
  rw [(Stage.ofTrigger_eq_ok_iff.mp accepted).2]
  exact ⟨rfl, rfl⟩

theorem IsNew.wired
    (isNew : deployment.IsNew) :
    deployment.Wired where
  isFresh := by
    obtain ⟨stages, rfl, _⟩ := isNew
    exact MemoryBroker.isFresh_empty
  lt_nextId present own := by
    rw [Stage.subscription?, (isNew.closed present).2] at own
    exact absurd own (by simp)
  eq_of_subscription? present _ own _ := by
    rw [Stage.subscription?, (isNew.closed present).2] at own
    exact absurd own (by simp)

theorem IsNew.rests
    (isNew : deployment.IsNew)
    (present : deployment.stages[index]? = some stage) :
    deployment.Rests index false stage.trigger.maxCount := by
  obtain ⟨noController, silent⟩ := isNew.closed present
  exact ⟨stage, present, by rw [noController]; rfl, silent, rfl⟩

end New

/-! ## Sessions -/

/-- A history has an event that opens or closes a stage and is the last one to do so, or
has none. -/
theorem quiet_or_last_switch
    (index : Nat)
    (events : List Event) :
    Quiet index events ∨
    (∃ before now subtask since,
      events = before ++ .start index now subtask :: since ∧ Quiet index since) ∨
    (∃ before since, events = before ++ .stop index :: since ∧ Quiet index since) := by
  have none : Quiet index [] := fun _ impossible => absurd impossible (by simp)
  induction events using List.reverseRecOn with
  | nil => exact .inl none
  | append_singleton events event inductionHypothesis =>
      cases switches : event.switches index with
      | true =>
          cases event with
          | start other now subtask =>
              obtain rfl : other = index := of_decide_eq_true switches
              exact .inr (.inl ⟨events, now, subtask, [], rfl, none⟩)
          | stop other =>
              obtain rfl : other = index := of_decide_eq_true switches
              exact .inr (.inr ⟨events, [], rfl, none⟩)
          | publish topic payload => exact absurd switches (by simp [Event.switches])
          | listen other => exact absurd switches (by simp [Event.switches])
      | false =>
          have longer {since : List Event} (quiet : Quiet index since) :
              Quiet index (since ++ [event]) :=
            quiet_concat_iff.mpr ⟨quiet, switches⟩
          rcases inductionHypothesis with quiet | ⟨before, now, subtask, since, rfl, quiet⟩ |
            ⟨before, since, rfl, quiet⟩
          · exact .inl (longer quiet)
          · exact .inr (.inl ⟨before, now, subtask, since ++ [event], by simp, longer quiet⟩)
          · exact .inr (.inr ⟨before, since ++ [event], by simp, longer quiet⟩)

section Sessions

variable {deployment : Deployment κ ν} {before since : List Event} {index : Nat}
  {stage : Stage κ ν}

/-- Since it was opened a stage has gone through the hearing of its topic. -/
theorem hears_session
    (wired : deployment.Wired)
    (present : (deployment.run before).stages[index]? = some stage)
    (now : Instant)
    {subtask : Subtask}
    {topic : String}
    (heard : stage.heardTopic? subtask.index = some topic)
    (quiet : Quiet index since) :
    (deployment.run (before ++ .start index now subtask :: since)).Hears index subtask
      stage.trigger.maxCount topic (Hearing.run topic index since) := by
  rw [run_append]
  exact (hears_start (wired.run before) present now heard).run
    ((wired.run before).step (.start index now subtask)) quiet

theorem rests_session
    (present : (deployment.run before).stages[index]? = some stage)
    (now : Instant)
    {subtask : Subtask}
    (unheard : stage.heardTopic? subtask.index = none)
    (quiet : Quiet index since) :
    (deployment.run (before ++ .start index now subtask :: since)).Rests index true
      stage.trigger.maxCount := by
  rw [run_append]
  exact (rests_start present now unheard).run quiet

theorem rests_closed
    (present : (deployment.run before).stages[index]? = some stage)
    (quiet : Quiet index since) :
    (deployment.run (before ++ .stop index :: since)).Rests index false
      stage.trigger.maxCount := by
  rw [run_append]
  exact (rests_stop present).run quiet

/-- A stage that is there in the end was there before, with the same settings. -/
theorem exists_earlier
    (wired : deployment.Wired)
    {after : List Event}
    {final : Stage κ ν}
    (present : (deployment.run (before ++ after)).stages[index]? = some final) :
    ∃ earlier, (deployment.run before).stages[index]? = some earlier ∧
      ∀ subtask, final.heardTopic? subtask = earlier.heardTopic? subtask := by
  have settings := getElem?_run_settings (wired.run before) after index
  rw [← run_append, present] at settings
  obtain ⟨earlier, presentEarlier, same⟩ := Option.map_eq_some_iff.mp settings.symm
  obtain ⟨sameConfig, sameLink⟩ := Prod.mk.inj same
  refine ⟨earlier, presentEarlier, ?_⟩
  intro subtask
  rw [Stage.heardTopic?, Stage.heardTopic?, sameConfig, sameLink]

/-- In every history a stage hears on the topic of its settings, or listens nowhere; and
where it is open without a subscription there is none to have. -/
theorem hears_or_rests
    (isNew : deployment.IsNew)
    {events : List Event}
    (present : (deployment.run events).stages[index]? = some stage) :
    (∃ subtask threshold topic hearing, stage.heardTopic? subtask.index = some topic ∧
      (deployment.run events).Hears index subtask threshold topic hearing ∧
      ∃ before now since, events = before ++ .start index now subtask :: since ∧
        Quiet index since) ∨
    (∃ subtask : Subtask, ∃ threshold, stage.heardTopic? subtask.index = none ∧
      (deployment.run events).Rests index true threshold ∧
      ∃ before now since, events = before ++ .start index now subtask :: since ∧
        Quiet index since) ∨
    (∃ threshold, (deployment.run events).Rests index false threshold) := by
  rcases quiet_or_last_switch index events with
    quiet | ⟨before, now, subtask, since, rfl, quiet⟩ | ⟨before, since, rfl, quiet⟩
  · have presentFinally : (deployment.run ([] ++ events)).stages[index]? = some stage := present
    obtain ⟨earlier, presentEarlier, _⟩ := exists_earlier isNew.wired presentFinally
    exact .inr (.inr ⟨_, (isNew.rests presentEarlier).run quiet⟩)
  · obtain ⟨earlier, presentEarlier, sameTopic⟩ := exists_earlier isNew.wired present
    cases heard : earlier.heardTopic? subtask.index with
    | some topic =>
        exact .inl ⟨subtask, _, topic, _, (sameTopic _).trans heard,
          hears_session isNew.wired presentEarlier now heard quiet, before, now, since, rfl, quiet⟩
    | none =>
        exact .inr (.inl ⟨subtask, _, (sameTopic _).trans heard,
          rests_session presentEarlier now heard quiet, before, now, since, rfl, quiet⟩)
  · obtain ⟨earlier, presentEarlier, _⟩ := exists_earlier isNew.wired present
    exact .inr (.inr ⟨_, rests_closed presentEarlier quiet⟩)

theorem isSome_controller_iff
    (isNew : deployment.IsNew)
    {events : List Event}
    (present : (deployment.run events).stages[index]? = some stage) :
    stage.controller.isSome = true ↔ ∃ before now subtask since,
      events = before ++ .start index now subtask :: since ∧ Quiet index since := by
  constructor
  · intro isOpen
    rcases hears_or_rests isNew present with
      ⟨subtask, _, _, _, _, _, before, now, since, division⟩ |
      ⟨subtask, _, _, _, before, now, since, division⟩ | ⟨_, closed, presentClosed, isClosed, _⟩
    · exact ⟨before, now, subtask, since, division⟩
    · exact ⟨before, now, subtask, since, division⟩
    · obtain rfl := Option.some.inj (present.symm.trans presentClosed)
      exact absurd (isOpen.symm.trans isClosed) (by simp)
  · rintro ⟨before, now, subtask, since, rfl, quiet⟩
    obtain ⟨earlier, presentEarlier, _⟩ := exists_earlier isNew.wired present
    cases heard : earlier.heardTopic? subtask.index with
    | some topic =>
        obtain ⟨final, controller, _, presentFinal, isOpen, _⟩ :=
          hears_session isNew.wired presentEarlier now heard quiet
        obtain rfl := Option.some.inj (present.symm.trans presentFinal)
        rw [isOpen]
        rfl
    | none =>
        obtain ⟨final, presentFinal, isOpen, _⟩ :=
          rests_session presentEarlier now heard quiet
        obtain rfl := Option.some.inj (present.symm.trans presentFinal)
        exact isOpen

/-- What is published is added to the backlog of a stage that listens on its topic, and
to no other. -/
theorem Hears.backlog_publish
    {subtask : Subtask}
    {threshold : Nat}
    {topic : String}
    {hearing : Hearing}
    (hears : deployment.Hears index subtask threshold topic hearing)
    (present : deployment.stages[index]? = some stage)
    (other : String)
    (payload : List UInt8) :
    stage.subtask = some subtask ∧
      stage.backlog (deployment.broker.publish other payload).1 =
        stage.backlog deployment.broker + if topic = other then 1 else 0 := by
  obtain ⟨_, _, id, presentHearing, _, _, opened, listens, found⟩ := hears
  obtain rfl := Option.some.inj (present.symm.trans presentHearing)
  refine ⟨opened, ?_⟩
  rw [Stage.backlog, Stage.backlog, listens]
  simp only [MemoryBroker.find?_publish, found, Option.map_some, Option.getD_some]
  split
  · rw [Subscription.push, List.length_append]
    rfl
  · rfl

theorem Rests.backlog_eq_zero
    {isOpen : Bool}
    {threshold : Nat}
    (rests : deployment.Rests index isOpen threshold)
    (present : deployment.stages[index]? = some stage)
    (broker : MemoryBroker) :
    stage.backlog broker = 0 := by
  obtain ⟨_, presentResting, _, silent, _⟩ := rests
  obtain rfl := Option.some.inj (present.symm.trans presentResting)
  rw [Stage.backlog, silent]

/-- A payload adds nothing to the backlog of a stage, or was published on its topic. -/
theorem backlog_publish_cases
    (isNew : deployment.IsNew)
    {events : List Event}
    (present : (deployment.run events).stages[index]? = some stage)
    (topic : String)
    (payload : List UInt8) :
    stage.backlog ((deployment.run events).broker.publish topic payload).1 =
        stage.backlog (deployment.run events).broker ∨
      ∃ subtask, stage.subtask = some subtask ∧ stage.heardTopic? subtask.index = some topic := by
  rcases hears_or_rests isNew present with
    ⟨subtask, _, own, _, heard, hears, _⟩ | ⟨_, _, _, rests, _⟩ | ⟨_, rests⟩
  · obtain ⟨opened, added⟩ := hears.backlog_publish present topic payload
    by_cases reached : own = topic
    · subst reached
      exact .inr ⟨subtask, opened, heard⟩
    · rw [if_neg reached] at added
      exact .inl added
  · rw [rests.backlog_eq_zero present, rests.backlog_eq_zero present]
    exact .inl rfl
  · rw [rests.backlog_eq_zero present, rests.backlog_eq_zero present]
    exact .inl rfl

/-- A stage that is open hears on the topic that it has for every index. -/
theorem backlog_publish_of_isOpen
    (isNew : deployment.IsNew)
    {events : List Event}
    (present : (deployment.run events).stages[index]? = some stage)
    (isOpen : stage.controller.isSome = true)
    {topic : String}
    (heard : ∀ subtask, stage.heardTopic? subtask = some topic)
    (payload : List UInt8) :
    stage.backlog ((deployment.run events).broker.publish topic payload).1 =
      stage.backlog (deployment.run events).broker + 1 := by
  rcases hears_or_rests isNew present with
    ⟨subtask, _, own, _, ownHeard, hears, _⟩ | ⟨subtask, _, unheard, _⟩ |
    ⟨_, final, presentFinal, isClosed, _⟩
  · obtain rfl := Option.some.inj ((heard subtask.index).symm.trans ownHeard)
    have added := (hears.backlog_publish present topic payload).2
    rwa [if_pos rfl] at added
  · exact absurd ((heard subtask.index).symm.trans unheard) (by simp)
  · obtain rfl := Option.some.inj (present.symm.trans presentFinal)
    exact absurd (isOpen.symm.trans isClosed) (by simp)

end Sessions

/-! ## Scope -/

/-- The thresholds of the stages of a deployment are in the scope of their own topics. -/
structure Scoped (deployment : Deployment κ ν) : Prop where
  /-- A stage is open just if it was opened and not closed since. -/
  isOpen_iff : ∀ (events : List Event) (index : Nat) (stage : Stage κ ν),
    (deployment.run events).stages[index]? = some stage →
    (stage.controller.isSome = true ↔ ∃ before now subtask since,
      events = before ++ .start index now subtask :: since ∧ Quiet index since)
  /-- A stage with a topic and a broker handles the front of what is published on its
  topic while it is open, and its threshold is the one it was opened with under the
  adjustments among what it handled.  The rest waits at the broker. -/
  hears : ∀ (before : List Event) (now : Instant) (subtask : Subtask) (since : List Event)
      (index : Nat) (stage : Stage κ ν) (topic : String),
    (deployment.run before).stages[index]? = some stage →
    stage.link = .broker →
    stage.config.strategy.topic? stage.config.controlTopic subtask.index = some topic →
    Quiet index since →
    let hearing := Hearing.run topic index since
    let after := deployment.run (before ++ .start index now subtask :: since)
    hearing.handled ++ hearing.waiting = published topic since ∧
      ∃ final id, after.stages[index]? = some final ∧
        final.listening = some ⟨topic, id⟩ ∧
        after.broker.find? id = some ⟨topic, hearing.waiting, true⟩ ∧
        final.trigger.maxCount =
          Threshold.tuned stage.trigger.maxCount (Adjustment.deltas hearing.handled)
  /-- A stage without a topic, without a broker, or with one that takes no subscriptions
  is open all the same, and keeps its threshold. -/
  keeps : ∀ (before : List Event) (now : Instant) (subtask : Subtask) (since : List Event)
      (index : Nat) (stage : Stage κ ν),
    (deployment.run before).stages[index]? = some stage →
    stage.config.strategy = .perKey ∨ stage.link = .absent ∨ stage.link = .unreachable →
    Quiet index since →
    ∃ final, (deployment.run (before ++ .start index now subtask :: since)).stages[index]? =
        some final ∧
      final.controller.isSome = true ∧ final.trigger.maxCount = stage.trigger.maxCount
  /-- What happens behind its closing leaves the threshold of a stage. -/
  closed : ∀ (before since : List Event) (index : Nat) (stage : Stage κ ν),
    (deployment.run before).stages[index]? = some stage → Quiet index since →
    ∃ final, (deployment.run (before ++ .stop index :: since)).stages[index]? = some final ∧
      final.controller = none ∧ final.trigger.maxCount = stage.trigger.maxCount
  /-- What happens before its first opening leaves the threshold of a stage. -/
  unopened : ∀ (events : List Event) (index : Nat) (stage : Stage κ ν),
    deployment.stages[index]? = some stage →
    Quiet index events →
    ∃ final, (deployment.run events).stages[index]? = some final ∧
      final.controller = none ∧ final.trigger.maxCount = stage.trigger.maxCount
  /-- In two deployments stages that are opened with one threshold for one topic agree, if
  the same is published on it and handled by them in the same order, whatever else goes
  on. -/
  agrees : ∀ (other : Deployment κ ν), other.IsNew →
    ∀ (before otherBefore : List Event) (now otherNow : Instant)
      (subtask otherSubtask : Subtask) (since otherSince : List Event) (index : Nat)
      (stage otherStage final otherFinal : Stage κ ν) (topic : String),
    (deployment.run before).stages[index]? = some stage →
    (other.run otherBefore).stages[index]? = some otherStage →
    stage.link = .broker → otherStage.link = .broker →
    stage.config.strategy.topic? stage.config.controlTopic subtask.index = some topic →
    otherStage.config.strategy.topic? otherStage.config.controlTopic otherSubtask.index =
      some topic →
    Quiet index since → Quiet index otherSince →
    since.filter (Event.concerns topic index) = otherSince.filter (Event.concerns topic index) →
    stage.trigger.maxCount = otherStage.trigger.maxCount →
    (deployment.run (before ++ .start index now subtask :: since)).stages[index]? = some final →
    (other.run (otherBefore ++ .start index otherNow otherSubtask :: otherSince)).stages[index]? =
      some otherFinal →
    final.trigger.maxCount = otherFinal.trigger.maxCount
  /-- No payload reaches two instances of one stage that have topics of their own. -/
  apart : ∀ (events : List Event) (first second : Nat) (stage other : Stage κ ν)
      (subtask otherSubtask : Subtask),
    (deployment.run events).stages[first]? = some stage →
    (deployment.run events).stages[second]? = some other →
    stage.config.strategy = .perInstance → other.config.strategy = .perInstance →
    stage.config.controlTopic = other.config.controlTopic →
    stage.subtask = some subtask → other.subtask = some otherSubtask →
    subtask.index ≠ otherSubtask.index →
    ∀ (topic : String) (payload : List UInt8),
      let broker := (deployment.run events).broker
      let behind := (broker.publish topic payload).1
      stage.backlog behind = stage.backlog broker ∨ other.backlog behind = other.backlog broker
  /-- A payload on the common topic reaches every open instance. -/
  together : ∀ (events : List Event) (index : Nat) (stage : Stage κ ν),
    (deployment.run events).stages[index]? = some stage →
    stage.controller.isSome = true → stage.link = .broker →
    stage.config.strategy = .global →
    ∀ payload : List UInt8,
      let broker := (deployment.run events).broker
      let behind := (broker.publish stage.config.controlTopic payload).1
      stage.backlog behind = stage.backlog broker + 1

/-- Whatever is opened, closed, published and handled in whatever order, the thresholds of
stages that were built for one broker are in the scope of their own topics; and every
opening succeeds. -/
theorem scoped_of_isNew
    [DecidableEq κ]
    {deployment : Deployment κ ν}
    (isNew : deployment.IsNew) :
    deployment.Scoped ∧
      ∀ {ι ο : Type} (aggregation : Aggregation κ ν ι ο) (now : Instant) (subtask : Subtask)
        (stage : Stage κ ν) (broker : MemoryBroker),
        (Stage.operator aggregation).start now subtask (stage, broker) =
          { state := stage.start now subtask broker } := by
  refine ⟨?_, fun _ _ _ _ _ => rfl⟩
  refine ⟨?_, ?_, ?_, ?_, ?_, ?_, ?_, ?_⟩
  · intro events index stage present
    exact isSome_controller_iff isNew present
  · intro before now subtask since index stage topic present link own quiet hearing after
    have heard : stage.heardTopic? subtask.index = some topic := (if_pos link).trans own
    obtain ⟨final, _, id, presentFinal, _, tracks, _, listens, found⟩ :=
      hears_session isNew.wired present now heard quiet
    exact ⟨Hearing.handled_append_waiting topic index since, final, id, presentFinal, listens,
      found, tracks.maxCount_eq⟩
  · intro before now subtask since index stage present isStatic quiet
    have unheard : stage.heardTopic? subtask.index = none := by
      rw [Stage.heardTopic?]
      rcases isStatic with strategy | absent | unreachable
      · rw [strategy]
        exact ite_self none
      · rw [if_neg (by rw [absent]; decide)]
      · rw [if_neg (by rw [unreachable]; decide)]
    obtain ⟨final, presentFinal, isOpen, _, maxCount⟩ :=
      rests_session present now unheard quiet
    exact ⟨final, presentFinal, isOpen, maxCount⟩
  · intro before since index stage present quiet
    obtain ⟨final, presentFinal, isClosed, _, maxCount⟩ := rests_closed present quiet
    exact ⟨final, presentFinal, Option.isNone_iff_eq_none.mp (Option.isSome_eq_false_iff.mp isClosed),
      maxCount⟩
  · intro events index stage present quiet
    obtain ⟨final, presentFinal, isClosed, _, maxCount⟩ := (isNew.rests present).run quiet
    exact ⟨final, presentFinal, Option.isNone_iff_eq_none.mp (Option.isSome_eq_false_iff.mp isClosed),
      maxCount⟩
  · intro other otherIsNew before otherBefore now otherNow subtask otherSubtask since otherSince
      index stage otherStage final otherFinal topic present otherPresent link otherLink own
      otherOwn quiet otherQuiet same sameThreshold presentFinal presentOtherFinal
    obtain ⟨_, _, _, found, _, tracks, _⟩ :=
      hears_session isNew.wired present now ((if_pos link).trans own) quiet
    obtain ⟨_, _, _, otherFound, _, otherTracks, _⟩ :=
      hears_session otherIsNew.wired otherPresent otherNow ((if_pos otherLink).trans otherOwn)
        otherQuiet
    obtain rfl := Option.some.inj (presentFinal.symm.trans found)
    obtain rfl := Option.some.inj (presentOtherFinal.symm.trans otherFound)
    have sameHearing : Hearing.run topic index since = Hearing.run topic index otherSince := by
      rw [← Hearing.run_filter_concerns, same, Hearing.run_filter_concerns]
    rw [tracks.maxCount_eq, otherTracks.maxCount_eq, sameHearing, sameThreshold]
  · intro events first second stage other subtask otherSubtask present otherPresent strategy
      otherStrategy sameBase opened otherOpened different topic payload broker behind
    rcases backlog_publish_cases isNew present topic payload with
      unchanged | ⟨own, isOwn, heard⟩
    · exact .inl unchanged
    · rcases backlog_publish_cases isNew otherPresent topic payload with
        unchanged | ⟨otherOwn, isOtherOwn, otherHeard⟩
      · exact .inr unchanged
      · -- Both would listen on one topic, and so have one index.
        obtain rfl := Option.some.inj (opened.symm.trans isOwn)
        obtain rfl := Option.some.inj (otherOpened.symm.trans isOtherOwn)
        rw [Stage.heardTopic?, strategy, Option.ite_none_right_eq_some] at heard
        rw [Stage.heardTopic?, otherStrategy, ← sameBase,
          Option.ite_none_right_eq_some] at otherHeard
        exact absurd (Strategy.index_eq_of_topic?_perInstance heard.2 otherHeard.2) different
  · intro events index stage present isOpen link strategy payload broker behind
    refine backlog_publish_of_isOpen isNew present isOpen ?_ payload
    intro subtask
    rw [Stage.heardTopic?, if_pos link, strategy]
    rfl

/-- Of five payloads an instance handles one: the first was published too early, the second
for the other instance, the fourth still waits, and the last is for the whole stage. -/
theorem scoped_of_isNew_two_instances :
    let config : Config := { Config.ofCount 10 with strategy := .perInstance, controlTopic := "tune" }
    let instance₀ : Stage Nat Nat := .unopened config ⟨0, 10, none, .perInstance⟩ .broker 0
    let deployment : Deployment Nat Nat := .ofStages [instance₀, instance₀]
    let payload := Adjustment.payload
    let before : List Event := [.publish "tune-0" (payload 50)]
    let since : List Event :=
      [.start 1 2 ⟨"words", 1, 2⟩, .publish "tune-1" (payload 60), .publish "tune-0" (payload 3),
        .listen 1, .listen 0, .publish "tune-0" (payload (-4)), .stop 1,
        .publish "tune" (payload 70)]
    deployment.IsNew ∧
      ∃ final, (deployment.run (before ++ .start 0 1 ⟨"words", 0, 2⟩ :: since)).stages[0]? =
          some final ∧
        final.trigger.maxCount = 13 := by
  intro config instance₀ deployment payload before since
  have isNew : deployment.IsNew := by
    refine ⟨[instance₀, instance₀], rfl, ?_⟩
    intro stage member
    have built : Stage.ofTrigger config ⟨0, 10, none, .perInstance⟩ .broker 0 =
        .ok instance₀ := Stage.ofTrigger_eq_ok_iff.mpr ⟨by decide +kernel, rfl⟩
    have same : stage = instance₀ := by simpa using member
    exact ⟨config, _, _, _, same ▸ built⟩
  have quiet : Quiet 0 since := by decide +kernel
  obtain ⟨_, final, _, present, _, _, maxCount⟩ :=
    (scoped_of_isNew isNew).1.hears before 1 ⟨"words", 0, 2⟩ since 0 instance₀ "tune-0" rfl rfl
      (by decide +kernel) quiet
  exact ⟨isNew, final, present, maxCount.trans (by decide +kernel)⟩

end Deployment
end PreAggregation
