import PreAggregation.Proofs.Control.Routing
import PreAggregation.Proofs.Deployment.Inbox
import PreAggregation.Proofs.Deployment.Scope

/-!
# Stages with topics of their own

The topic of an instance tells the base and the index that it is made of, even where the
base itself ends like one.  So instances of stages with different bases have no topic in
common, and at one broker nothing that is published for the instances of one of them ever
reaches an instance of another.
-/

namespace PreAggregation

/-! ## Connections -/

namespace Router

variable {past : List Event} {connection : Nat}

/-- Who has subscribed to a topic has sent a frame that says so. -/
theorem exists_subscribe_of_hasSubscribed
    {topic : String}
    (has : hasSubscribed past connection topic = true) :
    ∃ frame, .handle connection frame ∈ past ∧ frame.kind = .subscribe ∧
      frame.topic = topic := by
  induction past using List.reverseRecOn with
  | nil => simp [hasSubscribed, session?, since?] at has
  | append_singleton past event inductionHypothesis =>
      rw [hasSubscribed_concat, Bool.and_eq_true, Bool.or_eq_true, Bool.and_eq_true] at has
      rcases has.2 with earlier | ⟨_, subscribes⟩
      · obtain ⟨frame, member, asked⟩ := inductionHypothesis earlier
        exact ⟨frame, List.mem_append_left _ member, asked⟩
      · cases event with
        | handle sender frame =>
            simp only [Event.subscribes, Bool.and_eq_true, decide_eq_true_eq] at subscribes
            obtain ⟨⟨rfl, kind⟩, own⟩ := subscribes
            exact ⟨frame, List.mem_append_right _ (List.mem_singleton_self _), kind, own⟩
        | accept => exact absurd subscribes Bool.false_ne_true
        | disconnect ended => exact absurd subscribes Bool.false_ne_true

/-- A message is owed to a connection only on a topic for which it has asked. -/
theorem exists_subscribe_of_mem_answersAll
    {events : List Event}
    {message : Frame}
    (owed : message ∈ answersAll past connection events)
    (kind : message.kind = .message) :
    ∃ frame, .handle connection frame ∈ past ++ events ∧ frame.kind = .subscribe ∧
      frame.topic = message.topic := by
  induction events generalizing past with
  | nil => exact absurd owed List.not_mem_nil
  | cons event rest inductionHypothesis =>
      rcases List.mem_append.mp owed with now | later
      · have asked : hasSubscribed past connection message.topic = true := by
          cases event with
          | accept => exact absurd now List.not_mem_nil
          | disconnect ended => exact absurd now List.not_mem_nil
          | handle sender frame =>
              rw [answers] at now
              split at now
              · split at now
                · split at now
                  · obtain rfl := List.mem_singleton.mp now
                    exact absurd (show FrameKind.subscribed = .message from kind) (by decide)
                  · exact absurd now List.not_mem_nil
                · split at now
                  · obtain rfl := List.mem_singleton.mp now
                    assumption
                  · exact absurd now List.not_mem_nil
                · exact absurd now List.not_mem_nil
                · exact absurd now List.not_mem_nil
              · exact absurd now List.not_mem_nil
        obtain ⟨frame, member, isAsking⟩ := exists_subscribe_of_hasSubscribed asked
        exact ⟨frame, List.mem_append_left _ member, isAsking⟩
      · simpa using inductionHypothesis later

end Router

namespace Deployment

/-! ## Histories without some publications -/

/-- A history without what is published on some topics. -/
def unpublished
    (dropped : String → Bool)
    (events : List Event) : List Event :=
  events.filter fun
    | .publish topic _ => !dropped topic
    | .start _ _ _ | .stop _ | .listen _ => true

section Unpublished

variable {dropped : String → Bool} {events : List Event} {index : Nat}

theorem Quiet.unpublished
    (quiet : Quiet index events) :
    Quiet index (unpublished dropped events) :=
  fun event member => quiet event (List.mem_of_mem_filter member)

/-- A stage hears the same if nothing is dropped that is published on its topic. -/
theorem hearing_unpublished
    {topic : String}
    (kept : dropped topic = false) :
    Hearing.run topic index (unpublished dropped events) = Hearing.run topic index events := by
  have same : (unpublished dropped events).filter (Event.concerns topic index) =
      events.filter (Event.concerns topic index) := by
    rw [unpublished, List.filter_filter]
    congr 1
    funext event
    cases event with
    | publish other payload =>
        by_cases reached : other = topic
        · simp [Event.concerns, reached, kept]
        · simp [Event.concerns, reached]
    | start _ _ _ => rfl
    | stop _ => rfl
    | listen _ => exact Bool.and_true _
  rw [← Hearing.run_filter_concerns, same, Hearing.run_filter_concerns]

end Unpublished

/-! ## What a stage has -/

variable {κ ν : Type}

/-- A stage has a threshold, and this is its subscription at the broker, if it has one. -/
def Stands
    (deployment : Deployment κ ν)
    (index : Nat)
    (threshold : Nat)
    (box : Option Subscription) : Prop :=
  ∃ stage, deployment.stages[index]? = some stage ∧ stage.trigger.maxCount = threshold ∧
    Stage.inbox (stage, deployment.broker) = box

section Stands

variable {deployment : Deployment κ ν} {index threshold : Nat}

theorem Hears.stands
    {subtask : Subtask}
    {topic : String}
    {hearing : Hearing}
    (hears : deployment.Hears index subtask threshold topic hearing) :
    deployment.Stands index (Threshold.tuned threshold (Adjustment.deltas hearing.handled))
      (some ⟨topic, hearing.waiting, true⟩) := by
  obtain ⟨stage, _, _, present, _, tracks, _, listens, found⟩ := hears
  exact ⟨stage, present, tracks.maxCount_eq, (Stage.inbox_of_listening listens _).trans found⟩

theorem Rests.stands
    {isOpen : Bool}
    (rests : deployment.Rests index isOpen threshold) :
    deployment.Stands index threshold none := by
  obtain ⟨stage, present, _, silent, maxCount⟩ := rests
  refine ⟨stage, present, maxCount, ?_⟩
  rw [Stage.inbox, Stage.subscription?, silent]
  rfl

theorem Stands.eq
    {stage : Stage κ ν}
    {box : Option Subscription}
    (stands : deployment.Stands index threshold box)
    (present : deployment.stages[index]? = some stage) :
    stage.trigger.maxCount = threshold ∧ Stage.inbox (stage, deployment.broker) = box := by
  obtain ⟨found, presentFound, has⟩ := stands
  obtain rfl := Option.some.inj (present.symm.trans presentFound)
  exact has

end Stands

/-- Two histories of one deployment leave a stage with the same topics. -/
theorem heardTopic?_eq_of_run
    {deployment : Deployment κ ν}
    (wired : deployment.Wired)
    {events others : List Event}
    {index : Nat}
    {stage other : Stage κ ν}
    (present : (deployment.run events).stages[index]? = some stage)
    (presentOther : (deployment.run others).stages[index]? = some other)
    (subtask : Nat) :
    other.heardTopic? subtask = stage.heardTopic? subtask := by
  have settings := (getElem?_run_settings wired others index).trans
    (getElem?_run_settings wired events index).symm
  rw [present, presentOther] at settings
  obtain ⟨sameConfig, sameLink⟩ := Prod.mk.inj (Option.some.inj settings)
  rw [Stage.heardTopic?, Stage.heardTopic?, sameConfig, sameLink]

/-- A stage has the same threshold and the same subscription in two deployments. -/
def StandsAlike
    (deployment other : Deployment κ ν)
    (index : Nat) : Prop :=
  ∃ threshold box, deployment.Stands index threshold box ∧ other.Stands index threshold box

theorem StandsAlike.stands
    {deployment other : Deployment κ ν}
    {index : Nat}
    {stage : Stage κ ν}
    (alike : StandsAlike deployment other index)
    (present : deployment.stages[index]? = some stage) :
    other.Stands index stage.trigger.maxCount (Stage.inbox (stage, deployment.broker)) := by
  obtain ⟨threshold, box, stands, otherStands⟩ := alike
  obtain ⟨sameThreshold, sameBox⟩ := stands.eq present
  rwa [sameThreshold, sameBox]

section Sessions

variable {deployment : Deployment κ ν} {before others since othersSince : List Event}
  {index : Nat} {stage other : Stage κ ν}

/-- Sessions that begin with one threshold and hear the same end alike. -/
theorem standsAlike_session
    (wired : deployment.Wired)
    (present : (deployment.run before).stages[index]? = some stage)
    (presentOther : (deployment.run others).stages[index]? = some other)
    (sameThreshold : other.trigger.maxCount = stage.trigger.maxCount)
    (now : Instant)
    {subtask : Subtask}
    (quiet : Quiet index since)
    (quietOthers : Quiet index othersSince)
    (sameHearing : ∀ topic, stage.heardTopic? subtask.index = some topic →
      Hearing.run topic index othersSince = Hearing.run topic index since) :
    StandsAlike
      (deployment.run (before ++ .start index now subtask :: since))
      (deployment.run (others ++ .start index now subtask :: othersSince)) index := by
  have sameTopic := heardTopic?_eq_of_run wired present presentOther subtask.index
  cases heard : stage.heardTopic? subtask.index with
  | some topic =>
      have hears := hears_session wired present now heard quiet
      have otherHears :=
        hears_session wired presentOther now (sameTopic.trans heard) quietOthers
      rw [sameHearing topic heard, sameThreshold] at otherHears
      exact ⟨_, _, hears.stands, otherHears.stands⟩
  | none =>
      have rests := rests_session present now heard quiet
      have otherRests := rests_session presentOther now (sameTopic.trans heard) quietOthers
      rw [sameThreshold] at otherRests
      exact ⟨_, _, rests.stands, otherRests.stands⟩

/-- Stages that were closed with one threshold stay alike. -/
theorem standsAlike_closed
    (present : (deployment.run before).stages[index]? = some stage)
    (presentOther : (deployment.run others).stages[index]? = some other)
    (sameThreshold : other.trigger.maxCount = stage.trigger.maxCount)
    (quiet : Quiet index since)
    (quietOthers : Quiet index othersSince) :
    StandsAlike
      (deployment.run (before ++ .stop index :: since))
      (deployment.run (others ++ .stop index :: othersSince)) index := by
  have otherRests := rests_closed presentOther quietOthers
  rw [sameThreshold] at otherRests
  exact ⟨_, _, (rests_closed present quiet).stands, otherRests.stands⟩

end Sessions

/-- What is published on topics that a stage never hears leaves no trace in its threshold
and in its subscription. -/
theorem stands_unpublished
    {deployment : Deployment κ ν}
    (isNew : deployment.IsNew)
    {dropped : String → Bool}
    {events : List Event}
    {index : Nat}
    {stage : Stage κ ν}
    (present : (deployment.run events).stages[index]? = some stage)
    (kept : ∀ subtask topic, stage.heardTopic? subtask = some topic → dropped topic = false) :
    (deployment.run (unpublished dropped events)).Stands index stage.trigger.maxCount
      (Stage.inbox (stage, (deployment.run events).broker)) := by
  have wired := isNew.wired
  -- A session begins with the threshold that those before it have left, so the induction
  -- goes from one opening or closing back to the one before.
  induction size : events.length using Nat.strongRecOn generalizing events stage with
  | _ length inductionHypothesis =>
  refine StandsAlike.stands ?_ present
  have standsBefore {before since : List Event} {event : Event}
      (division : events = before ++ event :: since) :
      ∃ earlier other, (deployment.run before).stages[index]? = some earlier ∧
        (deployment.run (unpublished dropped before)).stages[index]? = some other ∧
        other.trigger.maxCount = earlier.trigger.maxCount ∧
        ∀ subtask, stage.heardTopic? subtask = earlier.heardTopic? subtask := by
    obtain ⟨earlier, presentEarlier, sameTopic⟩ := exists_earlier wired (division ▸ present)
    have shorter : before.length < length := by
      rw [← size, division, List.length_append, List.length_cons]
      omega
    obtain ⟨other, presentOther, sameThreshold, _⟩ :=
      inductionHypothesis before.length shorter presentEarlier
        (fun subtask topic heard => kept subtask topic ((sameTopic subtask).trans heard)) rfl
    exact ⟨earlier, other, presentEarlier, presentOther, sameThreshold, sameTopic⟩
  rcases quiet_or_last_switch index events with
    quiet | ⟨before, now, subtask, since, division, quiet⟩ | ⟨before, since, division, quiet⟩
  · have presentFinally : (deployment.run ([] ++ events)).stages[index]? = some stage := present
    obtain ⟨original, presentFirst, _⟩ := exists_earlier wired presentFinally
    have rests := isNew.rests presentFirst
    exact ⟨_, _, (rests.run quiet).stands, (rests.run quiet.unpublished).stands⟩
  · obtain ⟨earlier, other, presentEarlier, presentOther, sameThreshold, sameTopic⟩ :=
      standsBefore division
    have divided : unpublished dropped events =
        unpublished dropped before ++ .start index now subtask :: unpublished dropped since := by
      simp [unpublished, division]
    rw [division] at divided ⊢
    rw [divided]
    refine standsAlike_session wired presentEarlier presentOther sameThreshold now quiet
      quiet.unpublished ?_
    intro topic heard
    exact hearing_unpublished (kept _ topic ((sameTopic _).trans heard))
  · obtain ⟨earlier, other, presentEarlier, presentOther, sameThreshold, _⟩ :=
      standsBefore division
    have divided : unpublished dropped events =
        unpublished dropped before ++ .stop index :: unpublished dropped since := by
      simp [unpublished, division]
    rw [division] at divided ⊢
    rw [divided]
    exact standsAlike_closed presentEarlier presentOther sameThreshold quiet quiet.unpublished

/-- A publication on a topic that a stage never hears leaves its subscription alone. -/
theorem inbox_publish_of_unheard
    {deployment : Deployment κ ν}
    (isNew : deployment.IsNew)
    {events : List Event}
    {index : Nat}
    {stage : Stage κ ν}
    (present : (deployment.run events).stages[index]? = some stage)
    {topic : String}
    (unheard : ∀ subtask, stage.heardTopic? subtask ≠ some topic)
    (payload : List UInt8) :
    Stage.inbox (stage, ((deployment.run events).broker.publish topic payload).1) =
      Stage.inbox (stage, (deployment.run events).broker) := by
  have published := Stage.inbox_publish (stage, (deployment.run events).broker) topic payload
  dsimp only at published
  rw [published]
  rcases hears_or_rests isNew present with
    ⟨subtask, _, own, _, heard, hears, _⟩ | ⟨_, _, _, rests, _⟩ | ⟨_, rests⟩
  · have different : own ≠ topic := by
      rintro rfl
      exact unheard subtask.index heard
    rw [(hears.stands.eq present).2, Option.map_some, if_neg different]
  · rw [(rests.stands.eq present).2]
    rfl
  · rw [(rests.stands.eq present).2]
    rfl

/-- An instance with a topic of its own hears on no topic that another base makes. -/
theorem heardTopic?_ne_of_base_ne
    {stage : Stage κ ν}
    {foreign topic : String}
    {index : Nat}
    (strategy : stage.config.strategy = .perInstance)
    (different : stage.config.controlTopic ≠ foreign)
    (made : Strategy.perInstance.topic? foreign index = some topic)
    (subtask : Nat) :
    stage.heardTopic? subtask ≠ some topic := by
  intro heard
  rw [Stage.heardTopic?, strategy, Option.ite_none_right_eq_some] at heard
  exact different (Strategy.eq_of_topic?_perInstance heard.2 made).1

/-! ## Separation -/

/-- The topic of an instance tells its base and its index.  At a broker in memory, what is
published for the instances of one base reaches no instance of another, and whether it is
published at all makes no difference to any of them; and a broker of connections never
sends it to a connection that has asked for topics of another base only. -/
theorem separates_bases :
    (∀ (base otherBase : String) (index otherIndex : Nat),
      Strategy.perInstance.topic? base index = Strategy.perInstance.topic? otherBase otherIndex →
      base = otherBase ∧ index = otherIndex) ∧
    (∀ {κ ν : Type} {deployment : Deployment κ ν}, deployment.IsNew →
      ∀ (events : List Event) (index : Nat) (stage : Stage κ ν) (foreign : String),
      (deployment.run events).stages[index]? = some stage →
      stage.config.strategy = .perInstance →
      stage.config.controlTopic ≠ foreign →
      let broker := (deployment.run events).broker
      (∀ (other : Nat) (topic : String) (payload : List UInt8),
        Strategy.perInstance.topic? foreign other = some topic →
        Stage.inbox (stage, (broker.publish topic payload).1) = Stage.inbox (stage, broker)) ∧
      ∀ dropped : String → Bool,
        (∀ topic, dropped topic = true →
          ∃ other, Strategy.perInstance.topic? foreign other = some topic) →
        (deployment.run (unpublished dropped events)).Stands index stage.trigger.maxCount
          (Stage.inbox (stage, broker))) ∧
    (∀ (events : List Router.Event) (connection : Nat) (base foreign : String), base ≠ foreign →
      (∀ frame : Frame, .handle connection frame ∈ events → frame.kind = .subscribe →
        ∃ index, Strategy.perInstance.topic? base index = some frame.topic) →
      ∀ message ∈ Router.queuedTo connection (Router.empty.run events).2,
        message.kind = .message →
        ∀ other, Strategy.perInstance.topic? foreign other ≠ some message.topic) := by
  refine ⟨?_, ?_, ?_⟩
  · intro base otherBase index otherIndex same
    exact Strategy.eq_of_topic?_perInstance rfl same.symm
  · intro κ ν deployment isNew events index stage foreign present strategy different broker
    constructor
    · intro other topic payload made
      exact inbox_publish_of_unheard isNew present
        (heardTopic?_ne_of_base_ne strategy different made) payload
    · intro dropped onlyForeign
      refine stands_unpublished isNew present ?_
      intro subtask topic heard
      by_contra notKept
      obtain ⟨other, made⟩ := onlyForeign topic (Bool.not_eq_false _ |>.mp notKept)
      exact heardTopic?_ne_of_base_ne strategy different made subtask heard
  · intro events connection base foreign different asksForBase message queued kind other made
    rw [Router.reflects_empty.queuedTo_run] at queued
    obtain ⟨frame, handled, asks, sameTopic⟩ :=
      Router.exists_subscribe_of_mem_answersAll queued kind
    obtain ⟨index, own⟩ := asksForBase frame handled asks
    exact different (Strategy.eq_of_topic?_perInstance (sameTopic ▸ own) made).1

/-- One base ends like a topic of the other.  What is published for the instances of the
longer one makes no difference to the instance of the shorter one, which listens on
`freq-1`, nor does a connection hear of it that has asked for this topic. -/
theorem separates_bases_freq :
    let config (base : String) : Config :=
      { Config.ofCount 10 with strategy := .perInstance, controlTopic := base }
    let stage (base : String) : Stage Nat Nat :=
      .unopened (config base) ⟨0, 10, none, .perInstance⟩ .broker 0
    let deployment : Deployment Nat Nat := .ofStages [stage "freq", stage "freq-1"]
    let payload := Adjustment.payload
    let events : List Event :=
      [.start 0 1 ⟨"words", 1, 2⟩, .start 1 2 ⟨"letters", 0, 2⟩, .publish "freq-1-0" (payload 5),
        .publish "freq-1" (payload 3), .listen 0, .listen 1, .publish "freq-1-1" (payload 7)]
    let exchange : List Router.Event :=
      [.accept, .accept, .handle 0 { kind := .subscribe, topic := "freq-1" },
        .handle 1 { kind := .subscribe, topic := "freq-1-0" },
        .handle 1 { kind := .publish, topic := "freq-1-0", payload := payload 5 }]
    deployment.IsNew ∧
      (deployment.run events).stages.map (·.trigger.maxCount) = [13, 15] ∧
      (∃ box, (deployment.run (unpublished ["freq-1-0", "freq-1-1"].contains events)).Stands 0 13
        box) ∧
      ∀ message ∈ Router.queuedTo 0 (Router.empty.run exchange).2,
        message.kind = .message → message.topic ≠ "freq-1-0" := by
  intro config stage deployment payload events exchange
  have isNew : deployment.IsNew := by
    refine ⟨[stage "freq", stage "freq-1"], rfl, ?_⟩
    intro built member
    have accepted (base : String) (valid : (config base).validate = .ok ()) :
        Stage.ofTrigger (config base) ⟨0, 10, none, .perInstance⟩ .broker 0 =
          .ok (stage base) := Stage.ofTrigger_eq_ok_iff.mpr ⟨valid, rfl⟩
    rcases List.mem_pair.mp member with rfl | rfl
    · exact ⟨_, _, _, _, accepted "freq" (by decide +kernel)⟩
    · exact ⟨_, _, _, _, accepted "freq-1" (by decide +kernel)⟩
  refine ⟨isNew, by decide +kernel, ?_, ?_⟩
  · have known : (deployment.run events).stages[0]?.map (fun stage =>
        (stage.trigger.maxCount, stage.config.strategy, stage.config.controlTopic)) =
          some (13, .perInstance, "freq") := by
      decide +kernel
    obtain ⟨final, present, facts⟩ := Option.map_eq_some_iff.mp known
    obtain ⟨maxCount, strategy, base⟩ : final.trigger.maxCount = 13 ∧
        final.config.strategy = .perInstance ∧ final.config.controlTopic = "freq" := by
      simpa using facts
    have foreign (topic : String) (listed : ["freq-1-0", "freq-1-1"].contains topic = true) :
        ∃ other, Strategy.perInstance.topic? "freq-1" other = some topic := by
      rcases List.mem_pair.mp (List.contains_iff_mem.mp listed) with rfl | rfl
      · exact ⟨0, by decide +kernel⟩
      · exact ⟨1, by decide +kernel⟩
    have stands := (separates_bases.2.1 isNew events 0 final "freq-1" present strategy
      (by rw [base]; decide)).2 _ foreign
    exact ⟨_, maxCount ▸ stands⟩
  · intro message queued kind same
    refine separates_bases.2.2 exchange 0 "freq" "freq-1" (by decide) ?_ message queued kind 0 ?_
    · intro frame handled asks
      obtain rfl : frame = { kind := .subscribe, topic := "freq-1" } := by
        simpa [exchange] using handled
      exact ⟨1, by decide +kernel⟩
    · rw [same]
      decide +kernel

end Deployment
end PreAggregation
