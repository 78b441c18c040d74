import Mathlib.Data.List.Induction
import PreAggregation.Proofs.Config.Admission
import PreAggregation.Proofs.Deployment.Inbox
import PreAggregation.Proofs.Stage.Mirroring
import PreAggregation.Proofs.Stage.Retention

/-!
# Stages that are opened again

Whatever a stage went through, once it is opened it goes on like a new stage with the
same settings, at the same broker or another one, whose threshold was set to the one that
the old stage has now.  Nothing else that happened before can be told from what comes
afterwards but the number of flushes.

The maps of both stages may visit their entries in any orders.  If both visit them in the
same orders from the opening on, both answer the same.  If each has orders of its own, the
answers of a function that ignores the order are the same but for the order of the outputs
within each flush.
-/

namespace PreAggregation

namespace Stage

variable {κ ν : Type}

/-- A stage that has come from another one, with a subscription that the broker gave. -/
structure Rooted (original : Stage κ ν) (state : Stage κ ν × MemoryBroker) : Prop where
  /-- What stages keep. -/
  inherits : original.Inherits state.1
  /-- Numbers to be given are free. -/
  isFresh : state.2.IsFresh
  /-- The subscription has a number that was given. -/
  lt_nextId : ∀ id, state.1.subscription? = some id → id < state.2.nextId

section Rooted

variable {original : Stage κ ν} {state : Stage κ ν × MemoryBroker}

theorem Rooted.of_minds
    (rooted : Rooted original state)
    {next : Stage κ ν × MemoryBroker}
    (inherits : state.1.Inherits next.1)
    (minds : state.1.Minds state.2 next) :
    Rooted original next where
  inherits := rooted.inherits.trans inherits
  isFresh := minds.isFresh
  lt_nextId id own := by
    rcases minds.subscription?_eq id own with old | new
    · exact Nat.lt_of_lt_of_le (rooted.lt_nextId id old) minds.nextId_le
    · exact new.2

/-- What others do at the broker. -/
theorem Rooted.of_broker
    (rooted : Rooted original state)
    {broker : MemoryBroker}
    (isFresh : broker.IsFresh)
    (nextId_le : state.2.nextId ≤ broker.nextId) :
    Rooted original (state.1, broker) where
  inherits := rooted.inherits
  isFresh := isFresh
  lt_nextId id own := Nat.lt_of_lt_of_le (rooted.lt_nextId id own) nextId_le

end Rooted

/-- Of what was before an opening nothing is left. -/
structure StartsAfresh
    (past : Stage κ ν × MemoryBroker)
    (subtask : Subtask)
    (opened : Stage κ ν × MemoryBroker) : Prop where
  /-- No record is buffered. -/
  bundle_eq : opened.1.bundle = .empty
  /-- Nothing is counted. -/
  count_eq : opened.1.trigger.count = 0
  /-- The threshold is the one that was in force. -/
  maxCount_eq : opened.1.trigger.maxCount = past.1.trigger.maxCount
  /-- No threshold waits, and there is no baseline. -/
  controller_eq : opened.1.controller = some (.ofSubtask subtask.index)
  /-- There are no intervals. -/
  samples_eq : opened.1.histogram.samples = []
  /-- The subscription, if there is one, is empty. -/
  queue_eq : ∀ subscription, inbox opened = some subscription → subscription.queue = []
  /-- The earlier subscription is gone from the broker. -/
  find?_eq_none : ∀ id, past.1.subscription? = some id → opened.2.find? id = none

theorem Rooted.startsAfresh
    {original : Stage κ ν}
    {past : Stage κ ν × MemoryBroker}
    (rooted : Rooted original past)
    (now : Instant)
    (subtask : Subtask) :
    StartsAfresh past subtask (past.1.start now subtask past.2) where
  bundle_eq := bundle_start past.1 now subtask past.2
  count_eq := by
    rw [fst_start]
    rfl
  maxCount_eq := by
    rw [fst_start]
    rfl
  controller_eq := by
    rw [fst_start]
    rfl
  samples_eq := by
    rw [fst_start]
    rfl
  queue_eq subscription waiting := by
    rw [inbox_start _ _ _ rooted.isFresh] at waiting
    obtain ⟨topic, _, rfl⟩ := Option.map_eq_some_iff.mp waiting
    rfl
  find?_eq_none id own :=
    find?_start_of_subscription? rooted.isFresh own (rooted.lt_nextId id own) now subtask

end Stage

/-- The outputs of a bundle do not depend on the order of its entries, but for their order. -/
def Aggregation.IgnoresOrder {κ ν ι ο : Type} (aggregation : Aggregation κ ν ι ο) : Prop :=
  ∀ bundle other : Bundle κ ν, bundle.entries.Perm other.entries → bundle.keys.Nodup →
    (aggregation.collect bundle).result = (aggregation.collect other).result ∧
      ((aggregation.collect bundle).result = .ok () →
        (aggregation.collect bundle).outputs.Perm (aggregation.collect other).outputs)

namespace Aggregation

variable {κ ν ι ο : Type} (aggregation : Aggregation κ ν ι ο)

/-- The aggregation, where the bundles are visited in some orders one after another. -/
def visiting (visits : Nat → Bundle.Visit κ ν) : Combiner (Unit × Nat) κ ν ι ο :=
  (Combiner.ofAggregation aggregation).visiting visits

/-- Who begins later with the same orders does the same. -/
theorem resembles_visiting_shift
    (visits : Nat → Bundle.Visit κ ν)
    (visited : Nat) :
    (aggregation.visiting visits).Resembles Eq
      (fun memory other => memory.2 = visited + other.2)
      (aggregation.visiting fun index => visits (visited + index)) where
  key_eq := rfl
  addInput behind current record := ⟨behind, rfl⟩
  collect {memory other} behind bundle output otherOutput _ := by
    simp only [visiting, Combiner.visiting, Combiner.ofAggregation, behind, List.drop_left]
    exact ⟨Nat.add_assoc _ _ _, trivial, fun _ => trivial⟩

/-- The orders in which a bundle is visited make a difference in the order of the outputs. -/
theorem resembles_visiting
    {aggregation : Aggregation κ ν ι ο}
    (ignores : aggregation.IgnoresOrder)
    (visits otherVisits : Nat → Bundle.Visit κ ν) :
    (aggregation.visiting visits).Resembles List.Perm (fun _ _ => True)
      (aggregation.visiting otherVisits) where
  key_eq := rfl
  addInput _ current record := ⟨trivial, rfl⟩
  collect {memory other} _ bundle output otherOutput nodup := by
    have one := (visits memory.2).perm bundle.entries
    have two := (otherVisits other.2).perm bundle.entries
    have distinct : (bundle.visited (visits memory.2)).keys.Nodup :=
      (one.map Prod.fst).nodup_iff.mpr nodup
    obtain ⟨result_eq, outputs⟩ := ignores _ _ (one.trans two.symm) distinct
    simp only [visiting, Combiner.visiting, Combiner.ofAggregation, List.drop_left]
    exact ⟨trivial, result_eq, outputs⟩

end Aggregation

namespace Bench

open Entry

variable {φ ψ κ ν ι ο : Type}

/-! ## Before the opening -/

/-- What can happen to a stage and the broker at which it listens. -/
inductive Happening (ι : Type)
  | start (now : Instant) (subtask : Subtask)
  | stop
  | ask (request : Request ι)
  /-- The stage handles one payload of its subscription. -/
  | listen
  | publish (topic : String) (payload : List UInt8)
  /-- Somebody else subscribes. -/
  | subscribe (topic : String)
  | unsubscribe (subscription : Nat)
  /-- Somebody takes a payload out of a subscription. -/
  | take (subscription : Nat)

/-- What can follow an opening. -/
inductive Sequel (ι : Type)
  | ask (request : Request ι)
  | publish (topic : String) (payload : List UInt8)
  /-- The stage handles one payload of its subscription. -/
  | listen

/-- Two sequels are the same apart from the clock, and do not look at it. -/
inductive Sequel.SameButForClock : Sequel ι → Sequel ι → Prop
  | ask {request other : Request ι} (same : request.SameButForClock other) :
      SameButForClock (.ask request) (.ask other)
  | publish (topic : String) (payload : List UInt8) :
      SameButForClock (.publish topic payload) (.publish topic payload)
  | listen : SameButForClock .listen .listen

/-- How a part of a sequel is answered. -/
structure Answer (κ ν ο : Type) where
  /-- The outputs. -/
  emitted : List ο := []
  /-- The bundles that were flushed, each with its outputs. -/
  flushes : List (Bundle κ ν × List ο) := []
  /-- Whether the call succeeded. -/
  result : Except Error Unit := .ok ()

/-- The answers of a stage to the sequel of its opening. -/
structure Session (φ κ ν ο : Type) where
  /-- What the function remembers, the stage and the broker. -/
  site : φ × Stage κ ν × MemoryBroker
  /-- The answers, the oldest first. -/
  answers : List (Answer κ ν ο) := []

/-- Two answers come out the same.  Both tell that the same bundles were flushed, with outputs
that agree, and that nothing else was emitted. -/
structure Answer.Resembles
    (agree : List ο → List ο → Prop)
    (answer other : Answer κ ν ο) : Prop where
  /-- The results. -/
  result_eq : answer.result = other.result
  /-- The flushes. -/
  flushes : answer.flushes.Forall₂ (fun one two => one.1 = two.1 ∧ agree one.2 two.2)
    other.flushes
  /-- What is emitted are the outputs of the flushes. -/
  emitted_eq : answer.emitted = answer.flushes.flatMap Prod.snd ∧
    other.emitted = other.flushes.flatMap Prod.snd

theorem Answer.Resembles.eq
    {answer other : Answer κ ν ο}
    (resembles : answer.Resembles Eq other) :
    answer = other := by
  have flushes_eq : answer.flushes = other.flushes := by
    refine List.forall₂_eq_eq_eq ▸ resembles.flushes.imp fun one two same => ?_
    exact Prod.ext same.1 same.2
  obtain ⟨emitted_eq, otherEmitted_eq⟩ := resembles.emitted_eq
  rw [flushes_eq, ← otherEmitted_eq] at emitted_eq
  cases answer
  cases other
  exact (mk.injEq ..).mpr ⟨emitted_eq, flushes_eq, resembles.result_eq⟩

variable [DecidableEq κ]

/-- What is left behind a happening. -/
def Happening.apply
    (combiner : Combiner φ κ ν ι ο)
    (site : φ × Stage κ ν × MemoryBroker) : Happening ι → φ × Stage κ ν × MemoryBroker
  | .start now subtask => (site.1, site.2.1.start now subtask site.2.2)
  | .stop => (site.1, site.2.1.stop site.2.2)
  | .ask request =>
      let reached := (serve combiner ⟨site.1, site.2.1, []⟩ request).state
      (reached.memory, reached.stage, site.2.2)
  | .listen => (site.1, site.2.1.listen site.2.2)
  | .publish topic payload => (site.1, site.2.1, (site.2.2.publish topic payload).1)
  | .subscribe topic => (site.1, site.2.1, (site.2.2.subscribe topic).1)
  | .unsubscribe subscription => (site.1, site.2.1, site.2.2.unsubscribe subscription)
  | .take subscription =>
      match site.2.2.tryReceive subscription with
      | .ok (_, broker) => (site.1, site.2.1, broker)
      | .error _ => site

/-- What is left behind a history. -/
def Happening.run
    (combiner : Combiner φ κ ν ι ο)
    (site : φ × Stage κ ν × MemoryBroker)
    (history : List (Happening ι)) : φ × Stage κ ν × MemoryBroker :=
  history.foldl (Happening.apply combiner) site

theorem rooted_apply
    {original : Stage κ ν}
    {site : φ × Stage κ ν × MemoryBroker}
    (combiner : Combiner φ κ ν ι ο)
    (rooted : original.Rooted site.2)
    (happening : Happening ι) :
    original.Rooted (happening.apply combiner site).2 := by
  have isFresh := rooted.isFresh
  cases happening with
  | start now subtask =>
      exact rooted.of_minds (site.2.1.inherits_start now subtask site.2.2)
        (site.2.1.minds_start isFresh now subtask)
  | stop =>
      exact rooted.of_minds (site.2.1.inherits_stop site.2.2) (site.2.1.minds_stop isFresh)
  | ask request =>
      have remains := Stage.remains_serve combiner ⟨site.1, site.2.1, []⟩ request
      refine ⟨rooted.inherits.trans remains.toInherits, isFresh, ?_⟩
      intro id own
      rw [Stage.subscription?, Happening.apply, remains.listening_eq] at own
      exact rooted.lt_nextId id own
  | listen =>
      exact rooted.of_minds (site.2.1.inherits_listen site.2.2) (site.2.1.minds_listen isFresh)
  | publish topic payload =>
      exact rooted.of_broker (MemoryBroker.isFresh_publish isFresh topic payload) (Nat.le_refl _)
  | subscribe topic =>
      exact rooted.of_broker (MemoryBroker.isFresh_subscribe isFresh topic) (Nat.le_succ _)
  | unsubscribe subscription =>
      exact rooted.of_broker (MemoryBroker.isFresh_unsubscribe isFresh subscription)
        (Nat.le_refl _)
  | take subscription =>
      rw [Happening.apply]
      split
      · rename_i payload broker taken
        rcases MemoryBroker.exists_update_of_tryReceive taken with rfl | ⟨changed, rfl⟩
        · exact rooted
        · exact rooted.of_broker (MemoryBroker.isFresh_update isFresh _ changed) (Nat.le_refl _)
      · exact rooted

theorem rooted_run
    {original : Stage κ ν}
    {site : φ × Stage κ ν × MemoryBroker}
    (combiner : Combiner φ κ ν ι ο)
    (rooted : original.Rooted site.2)
    (history : List (Happening ι)) :
    original.Rooted (Happening.run combiner site history).2 := by
  induction history generalizing site with
  | nil => exact rooted
  | cons happening rest inductionHypothesis =>
      exact inductionHypothesis (rooted_apply combiner rooted happening)

/-! ## Behind the opening -/

/-- What is left behind a part of a sequel, and its answer. -/
def Sequel.perform
    (combiner : Combiner φ κ ν ι ο)
    (site : φ × Stage κ ν × MemoryBroker) :
    Sequel ι → (φ × Stage κ ν × MemoryBroker) × Answer κ ν ο
  | .ask request =>
      let bench : Bench φ κ ν ο := ⟨site.1, site.2.1, []⟩
      let attempt := serve combiner bench request
      ((attempt.state.memory, attempt.state.stage, site.2.2),
        ⟨attempt.state.output, Entry.flushes (requestEntries combiner bench request),
          attempt.result⟩)
  | .publish topic payload =>
      ((site.1, site.2.1, (site.2.2.publish topic payload).1), {})
  | .listen => ((site.1, site.2.1.listen site.2.2), {})

/-- The session with one more part of its sequel. -/
def Session.advance
    (combiner : Combiner φ κ ν ι ο)
    (session : Session φ κ ν ο)
    (event : Sequel ι) : Session φ κ ν ο :=
  let (site, answer) := event.perform combiner session.site
  ⟨site, session.answers ++ [answer]⟩

/-- The session from an opening on. -/
def Session.run
    (combiner : Combiner φ κ ν ι ο)
    (site : φ × Stage κ ν × MemoryBroker)
    (events : List (Sequel ι)) : Session φ κ ν ο :=
  events.foldl (Session.advance combiner) ⟨site, []⟩

/-- Two stages mirror each other, and the same waits for both. -/
structure Paired
    (related : φ → ψ → Prop)
    (surplus : Nat)
    (first : φ × Stage κ ν × MemoryBroker)
    (second : ψ × Stage κ ν × MemoryBroker) : Prop where
  /-- What the functions remember. -/
  related : related first.1 second.1
  /-- The stages. -/
  mirrors : Stage.Mirrors surplus first.2.1 second.2.1
  /-- The subscriptions. -/
  inbox_eq : Stage.inbox first.2 = Stage.inbox second.2

section Paired

variable {agree : List ο → List ο → Prop} {related : φ → ψ → Prop} {surplus : Nat}
variable {first : φ × Stage κ ν × MemoryBroker} {second : ψ × Stage κ ν × MemoryBroker}
variable {combiner : Combiner φ κ ν ι ο} {likeness : Combiner ψ κ ν ι ο}

omit [DecidableEq κ] in
theorem Paired.listen (paired : Paired related surplus first second) :
    Paired related surplus (first.1, first.2.1.listen first.2.2)
      (second.1, second.2.1.listen second.2.2) := by
  obtain ⟨handled, left⟩ := Stage.listen_eq first.2
  obtain ⟨otherHandled, otherLeft⟩ := Stage.listen_eq second.2
  refine ⟨paired.related, ?_, by rw [left, otherLeft, paired.inbox_eq]⟩
  rw [handled, otherHandled, paired.inbox_eq]
  cases (Stage.inbox second.2).bind fun subscription =>
      subscription.tryReceive.toOption.bind Prod.fst with
  | none => exact paired.mirrors
  | some payload => exact paired.mirrors.change (.receive payload)

/-- What a request emits are the outputs of its flushes. -/
theorem output_serve
    (combiner : Combiner φ κ ν ι ο)
    (memory : φ)
    (stage : Stage κ ν)
    (request : Request ι) :
    (serve combiner ⟨memory, stage, []⟩ request).state.output =
      (Entry.flushes (requestEntries combiner ⟨memory, stage, []⟩ request)).flatMap Prod.snd :=
  ((moves_serve combiner _ request).output_eq.trans (List.nil_append _)).trans (flatMap_outputs _)

/-- Any part of a sequel that does not look at the clock is answered in the same way. -/
theorem Paired.perform
    (resembles : combiner.Resembles agree related likeness)
    (blank : agree [] [])
    (paired : Paired related surplus first second)
    {event other : Sequel ι}
    (same : event.SameButForClock other) :
    (event.perform combiner first).2.Resembles agree (other.perform likeness second).2 ∧
      Paired related surplus (event.perform combiner first).1
        (other.perform likeness second).1 := by
  cases same with
  | @ask request other same =>
      have mirrors : Mirrors related surplus (⟨first.1, first.2.1, []⟩ : Bench φ κ ν ο)
          ⟨second.1, second.2.1, []⟩ := ⟨paired.related, paired.mirrors⟩
      have agrees := agrees_serve resembles blank mirrors same
      have own := (Stage.remains_serve combiner ⟨first.1, first.2.1, []⟩ request).listening_eq
      have otherOwn :=
        (Stage.remains_serve likeness ⟨second.1, second.2.1, []⟩ other).listening_eq
      refine ⟨⟨agrees.result_eq, agrees.flushed, output_serve .., output_serve ..⟩,
        agrees.mirrors.related, agrees.mirrors.stages, ?_⟩
      have inboxes := paired.inbox_eq
      rw [Stage.inbox, Stage.inbox, Stage.subscription?, Stage.subscription?] at inboxes ⊢
      rw [← own, ← otherOwn] at inboxes
      exact inboxes
  | publish topic payload =>
      refine ⟨⟨rfl, .nil, rfl, rfl⟩, paired.related, paired.mirrors, ?_⟩
      rw [Sequel.perform, Sequel.perform, Stage.inbox_publish, Stage.inbox_publish,
        paired.inbox_eq]
  | listen => exact ⟨⟨rfl, .nil, rfl, rfl⟩, paired.listen⟩

/-- Sequels that do not look at the clock are answered in the same way. -/
theorem Paired.run
    (resembles : combiner.Resembles agree related likeness)
    (blank : agree [] [])
    (paired : Paired related surplus first second)
    {events others : List (Sequel ι)}
    (same : events.Forall₂ Sequel.SameButForClock others) :
    (Session.run combiner first events).answers.Forall₂ (Answer.Resembles agree)
        (Session.run likeness second others).answers ∧
      Paired related surplus (Session.run combiner first events).site
        (Session.run likeness second others).site := by
  have advances {session : Session φ κ ν ο} {otherSession : Session ψ κ ν ο}
      (answers : session.answers.Forall₂ (Answer.Resembles agree) otherSession.answers)
      (paired : Paired related surplus session.site otherSession.site) :
      (events.foldl (Session.advance combiner) session).answers.Forall₂
          (Answer.Resembles agree)
          (others.foldl (Session.advance likeness) otherSession).answers ∧
        Paired related surplus (events.foldl (Session.advance combiner) session).site
          (others.foldl (Session.advance likeness) otherSession).site := by
    induction same generalizing session otherSession with
    | nil => exact ⟨answers, paired⟩
    | cons head _ inductionHypothesis =>
        obtain ⟨answer, next⟩ := paired.perform resembles blank head
        exact inductionHypothesis (List.rel_append answers (.cons answer .nil)) next
  exact advances .nil paired

end Paired

/-! ## The opening -/

omit [DecidableEq κ] in
/-- Stages with the same settings, link and trigger but for the count mirror each other
once they are opened for the same subtask. -/
theorem paired_start
    {related : φ → ψ → Prop}
    {memory : φ}
    {other : ψ}
    (memories : related memory other)
    {first second : Stage κ ν}
    (config_eq : first.config = second.config)
    (link_eq : first.link = second.link)
    (trigger_eq : first.trigger.reset = second.trigger.reset)
    (unflushed : second.flushCount = 0)
    {broker otherBroker : MemoryBroker}
    (isFresh : broker.IsFresh)
    (otherFresh : otherBroker.IsFresh)
    (now otherNow : Instant)
    (subtask : Subtask) :
    Paired related first.flushCount (memory, first.start now subtask broker)
      (other, second.start otherNow subtask otherBroker) := by
  have heard : first.heardTopic? subtask.index = second.heardTopic? subtask.index := by
    rw [Stage.heardTopic?, Stage.heardTopic?, config_eq, link_eq]
  refine ⟨memories, ?_, ?_⟩
  · dsimp only
    rw [Stage.fst_start, Stage.fst_start, heard]
    exact
      { config_eq := config_eq
        subtask_eq := rfl
        bundle_eq := rfl
        nodup := List.nodup_nil
        trigger_eq := trigger_eq
        controller_eq := rfl
        topic?_eq := by
          rw [Stage.topic?, Stage.topic?]
          cases second.heardTopic? subtask.index with
          | none => rfl
          | some topic => rfl
        window_eq := by
          rw [Stage.reopened, Stage.reopened, config_eq]
        length_samples_eq := rfl
        flushCount_eq := by
          rw [Stage.reopened, Stage.reopened, unflushed]
          rfl }
  · rw [Stage.inbox_start _ _ _ isFresh, Stage.inbox_start _ _ _ otherFresh, heard]

omit [DecidableEq κ] in
/-- A stage that was constructed is new, and one is constructed at any other time. -/
theorem constructAround_eq_ok
    {config : Config}
    {trigger : Trigger}
    {link : ControlLink}
    {built : Instant}
    {stage : Stage κ ν}
    (builds : Stage.constructAround config trigger link built = .ok stage) :
    stage = .unopened config trigger link built ∧
      ∀ now, (Stage.constructAround config trigger link now : Except Obstacle (Stage κ ν)) =
        .ok (.unopened config trigger link now) := by
  have valid : config.validate = .ok () := by
    cases checked : config.validate with
    | ok done => rfl
    | error error =>
        rw [Stage.constructAround, Stage.ofTrigger, checked] at builds
        cases builds
  have isValid := Config.validate_eq_ok_iff_isValid.mp valid
  rw [Stage.constructAround_of_isValid isValid] at builds
  split at builds
  · rename_i room
    refine ⟨(Except.ok.inj builds).symm, fun now => ?_⟩
    rw [Stage.constructAround_of_isValid isValid, if_pos room]
  · cases builds

/-- Once it is opened a stage goes on like a new one whose threshold was set to the one in
force, whatever happened before and in whatever orders bundles were visited.  If from the
opening on both stages visit their bundles in the same orders, both answer the same.  If they
visit them in different orders and the function ignores the order, both answer the same but for
the order of the outputs of each flush. -/
theorem goes_on_like_new
    (aggregation : Aggregation κ ν ι ο)
    {config : Config}
    {trigger : Trigger}
    {link : ControlLink}
    {built : Instant}
    {original : Stage κ ν}
    (builds : Stage.constructAround config trigger link built = .ok original)
    (positive : 0 < trigger.maxCount)
    {broker otherBroker : MemoryBroker}
    (isFresh : broker.IsFresh)
    (otherFresh : otherBroker.IsFresh)
    (visits : Nat → Bundle.Visit κ ν)
    (history : List (Happening ι))
    (now otherBuilt otherNow : Instant)
    (subtask : Subtask) :
    let past := Happening.run (aggregation.visiting visits) (((), 0), original, broker) history
    let reopened := past.2.1.start now subtask past.2.2
    ∃ other : Stage κ ν, Stage.constructAround config trigger link otherBuilt = .ok other ∧
      let renewed := (other.setMaxCount past.2.1.trigger.maxCount).1
      let opened := renewed.start otherNow subtask otherBroker
      Stage.StartsAfresh past.2 subtask reopened ∧
      renewed.trigger.maxCount = past.2.1.trigger.maxCount ∧
      ∀ events others : List (Sequel ι), events.Forall₂ Sequel.SameButForClock others →
        let session := Session.run (aggregation.visiting visits) (past.1, reopened) events
        let anew (visits : Nat → Bundle.Visit κ ν) :=
          Session.run (aggregation.visiting visits) (((), 0), opened) others
        let likewise := anew fun index => visits (past.1.2 + index)
        session.answers = likewise.answers ∧
        Paired (fun memory other => memory.2 = past.1.2 + other.2) past.2.1.flushCount
          session.site likewise.site ∧
        (aggregation.IgnoresOrder → ∀ otherVisits : Nat → Bundle.Visit κ ν,
          session.answers.Forall₂ (Answer.Resembles List.Perm) (anew otherVisits).answers ∧
          Paired (fun _ _ => True) past.2.1.flushCount session.site (anew otherVisits).site) := by
  intro past reopened
  obtain ⟨rfl, constructs⟩ := constructAround_eq_ok builds
  have rooted : (Stage.unopened config trigger link built).Rooted past.2 := by
    apply rooted_run (aggregation.visiting visits)
    refine ⟨Stage.Inherits.refl _, isFresh, ?_⟩
    intro id own
    exact absurd own (by simp [Stage.subscription?, Stage.unopened])
  have inherits := rooted.inherits
  have thresholdPositive : past.2.1.trigger.maxCount ≠ 0 :=
    Nat.pos_iff_ne_zero.mp (inherits.maxCount_pos positive)
  refine ⟨.unopened config trigger link otherBuilt, constructs otherBuilt, ?_⟩
  intro renewed opened
  have retuned : renewed =
      { Stage.unopened config trigger link otherBuilt with
        trigger := { trigger with maxCount := past.2.1.trigger.maxCount } } := by
    have set : (trigger.setMaxCount past.2.1.trigger.maxCount).1 =
        { trigger with maxCount := past.2.1.trigger.maxCount } := by
      rw [Trigger.setMaxCount, if_neg thresholdPositive]
    exact congrArg
      (fun trigger => { Stage.unopened config trigger link otherBuilt with trigger }) set
  refine ⟨rooted.startsAfresh now subtask, by rw [retuned], ?_⟩
  intro events others same
  have sameTrigger : past.2.1.trigger.reset = renewed.trigger.reset := by
    rw [retuned, Trigger.reset, Trigger.reset, Trigger.mk.injEq]
    exact ⟨rfl, rfl, inherits.maxTime_eq, inherits.strategy_eq⟩
  have sameConfig : past.2.1.config = renewed.config := by
    rw [retuned]
    exact inherits.config_eq
  have sameLink : past.2.1.link = renewed.link := by
    rw [retuned]
    exact inherits.link_eq
  have unflushed : renewed.flushCount = 0 := by rw [retuned]; rfl
  have paired {related : Unit × Nat → Unit × Nat → Prop} (memories : related past.1 ((), 0)) :
      Paired related past.2.1.flushCount (past.1, reopened) (((), 0), opened) :=
    paired_start memories sameConfig sameLink sameTrigger unflushed rooted.isFresh otherFresh
      now otherNow subtask
  obtain ⟨answers, states⟩ := Paired.run
    (aggregation.resembles_visiting_shift visits past.1.2) rfl (paired rfl) same
  refine ⟨List.forall₂_eq_eq_eq ▸ answers.imp fun _ _ => Answer.Resembles.eq, states, ?_⟩
  intro ignores otherVisits
  exact Paired.run (Aggregation.resembles_visiting ignores visits otherVisits) (.refl [])
    (paired trivial) same

theorem strictLists_ignoresOrder : strictLists.IgnoresOrder := by
  intro bundle other perm _
  have same : (bundle.get? 0).isSome = (other.get? 0).isSome := by
    change bundle.contains 0 = other.contains 0
    rw [Bool.eq_iff_iff, ← Bundle.mem_keys_iff, ← Bundle.mem_keys_iff, Bundle.keys, Bundle.keys]
    exact (perm.map Prod.fst).mem_iff
  simp only [strictLists, same]
  split
  · exact ⟨rfl, fun succeeds => absurd succeeds (by simp)⟩
  · exact ⟨rfl, fun _ => perm⟩

/-- A stage is opened again behind a flush that failed, a threshold that still waits, and a
payload that was not handled.  The flush that follows has two records and no more.  The stage
visits its bundles backwards, and the new one does not. -/
theorem goes_on_like_new_after_failures :
    let trigger : Trigger := ⟨0, 4, none, .global⟩
    let original : Stage Nat (List Nat) := .unopened (.ofCount 4) trigger .broker 0
    let backwards : Nat → Bundle.Visit Nat (List Nat) := fun _ => ⟨List.reverse, List.reverse_perm⟩
    let subtask : Subtask := ⟨"lists", 0, 1⟩
    let topic := (Config.ofCount 4).controlTopic
    let history : List (Happening (Nat × Nat)) :=
      [.start 0 subtask, .ask (.change (.setMaxCount 3)),
        .ask (.batch [⟨2, 2, (0, 5)⟩, ⟨2, 2, (1, 6)⟩]), .ask (.flush 3),
        .ask (.change (.propose 2)), .publish topic (Adjustment.payload 7)]
    let past := Happening.run (strictLists.visiting backwards) (((), 0), original, .empty) history
    let reopened := past.2.1.start 9 subtask past.2.2
    let sequel (now : Instant) : List (Sequel (Nat × Nat)) :=
      [.listen, .ask (.batch [⟨now, now, (1, 7)⟩, ⟨now, now + 1, (2, 8)⟩]),
        .publish topic (Adjustment.payload (-1)), .listen, .ask (.batch [⟨now, now, (1, 9)⟩])]
    let session := Session.run (strictLists.visiting backwards) (past.1, reopened) (sequel 10)
    let anew (other : Stage Nat (List Nat)) (visits : Nat → Bundle.Visit Nat (List Nat)) :=
      Session.run (strictLists.visiting visits)
        (((), 0), (other.setMaxCount 3).1.start 1 subtask .empty) (sequel 2)
    Stage.constructAround (.ofCount 4) trigger .broker 0 = .ok original ∧
      past.1.2 = 1 ∧
      past.2.1.bundle.entries = [(0, [5]), (1, [6])] ∧
      past.2.1.controller.bind (·.tuning.pending) = some 5 ∧
      (Stage.inbox past.2).map Subscription.queue = some [Adjustment.payload 7] ∧
      Stage.StartsAfresh past.2 subtask reopened ∧
      (∃ other : Stage Nat (List Nat),
        Stage.constructAround (.ofCount 4) trigger .broker 1 = .ok other ∧
          session.answers = (anew other backwards).answers ∧
          session.answers.Forall₂ (Answer.Resembles List.Perm)
            (anew other fun _ => .byArrival).answers) ∧
      session.answers.map Answer.emitted = [[], [], [], [], [(2, [8]), (1, [7, 9])]] := by
  intro trigger original backwards subtask topic history past reopened sequel session anew
  have isValid : (Config.ofCount 4).IsValid :=
    Config.validate_eq_ok_iff_isValid.mp (by decide +kernel)
  have builds : Stage.constructAround (.ofCount 4) trigger .broker 0 = .ok original := by
    rw [Stage.constructAround_of_isValid isValid]
    exact if_pos (by decide)
  have threshold : past.2.1.trigger.maxCount = 3 := by decide +kernel
  have same : (sequel 10).Forall₂ Sequel.SameButForClock (sequel 2) :=
    .cons .listen (.cons (.ask (.batch rfl)) (.cons (.publish _ _)
      (.cons .listen (.cons (.ask (.batch rfl)) .nil))))
  obtain ⟨other, buildsOther, afresh, _, goesOn⟩ := goes_on_like_new strictLists builds
    (by decide) MemoryBroker.isFresh_empty MemoryBroker.isFresh_empty backwards history 9 1 1
    subtask
  obtain ⟨likewise, _, otherwise⟩ := goesOn _ _ same
  refine ⟨builds, by decide +kernel, by decide +kernel, by decide +kernel, by decide +kernel,
    afresh, ⟨other, buildsOther, ?_, ?_⟩, by decide +kernel⟩
  · rw [threshold] at likewise
    exact likewise
  · have permuted := (otherwise strictLists_ignoresOrder fun _ => .byArrival).1
    rw [threshold] at permuted
    exact permuted

end Bench
end PreAggregation
