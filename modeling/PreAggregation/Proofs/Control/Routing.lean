import PreAggregation.Proofs.Control.Sessions
import PreAggregation.Proofs.Control.Topics
import Mathlib.Data.List.Nodup

/-!
# What a broker of connections queues

A router answers each event as its history demands.  The table of topics is at every time
an exact account of the live connections that have subscribed.
-/

namespace PreAggregation
namespace Router

/-- The frames that are queued to a connection. -/
def queuedTo
    (connection : Nat)
    (deliveries : List Delivery) : List Frame :=
  (deliveries.filter (·.recipient = connection)).map Delivery.frame

theorem queuedTo_append
    (connection : Nat)
    (first second : List Delivery) :
    queuedTo connection (first ++ second) = queuedTo connection first ++ queuedTo connection second := by
  rw [queuedTo, List.filter_append, List.map_append, queuedTo, queuedTo]

/-- One frame for each of some distinct recipients is one frame for each of them. -/
theorem queuedTo_map
    {recipients : List Nat}
    (distinct : recipients.Nodup)
    (connection : Nat)
    (frame : Frame) :
    queuedTo connection (recipients.map fun recipient => ⟨recipient, frame⟩) =
      if connection ∈ recipients then [frame] else [] := by
  rw [queuedTo, List.filter_map, List.map_map]
  change ((recipients.filter (· = connection)).map fun _ => frame) = _
  rw [List.filter_eq, List.map_replicate]
  by_cases member : connection ∈ recipients
  · rw [if_pos member, List.count_eq_one_of_mem distinct member]
    rfl
  · rw [if_neg member, List.count_eq_zero_of_not_mem member]
    rfl

theorem isLive_iff
    (router : Router)
    (connection : Nat) :
    router.isLive connection = true ↔ connection ∈ router.connections.map Connection.id := by
  rw [isLive, List.any_eq_true, List.mem_map]
  simp only [decide_eq_true_eq]

/-- The connections and the table are those that a history has left. -/
structure Reflects
    (router : Router)
    (past : List Event) : Prop where
  /-- Connections are numbered in the order in which they were accepted. -/
  nextId_eq : router.nextId = accepted past
  /-- The live connections are those with a session. -/
  isLive_eq : ∀ connection, router.isLive connection = (session? past connection).isSome
  /-- The subscribers are the live connections that have subscribed. -/
  mem_subscribers_iff : ∀ topic connection,
    connection ∈ router.subscribers topic ↔ hasSubscribed past connection topic = true
  /-- No connection is listed twice for a topic. -/
  nodup_subscribers : ∀ topic, (router.subscribers topic).Nodup
  /-- No topic is listed twice. -/
  nodup_topics : (router.table.map Prod.fst).Nodup
  /-- A listed topic has subscribers. -/
  ne_nil : ∀ entry ∈ router.table, entry.2 ≠ []

theorem reflects_empty : Reflects empty [] where
  nextId_eq := rfl
  isLive_eq _ := rfl
  mem_subscribers_iff _ _ := by simp [subscribers, empty, hasSubscribed, session?, since?]
  nodup_subscribers _ := List.nodup_nil
  nodup_topics := List.nodup_nil
  ne_nil _ member := absurd member List.not_mem_nil

section Reflects

variable {router : Router} {past : List Event}

theorem Reflects.accept (reflects : Reflects router past) :
    Reflects router.accept.1 (past ++ [.accept]) where
  nextId_eq := by
    rw [accepted_concat, ← reflects.nextId_eq]
    rfl
  isLive_eq connection := by
    have before := reflects.isLive_eq connection
    rw [isLive] at before
    rw [isLive, Router.accept, List.any_append, before, session?_concat, ← reflects.nextId_eq]
    by_cases new : connection = router.nextId
    · simp [new, Event.accepts]
    · have other : ¬router.nextId = connection := fun same => new same.symm
      simp [new, other, Event.ends]
  mem_subscribers_iff topic connection := by
    have before := reflects.mem_subscribers_iff topic connection
    change connection ∈ router.subscribers topic ↔ _
    rw [hasSubscribed_concat]
    simpa only [Event.ends, Event.subscribes, Bool.not_false, Bool.true_and, Bool.and_false,
      Bool.or_false] using before
  nodup_subscribers := reflects.nodup_subscribers
  nodup_topics := reflects.nodup_topics
  ne_nil := reflects.ne_nil

theorem Reflects.disconnect
    (reflects : Reflects router past)
    (ended : Nat) :
    Reflects (router.disconnect ended) (past ++ [.disconnect ended]) where
  nextId_eq := by
    rw [accepted_concat, ← reflects.nextId_eq]
    rfl
  isLive_eq connection := by
    have before := reflects.isLive_eq connection
    rw [isLive] at before
    rw [session?_concat, isLive, Router.disconnect, List.any_filter]
    by_cases same : connection = ended
    · simp [same, Event.accepts, Event.ends]
    · have other : ¬ended = connection := fun equal => same equal.symm
      simp only [Event.accepts, Event.ends, other, decide_false, Bool.false_eq_true, false_and,
        if_false, Option.isSome_map, ← before]
      congr 1
      funext live
      by_cases found : live.id = connection
      · simp [found, same]
      · simp [found]
  mem_subscribers_iff topic connection := by
    rw [subscribers_disconnect reflects.nodup_topics, List.mem_filter,
      reflects.mem_subscribers_iff, hasSubscribed_concat]
    by_cases same : connection = ended
    · simp [same, Event.ends]
    · have other : ¬ended = connection := fun equal => same equal.symm
      simp [same, other, Event.ends, Event.subscribes]
  nodup_subscribers topic := by
    rw [subscribers_disconnect reflects.nodup_topics]
    exact (reflects.nodup_subscribers topic).filter _
  nodup_topics := reflects.nodup_topics.sublist (map_fst_table_disconnect_sublist router ended)
  ne_nil entry member := by
    have kept := (List.mem_filter.mp member).2
    simpa only [Bool.not_eq_true', List.isEmpty_eq_false_iff] using kept

/-- A frame that is no subscription of a live connection leaves nothing behind. -/
theorem Reflects.ignore
    (reflects : Reflects router past)
    {event : Event}
    (accepts : event.accepts = false)
    (ends : ∀ connection, event.ends connection = false)
    (subscribes : ∀ connection topic, router.isLive connection = true →
      event.subscribes connection topic = false) :
    Reflects router (past ++ [event]) where
  nextId_eq := by
    rw [accepted_concat, accepts, reflects.nextId_eq]
    rfl
  isLive_eq connection := by
    rw [session?_concat, accepts, ends, reflects.isLive_eq]
    simp
  mem_subscribers_iff topic connection := by
    rw [hasSubscribed_concat, ends, reflects.mem_subscribers_iff, ← reflects.isLive_eq]
    cases live : router.isLive connection with
    | false => simp
    | true => simp [subscribes connection topic live]
  nodup_subscribers := reflects.nodup_subscribers
  nodup_topics := reflects.nodup_topics
  ne_nil := reflects.ne_nil

theorem Reflects.subscribe
    (reflects : Reflects router past)
    {sender : Nat}
    (live : router.isLive sender = true)
    {frame : Frame}
    (kind : frame.kind = .subscribe) :
    Reflects { router with table := enroll frame.topic sender router.table }
      (past ++ [.handle sender frame]) where
  nextId_eq := by
    rw [accepted_concat, ← reflects.nextId_eq]
    rfl
  isLive_eq connection := by
    have before := reflects.isLive_eq connection
    change router.isLive connection = _
    rw [session?_concat]
    simpa only [Event.accepts, Event.ends, Bool.false_eq_true, false_and, if_false,
      Option.isSome_map] using before
  mem_subscribers_iff topic connection := by
    change connection ∈ listed (enroll frame.topic sender router.table) topic ↔ _
    have before := reflects.mem_subscribers_iff topic connection
    change connection ∈ listed router.table topic ↔ _ at before
    have session := reflects.isLive_eq connection
    rw [mem_listed_enroll, hasSubscribed_concat, ← session, before]
    by_cases same : topic = frame.topic
    · subst same
      by_cases own : connection = sender
      · subst own
        simp [live, kind, Event.ends, Event.subscribes]
      · have other : ¬sender = connection := fun equal => own equal.symm
        simp [own, other, Event.ends, Event.subscribes]
    · have other : ¬frame.topic = topic := fun equal => same equal.symm
      simp [same, other, Event.ends, Event.subscribes]
  nodup_subscribers topic :=
    nodup_listed_enroll reflects.nodup_subscribers frame.topic topic sender
  nodup_topics := nodup_map_fst_enroll reflects.nodup_topics frame.topic sender
  ne_nil entry member := by
    rcases mem_enroll member with old | ⟨_, enrolled⟩
    · exact reflects.ne_nil entry old
    · exact List.ne_nil_of_mem enrolled

theorem Reflects.step
    (reflects : Reflects router past)
    (event : Event) :
    Reflects (router.step event).1 (past ++ [event]) := by
  cases event with
  | accept => exact reflects.accept
  | disconnect ended => exact reflects.disconnect ended
  | handle sender frame =>
      rw [Router.step]
      by_cases live : router.isLive sender = true
      · rw [if_pos live, handle]
        cases kind : frame.kind with
        | subscribe => exact reflects.subscribe live kind
        | publish =>
            exact reflects.ignore rfl (fun _ => rfl) fun _ _ _ => by simp [Event.subscribes, kind]
        | message =>
            exact reflects.ignore rfl (fun _ => rfl) fun _ _ _ => by simp [Event.subscribes, kind]
        | subscribed =>
            exact reflects.ignore rfl (fun _ => rfl) fun _ _ _ => by simp [Event.subscribes, kind]
      · rw [if_neg live]
        apply reflects.ignore rfl fun _ => rfl
        intro connection topic alive
        have other : sender ≠ connection := by
          rintro rfl
          exact live alive
        simp [Event.subscribes, other]

theorem Reflects.queuedTo_step
    (reflects : Reflects router past)
    (event : Event)
    (connection : Nat) :
    queuedTo connection (router.step event).2 = answers past connection event := by
  cases event with
  | accept => rfl
  | disconnect ended => rfl
  | handle sender frame =>
      rw [Router.step, answers, ← reflects.isLive_eq sender]
      by_cases live : router.isLive sender = true
      · rw [if_pos live, if_pos live, handle]
        cases frame.kind with
        | subscribe =>
            by_cases own : sender = connection
            · simp [queuedTo, own]
            · simp [queuedTo, own]
        | publish =>
            have enrolled := reflects.mem_subscribers_iff frame.topic connection
            dsimp only
            rw [queuedTo_map (reflects.nodup_subscribers frame.topic)]
            by_cases member : connection ∈ router.subscribers frame.topic
            · rw [if_pos member, if_pos (enrolled.mp member)]
            · rw [if_neg member, if_neg fun has => member (enrolled.mpr has)]
        | message => rfl
        | subscribed => rfl
      · rw [if_neg live, if_neg live]
        rfl

theorem Reflects.run
    (reflects : Reflects router past)
    (events : List Event) :
    Reflects (router.run events).1 (past ++ events) := by
  induction events generalizing router past with
  | nil => simpa only [Router.run, List.append_nil] using reflects
  | cons event rest inductionHypothesis =>
      have later := inductionHypothesis (reflects.step event)
      rwa [List.append_assoc] at later

theorem Reflects.queuedTo_run
    (reflects : Reflects router past)
    (events : List Event)
    (connection : Nat) :
    queuedTo connection (router.run events).2 = answersAll past connection events := by
  induction events generalizing router past with
  | nil => rfl
  | cons event rest inductionHypothesis =>
      rw [answersAll, ← inductionHypothesis (reflects.step event), ← reflects.queuedTo_step event,
        ← queuedTo_append]
      rfl

end Reflects

end Router
end PreAggregation
