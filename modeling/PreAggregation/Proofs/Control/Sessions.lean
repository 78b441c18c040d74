import PreAggregation.Control.Broker.Router
import Mathlib.Data.List.Induction

/-!
# The history of a broker

What a broker of connections owes to each of them is told by the history of its events
alone: by what has happened since the connection was accepted, as long as it has not
ended.
-/

namespace PreAggregation
namespace Router

/-- Whether an event is a new connection. -/
def Event.accepts : Event → Bool
  | .accept => true
  | .handle _ _ | .disconnect _ => false

/-- Whether an event is the end of a connection. -/
def Event.ends (connection : Nat) : Event → Bool
  | .disconnect other => other = connection
  | .accept | .handle _ _ => false

/-- Whether an event is a subscription of a connection to a topic. -/
def Event.subscribes
    (connection : Nat)
    (topic : String) : Event → Bool
  | .handle sender frame =>
      sender = connection && frame.kind = .subscribe && frame.topic = topic
  | .accept | .disconnect _ => false

/-- How many connections were accepted. -/
def accepted (past : List Event) : Nat :=
  past.countP Event.accepts

/-- What has happened since a connection was accepted. -/
def since? : Nat → List Event → Option (List Event)
  | _, [] => none
  | 0, event :: rest => if event.accepts then some rest else since? 0 rest
  | connection + 1, event :: rest =>
      if event.accepts then since? connection rest else since? (connection + 1) rest

/-- What has happened since a live connection was accepted. -/
def session?
    (past : List Event)
    (connection : Nat) : Option (List Event) :=
  (since? connection past).filter fun events => events.all fun event => !event.ends connection

/-- Whether a connection is live and has subscribed to a topic. -/
def hasSubscribed
    (past : List Event)
    (connection : Nat)
    (topic : String) : Bool :=
  (session? past connection).any fun events => events.any (·.subscribes connection topic)

/-- The frames that a connection is owed for an event. -/
def answers
    (past : List Event)
    (connection : Nat) : Event → List Frame
  | .accept | .disconnect _ => []
  | .handle sender frame =>
      if (session? past sender).isSome then
        match frame.kind with
        | .subscribe =>
            if sender = connection then [{ kind := .subscribed, topic := frame.topic }] else []
        | .publish =>
            if hasSubscribed past connection frame.topic then
              [{ kind := .message, topic := frame.topic, payload := frame.payload }]
            else []
        | .message | .subscribed => []
      else []

/-- The frames that a connection is owed for events behind others. -/
def answersAll
    (past : List Event)
    (connection : Nat) : List Event → List Frame
  | [] => []
  | event :: rest => answers past connection event ++ answersAll (past ++ [event]) connection rest

/-! ## One more event -/

variable (past : List Event) (event : Event) (connection : Nat)

theorem accepted_concat :
    accepted (past ++ [event]) = accepted past + if event.accepts then 1 else 0 := by
  rw [accepted, List.countP_append, List.countP_singleton, accepted]

theorem since?_concat :
    since? connection (past ++ [event]) =
      if event.accepts ∧ connection = accepted past then some []
      else (since? connection past).map (· ++ [event]) := by
  induction past generalizing connection with
  | nil =>
      cases connection with
      | zero => cases event <;> rfl
      | succ earlier => cases event <;> rfl
  | cons first rest inductionHypothesis =>
      rw [List.cons_append]
      cases accepts : first.accepts with
      | true =>
          have one_more : accepted (first :: rest) = accepted rest + 1 := by
            rw [accepted, List.countP_cons_of_pos accepts, accepted]
          cases connection with
          | zero => simp [since?, accepts, one_more]
          | succ earlier => simp [since?, accepts, one_more, inductionHypothesis]
      | false =>
          have no_more : accepted (first :: rest) = accepted rest := by
            rw [accepted, List.countP_cons_of_neg (by simp [accepts]), accepted]
          cases connection with
          | zero => simp [since?, accepts, no_more, inductionHypothesis]
          | succ earlier => simp [since?, accepts, no_more, inductionHypothesis]

theorem isSome_since?_iff :
    (since? connection past).isSome ↔ connection < accepted past := by
  induction past using List.reverseRecOn with
  | nil => simp [since?, accepted]
  | append_singleton rest event inductionHypothesis =>
      rw [since?_concat, accepted_concat]
      by_cases accepts : event.accepts = true
      · by_cases new : connection = accepted rest
        · simp [accepts, new]
        · rw [if_neg fun both => new both.2, Option.isSome_map, inductionHypothesis, if_pos accepts]
          omega
      · rw [if_neg fun both => accepts both.1, Option.isSome_map, inductionHypothesis,
          if_neg accepts]
        rfl

theorem session?_accepted : session? past (accepted past) = none := by
  have future : since? (accepted past) past = none := by
    rw [← Option.not_isSome_iff_eq_none, isSome_since?_iff]
    exact Nat.lt_irrefl _
  rw [session?, future]
  rfl

/-- A session begins with its connection, and goes on up to its end. -/
theorem session?_concat :
    session? (past ++ [event]) connection =
      if event.accepts ∧ connection = accepted past then some []
      else if event.ends connection then none
      else (session? past connection).map (· ++ [event]) := by
  rw [session?, since?_concat]
  by_cases new : event.accepts ∧ connection = accepted past
  · rw [if_pos new, if_pos new]
    rfl
  · rw [if_neg new, if_neg new, session?]
    cases since? connection past with
    | none => simp
    | some events =>
        by_cases ends : event.ends connection = true
        · simp [Option.filter, ends]
        · by_cases live : (events.all fun event => !event.ends connection) = true
          · rw [if_neg ends]
            simp_all [Option.filter]
          · rw [if_neg ends]
            simp_all [Option.filter]

/-- Only live connections subscribe. -/
theorem hasSubscribed_concat (topic : String) :
    hasSubscribed (past ++ [event]) connection topic =
      (!event.ends connection &&
        (hasSubscribed past connection topic ||
          (session? past connection).isSome && event.subscribes connection topic)) := by
  unfold hasSubscribed
  rw [session?_concat]
  by_cases new : event.accepts ∧ connection = accepted past
  · rw [if_pos new, new.2, session?_accepted]
    simp
  · rw [if_neg new]
    by_cases ends : event.ends connection = true
    · simp [ends]
    · cases session? past connection with
      | none => simp [ends]
      | some events => simp [ends, List.any_append]

theorem answersAll_append
    (past : List Event)
    (connection : Nat)
    (first second : List Event) :
    answersAll past connection (first ++ second) =
      answersAll past connection first ++ answersAll (past ++ first) connection second := by
  induction first generalizing past with
  | nil => rw [List.nil_append, List.append_nil, answersAll, List.nil_append]
  | cons event rest inductionHypothesis =>
      rw [List.cons_append, answersAll, inductionHypothesis, answersAll, List.append_assoc,
        List.append_assoc, List.singleton_append]

/-! ## Sessions -/

variable {past connection}

theorem lt_accepted_of_isSome_session?
    (live : (session? past connection).isSome = true) :
    connection < accepted past := by
  rw [← isSome_since?_iff]
  obtain ⟨events, found⟩ := Option.isSome_iff_exists.mp live
  rw [session?, Option.filter_eq_some_iff] at found
  exact Option.isSome_of_eq_some found.1

theorem isSome_session?_of_hasSubscribed
    {topic : String}
    (has : hasSubscribed past connection topic = true) :
    (session? past connection).isSome = true := by
  unfold hasSubscribed at has
  cases found : session? past connection with
  | none => simp [found] at has
  | some events => rfl

end Router
end PreAggregation
