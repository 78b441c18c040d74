import PreAggregation.Proofs.Operator.Relay
import PreAggregation.Proofs.Stage.Indifference

/-!
# Pipelines

A pipeline is a tree of chains whose leaves turn records into outputs or are stages.  A
chain in one task does what two tasks do behind one another: the same elements are sent
in the same order, and every stage flushes equally often.

A map may visit its entries in any order, and in another one each time.  So a pipeline runs
under some orders of visiting.  Under the same orders one task and two tasks agree element by
element, and whatever can be sent under some orders by one task can be sent by two.
-/

namespace PreAggregation

/-- Operators built from simple ones by chains. -/
inductive Pipeline : Type → Type → Type → Type 1
  | flatMap {ι ο : Type} (f : ι → List ο) : Pipeline Unit ι ο
  /-- The function remembers something from one record to the next. -/
  | remembering {σ ι ο : Type} (f : ι → σ → List ο × σ) : Pipeline σ ι ο
  /-- The function turns a bundle into outputs, whatever has been pushed before.  What it
  remembers is kept with the number of bundles that it has visited. -/
  | stage {φ κ ν ι ο : Type} [DecidableEq κ] (combiner : Combiner φ κ ν ι ο)
      (appends : combiner.Appends) : Pipeline ((φ × Nat) × Stage κ ν × MemoryBroker) ι ο
  | chain {σ τ ι μ ο : Type} (head : Pipeline σ ι μ) (tail : Pipeline τ μ ο) :
      Pipeline (σ × τ) ι ο

namespace Pipeline

/-- For every stage of a pipeline the orders in which it visits one bundle after another. -/
def Orders {σ ι ο : Type} : Pipeline σ ι ο → Type
  | .flatMap _ | .remembering _ => Unit
  | @stage _ κ ν _ _ _ _ _ => Nat → Bundle.Visit κ ν
  | .chain head tail => head.Orders × tail.Orders

/-- The operator that a pipeline is under some orders. -/
def operator {σ ι ο : Type} : (pipeline : Pipeline σ ι ο) → pipeline.Orders → Operator σ ι ο
  | .flatMap f, _ => .flatMap f
  | .remembering f, _ => .remembering f
  | @stage _ _ _ _ _ _ combiner _, visits => Bench.operator (combiner.visiting visits)
  | .chain head tail, orders => (head.operator orders.1).chain (tail.operator orders.2)

/-- How often the stages of a pipeline have flushed, in the order of the stages. -/
def flushCounts {σ ι ο : Type} : Pipeline σ ι ο → σ → List Nat
  | .flatMap _, _ => []
  | .remembering _, _ => []
  | @stage _ _ _ _ _ _ _ _, state => [state.2.1.flushCount]
  | .chain head tail, state => head.flushCounts state.1 ++ tail.flushCounts state.2

/-- Two states of a pipeline that differ in nothing but what the clock and the sessions of
the stages leave in them. -/
def Alike {σ ι ο : Type} : Pipeline σ ι ο → σ → σ → Prop
  | .flatMap _, first, second => first = second
  | .remembering _, first, second => first = second
  | @stage _ _ _ _ _ _ _ _, first, second => Bench.Alike first second
  | .chain head tail, first, second =>
      head.Alike first.1 second.1 ∧ tail.Alike first.2 second.2

variable {σ τ ι μ ο : Type}

theorem indifferent
    (pipeline : Pipeline σ ι ο)
    (orders : pipeline.Orders) :
    (pipeline.operator orders).Indifferent pipeline.Alike := by
  induction pipeline with
  | flatMap f => exact Operator.indifferent_flatMap f
  | remembering f => exact Operator.indifferent_remembering f
  | stage combiner appends =>
      exact Bench.indifferent_operator (Bench.appends_visiting appends orders)
  | chain head tail headIndifferent tailIndifferent =>
      exact Operator.indifferent_chain (headIndifferent orders.1) (tailIndifferent orders.2)

theorem flushCounts_eq
    (pipeline : Pipeline σ ι ο)
    {first second : σ}
    (alike : pipeline.Alike first second) :
    pipeline.flushCounts first = pipeline.flushCounts second := by
  induction pipeline with
  | flatMap f => rfl
  | remembering f => rfl
  | stage combiner appends => exact congrArg (fun count => [count]) alike.stages.flushCount_eq
  | chain head tail headCounts tailCounts =>
      simp only [flushCounts, headCounts alike.1, tailCounts alike.2]

/-- The chain of two pipelines in one task does what both do in two tasks. -/
structure Transparent
    (head : Pipeline σ ι μ)
    (tail : Pipeline τ μ ο) : Prop where
  /-- On the same elements, at whatever times, and under the same orders the chain succeeds
  where both tasks do, and then sends what the second sends, with equally many flushes in every
  stage. -/
  relays : ∀ (orders : (head.chain tail).Orders) (fused first : Task.Shift ι)
      (second : Task.Shift μ) (state : σ × τ) (body : List (Element ι)),
    (∀ element ∈ body, element.isFinished = false) →
    fused.elements = body ++ [.finished] → first.elements = fused.elements →
    second.elements = (first.run (head.operator orders.1) state.1).sent →
    let whole := fused.run ((head.chain tail).operator orders) state
    let former := first.run (head.operator orders.1) state.1
    let latter := second.run (tail.operator orders.2) state.2
    (whole.result = .ok () ↔ former.result = .ok () ∧ latter.result = .ok ()) ∧
    (whole.result = .ok () → whole.sent = latter.sent ∧
      (head.chain tail).flushCounts whole.state =
        head.flushCounts former.state ++ tail.flushCounts latter.state)
  /-- If the bundles are visited in any orders, the chain can send just what two tasks can, with
  the same numbers of flushes. -/
  sends_iff : ∀ (fused first : Task.Shift ι) (state : σ × τ) (body : List (Element ι)),
    (∀ element ∈ body, element.isFinished = false) →
    fused.elements = body ++ [.finished] → first.elements = fused.elements →
    ∀ sent counts,
    (∃ orders,
      let whole := fused.run ((head.chain tail).operator orders) state
      whole.result = .ok () ∧ whole.sent = sent ∧
        (head.chain tail).flushCounts whole.state = counts) ↔
    ∃ headOrders tailOrders, ∃ second : Task.Shift μ,
      let former := first.run (head.operator headOrders) state.1
      let latter := second.run (tail.operator tailOrders) state.2
      second.elements = former.sent ∧ former.result = .ok () ∧ latter.result = .ok () ∧
        latter.sent = sent ∧
        head.flushCounts former.state ++ tail.flushCounts latter.state = counts
  /-- At a timer the tail gets what the head releases before its own hook runs. -/
  timer_eq : ∀ (orders : (head.chain tail).Orders) now domain time (state : σ × τ),
    let released := (head.operator orders.1).timer now domain time state.1
    released.result = .ok () →
    ((head.chain tail).operator orders).timer now domain time state =
      (((tail.operator orders.2).process now released.emitted state.2).andThen
        ((tail.operator orders.2).timer now domain time)).mapState (released.state, ·)
  /-- At the end the tail gets what the head releases before its own hook runs. -/
  finish_eq : ∀ (orders : (head.chain tail).Orders) now (state : σ × τ),
    let released := (head.operator orders.1).finish now state.1
    released.result = .ok () →
    ((head.chain tail).operator orders).finish now state =
      (((tail.operator orders.2).process now released.emitted state.2).andThen
        ((tail.operator orders.2).finish now)).mapState (released.state, ·)

/-- Under the same orders one task succeeds where two tasks do, and sends the same. -/
theorem relays_chain
    (head : Pipeline σ ι μ)
    (tail : Pipeline τ μ ο)
    (orders : (head.chain tail).Orders)
    (fused first : Task.Shift ι)
    (second : Task.Shift μ)
    (state : σ × τ)
    {body : List (Element ι)}
    (unended : ∀ element ∈ body, element.isFinished = false)
    (ends : fused.elements = body ++ [.finished])
    (sameElements : first.elements = fused.elements)
    (carried : second.elements = (first.run (head.operator orders.1) state.1).sent) :
    let whole := fused.run ((head.chain tail).operator orders) state
    let former := first.run (head.operator orders.1) state.1
    let latter := second.run (tail.operator orders.2) state.2
    (whole.result = .ok () ↔ former.result = .ok () ∧ latter.result = .ok ()) ∧
    (whole.result = .ok () → whole.sent = latter.sent ∧
      (head.chain tail).flushCounts whole.state =
        head.flushCounts former.state ++ tail.flushCounts latter.state) := by
  obtain ⟨succeeds_iff, agrees⟩ := Task.relay (head.indifferent orders.1)
    (tail.indifferent orders.2) fused first second state unended ends sameElements carried
  refine ⟨succeeds_iff, ?_⟩
  intro succeeds
  obtain ⟨sent_eq, headRelated, tailRelated⟩ := agrees succeeds
  refine ⟨sent_eq, ?_⟩
  have headCounts := head.flushCounts_eq headRelated
  have tailCounts := tail.flushCounts_eq tailRelated
  exact congrArg₂ (· ++ ·) headCounts tailCounts

/-- Chains are transparent, and the batches of a pipeline can be cut anywhere.  A stage may have
any function that turns bundles into outputs: it may remember things and fail, but what is in
the buffer already makes no difference to it. -/
theorem chain_transparent :
    (∀ {σ τ ι μ ο : Type} (head : Pipeline σ ι μ) (tail : Pipeline τ μ ο),
      head.Transparent tail) ∧
    ∀ {σ ι ο : Type} (pipeline : Pipeline σ ι ο) (orders : pipeline.Orders) (now : Instant)
      (first second : List ι) (state : σ),
      Step.Matches Eq ((pipeline.operator orders).process now (first ++ second) state)
        (((pipeline.operator orders).process now first state).andThen
          ((pipeline.operator orders).process now second)) := by
  refine ⟨?_, fun pipeline orders => (pipeline.indifferent orders).process_append⟩
  intro σ τ ι μ ο head tail
  have idle (orders : tail.Orders) := (tail.indifferent orders).process_nil
  constructor
  case relays =>
    intro orders fused first second state body unended ends sameElements carried
    exact relays_chain head tail orders fused first second state unended ends sameElements carried
  case sends_iff =>
    intro fused first state body unended ends sameElements sent counts
    constructor
    · rintro ⟨orders, succeeds, rfl, rfl⟩
      -- What the first task sends can reach the second at any time.
      let second : Task.Shift μ := ⟨first.subtask, 0, 0,
        (first.run (head.operator orders.1) state.1).sent.map (0, ·)⟩
      have carried : second.elements = (first.run (head.operator orders.1) state.1).sent :=
        List.map_map.trans (List.map_id _)
      obtain ⟨succeeds_iff, agrees⟩ := relays_chain head tail orders fused first second state
        unended ends sameElements carried
      obtain ⟨sent_eq, counts_eq⟩ := agrees succeeds
      obtain ⟨formerOk, latterOk⟩ := succeeds_iff.mp succeeds
      exact ⟨orders.1, orders.2, second, carried, formerOk, latterOk, sent_eq.symm,
        counts_eq.symm⟩
    · rintro ⟨headOrders, tailOrders, second, carried, formerOk, latterOk, rfl, rfl⟩
      obtain ⟨succeeds_iff, agrees⟩ := relays_chain head tail (headOrders, tailOrders) fused first
        second state unended ends sameElements carried
      have succeeds := succeeds_iff.mpr ⟨formerOk, latterOk⟩
      exact ⟨(headOrders, tailOrders), succeeds, agrees succeeds⟩
  case timer_eq =>
    intro orders now domain time state released succeeded
    exact (Operator.handOver_andThen_eq_releasing (idle orders.2) now _ released state.2).trans
      (Step.feeding_of_ok succeeded state.2 _)
  case finish_eq =>
    intro orders now state released succeeded
    exact (Operator.handOver_andThen_eq_releasing (idle orders.2) now _ released state.2).trans
      (Step.feeding_of_ok succeeded state.2 _)

/-- Words are counted in twos, and the counts of each word added up in twos.  The first stage
visits its words backwards.  The end makes both stages flush, and the second adds up the last
count of the first. -/
theorem chain_transparent_counts :
    let counts : Combiner Unit Nat Nat Nat (Nat × Nat) := .ofAggregation (.count id)
    let head := Pipeline.stage counts (Bench.appends_ofAggregation _)
    let tail := Pipeline.stage Bench.numberedSums fun _ _ _ => rfl
    let orders : (head.chain tail).Orders :=
      (fun _ => ⟨List.reverse, List.reverse_perm⟩, fun _ => .byArrival)
    let stage : Stage Nat Nat := .unopened (.ofCount 2) ⟨0, 2, none, .global⟩ .absent 0
    let state := ((((), 0), stage, MemoryBroker.empty), ((0, 0), stage, MemoryBroker.empty))
    let shift (timed : List (Instant × Element Nat)) : Task.Shift Nat :=
      ⟨⟨"words", 0, 1⟩, 0, 99, timed⟩
    let fused := shift [(1, .record 7 none), (2, .record 8 none), (3, .watermark 5),
      (4, .record 7 none), (5, .finished)]
    let second : Task.Shift (Nat × Nat) := ⟨⟨"counts", 0, 1⟩, 10, 99,
      [(12, .record (8, 1) none), (13, .record (7, 1) none), (23, .watermark 5),
        (35, .record (7, 1) none), (35, .finished)]⟩
    let whole := fused.run ((head.chain tail).operator orders) state
    whole.result = .ok () ∧
      whole.sent = [.record (0, 8, 1) none, .record (0, 7, 1) none, .watermark 5,
        .record (1, 7, 1) none, .finished] ∧
      (second.run (tail.operator orders.2) state.2).sent = whole.sent ∧
      (head.chain tail).flushCounts whole.state = [2, 2] := by
  intro counts head tail orders stage state shift fused second whole
  have succeeds : whole.result = .ok () := by decide +kernel
  have carried : second.elements = (fused.run (head.operator orders.1) state.1).sent := by
    decide +kernel
  have agrees := ((chain_transparent.1 head tail).relays orders fused fused second state
    [.record 7 none, .record 8 none, .watermark 5, .record 7 none] (by decide) rfl rfl
    carried).2 succeeds
  exact ⟨succeeds, by decide +kernel, agrees.1.symm, agrees.2.trans (by decide +kernel)⟩

end Pipeline
end PreAggregation
