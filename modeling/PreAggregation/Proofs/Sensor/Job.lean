import PreAggregation.Proofs.Config.Admission
import PreAggregation.Proofs.Sensor.Report
import PreAggregation.Proofs.Stage.Books

/-!
# The courses of a job

In the course of a job each task gets its share of the lines, with ticks and changes of
its threshold at any time between and within them, and then the end.  Whatever the
courses are, and in whatever order the outputs come together, the report counts every
sample of every line once.  A job whose stages cannot have room for their histograms gives no
report.
-/

namespace PreAggregation
namespace Sensor

open Aggregation

/-- What can happen to a task before the end of its lines. -/
inductive Happening
  | line (line : String)
  | tick (time : Int)
  /-- The threshold changes between two lines. -/
  | change (change : Stage.Change)

/-- The state of the operator of a task, with the number of samples that it has handled. -/
abbrev CourseState := Unit × (Stage Id SumCount × MemoryBroker) × Nat

/-- What reaches the task. -/
def Happening.arrival : Happening → Arrival CourseState String
  | .line text => .element (.record text none)
  | .tick time => .tick time
  | .change retuning =>
      .outside fun state => (state.1, (retuning.apply state.2.1.1, state.2.1.2), state.2.2)

/-- The course of a task. -/
structure Course where
  /-- When the operator is opened. -/
  opened : Instant
  /-- What happens before the end, each at its time. -/
  happenings : List (Instant × Happening)
  /-- The changes of the threshold in front of a sample, told by the number of samples
  before it.  They can fall into the middle of a line. -/
  unrest : Nat → List Stage.Change
  /-- When the end arrives. -/
  ended : Instant
  /-- When the operator is closed. -/
  closed : Instant

namespace Course

/-- The arrivals before the end. -/
def body (course : Course) : List (Instant × Arrival CourseState String) :=
  course.happenings.map fun happening => (happening.1, happening.2.arrival)

/-- The lines that the task gets. -/
def lines (course : Course) : List String :=
  Task.records course.body

/-- What the task does. -/
def run
    (course : Course)
    (stage : Stage Id SumCount)
    (subtask : Subtask) : Task.Run CourseState String (Id × SumCount) :=
  Task.run ((Operator.flatMap tokenize).chain (Stage.unsettled (.sumCount Id) course.unrest))
    subtask course.opened course.closed true
    (course.body ++ [(course.ended, .element .finished)]) ((), (stage, .empty), 0)

end Course

/-! ## Tasks -/

theorem infallible_sumCount : (Aggregation.sumCount Id).Infallible :=
  infallible_ofFold Prod.fst _

/-- What the samples of some lines are worth is what the lines are worth. -/
theorem sum_total_tokenize
    (sensor : Id)
    (lines : List String) :
    (lines.map fun line => ((tokenize line).map fun sample =>
        Aggregation.share id sensor ((Aggregation.sumCount Id).key sample, 1)).sum).sum =
      total (fun _ => 1) sensor (samplesOf lines) := by
  rw [samplesOf, List.flatMap, total_flatten, List.map_map]
  rfl

theorem delivers_course
    (course : Course)
    (stage : Stage Id SumCount)
    (subtask : Subtask) :
    Delivers (course.run stage subtask) course.lines := by
  let books (sensor : Id) : Books CourseState (Id × SumCount) Nat :=
    ((Stage.books SumCount.count sensor).within fun state => state.1.1).within Prod.snd
  have harmless (sensor : Id) : ∀ arrival ∈ course.body, arrival.2.Harmless (books sensor) := by
    intro arrival member
    obtain ⟨⟨now, happening⟩, _, rfl⟩ := List.mem_map.mp member
    cases happening with
    | line line => rfl
    | tick time => trivial
    | change change =>
        intro state sound
        have same := change.bundle_apply state.2.1.1
        refine ⟨?_, ?_⟩
        · intro entry among
          apply sound entry
          rw [← same]
          exact among
        · change total SumCount.count sensor (change.apply state.2.1.1).bundle.entries =
            total SumCount.count sensor state.2.1.1.bundle.entries
          rw [same]
  apply delivers_of_settles books (fun _ => rfl) (fun _ _ proper => proper)
  intro sensor
  have accountable := (Stage.accountable_unsettled additive_sumCount infallible_sumCount
    course.unrest sensor).chain_flatMap tokenize
  have settled := Task.settles_run accountable subtask course.opened course.closed course.ended
    (harmless sensor) ((), (stage, .empty), 0)
  rw [← sum_total_tokenize]
  exact settled

/-- A task without changes of its threshold delivers as well. -/
theorem delivers_operator
    (now : Instant)
    (lines : List String)
    (stage : Stage Id SumCount)
    (subtask : Subtask) :
    Delivers
      (Task.run operator subtask now now true (arrivals now lines true) ((), stage, .empty))
      lines := by
  let books (sensor : Id) : Books TaskState (Id × SumCount) Nat :=
    ((Stage.books SumCount.count sensor).within Prod.fst).within Prod.snd
  let body : List (Instant × Arrival TaskState String) :=
    lines.map fun line => (now, .element (.record line none))
  have carried : Task.records body = lines := by
    rw [Task.records, List.filterMap_map]
    exact List.filterMap_some
  apply delivers_of_settles books (fun _ => rfl) (fun _ _ proper => proper)
  intro sensor
  have harmless : ∀ arrival ∈ body, arrival.2.Harmless (books sensor) := by
    intro arrival member
    obtain ⟨line, _, rfl⟩ := List.mem_map.mp member
    rfl
  have accountable := (Stage.accountable_operator additive_sumCount infallible_sumCount
    sensor).chain_flatMap tokenize
  have settled := Task.settles_run accountable subtask now now now harmless ((), (stage, .empty))
  rw [carried] at settled
  rw [← sum_total_tokenize]
  exact settled

/-! ## Jobs -/

/-- What the tasks of a job do, with a stage each. -/
def runs
    (courses : List Course)
    (stage : Stage Id SumCount) : List (Task.Run CourseState String (Id × SumCount)) :=
  courses.zipIdx.map fun (course, index) =>
    course.run stage ⟨"pre-aggregate", index, courses.length⟩

theorem deliver_runs
    (courses : List Course)
    (stage : Stage Id SumCount) :
    List.Forall₂ Delivers (runs courses stage) (courses.map Course.lines) := by
  have numbered (tasks first : Nat) : List.Forall₂ Delivers
      ((courses.zipIdx first).map fun (course, index) =>
        course.run stage ⟨"pre-aggregate", index, tasks⟩)
      (courses.map Course.lines) := by
    induction courses generalizing first with
    | nil => exact .nil
    | cons course rest inductionHypothesis =>
        exact .cons (delivers_course course stage _) (inductionHypothesis (first + 1))
  exact numbered courses.length 0

/-- Tasks that get their shares of the lines do not fail, and the report counts all samples in
whatever order their outputs come together. -/
theorem report_of_courses
    (stage : Stage Id SumCount)
    {lines : List String}
    {courses : List Course}
    (present : courses ≠ [])
    (dealt : courses.map Course.lines =
      (List.range courses.length).map fun index => share courses.length index lines) :
    (∀ run ∈ runs courses stage, run.result = .ok ()) ∧
      ∀ merged, Interleaving ((runs courses stage).map Task.Run.sent) merged →
        ∃ report,
          gather courses.length merged ((runs courses stage).map Task.Run.stats) = .ok report ∧
          report.Counts lines courses.length merged := by
  have length_eq : (runs courses stage).length = courses.length := by
    rw [runs, List.length_map, List.length_zipIdx]
  have deliver := deliver_runs courses stage
  rw [dealt, ← length_eq] at deliver
  refine ⟨?_, ?_⟩
  · intro run member
    obtain ⟨part, delivers⟩ := exists_of_forall₂ deliver member
    exact delivers.succeeds
  · intro merged interleaving
    rw [← length_eq]
    refine report_of_delivers ?_ deliver interleaving
    rw [length_eq]
    exact List.length_pos_of_ne_nil present

/-- A job with valid settings is its tasks, one after another, and what is gathered of them. -/
theorem run_of_valid
    {options : Options}
    (positive : 0 < options.parallelism)
    (valid : options.config.validate = .ok ())
    (now : Instant) :
    run options now =
      ((List.range options.parallelism).mapM fun index =>
        runTask options now index options.source.feed) >>= fun tasks =>
      (gather options.parallelism (tasks.flatMap Task.Run.sent)
        (tasks.map Task.Run.stats)).mapError Obstacle.refused := by
  rw [run, if_neg (Nat.pos_iff_ne_zero.mp positive), valid]
  rfl

/-- A job gives a report that counts all samples of its lines, if stages with its settings can be
constructed. -/
theorem report_of_run
    {options : Options}
    {now : Instant}
    {stage : Stage Id SumCount}
    (positive : 0 < options.parallelism)
    (valid : options.config.validate = .ok ())
    (constructed : Stage.construct options.config options.link now = .ok stage)
    (complete : options.source.feed.complete = true) :
    ∃ report merged, run options now = .ok report ∧
      report.Counts options.source.feed.lines options.parallelism merged := by
  let task (index : Nat) : Task.Run TaskState String (Id × SumCount) :=
    Task.run operator ⟨"pre-aggregate", index, options.parallelism⟩ now now true
      (arrivals now (share options.parallelism index options.source.feed.lines) true)
      ((), stage, .empty)
  have each (index : Nat) : runTask options now index options.source.feed = pure (task index) := by
    rw [runTask, constructed, complete]
    rfl
  let tasks := (List.range options.parallelism).map task
  have length_eq : tasks.length = options.parallelism := by
    rw [List.length_map, List.length_range]
  have deliver : List.Forall₂ Delivers tasks ((List.range tasks.length).map fun index =>
      share tasks.length index options.source.feed.lines) := by
    rw [length_eq, List.forall₂_map_left_iff, List.forall₂_map_right_iff, List.forall₂_same]
    intro index _
    exact delivers_operator now _ stage _
  obtain ⟨report, gathers, counts⟩ := report_of_delivers (length_eq ▸ positive) deliver
    (interleaving_flatten (tasks.map Task.Run.sent))
  rw [length_eq] at gathers counts
  refine ⟨report, _, ?_, counts⟩
  rw [run_of_valid positive valid, funext each, List.mapM_pure]
  exact congrArg (Except.mapError Obstacle.refused) gathers

/-- A job breaks off if a stage with its settings would. -/
theorem run_eq_noRoom
    {options : Options}
    {now : Instant}
    (positive : 0 < options.parallelism)
    (valid : options.config.validate = .ok ())
    (obstructed : (Stage.construct options.config options.link now :
      Except Obstacle (Stage Id SumCount)) = .error .noRoom) :
    run options now = .error .noRoom := by
  obtain ⟨others, parallelism_eq⟩ := Nat.exists_eq_succ_of_ne_zero (Nat.ne_of_gt positive)
  have first : runTask options now 0 options.source.feed = .error .noRoom := by
    rw [runTask, obstructed]
    rfl
  rw [run_of_valid positive valid, parallelism_eq, List.range_succ_eq_map, List.mapM_cons, first]
  rfl

/-- The job with valid settings loses and repeats nothing, if there can be room for the histograms
of its stages.  Whatever happens to the tasks besides their shares of the lines, none fails, and
in whatever order their outputs come together the report counts all samples.  So does the report
of a job whose tasks run one after another.  Without the room a job breaks off. -/
theorem report_counts_all_given_room
    {config : Config}
    (valid : config.validate = .ok ())
    (link : ControlLink)
    (now : Instant) :
    (config.histogramWindow.toNat ≤ Histogram.greatestWindow →
      (∀ (lines : List String) (courses : List Course),
        courses ≠ [] →
        courses.map Course.lines =
          (List.range courses.length).map (fun index => share courses.length index lines) →
        ∃ stage, Stage.construct config link now = .ok stage ∧
          (∀ run ∈ runs courses stage, run.result = .ok ()) ∧
          ∀ merged, Interleaving ((runs courses stage).map Task.Run.sent) merged →
            ∃ report,
              gather courses.length merged ((runs courses stage).map Task.Run.stats) = .ok report ∧
              report.Counts lines courses.length merged) ∧
      ∀ (tasks : Nat) (source : Source),
        0 < tasks → source.feed.complete = true →
        ∃ report merged, run ⟨tasks, config, link, source⟩ now = .ok report ∧
          report.Counts source.feed.lines tasks merged) ∧
    (Histogram.greatestWindow < config.histogramWindow.toNat →
      ∀ (tasks : Nat) (source : Source), 0 < tasks →
        run ⟨tasks, config, link, source⟩ now = .error .noRoom) := by
  have isValid := Config.validate_eq_ok_iff_isValid.mp valid
  refine ⟨fun room => ?_, fun tooLarge tasks source positive => ?_⟩
  · obtain ⟨stage, constructed⟩ : ∃ stage : Stage Id SumCount,
        Stage.construct config link now = .ok stage :=
      Stage.exists_construct_eq isValid room link now
    refine ⟨fun lines courses present dealt => ?_, fun tasks source positive complete => ?_⟩
    · exact ⟨stage, constructed, report_of_courses stage present dealt⟩
    · exact report_of_run positive valid constructed complete
  · exact run_eq_noRoom positive valid (Stage.construct_eq_noRoom isValid tooLarge link now)

/-- Two tasks with a threshold of three.  That of the first changes between its lines and
within the first of them, which holds tokens that are no samples.  Three tasks get four lines
of the pattern. -/
theorem report_counts_all_given_room_two_tasks :
    let courses : List Course :=
      [⟨0, [(1, .line "1;20.5|2;abc||3;1;2|4;-1.5"), (2, .change (.adjust 5)), (3, .tick 3),
          (4, .line "4;2")], fun number => if number = 1 then [.setMaxCount 1] else [], 5, 6⟩,
        ⟨0, [(1, .line "1;3|1;4")], fun _ => [], 2, 3⟩]
    (∃ stage, Stage.construct (.ofCount 3) .absent 0 = .ok stage ∧
      ∀ merged, Interleaving ((runs courses stage).map Task.Run.sent) merged →
        ∃ report, gather 2 merged ((runs courses stage).map Task.Run.stats) = .ok report ∧
          report.samples = 5 ∧ report.lines = 3 ∧
          ∀ entry ∈ report.averages, entry.1 = 1 → entry.2.count = 3) ∧
    ∃ report, run ⟨3, .ofCount 3, .absent, .pattern 4⟩ 0 = .ok report ∧ report.lines = 4 := by
  intro courses
  have valid : (Config.ofCount 3).validate = .ok () := by decide +kernel
  obtain ⟨courses_count, runs_count⟩ := (report_counts_all_given_room valid .absent 0).1 (by decide)
  refine ⟨?_, ?_⟩
  · obtain ⟨stage, constructed, _, merges⟩ := courses_count
      ["1;20.5|2;abc||3;1;2|4;-1.5", "1;3|1;4", "4;2"] courses (by simp [courses])
      (by decide +kernel)
    refine ⟨stage, constructed, ?_⟩
    intro merged interleaving
    obtain ⟨report, gathers, counts⟩ := merges merged interleaving
    refine ⟨report, gathers, ?_, counts.lines_eq, ?_⟩
    · rw [counts.samples_eq]
      decide +kernel
    · intro entry member first
      rw [counts.count_eq entry member, first]
      decide +kernel
  · obtain ⟨report, _, ends, counts⟩ := runs_count 3 (.pattern 4) (by decide) rfl
    exact ⟨report, ends, counts.lines_eq⟩

/-- A job with one task and a source of one line, whose settings are valid, breaks off and gives
no report: its histogram would have to hold more samples than there can be room for. -/
theorem run_breaks_off_without_room :
    let config : Config := { Config.ofCount 1 with histogramWindow := 0xffffffffffffffff }
    let options : Options := ⟨1, config, .absent, .pattern 1⟩
    config.validate = .ok () ∧ options.source.feed.complete = true ∧
      run options 0 = .error .noRoom := by
  intro config options
  have valid : config.validate = .ok () := by decide +kernel
  have isValid : config.IsValid := Config.validate_eq_ok_iff_isValid.mp valid
  exact ⟨valid, rfl, run_eq_noRoom (by decide) valid
    (Stage.construct_eq_noRoom isValid (by decide) .absent 0)⟩

end Sensor
end PreAggregation
