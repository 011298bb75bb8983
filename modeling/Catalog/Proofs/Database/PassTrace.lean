import Catalog.Proofs.Database.Schedule

/-! Executing a pass refines planning it, whatever the database is and however it answers.
What a pass submits is observed on a database that keeps what it is given.
-/

namespace Catalog

open Outcome

/-- An expression that was given to a database, and the answer to it. -/
structure Submission where
  expr : Expr
  answer : Except Error Expr

/-- An operation was executed as it had been scheduled. -/
def Execution.scheduled (execution : Execution) : Scheduled :=
  ⟨execution.typeName, .ok execution.operation⟩

/-- An operation was executed by one accepted submission. -/
def Execution.submission (execution : Execution) : Submission :=
  ⟨execution.operation.toExpr, .ok execution.response⟩

namespace Database

variable {σ : Type}

/-- The same database, which also keeps its submissions in order. -/
def recording (database : Database σ) : Database (σ × List Submission) where
  execute expr state :=
    let (answer, next) := database.execute expr state.1
    (answer, next, state.2 ++ [⟨expr, answer⟩])

/-- Gives a database one expression after another, whatever it answers: the submissions, and
the state in which they leave it.
-/
def submissions (database : Database σ) : List Expr → σ → List Submission × σ
  | [], state => ([], state)
  | expr :: rest, state =>
    let (answer, next) := database.execute expr state
    let (log, final) := database.submissions rest next
    (⟨expr, answer⟩ :: log, final)

end Database

-----------------------------------------------------------------------------------------
-- How a schedule is worked off
-----------------------------------------------------------------------------------------

/-- A schedule is worked off by the given submissions with the given result. It ends with the
schedule, at the first compilation that fails, or at the first rejection.
-/
inductive Trace : List Scheduled → List Submission → Except Error Report → Prop
  | done : Trace [] [] (.ok [])
  | uncompiled (typeName : String) (error : Error) (rest : List Scheduled)
    : Trace (⟨typeName, .error error⟩ :: rest) [] (.error error)
  | rejected (typeName : String) (operation : Operation) (cause : Error)
    (rest : List Scheduled)
    : Trace (⟨typeName, .ok operation⟩ :: rest) [⟨operation.toExpr, .error cause⟩]
        (.error (.rejected typeName operation.target cause))
  | accepted (execution : Execution) {rest : List Scheduled} {log : List Submission}
    {result : Except Error Report} (trace : Trace rest log result)
    : Trace (execution.scheduled :: rest) (execution.submission :: log)
        (result.map (execution :: ·))

namespace Trace

variable {schedule : List Scheduled} {log : List Submission} {result : Except Error Report}

/-- Each submission is the expression of the operation that is scheduled in its place, by
induction on the trace.
-/
theorem submitted (trace : Trace schedule log result) {place : Nat} {submission : Submission}
    (given : log[place]? = some submission)
    : ∃ typeName operation,
        schedule[place]? = some ⟨typeName, .ok operation⟩
        ∧ submission.expr = operation.toExpr := by
  induction trace generalizing place with
  | done => simp at given
  | uncompiled => simp at given
  | rejected typeName operation cause rest =>
      cases place with
      | zero =>
          obtain rfl := Option.some.inj given
          exact ⟨typeName, operation, rfl, rfl⟩
      | succ place => simp at given
  | accepted execution trace ih =>
      cases place with
      | zero =>
          obtain rfl := Option.some.inj given
          exact ⟨execution.typeName, execution.operation, rfl, rfl⟩
      | succ place => simpa using ih (by simpa using given)

/-- A rejection is the last submission, and the result tells which operation was rejected and
why; by induction on the trace.
-/
theorem rejection (trace : Trace schedule log result) {place : Nat} {expr : Expr}
    {cause : Error} (given : log[place]? = some ⟨expr, .error cause⟩)
    : log.length = place + 1
      ∧ ∃ typeName operation,
          schedule[place]? = some ⟨typeName, .ok operation⟩
          ∧ result = .error (.rejected typeName operation.target cause) := by
  induction trace generalizing place with
  | done => simp at given
  | uncompiled => simp at given
  | rejected typeName operation reason rest =>
      cases place with
      | zero =>
          obtain ⟨rfl, same⟩ := Submission.mk.inj (Option.some.inj given)
          obtain rfl := Except.error.inj same
          exact ⟨rfl, typeName, operation, rfl, rfl⟩
      | succ place => simp at given
  | accepted execution trace ih =>
      cases place with
      | zero => simp [Execution.submission] at given
      | succ place =>
          obtain ⟨last, typeName, operation, scheduled, rfl⟩ := ih (by simpa using given)
          exact ⟨by simp [last], typeName, operation, by simpa using scheduled, rfl⟩

/-- A trace whose submissions are all accepted ends with the schedule or at a compilation that
fails, whose error is the result; by induction on the trace.
-/
theorem exhaustion (trace : Trace schedule log result)
    (accepted : ∀ submission ∈ log, ∃ response, submission.answer = .ok response)
    : log.length = schedule.length ∧ (∃ report, result = .ok report)
      ∨ ∃ typeName error,
          schedule[log.length]? = some ⟨typeName, .error error⟩ ∧ result = .error error := by
  induction trace with
  | done => exact Or.inl ⟨rfl, [], rfl⟩
  | uncompiled typeName error rest => exact Or.inr ⟨typeName, error, rfl, rfl⟩
  | rejected typeName operation cause rest =>
      obtain ⟨response, impossible⟩ := accepted _ (List.mem_singleton_self _)
      simp at impossible
  | accepted execution trace ih =>
      rcases ih fun submission member => accepted submission (List.mem_cons_of_mem _ member) with
        ⟨length, report, rfl⟩ | ⟨typeName, error, scheduled, rfl⟩
      · exact Or.inl ⟨by simp [length], execution :: report, rfl⟩
      · exact Or.inr ⟨typeName, error, by simpa using scheduled, rfl⟩

/-- A successful trace executes the schedule as it stands, one accepted submission for each
operation; by induction on the trace.
-/
theorem reported (trace : Trace schedule log result) {report : Report}
    (success : result = .ok report)
    : schedule = report.map Execution.scheduled ∧ log = report.map Execution.submission := by
  induction trace generalizing report with
  | done =>
      obtain rfl := Except.ok.inj success
      exact ⟨rfl, rfl⟩
  | uncompiled => simp at success
  | rejected => simp at success
  | accepted execution trace ih =>
      obtain ⟨rest, reported, rfl⟩ := map_eq_ok.mp success
      obtain ⟨rfl, rfl⟩ := ih reported
      exact ⟨rfl, rfl⟩

end Trace

namespace Database

variable {σ : Type}

/-- A recording database answers as the database does and appends the submission. -/
theorem recording_execute {database : Database σ} {expr : Expr} {answer : Except Error Expr}
    {state next : σ} (executed : database.execute expr state = (answer, next))
    (before : List Submission)
    : database.recording.execute expr (state, before)
      = (answer, next, before ++ [⟨expr, answer⟩]) := by
  simp only [recording, executed]

/-- The first of several expressions is submitted before the others. -/
theorem submissions_cons {database : Database σ} {expr : Expr} {answer : Except Error Expr}
    {state next final : σ} {log : List Submission} {rest : List Expr}
    (executed : database.execute expr state = (answer, next))
    (submitted : database.submissions rest next = (log, final))
    : database.submissions (expr :: rest) state = (⟨expr, answer⟩ :: log, final) := by
  simp only [submissions, executed, submitted]

/-- An expression after others is submitted to the state in which they leave the database, by
induction on the others.
-/
theorem submissions_concat {database : Database σ} {exprs : List Expr} {log : List Submission}
    {state middle final : σ} {expr : Expr} {answer : Except Error Expr}
    (submitted : database.submissions exprs state = (log, middle))
    (executed : database.execute expr middle = (answer, final))
    : database.submissions (exprs ++ [expr]) state = (log ++ [⟨expr, answer⟩], final) := by
  induction exprs generalizing state log with
  | nil =>
      obtain ⟨rfl, rfl⟩ := Prod.mk.inj submitted
      exact submissions_cons executed rfl
  | cons first rest ih =>
      rcases started : database.execute first state with ⟨response, next⟩
      rcases continued : database.submissions rest next with ⟨others, last⟩
      obtain ⟨rfl, rfl⟩ := Prod.mk.inj ((submissions_cons started continued).symm.trans submitted)
      exact submissions_cons started (ih continued)

/-- Every schedule is worked off by submissions that a recording database keeps, and that leave
the database in the state in which the schedule leaves it; by induction on the schedule.
-/
theorem submitSchedule_trace (database : Database σ) (schedule : List Scheduled) (state : σ)
    : ∃ log,
        Trace schedule log (database.submitSchedule schedule state).1
        ∧ (∀ before,
            database.recording.submitSchedule schedule (state, before)
              = ((database.submitSchedule schedule state).1,
                  (database.submitSchedule schedule state).2, before ++ log))
        ∧ database.submissions (log.map Submission.expr) state
          = (log, (database.submitSchedule schedule state).2) := by
  induction schedule generalizing state with
  | nil => exact ⟨[], .done, by simp [submitSchedule], rfl⟩
  | cons scheduled rest ih =>
      obtain ⟨typeName, compilation⟩ := scheduled
      cases compilation with
      | error error => exact ⟨[], .uncompiled typeName error rest, by simp [submitSchedule], rfl⟩
      | ok operation =>
          rcases executed : database.execute operation.toExpr state with ⟨cause | response, next⟩
          · refine ⟨[⟨operation.toExpr, .error cause⟩], ?_, ?_, ?_⟩
            · rw [submitSchedule_of_rejected executed]
              exact .rejected typeName operation cause rest
            · intro before
              rw [submitSchedule_of_rejected executed,
                submitSchedule_of_rejected (recording_execute executed before)]
            · rw [submitSchedule_of_rejected executed]
              exact submissions_cons executed rfl
          · obtain ⟨log, trace, recorded, submitted⟩ := ih next
            refine ⟨⟨operation.toExpr, .ok response⟩ :: log, ?_, ?_, ?_⟩
            · rw [submitSchedule_of_accepted executed]
              exact .accepted ⟨typeName, operation, response⟩ trace
            · intro before
              rw [submitSchedule_of_accepted executed,
                submitSchedule_of_accepted (recording_execute executed before), recorded,
                List.append_assoc, List.singleton_append]
            · rw [submitSchedule_of_accepted executed]
              exact submissions_cons executed submitted

end Database

-----------------------------------------------------------------------------------------
-- Executing refines planning
-----------------------------------------------------------------------------------------

/-- The submissions and the result of a pass follow its schedule and its plan. -/
structure FollowsPlan (schedule : List Scheduled) (plan : Except Error (List Operation))
    (log : List Submission) (result : Except Error Report)
    : Prop where
  /-- What is submitted is scheduled, each operation once and in its place. -/
  submitted
    : ∀ (place : Nat) (submission : Submission),
        log[place]? = some submission
        → ∃ typeName operation,
            schedule[place]? = some ⟨typeName, .ok operation⟩
            ∧ submission.expr = operation.toExpr
  /-- A rejection is the last submission, and the result names its type, target and cause. -/
  rejection
    : ∀ (place : Nat) (expr : Expr) (cause : Error),
        log[place]? = some ⟨expr, .error cause⟩
        → log.length = place + 1
          ∧ ∃ typeName operation,
              schedule[place]? = some ⟨typeName, .ok operation⟩
              ∧ result = .error (.rejected typeName operation.target cause)
  /-- Without a rejection everything is submitted, up to the first compilation that fails. -/
  exhaustion
    : (∀ submission ∈ log, ∃ response, submission.answer = .ok response)
      → log.length = schedule.length ∧ (∃ report, result = .ok report)
        ∨ ∃ typeName error,
            schedule[log.length]? = some ⟨typeName, .error error⟩ ∧ result = .error error
  /-- The pass succeeds exactly if there is a plan and no submission is rejected. -/
  success
    : (∃ report, result = .ok report)
      ↔ (∃ operations, plan = .ok operations)
        ∧ ∀ submission ∈ log, ∃ response, submission.answer = .ok response
  /-- The report of a success lists the plan, with the type and the response of each operation. -/
  reported
    : ∀ report : Report,
        result = .ok report
        → plan = .ok report.operations
          ∧ schedule = report.map Execution.scheduled
          ∧ log = report.map Execution.submission

/-- A successful trace of a schedule executes the plan: the operations that it reports are those
that were scheduled.
-/
theorem Trace.plan_eq_operations {options : PassOptions} {types : List TypeDeclaration}
    {log : List Submission} {result : Except Error Report} {report : Report}
    (trace : Trace (options.schedule types) log result) (success : result = .ok report)
    : options.plan types = .ok report.operations := by
  rw [options.plan_eq_ok, (trace.reported success).1]
  simp only [Report.operations, List.map_map]
  rfl

/-- A trace of a plan succeeds if nothing is rejected, since no compilation of a plan fails. -/
theorem Trace.success_of_plan {options : PassOptions} {types : List TypeDeclaration}
    {log : List Submission} {result : Except Error Report} {operations : List Operation}
    (trace : Trace (options.schedule types) log result)
    (planned : options.plan types = .ok operations)
    (accepted : ∀ submission ∈ log, ∃ response, submission.answer = .ok response)
    : ∃ report, result = .ok report := by
  rcases trace.exhaustion accepted with ⟨_, success⟩ | ⟨typeName, error, scheduled, _⟩
  · exact success
  · have compiled := congrArg (·[log.length]?) ((options.plan_eq_ok types operations).mp planned)
    simp only [List.getElem?_map, scheduled, Option.map_some] at compiled
    obtain ⟨operation, _, impossible⟩ := Option.map_eq_some_iff.mp compiled.symm
    simp at impossible

/-- A trace of a plan that does not succeed ends with a rejection, since without one it would
succeed.
-/
theorem Trace.rejected_of_plan {options : PassOptions} {types : List TypeDeclaration}
    {log : List Submission} {error : Error} {operations : List Operation}
    (trace : Trace (options.schedule types) log (.error error))
    (planned : options.plan types = .ok operations)
    : ∃ typeName target cause, error = .rejected typeName target cause := by
  by_cases accepted : ∀ submission ∈ log, ∃ response, submission.answer = .ok response
  · obtain ⟨report, impossible⟩ := trace.success_of_plan planned accepted
    nomatch impossible
  · push Not at accepted
    obtain ⟨⟨expr, answer⟩, member, refused⟩ := accepted
    obtain ⟨place, given⟩ := List.mem_iff_getElem?.mp member
    cases answer with
    | ok response => exact (refused response rfl).elim
    | error cause =>
        obtain ⟨_, typeName, operation, _, same⟩ := trace.rejection given
        exact ⟨typeName, operation.target, cause, Except.error.inj same⟩

/-- A pass with a plan fails only because the database rejects an operation. -/
theorem Database.createSchema_fails_of_plan {σ : Type} {database : Database σ}
    {options : PassOptions} {types : List TypeDeclaration} {operations : List Operation}
    (planned : options.plan types = .ok operations) {state : σ} {error : Error}
    (failed : (database.createSchema options types state).1 = .error error)
    : ∃ typeName target cause, error = .rejected typeName target cause := by
  obtain ⟨log, trace, _⟩ := database.submitSchedule_trace (options.schedule types) state
  rw [← createSchema_eq_submitSchedule, failed] at trace
  exact trace.rejected_of_plan planned

/-- Executing a pass refines planning it, for every database, state, options and types.
Witness: the trace of the schedule, which is observed on a recording database and answered as
the database answers the same expressions.
-/
theorem Database.createSchema_refines_plan {σ : Type} (database : Database σ)
    (options : PassOptions) (types : List TypeDeclaration) (state : σ)
    : ∃ result final log,
        database.createSchema options types state = (result, final)
        ∧ database.recording.createSchema options types (state, []) = (result, final, log)
        ∧ database.submissions (log.map Submission.expr) state = (log, final)
        ∧ FollowsPlan (options.schedule types) (options.plan types) log result := by
  obtain ⟨log, trace, recorded, submitted⟩ :=
    database.submitSchedule_trace (options.schedule types) state
  simp only [createSchema_eq_submitSchedule]
  refine ⟨_, _, log, rfl, recorded [], submitted, ?_⟩
  exact {
    submitted := fun _ _ given => trace.submitted given
    rejection := fun _ _ _ given => trace.rejection given
    exhaustion := trace.exhaustion
    success := by
      constructor
      · rintro ⟨report, success⟩
        refine ⟨⟨report.operations, trace.plan_eq_operations success⟩, ?_⟩
        intro submission member
        rw [(trace.reported success).2] at member
        obtain ⟨execution, _, rfl⟩ := List.mem_map.mp member
        exact ⟨execution.response, rfl⟩
      · rintro ⟨⟨operations, planned⟩, accepted⟩
        exact trace.success_of_plan planned accepted
    reported := fun report success =>
      ⟨trace.plan_eq_operations success, trace.reported success⟩
  }

end Catalog
