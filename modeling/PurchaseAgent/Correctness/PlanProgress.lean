import PurchaseAgent.Correctness.TaskExecution
import PurchaseAgent.Domain.TaskPlanValidators

/-!
Progress of a plan through the calls that execute it. The journal is all that a
call knows of the ones before, so the loop is followed by what its progress says
about the journal: which steps have succeeded, and how many of them now.
-/

namespace PurchaseAgent

open TaskExecutionJournal

def AgentTask.entries (task : AgentTask) : TaskExecutionJournal := task.journal.getD []

/-- A call of the runner, in an execution that has begun with a journal: its step has not
succeeded, and what it depends on has. -/
structure InOrder (before : TaskExecutionJournal) (invocation : Invocation) : Prop where
  grown : before <+: invocation.task.entries
  pending : invocation.step.stepId ∉ succeededIds invocation.task.entries
  ready : ∀ stepId ∈ invocation.step.dependsOn, stepId ∈ succeededIds invocation.task.entries

/-- How a call of `execute_task_plan` leaves its task. -/
structure CallOutcome (plan : TaskPlan) (maxSteps : Option Nat) (before : TaskExecutionJournal)
    (task : AgentTask) : Prop where
  planned : task.plan = some plan
  journal : before <+: task.entries
  budget : ∀ n ∈ maxSteps,
    (succeededIds task.entries).length ≤ (succeededIds before).length + n
  prepared : task.status = .prepared ↔
    (∀ step ∈ plan.steps, step.stepId ∈ succeededIds task.entries) ∧
      ∀ n ∈ maxSteps, (succeededIds task.entries).length < (succeededIds before).length + n
  ready : task.status = .ready ↔
    ∃ n ∈ maxSteps, (succeededIds task.entries).length = (succeededIds before).length + n

structure CallEnded (plan : TaskPlan) (maxSteps : Option Nat) (before : TaskExecutionJournal)
    (execution : Execution) : Prop where
  invocations : ∀ invocation ∈ execution.invocations, InOrder before invocation
  task : ∀ task ∈ execution.task, CallOutcome plan maxSteps before task

/-- What a progress carries through every part of a step. -/
structure Carried (plan : TaskPlan) (maxSteps : Option Nat) (before : TaskExecutionJournal)
    (progress : ExecutionProgress) : Prop where
  planned : progress.current.plan = some plan
  journal : before <+: progress.journal
  invocations : ∀ invocation ∈ progress.invocations, InOrder before invocation
  count : (succeededIds progress.journal).length =
    (succeededIds before).length + progress.executedSteps
  budget : ∀ n ∈ maxSteps, progress.executedSteps < n

/-- What the loop knows when it has come past the steps `done`. -/
structure Tracked (plan : TaskPlan) (maxSteps : Option Nat) (before : TaskExecutionJournal)
    (done : List TaskPlanStep) (progress : ExecutionProgress) : Prop
    extends Carried plan maxSteps before progress where
  succeeded : ∀ stepId, stepId ∈ progress.succeededSteps ↔ stepId ∈ succeededIds progress.journal
  done : ∀ step ∈ done, step.stepId ∈ progress.succeededSteps

section
variable {plan : TaskPlan} {maxSteps : Option Nat} {before : TaskExecutionJournal}
  {progress : ExecutionProgress} {now : Nat → Time} {step : TaskPlanStep}

theorem succeededIds_entry {journal : TaskExecutionJournal} {outcome : TaskJournalOutcome}
    (unfinished : outcome ≠ .succeeded) (stepId message : String) (timestamp : Time)
    (reasonCode : Option String) :
    succeededIds (appendTaskJournalEntry journal stepId outcome message timestamp reasonCode) =
      succeededIds journal := by
  unfold appendTaskJournalEntry
  rw [succeededIds_append, if_neg unfinished, List.append_nil]

theorem Carried.append (carried : Carried plan maxSteps before progress)
    {outcome : TaskJournalOutcome} (unfinished : outcome ≠ .succeeded) (stepId message : String)
    (reasonCode : Option String) :
    Carried plan maxSteps before (progress.append now stepId outcome message reasonCode) where
  planned := carried.planned
  journal := carried.journal.trans (List.prefix_append _ _)
  invocations := carried.invocations
  count := (congrArg List.length (succeededIds_entry unfinished _ _ _ _)).trans carried.count
  budget := carried.budget

theorem Carried.begin (carried : Carried plan maxSteps before progress) (now : Nat → Time)
    (pending : step.stepId ∉ succeededIds progress.journal)
    (ready : ∀ stepId ∈ step.dependsOn, stepId ∈ succeededIds progress.journal)
    (approval : Option TaskStepApproval) (reasonCode : String) :
    Carried plan maxSteps before (progress.begin now step approval reasonCode) where
  planned := carried.planned
  journal := carried.journal.trans (List.prefix_append _ _)
  invocations invocation member := by
    obtain old | new := List.mem_append.mp member
    · exact carried.invocations invocation old
    · obtain rfl := List.mem_singleton.mp new
      exact ⟨carried.journal, pending, ready⟩
  count := (congrArg List.length (succeededIds_entry TaskJournalOutcome.noConfusion _ _ _ _)).trans
    carried.count
  budget := carried.budget

/-- A failed call leaves the count. -/
theorem Carried.record_failed (carried : Carried plan maxSteps before progress)
    (now : Nat → Time) (step : TaskPlanStep) {result : BrowserStepResult} (failed : ¬ result.succeeded = true) :
    Carried plan maxSteps before (progress.record now step result) ∧
      succeededIds (progress.record now step result).journal = succeededIds progress.journal := by
  have same : succeededIds (progress.record now step result).journal =
      succeededIds progress.journal := by
    rw [ExecutionProgress.record_journal, if_neg failed]
    exact succeededIds_entry TaskJournalOutcome.noConfusion _ _ _ _
  refine ⟨⟨?_, ?_, carried.invocations, ?_, carried.budget⟩, same⟩
  · exact (progress.record_plan now step result).trans carried.planned
  · rw [ExecutionProgress.record_journal]
    exact carried.journal.trans (List.prefix_append _ _)
  · rw [same]
    exact carried.count

/-- A call that succeeds adds its step. -/
theorem Carried.record_succeeded (carried : Carried plan maxSteps before progress)
    (now : Nat → Time) (step : TaskPlanStep) {result : BrowserStepResult} (succeeded : result.succeeded = true) :
    succeededIds (progress.record now step result).journal =
        succeededIds progress.journal ++ [step.stepId] ∧
      (progress.record now step result).current.plan = some plan ∧
      before <+: (progress.record now step result).journal ∧
      (succeededIds (progress.record now step result).journal).length =
        (succeededIds before).length + (progress.executedSteps + 1) := by
  have added : succeededIds (progress.record now step result).journal =
      succeededIds progress.journal ++ [step.stepId] := by
    rw [ExecutionProgress.record_journal, if_pos succeeded, appendTaskJournalEntry, succeededIds_append, if_pos rfl]
  refine ⟨added, (progress.record_plan now step result).trans carried.planned, ?_, ?_⟩
  · rw [ExecutionProgress.record_journal]
    exact carried.journal.trans (List.prefix_append _ _)
  · rw [added, List.length_append, List.length_singleton, carried.count, Nat.add_assoc]

/-- A call that returns no task. -/
theorem CallEnded.lost {invocations : List Invocation}
    (inOrder : ∀ invocation ∈ invocations, InOrder before invocation)
    (error : Option PyException) : CallEnded plan maxSteps before ⟨none, invocations, error⟩ := by
  refine ⟨inOrder, ?_⟩
  intro task impossible
  cases impossible

/-- A call that stops before a step that has not succeeded. -/
theorem Carried.stop (carried : Carried plan maxSteps before progress) (listed : step ∈ plan.steps)
    (pending : step.stepId ∉ succeededIds progress.journal) {status : TaskStatus}
    (unprepared : status ≠ .prepared) (unready : status ≠ .ready)
    (waitingReason : Option UserActionReason) :
    CallEnded plan maxSteps before (progress.stop status waitingReason) := by
  refine ⟨carried.invocations, ?_⟩
  intro task ended
  obtain rfl := Option.some.inj ended
  have count : (succeededIds progress.journal).length =
    (succeededIds before).length + progress.executedSteps := carried.count
  constructor
  · exact carried.planned
  · exact carried.journal
  · intro n bound
    have := carried.budget n bound
    show (succeededIds progress.journal).length ≤ _
    omega
  · constructor
    · intro same
      exact absurd same unprepared
    · intro all
      exact absurd (all.1 step listed) pending
  · constructor
    · intro same
      exact absurd same unready
    · intro used
      obtain ⟨n, bound, same⟩ := used
      have := carried.budget n bound
      have total : (succeededIds progress.journal).length = (succeededIds before).length + n := same
      omega

/-- A call that has come to the end of the plan, or has used up its budget. -/
theorem Tracked.stop_prepared (tracked : Tracked plan maxSteps before plan.steps progress) :
    CallEnded plan maxSteps before (progress.stop .prepared none) := by
  refine ⟨tracked.invocations, ?_⟩
  intro task ended
  obtain rfl := Option.some.inj ended
  have count : (succeededIds progress.journal).length =
    (succeededIds before).length + progress.executedSteps := tracked.count
  have below : ∀ n ∈ maxSteps,
      (succeededIds progress.journal).length < (succeededIds before).length + n := by
    intro n bound
    have := tracked.budget n bound
    omega
  constructor
  · exact tracked.planned
  · exact tracked.journal
  · exact fun n bound => Nat.le_of_lt (below n bound)
  · refine ⟨fun _ => ⟨?_, below⟩, fun _ => rfl⟩
    intro step listed
    exact (tracked.succeeded _).mp (tracked.done step listed)
  · constructor
    · intro same
      cases same
    · intro used
      obtain ⟨n, bound, same⟩ := used
      exact absurd same (Nat.ne_of_lt (below n bound))

theorem stop_ready {n : Nat} (bound : n ∈ maxSteps) (planned : progress.current.plan = some plan)
    (journal : before <+: progress.journal)
    (invocations : ∀ invocation ∈ progress.invocations, InOrder before invocation)
    (used : (succeededIds progress.journal).length = (succeededIds before).length + n) :
    CallEnded plan maxSteps before (progress.stop .ready none) := by
  refine ⟨invocations, ?_⟩
  intro task ended
  obtain rfl := Option.some.inj ended
  have only : ∀ m ∈ maxSteps, m = n := fun m other => Option.some.inj (other.symm.trans bound)
  have total : ∀ m ∈ maxSteps,
      (succeededIds progress.journal).length = (succeededIds before).length + m := by
    intro m other
    rw [only m other]
    exact used
  constructor
  · exact planned
  · exact journal
  · exact fun m other => Nat.le_of_eq (total m other)
  · constructor
    · intro same
      cases same
    · intro all
      exact absurd (total n bound) (Nat.ne_of_lt (all.2 n bound))
  · exact ⟨fun _ => ⟨n, bound, total n bound⟩, fun _ => rfl⟩

/-- A step that has succeeded is passed. -/
theorem Tracked.pass {done : List TaskPlanStep}
    (tracked : Tracked plan maxSteps before done progress)
    (succeeded : step.stepId ∈ progress.succeededSteps) :
    Tracked plan maxSteps before (done ++ [step]) progress := by
  refine ⟨tracked.toCarried, tracked.succeeded, ?_⟩
  intro other member
  obtain old | new := List.mem_append.mp member
  · exact tracked.done other old
  · exact List.mem_singleton.mp new ▸ succeeded

/-- What a step depends on lies before it in the plan. -/
theorem Tracked.dependencies {done rest : List TaskPlanStep}
    (tracked : Tracked plan maxSteps before done progress)
    (accepted : validateStepGraph [] plan.steps = .ok ()) (split : done ++ step :: rest = plan.steps) :
    ∀ stepId ∈ step.dependsOn, stepId ∈ succeededIds progress.journal := by
  intro stepId needed
  obtain impossible | earlier := dependsOn_of_validateStepGraph (split ▸ accepted) stepId needed
  · cases impossible
  · obtain ⟨other, member, rfl⟩ := List.mem_map.mp earlier
    exact (tracked.succeeded _).mp (tracked.done other member)

section
variable {done : List TaskPlanStep} {approval : Option TaskStepApproval} {reasonCode : String}
  {result : BrowserStepResult}

/-- A step that has not succeeded has not succeeded after another entry either. -/
theorem Tracked.unfinished (tracked : Tracked plan maxSteps before done progress)
    (pending : step.stepId ∉ progress.succeededSteps) {outcome : TaskJournalOutcome}
    (other : outcome ≠ .succeeded) (message : String) (timestamp : Time)
    (reasonCode : Option String) :
    step.stepId ∉ succeededIds (appendTaskJournalEntry progress.journal step.stepId outcome
      message timestamp reasonCode) := by
  rw [succeededIds_entry other, ← tracked.succeeded]
  exact pending

/-- A step that is not run ends the call. -/
theorem Tracked.refused (tracked : Tracked plan maxSteps before done progress)
    (listed : step ∈ plan.steps) (pending : step.stepId ∉ progress.succeededSteps)
    {outcome : TaskJournalOutcome} (other : outcome ≠ .succeeded) (message : String)
    (reasonCode : Option String) {status : TaskStatus} (unprepared : status ≠ .prepared)
    (unready : status ≠ .ready) (waitingReason : Option UserActionReason) :
    CallEnded plan maxSteps before
      ((progress.append now step.stepId outcome message reasonCode).stop status waitingReason) :=
  (tracked.toCarried.append other _ _ _).stop listed
    (tracked.unfinished pending other _ _ _) unprepared unready _

theorem Tracked.begin (tracked : Tracked plan maxSteps before done progress) (now : Nat → Time)
    (pending : step.stepId ∉ progress.succeededSteps)
    (ready : ∀ stepId ∈ step.dependsOn, stepId ∈ succeededIds progress.journal)
    (approval : Option TaskStepApproval) (reasonCode : String) :
    Carried plan maxSteps before (progress.begin now step approval reasonCode) :=
  tracked.toCarried.begin now (fun recorded => pending ((tracked.succeeded _).mpr recorded)) ready
    approval reasonCode

theorem begin_succeededIds (progress : ExecutionProgress) (now : Nat → Time) (step : TaskPlanStep)
    (approval : Option TaskStepApproval) (reasonCode : String) :
    succeededIds (progress.begin now step approval reasonCode).journal =
      succeededIds progress.journal :=
  succeededIds_entry TaskJournalOutcome.noConfusion _ _ _ _

/-- A call of the runner that fails ends the call of the executor. -/
theorem Tracked.failed (tracked : Tracked plan maxSteps before done progress)
    (listed : step ∈ plan.steps) (pending : step.stepId ∉ progress.succeededSteps)
    (ready : ∀ stepId ∈ step.dependsOn, stepId ∈ succeededIds progress.journal)
    (failed : ¬ result.succeeded = true) {status : TaskStatus}
    (ended : status = .monitoring ∨ status = .failed) :
    CallEnded plan maxSteps before
      (((progress.begin now step approval reasonCode).record now step result).stop status none) := by
  have started := tracked.begin now pending ready approval reasonCode
  obtain ⟨recorded, same⟩ := started.record_failed now step failed
  refine recorded.stop listed ?_ ?_ ?_ _
  · rw [same]
    exact tracked.unfinished pending TaskJournalOutcome.noConfusion _ _ _
  · rcases ended with rfl | rfl <;> exact TaskStatus.noConfusion
  · rcases ended with rfl | rfl <;> exact TaskStatus.noConfusion

/-- A step that succeeds with the last of the budget. -/
theorem Tracked.paused (tracked : Tracked plan maxSteps before done progress)
    (pending : step.stepId ∉ progress.succeededSteps)
    (ready : ∀ stepId ∈ step.dependsOn, stepId ∈ succeededIds progress.journal)
    (succeeded : result.succeeded = true)
    (used : maxSteps.any (· ≤ progress.executedSteps + 1) = true)
    {succeededSteps : List String} {executedSteps : Nat} :
    CallEnded plan maxSteps before (ExecutionProgress.stop
      { (progress.begin now step approval reasonCode).record now step result with
        succeededSteps := succeededSteps, executedSteps := executedSteps } .ready none) := by
  have started := tracked.begin now pending ready approval reasonCode
  obtain ⟨-, planned, journal, total⟩ := started.record_succeeded now step succeeded
  obtain ⟨n, bound, reached⟩ := (Option.any_eq_true _ _).mp used
  have last : n = progress.executedSteps + 1 :=
    Nat.le_antisymm (of_decide_eq_true reached) (tracked.budget n bound)
  exact stop_ready bound planned journal started.invocations (last ▸ total)

/-- A step that succeeds with budget left. -/
theorem Tracked.next (tracked : Tracked plan maxSteps before done progress)
    (pending : step.stepId ∉ progress.succeededSteps)
    (ready : ∀ stepId ∈ step.dependsOn, stepId ∈ succeededIds progress.journal)
    (succeeded : result.succeeded = true)
    (unused : ¬ maxSteps.any (· ≤ progress.executedSteps + 1) = true) :
    Tracked plan maxSteps before (done ++ [step])
      { (progress.begin now step approval reasonCode).record now step result with
        succeededSteps := step.stepId :: progress.succeededSteps
        executedSteps := progress.executedSteps + 1 } := by
  have started := tracked.begin now pending ready approval reasonCode
  obtain ⟨added, planned, journal, total⟩ := started.record_succeeded now step succeeded
  rw [begin_succeededIds] at added
  refine ⟨⟨planned, journal, started.invocations, total, ?_⟩, ?_, ?_⟩
  · intro n bound
    by_contra reached
    exact unused ((Option.any_eq_true _ _).mpr
      ⟨n, bound, decide_eq_true (Nat.le_of_not_lt reached)⟩)
  · intro stepId
    show stepId ∈ step.stepId :: progress.succeededSteps ↔ stepId ∈ succeededIds
      ((progress.begin now step approval reasonCode).record now step result).journal
    rw [added, List.mem_append, List.mem_singleton, List.mem_cons, tracked.succeeded, or_comm]
  · intro other member
    obtain old | new := List.mem_append.mp member
    · exact List.mem_cons_of_mem _ (tracked.done other old)
    · exact List.mem_singleton.mp new ▸ List.mem_cons_self

end

/-- The loop, from the steps it has come past. -/
theorem Tracked.executeSteps {library : TaskLibrary} {runner : BrowserStepRunner}
    (accepted : validateStepGraph [] plan.steps = .ok ()) (done rest : List TaskPlanStep)
    (split : done ++ rest = plan.steps) (tracked : Tracked plan maxSteps before done progress) :
    CallEnded plan maxSteps before
      (executeSteps library runner now maxSteps plan.version rest progress) := by
  induction rest generalizing done progress with
  | nil =>
      rw [List.append_nil] at split
      exact Tracked.stop_prepared (split ▸ tracked)
  | cons step rest ih =>
      have listed : step ∈ plan.steps := split ▸ List.mem_append_right _ List.mem_cons_self
      have moved : done ++ [step] ++ rest = plan.steps := by simpa using split
      have ready := tracked.dependencies accepted split
      obtain ⟨taken, how, whole⟩ :=
        executeSteps_cons library runner now maxSteps plan.version step rest progress
      rw [whole]
      cases how with
      | skipped succeeded => exact ih (done ++ [step]) moved (tracked.pass succeeded)
      | raised raised => exact .lost tracked.invocations _
      | blocked pending asked unapproved =>
          exact tracked.refused listed pending TaskJournalOutcome.noConfusion _ _
            TaskStatus.noConfusion TaskStatus.noConfusion _
      | denied pending =>
          exact tracked.refused listed pending TaskJournalOutcome.noConfusion _ _
            TaskStatus.noConfusion TaskStatus.noConfusion _
      | @interrupted decision approval reasonCode pending permitted interrupted =>
          exact .lost (tracked.begin now pending ready approval reasonCode).invocations _
      | failed pending permitted returned failed ended =>
          exact tracked.failed listed pending ready failed ended
      | paused pending permitted returned succeeded used =>
          exact tracked.paused pending ready succeeded used
      | succeeded pending permitted returned succeeded unused =>
          exact ih (done ++ [step]) moved (tracked.next pending ready succeeded unused)

end

/-- Tasks that follow one another: a call of `execute_task_plan` with no budget or one of at least
a step, or anything that leaves the plan and the journal, such as an approval. -/
inductive ExecutionRun (library : TaskLibrary) (start : AgentTask) : AgentTask → Prop
  | start : ExecutionRun library start start
  | executed {task : AgentTask} (run : ExecutionRun library start task) (runner : BrowserStepRunner)
      (now : Nat → Time) (maxSteps : Option Nat) (positive : ∀ n ∈ maxSteps, 1 ≤ n)
      {execution : Execution}
      (executed : executeTaskPlan library task runner now maxSteps = .ok execution)
      {after : AgentTask} (returned : after ∈ execution.task) : ExecutionRun library start after
  | resumed {task : AgentTask} (run : ExecutionRun library start task) {after : AgentTask}
      (plan : after.plan = task.plan) (journal : after.journal = task.journal) :
      ExecutionRun library start after

section
variable {library : TaskLibrary} {start task : AgentTask} {plan : TaskPlan}

theorem executeTaskPlan_ended (planned : task.plan = some plan)
    (accepted : validateStepGraph [] plan.steps = .ok ()) {runner : BrowserStepRunner}
    {now : Nat → Time} {maxSteps : Option Nat} (positive : ∀ n ∈ maxSteps, 1 ≤ n)
    {execution : Execution}
    (executed : executeTaskPlan library task runner now maxSteps = .ok execution) :
    CallEnded plan maxSteps task.entries execution := by
  obtain ⟨other, same, -, rfl⟩ := executeTaskPlan_ok executed
  obtain rfl := Option.some.inj (planned.symm.trans same)
  refine Tracked.executeSteps accepted [] plan.steps rfl ⟨⟨planned, ?_, ?_, rfl, positive⟩, ?_, ?_⟩
  · exact List.prefix_refl _
  · intro invocation impossible
    cases impossible
  · exact fun stepId => Iff.rfl
  · intro step impossible
    cases impossible

/-- The plan stays and the journal grows. -/
theorem ExecutionRun.grown (run : ExecutionRun library start task)
    (planned : start.plan = some plan) (accepted : validateStepGraph [] plan.steps = .ok ()) :
    task.plan = some plan ∧ start.entries <+: task.entries := by
  induction run with
  | start => exact ⟨planned, List.prefix_refl _⟩
  | executed _ runner now maxSteps positive executed returned ih =>
      have outcome := (executeTaskPlan_ended ih.1 accepted positive executed).task _ returned
      exact ⟨outcome.planned, ih.2.trans outcome.journal⟩
  | @resumed task _ after plan journal ih =>
      have same : after.entries = task.entries := congrArg (Option.getD · []) journal
      exact ⟨plan.trans ih.1, same ▸ ih.2⟩

/-- What a call does to a task that has come from `start`. -/
structure CallProgress (plan : TaskPlan) (maxSteps : Option Nat) (start task : AgentTask)
    (execution : Execution) : Prop where
  pending : ∀ invocation ∈ execution.invocations,
    invocation.step.stepId ∉ succeededIds start.entries ∧
      invocation.step.stepId ∉ succeededIds invocation.task.entries
  dependencies : ∀ invocation ∈ execution.invocations, ∀ stepId ∈ invocation.step.dependsOn,
    stepId ∈ succeededIds invocation.task.entries
  journal : ∀ after ∈ execution.task, numbered task.entries <+: numbered after.entries
  contiguous : ∀ after ∈ execution.task, (numbered after.entries).map (·.sequence) =
    List.range' 1 (numbered after.entries).length
  budget : ∀ after ∈ execution.task, ∀ n ∈ maxSteps,
    (succeededIds after.entries).length ≤ (succeededIds task.entries).length + n
  prepared : ∀ after ∈ execution.task, after.status = .prepared ↔
    (∀ step ∈ plan.steps, step.stepId ∈ succeededIds after.entries) ∧
      ∀ n ∈ maxSteps, (succeededIds after.entries).length < (succeededIds task.entries).length + n
  ready : ∀ after ∈ execution.task, after.status = .ready ↔
    ∃ n ∈ maxSteps, (succeededIds after.entries).length = (succeededIds task.entries).length + n

end

/-- In every run, a call extends the journal, runs a step once all it depends on have succeeded and
never after it has succeeded itself, keeps to its budget, and leaves the task prepared exactly when
the whole plan has succeeded within that budget. -/
theorem plan_progress (library : TaskLibrary) (start : AgentTask) (plan : TaskPlan)
    (planned : start.plan = some plan) (accepted : validateStepGraph [] plan.steps = .ok ())
    (task : AgentTask) (run : ExecutionRun library start task) (runner : BrowserStepRunner)
    (now : Nat → Time) (maxSteps : Option Nat) (positive : ∀ n ∈ maxSteps, 1 ≤ n)
    (execution : Execution)
    (executed : executeTaskPlan library task runner now maxSteps = .ok execution) :
    CallProgress plan maxSteps start task execution := by
  obtain ⟨kept, grown⟩ := run.grown planned accepted
  have ended := executeTaskPlan_ended kept accepted positive executed
  constructor
  · intro invocation member
    have inOrder := ended.invocations invocation member
    refine ⟨fun recorded => inOrder.pending ?_, inOrder.pending⟩
    exact ((grown.trans inOrder.grown).sublist.filter _).map _ |>.subset recorded
  · exact fun invocation member => (ended.invocations invocation member).ready
  · exact fun after returned => numbered_prefix (ended.task after returned).journal
  · exact fun after _ => numbered_sequences after.entries
  · exact fun after returned => (ended.task after returned).budget
  · exact fun after returned => (ended.task after returned).prepared
  · exact fun after returned => (ended.task after returned).ready

/-! A plan of two steps, which the runner can do, one in a call. -/

namespace TwoSteps

def inspect : TaskPlanStep := { stepId := "inspect_page", action := .readPage, summary := "Inspect" }

def review : TaskPlanStep :=
  { stepId := "review_page", action := .readPage, summary := "Review", dependsOn := ["inspect_page"] }

theorem steps_nodup : ([inspect, review].map (·.stepId)).Nodup := by decide

def plan : TaskPlan := ⟨1, 0, [inspect, review], steps_nodup⟩

def task : AgentTask := { Sample.agentTask with plan := some plan }

def runner : BrowserStepRunner := ⟨fun _ _ _ => .returned { succeeded := true }⟩

/-- The call with a budget. -/
def called (task : AgentTask) (maxSteps : Option Nat) : Execution :=
  executeSteps Sample.taskLibrary runner (fun n => n) maxSteps 1 [inspect, review] (startProgress task)

/-- The task after a call for one step. -/
def half : AgentTask := (called task (some 1)).task.getD task

theorem executed (maxSteps : Option Nat) :
    executeTaskPlan Sample.taskLibrary task runner (fun n => n) maxSteps = .ok (called task maxSteps) := rfl

theorem resumed (maxSteps : Option Nat) :
    executeTaskPlan Sample.taskLibrary half runner (fun n => n) maxSteps = .ok (called half maxSteps) := rfl

theorem half_run : ExecutionRun Sample.taskLibrary task half :=
  .executed .start runner (fun n => n) (some 1) (by decide) (executed (some 1)) rfl

theorem prepared : (called half (some 2)).task.map (·.status) = some .prepared := by decide

end TwoSteps

/-- The second call runs the step that depends on the first one's. -/
theorem plan_progress_resumed :
    CallProgress TwoSteps.plan (some 2) TwoSteps.task TwoSteps.half
      (TwoSteps.called TwoSteps.half (some 2)) :=
  plan_progress Sample.taskLibrary TwoSteps.task TwoSteps.plan rfl rfl TwoSteps.half TwoSteps.half_run
    TwoSteps.runner (fun n => n) (some 2) (by decide) (TwoSteps.called TwoSteps.half (some 2))
    (TwoSteps.resumed (some 2))

/-- The last step succeeds and uses up the budget: the task is ready, not prepared. -/
theorem ready_after_whole_plan :
    ∃ after, executeTaskPlan Sample.taskLibrary TwoSteps.half TwoSteps.runner (fun n => n)
        (some 1) = .ok (TwoSteps.called TwoSteps.half (some 1)) ∧
      (TwoSteps.called TwoSteps.half (some 1)).task = some after ∧
        (∀ step ∈ TwoSteps.plan.steps, step.stepId ∈ succeededIds after.entries) ∧
          after.status ≠ .prepared :=
  ⟨_, TwoSteps.resumed (some 1), rfl, by decide, by decide⟩

end PurchaseAgent
