import PurchaseAgent.Services.TaskPlanner

/-!
Execution of a plan, step by step, up to the first step that needs the user.
-/

namespace PurchaseAgent

structure BrowserStepResult where
  succeeded : Bool
  reasonCode : Option String := none
  pageSnapshot : Option BrowserPageSnapshot := none
  pageFillPlan : Option PageFillPlan := none

/-- How a call of the runner ends. What is no `Exception`, such as a cancellation,
interrupts the execution too. -/
inductive StepOutcome where
  | returned (result : BrowserStepResult)
  | raised
  | interrupted

/-- The result that the loop goes on with; an exception makes one of its own. -/
def StepOutcome.result? : StepOutcome → Option BrowserStepResult
  | .returned result => some result
  | .raised => some { succeeded := false, reasonCode := some "browser_step_exception" }
  | .interrupted => none

/-- The runner at its successive calls. -/
structure BrowserStepRunner where
  run : Nat → AgentTask → TaskPlanStep → StepOutcome

/-- A call of the runner, with the task as it stood before the step. -/
structure Invocation where
  task : AgentTask
  step : TaskPlanStep

/-- `append_task_journal_entry`. Plan and journal belong to the task, and the step
to the plan. -/
def appendTaskJournalEntry (journal : TaskExecutionJournal) (stepId : String)
    (outcome : TaskJournalOutcome) (message : String) (timestamp : Time)
    (reasonCode : Option String) : TaskExecutionJournal :=
  journal ++ [⟨timestamp, stepId, outcome, message, reasonCode⟩]

/-- The approval that a step finds. -/
def approvalFor (task : AgentTask) (planVersion : Nat) (stepId reason : String) :
    Option TaskStepApproval :=
  task.approvals.find? fun item =>
    item.planVersion = planVersion ∧ item.stepId = stepId ∧ item.reason = reason ∧
      item.consumedAt = none

/-- The approvals once the one that a step has found, if any, is consumed. -/
def consumeApproval (approvals : List TaskStepApproval) (startedAt : Time) :
    Option TaskStepApproval → List TaskStepApproval
  | none => approvals
  | some approval =>
    approvals.map fun item =>
      if item.approvalId = approval.approvalId then { approval with consumedAt := some startedAt }
      else item

/-- What an execution has come to: the task it carries, the steps that have
succeeded, how many of them now, how often it has read the clock, and the calls
of the runner. -/
structure ExecutionProgress where
  current : AgentTask
  succeededSteps : List String
  executedSteps : Nat
  readings : Nat
  invocations : List Invocation

namespace ExecutionProgress

/-- The journal of the execution is that of its task. -/
def journal (progress : ExecutionProgress) : TaskExecutionJournal :=
  progress.current.journal.getD []

def append (progress : ExecutionProgress) (now : Nat → Time) (stepId : String)
    (outcome : TaskJournalOutcome) (message : String) (reasonCode : Option String) :
    ExecutionProgress :=
  { progress with
    current := { progress.current with
      journal := some (appendTaskJournalEntry progress.journal stepId outcome message
        (now progress.readings) reasonCode) }
    readings := progress.readings + 1 }

/-- The reading of the clock, the consumed approval and the entry before a call. -/
def begin (progress : ExecutionProgress) (now : Nat → Time) (step : TaskPlanStep)
    (approval : Option TaskStepApproval) (reasonCode : String) : ExecutionProgress :=
  let startedAt := now progress.readings
  { progress with
    current := { progress.current with
      approvals := consumeApproval progress.current.approvals startedAt approval
      journal := some (appendTaskJournalEntry progress.journal step.stepId .started
        "Browser step started" startedAt (some reasonCode)) }
    readings := progress.readings + 1
    invocations := progress.invocations ++ [⟨progress.current, step⟩] }

/-- The entry after a call, and what its result leaves on the task. -/
def record (progress : ExecutionProgress) (now : Nat → Time) (step : TaskPlanStep)
    (result : BrowserStepResult) : ExecutionProgress :=
  let progress := progress.append now step.stepId
    (if result.succeeded then .succeeded else .failed)
    (if result.succeeded then "Browser step completed" else "Browser step failed")
    result.reasonCode
  let current := progress.current
  let current := match result.pageSnapshot with
    | none => current
    | some snapshot => { current with pageSnapshot := some snapshot, pageFillPlan := none }
  let current := match result.pageFillPlan with
    | none => current
    | some fillPlan => { current with pageFillPlan := some fillPlan }
  { progress with current := current }

end ExecutionProgress

/-- The task that an execution returns, if it returns, the calls it made, and the
exception that the policy has raised on a step. -/
structure Execution where
  task : Option AgentTask
  invocations : List Invocation
  error : Option PyException

def ExecutionProgress.stop (progress : ExecutionProgress) (status : TaskStatus)
    (waitingReason : Option UserActionReason) : Execution :=
  ⟨some { progress.current with status := status, waitingReason := waitingReason },
    progress.invocations, none⟩

/-- The loop of `execute_task_plan` over the steps of a plan of that version. -/
def executeSteps (library : TaskLibrary) (runner : BrowserStepRunner) (now : Nat → Time)
    (maxSteps : Option Nat) (planVersion : Nat) :
    List TaskPlanStep → ExecutionProgress → Execution
  | [], progress => progress.stop .prepared none
  | step :: rest, progress =>
    if step.stepId ∈ progress.succeededSteps then
      executeSteps library runner now maxSteps planVersion rest progress
    else
      match evaluateBrowserAction library progress.current step.toActionRequest with
      | .error error => ⟨none, progress.invocations, some error⟩
      | .ok decision =>
        let approval := approvalFor progress.current planVersion step.stepId decision.reason
        let approved := decision.requiresUser ∧ approval.isSome
        if decision.requiresUser ∧ ¬ approved then
          (progress.append now step.stepId .blocked "Execution paused for a required user action"
            (some decision.reason)).stop .waitingForUser (UserActionReason.ofValue? decision.reason)
        else if ¬ decision.allowed ∧ ¬ approved then
          (progress.append now step.stepId .failed "Execution denied by the task permission policy"
            (some decision.reason)).stop .failed none
        else
          let started := progress.begin now step approval
            (if approved then "user_approved" else decision.reason)
          match (runner.run progress.invocations.length started.current step).result? with
          | none => ⟨none, started.invocations, none⟩
          | some result =>
            let recorded := started.record now step result
            if ¬ result.succeeded then
              recorded.stop
                (if result.reasonCode = some "review_action_not_available" then .monitoring
                  else .failed) none
            else
              let progress := { recorded with
                succeededSteps := step.stepId :: recorded.succeededSteps
                executedSteps := recorded.executedSteps + 1 }
              if maxSteps.any (· ≤ progress.executedSteps) then progress.stop .ready none
              else executeSteps library runner now maxSteps planVersion rest progress

/-- `execute_task_plan`, with the message of its `TaskExecutionError`. -/
def executeTaskPlan (library : TaskLibrary) (task : AgentTask) (runner : BrowserStepRunner)
    (now : Nat → Time) (maxSteps : Option Nat) : Except String Execution :=
  match task.plan with
  | none => .error "task must have a plan before execution"
  | some plan =>
    if task.status ∉ [TaskStatus.ready, .running] then
      .error ("task in " ++ task.status.value ++ " state cannot be executed")
    else
      let journal := task.journal.getD []
      .ok (executeSteps library runner now maxSteps plan.version plan.steps {
        current := { task with
          status := .running, waitingReason := none, journal := some journal }
        succeededSteps := (journal.filter (·.outcome = .succeeded)).map (·.stepId)
        executedSteps := 0
        readings := 0
        invocations := [] })

end PurchaseAgent
