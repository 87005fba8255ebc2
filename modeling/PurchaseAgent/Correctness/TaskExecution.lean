import PurchaseAgent.Services.TaskExecutor

/-!
What one step of an execution can do, and what therefore holds when the execution
has ended.
-/

namespace PurchaseAgent

theorem StepOutcome.result?_eq_none {outcome : StepOutcome} (h : outcome.result? = none) :
    outcome = .interrupted := by
  cases outcome with
  | returned result => cases h
  | raised => cases h
  | interrupted => rfl

/-- A step may run: the policy allows it, or what the policy asks of the user has
been approved. -/
structure Permitted (library : TaskLibrary) (task : AgentTask) (planVersion : Nat)
    (step : TaskPlanStep) (decision : PermissionDecision) (approval : Option TaskStepApproval) :
    Prop where
  decided : evaluateBrowserAction library task step.toActionRequest = .ok decision
  found : approvalFor task planVersion step.stepId
    decision.reason = approval
  allowed : decision.allowed = true ∨ approval.isSome

/-- How a step goes: it ends the execution, or leaves a progress to go on with. -/
inductive StepTaken (library : TaskLibrary) (runner : BrowserStepRunner) (now : Nat → Time)
    (maxSteps : Option Nat) (planVersion : Nat) (step : TaskPlanStep)
    (progress : ExecutionProgress) : Execution ⊕ ExecutionProgress → Prop
  | skipped (done : step.stepId ∈ progress.succeededSteps) :
      StepTaken library runner now maxSteps planVersion step progress (.inr progress)
  | raised {error : PyException}
      (raised : evaluateBrowserAction library progress.current step.toActionRequest =
        .error error) :
      StepTaken library runner now maxSteps planVersion step progress
        (.inl ⟨none, progress.invocations, some error⟩)
  | blocked {reason : UserActionReason}
      (pending : step.stepId ∉ progress.succeededSteps)
      (asked : evaluateBrowserAction library progress.current step.toActionRequest =
        .ok (.user reason))
      (unapproved : approvalFor progress.current planVersion step.stepId reason.value = none) :
      StepTaken library runner now maxSteps planVersion step progress
        (.inl ((progress.append now step.stepId .blocked
          "Execution paused for a required user action" (some reason.value)).stop .waitingForUser
          (some reason)))
  | denied {reasonCode : String} (pending : step.stepId ∉ progress.succeededSteps) :
      StepTaken library runner now maxSteps planVersion step progress
        (.inl ((progress.append now step.stepId .failed
          "Execution denied by the task permission policy" (some reasonCode)).stop .failed none))
  | interrupted {decision : PermissionDecision} {approval : Option TaskStepApproval}
      {reasonCode : String} (pending : step.stepId ∉ progress.succeededSteps)
      (permitted : Permitted library progress.current planVersion step decision approval)
      (interrupted : runner.run progress.invocations.length
        (progress.begin now step approval reasonCode).current step = .interrupted) :
      StepTaken library runner now maxSteps planVersion step progress
        (.inl ⟨none, (progress.begin now step approval reasonCode).invocations, none⟩)
  | failed {decision : PermissionDecision} {approval : Option TaskStepApproval}
      {reasonCode : String} {result : BrowserStepResult} {status : TaskStatus}
      (pending : step.stepId ∉ progress.succeededSteps)
      (permitted : Permitted library progress.current planVersion step decision approval)
      (returned : (runner.run progress.invocations.length
        (progress.begin now step approval reasonCode).current step).result? = some result)
      (failed : ¬ result.succeeded = true) (ended : status = .monitoring ∨ status = .failed) :
      StepTaken library runner now maxSteps planVersion step progress
        (.inl (((progress.begin now step approval reasonCode).record now step result).stop status
          none))
  | paused {decision : PermissionDecision} {approval : Option TaskStepApproval}
      {reasonCode : String} {result : BrowserStepResult}
      (pending : step.stepId ∉ progress.succeededSteps)
      (permitted : Permitted library progress.current planVersion step decision approval)
      (returned : (runner.run progress.invocations.length
        (progress.begin now step approval reasonCode).current step).result? = some result)
      (succeeded : result.succeeded = true)
      (used : maxSteps.any (· ≤ progress.executedSteps + 1) = true) :
      StepTaken library runner now maxSteps planVersion step progress
        (.inl (ExecutionProgress.stop
          { (progress.begin now step approval reasonCode).record now step result with
            succeededSteps := step.stepId :: progress.succeededSteps
            executedSteps := progress.executedSteps + 1 } .ready none))
  | succeeded {decision : PermissionDecision} {approval : Option TaskStepApproval}
      {reasonCode : String} {result : BrowserStepResult}
      (pending : step.stepId ∉ progress.succeededSteps)
      (permitted : Permitted library progress.current planVersion step decision approval)
      (returned : (runner.run progress.invocations.length
        (progress.begin now step approval reasonCode).current step).result? = some result)
      (succeeded : result.succeeded = true)
      (unused : ¬ maxSteps.any (· ≤ progress.executedSteps + 1) = true) :
      StepTaken library runner now maxSteps planVersion step progress
        (.inr
          { (progress.begin now step approval reasonCode).record now step result with
            succeededSteps := step.stepId :: progress.succeededSteps
            executedSteps := progress.executedSteps + 1 })

/-- A decision that needs the user gives one of the user's reasons. -/
theorem evaluate_shape {library : TaskLibrary} {task : AgentTask} {request : BrowserActionRequest}
    {decision : PermissionDecision}
    (decided : evaluateBrowserAction library task request = .ok decision) :
    (∃ reason, decision = .user reason) ∨ decision.requiresUser = false := by
  simp only [evaluateBrowserAction, evaluateNavigation] at decided
  repeat' split at decided
  all_goals cases decided
  all_goals first
    | exact .inl ⟨_, rfl⟩
    | exact .inr rfl

theorem executeSteps_cons (library : TaskLibrary) (runner : BrowserStepRunner) (now : Nat → Time)
    (maxSteps : Option Nat) (planVersion : Nat) (step : TaskPlanStep) (rest : List TaskPlanStep)
    (progress : ExecutionProgress) :
    ∃ taken, StepTaken library runner now maxSteps planVersion step progress taken ∧
      executeSteps library runner now maxSteps planVersion (step :: rest) progress =
        taken.elim id (executeSteps library runner now maxSteps planVersion rest) := by
  rw [executeSteps]
  by_cases pending : step.stepId ∈ progress.succeededSteps
  · exact ⟨.inr progress, .skipped pending, by simp only [pending, if_true]; rfl⟩
  · simp only [pending, if_false]
    cases decided : evaluateBrowserAction library progress.current step.toActionRequest with
    | error error => exact ⟨_, .raised decided, rfl⟩
    | ok decision => ?_
    dsimp only
    generalize found :
      approvalFor progress.current planVersion step.stepId decision.reason = approval
    by_cases asked : decision.requiresUser = true ∧
        ¬ (decision.requiresUser = true ∧ approval.isSome = true)
    · obtain ⟨reason, rfl⟩ : ∃ reason, decision = .user reason := by
        rcases evaluate_shape decided with user | free
        · exact user
        · rw [asked.1] at free
          cases free
      have unapproved : approval = none := by
        cases approval with
        | none => rfl
        | some item => exact absurd ⟨asked.1, rfl⟩ asked.2
      refine ⟨_, .blocked pending decided (found.trans unapproved), ?_⟩
      rw [if_pos asked]
      simp only [PermissionDecision.user, UserActionReason.ofValue?_value, Sum.elim_inl, id]
    · rw [if_neg asked]
      by_cases refused : ¬ decision.allowed = true ∧
          ¬ (decision.requiresUser = true ∧ approval.isSome = true)
      · exact ⟨_, .denied pending, by rw [if_pos refused]; rfl⟩
      · rw [if_neg refused]
        have permitted :
            Permitted library progress.current planVersion step decision approval := by
          refine ⟨decided, found, ?_⟩
          by_cases allowed : decision.allowed = true
          · exact .inl allowed
          · by_cases approved : decision.requiresUser = true ∧ approval.isSome = true
            · exact .inr approved.2
            · exact absurd ⟨allowed, approved⟩ refused
        generalize (if decision.requiresUser = true ∧ approval.isSome = true then "user_approved"
          else decision.reason) = reasonCode
        split
        · next unfinished =>
            exact ⟨_, .interrupted pending permitted (StepOutcome.result?_eq_none unfinished), rfl⟩
        · next result returned =>
            by_cases failed : ¬ result.succeeded = true
            · rw [if_pos failed]
              refine ⟨_, .failed pending permitted returned failed ?_, rfl⟩
              split
              · exact .inl rfl
              · exact .inr rfl
            · rw [if_neg failed]
              split
              · next used =>
                  exact ⟨_, .paused pending permitted returned (not_not.1 failed) used, rfl⟩
              · next unused =>
                  exact ⟨_, .succeeded pending permitted returned (not_not.1 failed) unused, rfl⟩

/-- What every part of a step keeps. -/
structure ProgressInvariant (library : TaskLibrary) (now : Nat → Time) (planVersion : Nat)
    (holds : ExecutionProgress → Prop) : Prop where
  append : ∀ {progress stepId outcome message reasonCode}, holds progress →
    outcome ≠ TaskJournalOutcome.started →
      holds (progress.append now stepId outcome message reasonCode)
  begin : ∀ {progress step decision approval reasonCode}, holds progress →
    Permitted library progress.current planVersion step decision approval →
      holds (progress.begin now step approval reasonCode)
  record : ∀ {progress step result succeededSteps executedSteps}, holds progress →
    holds { progress.record now step result with
      succeededSteps := succeededSteps, executedSteps := executedSteps }

namespace ExecutionProgress
variable (progress : ExecutionProgress) (now : Nat → Time)

/-- What the result of a call leaves on a task: journal and page. -/
theorem record_current (step : TaskPlanStep) (result : BrowserStepResult) :
    ∃ journal pageSnapshot pageFillPlan, (progress.record now step result).current =
      { progress.current with
        journal := journal, pageSnapshot := pageSnapshot, pageFillPlan := pageFillPlan } := by
  obtain ⟨succeeded, reasonCode, pageSnapshot, pageFillPlan⟩ := result
  cases pageSnapshot <;> cases pageFillPlan <;> exact ⟨_, _, _, rfl⟩

/-- The entry after a call. -/
theorem record_currentJournal (step : TaskPlanStep) (result : BrowserStepResult) :
    (progress.record now step result).current.journal = some (appendTaskJournalEntry
      progress.journal step.stepId (if result.succeeded then .succeeded else .failed)
      (if result.succeeded then "Browser step completed" else "Browser step failed")
      (now progress.readings) result.reasonCode) := by
  obtain ⟨succeeded, reasonCode, pageSnapshot, pageFillPlan⟩ := result
  cases pageSnapshot <;> cases pageFillPlan <;> rfl

theorem record_journal (step : TaskPlanStep) (result : BrowserStepResult) :
    (progress.record now step result).journal = appendTaskJournalEntry progress.journal step.stepId
      (if result.succeeded then .succeeded else .failed)
      (if result.succeeded then "Browser step completed" else "Browser step failed")
      (now progress.readings) result.reasonCode := by
  rw [ExecutionProgress.journal, record_currentJournal, Option.getD_some]

@[simp] theorem record_approvals (step : TaskPlanStep) (result : BrowserStepResult) :
    (progress.record now step result).current.approvals = progress.current.approvals := by
  obtain ⟨journal, pageSnapshot, pageFillPlan, same⟩ := progress.record_current now step result
  rw [same]

@[simp] theorem record_plan (step : TaskPlanStep) (result : BrowserStepResult) :
    (progress.record now step result).current.plan = progress.current.plan := by
  obtain ⟨journal, pageSnapshot, pageFillPlan, same⟩ := progress.record_current now step result
  rw [same]

end ExecutionProgress

theorem evaluate_same (library : TaskLibrary) {task other : AgentTask}
    (permissions : other.permissions = task.permissions)
    (targetUrl : other.targetUrl = task.targetUrl) (request : BrowserActionRequest) :
    evaluateBrowserAction library other request = evaluateBrowserAction library task request := by
  -- the policy reads nothing else of a task
  cases task
  cases other
  cases permissions
  cases targetUrl
  rfl

/-- Only a navigation asks for an origin. -/
theorem evaluate_ok (library : TaskLibrary) (task : AgentTask) {request : BrowserActionRequest}
    (other : request.action ≠ .navigate) :
    ∃ decision, evaluateBrowserAction library task request = .ok decision := by
  unfold evaluateBrowserAction
  repeat' split
  all_goals first
    | exact ⟨_, rfl⟩
    | exact absurd ‹_› other

/-- The task holds an approval that a step of its plan would use. -/
def Served (library : TaskLibrary) (task : AgentTask) (planVersion : Nat) (step : TaskPlanStep) :
    Prop :=
  ∃ decision, evaluateBrowserAction library task step.toActionRequest = .ok decision ∧
    (approvalFor task planVersion step.stepId decision.reason).isSome

/-- The policy raises on one of the steps. The approvals are still the first ones, unless
a step before it has used one of these. -/
def RaisesAt (library : TaskLibrary) (planVersion : Nat) (steps : List TaskPlanStep)
    (first last : AgentTask) : Prop :=
  ∃ before step after error, steps = before ++ step :: after ∧
    evaluateBrowserAction library first step.toActionRequest = .error error ∧
    (last.approvals = first.approvals ∨
      ∃ earlier ∈ before, Served library first planVersion earlier)

section
variable {library : TaskLibrary} {planVersion : Nat} {rest : List TaskPlanStep}
  {first last : AgentTask}

theorem RaisesAt.cons (step : TaskPlanStep) (h : RaisesAt library planVersion rest first last) :
    RaisesAt library planVersion (step :: rest) first last := by
  obtain ⟨before, raising, after, error, rfl, raised, kept⟩ := h
  refine ⟨step :: before, raising, after, error, rfl, raised, ?_⟩
  rcases kept with kept | ⟨earlier, member, served⟩
  · exact .inl kept
  · exact .inr ⟨earlier, List.mem_cons_of_mem _ member, served⟩

/-- What raises after a step has run raises in the plan with that step. -/
theorem RaisesAt.afterStep {now : Nat → Time} {progress : ExecutionProgress} {step : TaskPlanStep}
    {decision : PermissionDecision} {approval : Option TaskStepApproval} {reasonCode : String}
    {result : BrowserStepResult}
    (permitted : Permitted library progress.current planVersion step decision approval)
    (h : RaisesAt library planVersion rest
      ((progress.begin now step approval reasonCode).record now step result).current last) :
    RaisesAt library planVersion (step :: rest) progress.current last := by
  obtain ⟨journal, pageSnapshot, pageFillPlan, same⟩ :=
    (progress.begin now step approval reasonCode).record_current now step result
  rw [same] at h
  obtain ⟨before, raising, after, error, rfl, raised, kept⟩ := h
  refine ⟨step :: before, raising, after, error, rfl, ?_, ?_⟩
  · exact (evaluate_same library rfl rfl _).symm.trans raised
  · cases approval with
    | some approval =>
        refine .inr ⟨step, List.mem_cons_self, decision, permitted.decided, ?_⟩
        rw [permitted.found]
        rfl
    | none =>
        rcases kept with kept | ⟨earlier, member, asked, decided, found⟩
        · exact .inl kept
        · refine .inr ⟨earlier, List.mem_cons_of_mem _ member, asked, ?_, found⟩
          exact (evaluate_same library rfl rfl _).symm.trans decided

end

/-- An execution has ended: its calls are those of the last progress, and its task is
the one carried there, but for the status; or a call was interrupted, or the policy
has raised. -/
structure ExecutionEnd (library : TaskLibrary) (runner : BrowserStepRunner) (planVersion : Nat)
    (steps : List TaskPlanStep) (first last : ExecutionProgress) (execution : Execution) :
    Prop where
  invocations : execution.invocations = last.invocations
  task : ∀ task ∈ execution.task, ∃ status waitingReason,
    task = { last.current with status := status, waitingReason := waitingReason }
  interrupted : execution.task = none → execution.error = none →
    ∃ call step, runner.run call last.current step = .interrupted
  raised : execution.error ≠ none →
    RaisesAt library planVersion steps first.current last.current

theorem ExecutionEnd.stop (library : TaskLibrary) (runner : BrowserStepRunner) (planVersion : Nat)
    (steps : List TaskPlanStep) (first last : ExecutionProgress) (status : TaskStatus)
    (waitingReason : Option UserActionReason) :
    ExecutionEnd library runner planVersion steps first last (last.stop status waitingReason) where
  invocations := rfl
  task task found := by
    obtain rfl := Option.some.inj found
    exact ⟨status, waitingReason, rfl⟩
  interrupted none := by cases none
  raised raised := absurd rfl raised

theorem ProgressInvariant.execution {library : TaskLibrary} {now : Nat → Time} {planVersion : Nat}
    {holds : ExecutionProgress → Prop} (inv : ProgressInvariant library now planVersion holds)
    (runner : BrowserStepRunner) (maxSteps : Option Nat) (steps : List TaskPlanStep)
    {progress : ExecutionProgress} (h : holds progress) :
    ∃ last, holds last ∧ ExecutionEnd library runner planVersion steps progress last
      (executeSteps library runner now maxSteps planVersion steps progress) := by
  induction steps generalizing progress with
  | nil => exact ⟨progress, h, .stop library runner planVersion [] progress progress .prepared none⟩
  | cons step rest ih =>
      obtain ⟨taken, how, result⟩ :=
        executeSteps_cons library runner now maxSteps planVersion step rest progress
      rw [result]
      cases how with
      | skipped done =>
          obtain ⟨last, holding, ended⟩ := ih h
          exact ⟨last, holding, ended.invocations, ended.task, ended.interrupted,
            fun raised => (ended.raised raised).cons step⟩
      | blocked pending asked unapproved =>
          exact ⟨_, inv.append h TaskJournalOutcome.noConfusion, .stop ..⟩
      | denied pending => exact ⟨_, inv.append h TaskJournalOutcome.noConfusion, .stop ..⟩
      | raised raised =>
          refine ⟨progress, h, rfl, ?_, ?_, ?_⟩
          · intro task found
            cases found
          · intro _ impossible
            cases impossible
          · exact fun _ => ⟨[], step, rest, _, rfl, raised, .inl rfl⟩
      | interrupted pending permitted interrupted =>
          refine ⟨_, inv.begin h permitted, rfl, ?_, fun _ _ => ⟨_, step, interrupted⟩, ?_⟩
          · intro task found
            cases found
          · exact fun impossible => absurd rfl impossible
      | failed pending permitted returned failed ended =>
          exact ⟨_, inv.record (inv.begin h permitted), .stop ..⟩
      | paused pending permitted returned succeeded used =>
          exact ⟨_, inv.record (inv.begin h permitted), .stop ..⟩
      | succeeded pending permitted returned succeeded unused =>
          obtain ⟨last, holding, ended⟩ := ih (inv.record (inv.begin h permitted))
          exact ⟨last, holding, ended.invocations, ended.task, ended.interrupted,
            fun raised => RaisesAt.afterStep permitted (ended.raised raised)⟩

/-- The progress that an execution starts with. -/
def startProgress (task : AgentTask) : ExecutionProgress where
  current := { task with
    status := .running, waitingReason := none, journal := some (task.journal.getD []) }
  succeededSteps := ((task.journal.getD []).filter (·.outcome = .succeeded)).map (·.stepId)
  executedSteps := 0
  readings := 0
  invocations := []

theorem executeTaskPlan_ok {library : TaskLibrary} {task : AgentTask} {runner : BrowserStepRunner}
    {now : Nat → Time} {maxSteps : Option Nat} {execution : Execution}
    (h : executeTaskPlan library task runner now maxSteps = .ok execution) :
    ∃ plan, task.plan = some plan ∧ task.status ∈ [TaskStatus.ready, .running] ∧
      execution = executeSteps library runner now maxSteps plan.version plan.steps
        (startProgress task) := by
  simp only [executeTaskPlan] at h
  split at h
  · cases h
  · next plan planned =>
      split at h
      · cases h
      · next executable =>
          refine ⟨plan, planned, ?_, (Except.ok.inj h).symm⟩
          exact Classical.not_not.1 executable

end PurchaseAgent
