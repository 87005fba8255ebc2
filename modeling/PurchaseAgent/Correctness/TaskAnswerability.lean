import PurchaseAgent.Correctness.AgentCommands
import PurchaseAgent.Correctness.TaskAuthorization
import PurchaseAgent.Correctness.TaskLifecycle

/-!
Whether a task that waits for the user can be answered at the endpoint that its reason
names. In the planned mode it always can. The model-driven mode has no blocked step to
approve, and it maps reasons to a clarification for which there is no question.
-/

namespace PurchaseAgent

open Cooperative Fallible

/-- The states of a task that calls of the endpoints reach in one mode of execution,
whatever the rest of the settings at each call. -/
inductive TaskReached (library : TaskLibrary) (modelDriven : Bool) : AgentTask → Prop
  | created {identities : UUID → Option IdentityRecord} {request : AgentTaskCreate} {id : UUID}
      {now : Time} {task : AgentTask} (created : createTask identities request id now = .ok task) :
      TaskReached library modelDriven task
  | request {settings : TaskSettings} {request : TaskRequest} {task changed : AgentTask}
      (mode : settings.agentLlmEnabled = modelDriven)
      (reached : TaskReached library modelDriven task)
      (accepted : (request.respond library settings task).outcome = .changed changed) :
      TaskReached library modelDriven (task.saved changed)

def TaskOutcome.Changes : TaskOutcome → Prop
  | .changed _ => True
  | _ => False

/-- An execution that has been admitted, if only to find a service unavailable. -/
def TaskOutcome.Admitted : TaskOutcome → Prop
  | .changed _ | .interrupted => True
  | .refused answer => answer.statusCode = 503
  | _ => False

/-- The execution of a task whose people exist is admitted. -/
def AgentTask.Executable (library : TaskLibrary) (modelDriven : Bool) (task : AgentTask) : Prop :=
  ∀ (settings : TaskSettings) (environment : ExecutionEnvironment),
    settings.agentLlmEnabled = modelDriven →
      (∀ personId ∈ task.personIds, (environment.identities personId).isSome = true) →
        (executeTask library settings environment task).outcome.Admitted

/-- The action of the user that the waiting reason names is accepted by its endpoint. -/
def AgentTask.Answerable (library : TaskLibrary) (modelDriven : Bool) (task : AgentTask) : Prop :=
  match task.waitingReason with
  | none => False
  | some .clarificationRequired => ∀ answer now, collapse answer ≠ "" →
    (clarifyAgentTask answer now task).outcome.Changes
  | some .sensitiveDataApprovalRequired =>
    ∃ blocked, (task.journal.getD []).getLast? = some blocked ∧ ∀ approvalId now,
      (approveTaskStep library blocked.stepId approvalId now task).outcome.Changes
  | some _ => task.Executable library modelDriven

/-- The results of commands after which no endpoint takes an answer. -/
def unansweredReasons : List String :=
  ["finished_needs_user", "cross_origin_navigation_blocked", "cross_origin_popup_blocked",
    "sensitive_data_approval_required"]

/-- The last command of the agent on the task has ended with one of these results. -/
def AgentTask.EndedUnanswered (task : AgentTask) : Prop :=
  ∃ run step, task.agentRun = some run ∧ run.steps.getLast? = some step ∧
    step.result.reasonCode ∈ unansweredReasons

/-- The policy asks the user about a step of a plan, for that reason. -/
def TaskPlan.Asks (library : TaskLibrary) (plan : TaskPlan) (task : AgentTask) (stepId : String)
    (reason : UserActionReason) : Prop :=
  ∃ step ∈ plan.steps, step.stepId = stepId ∧
    evaluateBrowserAction library task step.toActionRequest = .ok (.user reason)

theorem TaskPlan.Asks.same {library : TaskLibrary} {plan : TaskPlan} {task other : AgentTask}
    {stepId : String} {reason : UserActionReason} (h : plan.Asks library task stepId reason)
    (permissions : other.permissions = task.permissions)
    (targetUrl : other.targetUrl = task.targetUrl) : plan.Asks library other stepId reason := by
  obtain ⟨step, member, own, asks⟩ := h
  exact ⟨step, member, own, (evaluate_same library permissions targetUrl _).trans asks⟩

/-- A step has one reason. -/
theorem TaskPlan.Asks.unique {library : TaskLibrary} {plan : TaskPlan} {task : AgentTask}
    {stepId : String} {reason reason' : UserActionReason} (h : plan.Asks library task stepId reason)
    (h' : plan.Asks library task stepId reason') : reason = reason' := by
  obtain ⟨step, member, own, asks⟩ := h
  obtain ⟨step', member', own', asks'⟩ := h'
  obtain rfl : step = step' :=
    List.inj_on_of_nodup_map plan.steps_nodup member member' (own.trans own'.symm)
  have same : UserActionReason.value reason = reason'.value :=
    congrArg PermissionDecision.reason (Except.ok.inj (asks.symm.trans asks'))
  have found := UserActionReason.ofValue?_value reason
  rw [same, UserActionReason.ofValue?_value] at found
  exact (Option.some.inj found).symm

/-- No policy asks for a clarification. -/
theorem evaluate_not_clarification (library : TaskLibrary) (task : AgentTask)
    (request : BrowserActionRequest) :
    evaluateBrowserAction library task request ≠ .ok (.user .clarificationRequired) := by
  have differs : ∀ reason : UserActionReason, reason ≠ .clarificationRequired →
      PermissionDecision.user reason ≠ .user .clarificationRequired := by
    intro reason other same
    have value : reason.value = UserActionReason.clarificationRequired.value :=
      congrArg PermissionDecision.reason same
    cases reason <;> first | exact other rfl | exact absurd value (by decide)
  have allowed : ∀ reason, PermissionDecision.allow reason ≠ .user .clarificationRequired :=
    fun reason same => Bool.noConfusion (congrArg PermissionDecision.allowed same)
  have denied : ∀ reason, PermissionDecision.deny reason ≠ .user .clarificationRequired :=
    fun reason same => Bool.noConfusion (congrArg PermissionDecision.requiresUser same)
  intro decided
  simp only [evaluateBrowserAction, evaluateNavigation] at decided
  repeat' split at decided
  all_goals first
    | exact allowed _ (Except.ok.inj decided)
    | exact denied _ (Except.ok.inj decided)
    | exact differs _ UserActionReason.noConfusion (Except.ok.inj decided)
    | cases decided

/-- What the planned mode keeps of a task and its plan. -/
structure PlannedBase (library : TaskLibrary) (task : AgentTask) : Prop where
  undriven : task.agentRun = none
  ids : ∀ plan, task.plan = some plan → ∀ step ∈ plan.steps,
    requestedStepId library step.stepId = step.stepId
  approvals : ∀ approval ∈ task.approvals, ∃ plan reason, task.plan = some plan ∧
    approval.planVersion = plan.version ∧ plan.Asks library task approval.stepId reason ∧
      approval.reason = reason.value

/-- The last entry of the journal is the step that the user is asked about. -/
structure PlannedWait (library : TaskLibrary) (task : AgentTask) (plan : TaskPlan)
    (blocked : TaskJournalEntry) (reason : UserActionReason) : Prop where
  planned : task.plan = some plan
  waits : task.waitingReason = some reason
  last : (task.journal.getD []).getLast? = some blocked
  outcome : blocked.outcome = .blocked
  code : blocked.reasonCode = some reason.value
  asks : plan.Asks library task blocked.stepId reason
  unapproved : approvalFor task plan.version blocked.stepId reason.value = none
  executes : task.controlMode ≠ .planOnly

/-- The invariant of the planned mode. -/
structure PlannedSound (library : TaskLibrary) (task : AgentTask) : Prop
    extends PlannedBase library task where
  waiting : task.status = .waitingForUser →
    ∃ plan blocked reason, PlannedWait library task plan blocked reason

section
variable {library : TaskLibrary}

theorem PlannedBase.same {task other : AgentTask} (h : PlannedBase library task)
    (agentRun : other.agentRun = task.agentRun) (plan : other.plan = task.plan)
    (approvals : other.approvals = task.approvals)
    (permissions : other.permissions = task.permissions)
    (targetUrl : other.targetUrl = task.targetUrl) : PlannedBase library other := by
  refine ⟨agentRun.trans h.undriven, ?_, ?_⟩
  · rw [plan]
    exact h.ids
  · intro approval held
    rw [approvals] at held
    obtain ⟨own, reason, planned, version, asks, same⟩ := h.approvals approval held
    exact ⟨own, reason, plan.trans planned, version, asks.same permissions targetUrl, same⟩

/-- A task that no longer waits. -/
theorem PlannedBase.still {task : AgentTask} (h : PlannedBase library task) {status : TaskStatus}
    (notWaiting : status ≠ .waitingForUser) (waitingReason : Option UserActionReason) :
    PlannedSound library { task with status := status, waitingReason := waitingReason } :=
  ⟨h.same rfl rfl rfl rfl rfl, fun waits => absurd waits notWaiting⟩

theorem PlannedSound.saved {task changed : AgentTask} (h : PlannedSound library changed) :
    PlannedSound library (task.saved changed) := by
  refine ⟨h.toPlannedBase.same rfl rfl rfl rfl rfl, ?_⟩
  intro waits
  obtain ⟨plan, blocked, reason, wait⟩ := h.waiting waits
  exact ⟨plan, blocked, reason, wait.planned, wait.waits, wait.last, wait.outcome, wait.code,
    wait.asks.same rfl rfl, wait.unapproved, wait.executes⟩

/-- Along an execution of its plan the task keeps the base, and is no plan only. -/
def PlannedProgress (library : TaskLibrary) (plan : TaskPlan) (progress : ExecutionProgress) :
    Prop :=
  PlannedBase library progress.current ∧ progress.current.plan = some plan ∧
    progress.current.controlMode ≠ .planOnly

theorem PlannedProgress.begin {plan : TaskPlan} {progress : ExecutionProgress}
    (h : PlannedProgress library plan progress) (now : Nat → Time) {step : TaskPlanStep}
    {decision : PermissionDecision} {approval : Option TaskStepApproval} (reasonCode : String)
    (permitted : Permitted library progress.current plan.version step decision approval) :
    PlannedProgress library plan (progress.begin now step approval reasonCode) := by
  obtain ⟨base, planned, executes⟩ := h
  refine ⟨⟨base.undriven, base.ids, ?_⟩, planned, executes⟩
  intro item held
  have held : item ∈ consumeApproval progress.current.approvals (now progress.readings) approval :=
    held
  cases approval with
  | none =>
      obtain ⟨own, reason, found, version, asks, same⟩ := base.approvals item held
      exact ⟨own, reason, found, version, asks.same rfl rfl, same⟩
  | some approval =>
      obtain ⟨there, -, -, -, -⟩ := approvalFor_spec permitted.found
      rcases mem_consumeApproval _ _ _ held with ⟨rfl, -⟩ | ⟨old, -⟩
      · obtain ⟨own, reason, found, version, asks, same⟩ := base.approvals approval there
        exact ⟨own, reason, found, version, asks.same rfl rfl, same⟩
      · obtain ⟨own, reason, found, version, asks, same⟩ := base.approvals item old
        exact ⟨own, reason, found, version, asks.same rfl rfl, same⟩

theorem PlannedProgress.record {plan : TaskPlan} {progress : ExecutionProgress}
    (h : PlannedProgress library plan progress) (now : Nat → Time) (step : TaskPlanStep)
    (result : BrowserStepResult) (succeededSteps : List String) (executedSteps : Nat) :
    PlannedProgress library plan { progress.record now step result with
      succeededSteps := succeededSteps, executedSteps := executedSteps } := by
  obtain ⟨base, planned, executes⟩ := h
  obtain ⟨journal, pageSnapshot, pageFillPlan, same⟩ := progress.record_current now step result
  simp only [PlannedProgress, same]
  exact ⟨base.same rfl rfl rfl rfl rfl, planned, executes⟩

/-- An execution that stops for the user leaves the step as the last entry. -/
theorem PlannedProgress.execution {plan : TaskPlan} (runner : BrowserStepRunner)
    (now : Nat → Time) (maxSteps : Option Nat) (steps : List TaskPlanStep)
    (part : ∀ step ∈ steps, step ∈ plan.steps) {progress : ExecutionProgress}
    (h : PlannedProgress library plan progress) :
    ∀ changed ∈ (executeSteps library runner now maxSteps plan.version steps progress).task,
      PlannedSound library changed := by
  induction steps generalizing progress with
  | nil =>
      intro changed found
      obtain rfl := Option.some.inj found
      exact h.1.still TaskStatus.noConfusion none
  | cons step rest ih =>
      obtain ⟨taken, how, whole⟩ :=
        executeSteps_cons library runner now maxSteps plan.version step rest progress
      have later : ∀ step ∈ rest, step ∈ plan.steps :=
        fun step member => part step (List.mem_cons_of_mem _ member)
      rw [whole]
      cases how with
      | skipped done => exact ih later h
      | raised raised =>
          intro changed found
          cases found
      | @blocked reason pending asked unapproved =>
          intro changed found
          obtain rfl := Option.some.inj found
          let entry : TaskJournalEntry := ⟨now progress.readings, step.stepId, .blocked,
            "Execution paused for a required user action", some reason.value⟩
          refine ⟨h.1.same rfl rfl rfl rfl rfl, fun _ => ⟨plan, entry, reason, ?_⟩⟩
          exact {
            planned := h.2.1
            waits := rfl
            last := List.getLast?_concat
            outcome := rfl
            code := rfl
            asks := ⟨step, part step List.mem_cons_self, rfl, asked⟩
            unapproved := unapproved
            executes := h.2.2 }
      | denied pending =>
          intro changed found
          obtain rfl := Option.some.inj found
          exact ⟨h.1.same rfl rfl rfl rfl rfl, fun waits => absurd waits TaskStatus.noConfusion⟩
      | interrupted pending permitted interrupted =>
          intro changed found
          cases found
      | @failed decision approval reasonCode result status pending permitted returned failed
          ended =>
          intro changed found
          obtain rfl := Option.some.inj found
          have called := (h.begin now reasonCode permitted).record now step result
            progress.succeededSteps progress.executedSteps
          refine called.1.still ?_ none
          rcases ended with rfl | rfl <;> exact TaskStatus.noConfusion
      | @paused decision approval reasonCode result pending permitted returned succeeded used =>
          intro changed found
          obtain rfl := Option.some.inj found
          have called := (h.begin now reasonCode permitted).record now step result
            (step.stepId :: progress.succeededSteps) (progress.executedSteps + 1)
          exact called.1.still TaskStatus.noConfusion none
      | @succeeded decision approval reasonCode result pending permitted returned succeeded
          unused =>
          exact ih later ((h.begin now reasonCode permitted).record now step result _ _)

def plannedStepIds : List String :=
  ["open_target", "inspect_page", "fill_people", "fill_documents", "choose_option", "open_review",
    "prepare_order"]

/-- What a request does to a step id leaves this one as it is. -/
def canonicalStepId (stepId : String) : Bool :=
  strip stepId == stepId && (stepId.toList.all fun c => c.isLower || c == '_') &&
    String.ofList (stepId.toList.map fun c => if c = '-' then '_' else c) == stepId

theorem plannedStepIds_canonical : plannedStepIds.all canonicalStepId = true := by decide +kernel

theorem stepId_planned (kind targetUrl : String) :
    ∀ step ∈ plannedSteps kind targetUrl, step.stepId ∈ plannedStepIds := by
  intro step member
  by_cases basic : kind ∈ basicProfileKinds
  · by_cases documents : kind ∈ documentKinds
    all_goals
      simp only [plannedSteps, basic, documents, if_true, if_false, List.mem_append,
        List.mem_cons, List.not_mem_nil, or_false] at member
      grind [plannedStepIds]
  · by_cases documents : kind ∈ documentKinds
    all_goals
      simp only [plannedSteps, basic, documents, if_true, if_false, List.mem_append,
        List.mem_cons, List.not_mem_nil, or_false] at member
      grind [plannedStepIds]

/-- The ids of planned steps are in the form that a request is brought to. -/
theorem requestedStepId_planned (library : TaskLibrary) (kind targetUrl : String) :
    ∀ step ∈ plannedSteps kind targetUrl, requestedStepId library step.stepId = step.stepId := by
  intro step member
  have canonical := List.all_eq_true.1 plannedStepIds_canonical step.stepId
    (stepId_planned kind targetUrl step member)
  simp only [canonicalStepId, Bool.and_eq_true, beq_iff_eq, List.all_eq_true, Bool.or_eq_true]
    at canonical
  obtain ⟨⟨stripped, letters⟩, underscored⟩ := canonical
  rw [requestedStepId, stripped, library.casefold_lower step.stepId letters, underscored]

theorem executeTask_executes {settings : TaskSettings} {environment : ExecutionEnvironment}
    {task changed : AgentTask}
    (accepted : (executeTask library settings environment task).outcome = .changed changed) :
    task.controlMode ≠ .planOnly := by
  intro planOnly
  simp only [executeTask, planOnly] at accepted
  split at accepted
  · cases accepted
  · simp only [if_true, taskRefusal] at accepted
    cases accepted

theorem PlannedSound.prepared {task changed : AgentTask} (h : PlannedSound library task)
    {now : Time}
    (accepted : (prepareTaskPlan library now task).outcome = .changed changed) :
    PlannedSound library changed := by
  have base := h.toPlannedBase
  simp only [prepareTaskPlan, taskRefusal] at accepted
  split at accepted
  · cases accepted
  · split at accepted
    · cases accepted
    · next preview built =>
        cases accepted
        refine ⟨⟨base.undriven, ?_, ?_⟩, fun waits => absurd waits TaskStatus.noConfusion⟩
        · intro plan own
          obtain rfl := Option.some.inj own
          simp only [buildTaskPlan] at built
          repeat' split at built
          all_goals cases built
          exact requestedStepId_planned library _ _
        · intro approval impossible
          cases impossible

theorem PlannedSound.mapped {task changed : AgentTask} (h : PlannedSound library task)
    {identities : UUID → Option IdentityRecord} {now : Time}
    (accepted : (mapTaskPage library identities now task).outcome = .changed changed) :
    PlannedSound library changed := by
  have base := h.toPlannedBase
  simp only [mapTaskPage, taskRefusal] at accepted
  repeat' split at accepted
  all_goals cases accepted
  refine ⟨base.same rfl rfl rfl rfl rfl, ?_⟩
  intro waits
  obtain ⟨plan, blocked, reason, wait⟩ := h.waiting waits
  exact ⟨plan, blocked, reason, wait.planned, wait.waits, wait.last, wait.outcome, wait.code,
    wait.asks.same rfl rfl, wait.unapproved, wait.executes⟩

theorem PlannedSound.approved {task changed : AgentTask} (h : PlannedSound library task)
    {stepId : String} {approvalId : UUID} {now : Time}
    (accepted : (approveTaskStep library stepId approvalId now task).outcome = .changed changed) :
    PlannedSound library changed := by
  have base := h.toPlannedBase
  simp only [approveTaskStep, approvalConflict, taskRefusal] at accepted
  split at accepted
  · next waitingReason plan blocked waits planned last =>
      split at accepted
      · cases accepted
      · next waiting =>
          repeat' split at accepted
          all_goals cases accepted
          obtain ⟨own, entry, reason, wait⟩ := h.waiting (Classical.not_not.1 waiting)
          obtain rfl : own = plan := Option.some.inj (wait.planned.symm.trans planned)
          obtain rfl : entry = blocked := Option.some.inj (wait.last.symm.trans last)
          obtain rfl : reason = waitingReason := Option.some.inj (wait.waits.symm.trans waits)
          refine ⟨⟨base.undriven, base.ids, ?_⟩,
            fun waits => absurd waits TaskStatus.noConfusion⟩
          intro approval held
          rcases List.mem_append.1 held with old | new
          · obtain ⟨own, reason, found, version, asks, same⟩ := base.approvals approval old
            exact ⟨own, reason, found, version, asks.same rfl rfl, same⟩
          · obtain rfl := List.mem_singleton.1 new
            exact ⟨own, reason, planned, rfl, wait.asks.same rfl rfl, rfl⟩
  · cases accepted

theorem PlannedSound.executed {task changed : AgentTask} (h : PlannedSound library task)
    {settings : TaskSettings} (mode : settings.agentLlmEnabled = false)
    {environment : ExecutionEnvironment}
    (accepted : (executeTask library settings environment task).outcome = .changed changed) :
    PlannedSound library changed := by
  have base := h.toPlannedBase
  obtain ⟨-, ⟨driven, -⟩ | ⟨-, maxSteps, error, executed⟩⟩ :=
    executeTask_changed (TaskResponse.ext accepted rfl)
  · rw [mode] at driven
    cases driven
  · obtain ⟨plan, planned, -, whole⟩ := executeTaskPlan_ok executed
    obtain ⟨status, waitingReason, same⟩ := continued_same task
    have executes := executeTask_executes accepted
    have first : PlannedProgress library plan (startProgress (continued task)) := by
      refine ⟨?_, planned, ?_⟩
      · rw [same]
        exact base.same rfl rfl rfl rfl rfl
      · rw [same]
        exact executes
    have kept := first.execution environment.runner environment.now maxSteps plan.steps
      fun _ member => member
    rw [← whole] at kept
    exact kept changed rfl

/-- Every request keeps the invariant of the planned mode. -/
theorem PlannedSound.request {task : AgentTask} (h : PlannedSound library task)
    {settings : TaskSettings} (mode : settings.agentLlmEnabled = false) {request : TaskRequest}
    {changed : AgentTask}
    (accepted : (request.respond library settings task).outcome = .changed changed) :
    PlannedSound library changed := by
  have base := h.toPlannedBase
  cases request with
  | prepareTaskPlan now => exact h.prepared accepted
  | mapTaskPage identities now => exact h.mapped accepted
  | approveTaskStep stepId approvalId now => exact h.approved accepted
  | clarifyAgentTask answer now =>
      have unasked : pendingAgentQuestion task = none := by
        rw [pendingAgentQuestion, base.undriven]
        rfl
      simp only [TaskRequest.respond, clarifyAgentTask, unasked, taskRefusal] at accepted
      cases accepted
  | executeTask environment => exact h.executed mode accepted
  | pauseTask | resumeTask | cancelTask =>
      simp only [TaskRequest.respond, pauseTask, resumeTask, cancelTask, invalidTransition,
        taskRefusal, updateStatus] at accepted
      repeat' split at accepted
      all_goals cases accepted
      exact base.still TaskStatus.noConfusion none

theorem loadTaskPeople_ok {identities : UUID → Option IdentityRecord} {task : AgentTask}
    (exist : ∀ personId ∈ task.personIds, (identities personId).isSome = true) :
    ∃ people, loadTaskPeople identities task = .ok people := by
  unfold loadTaskPeople
  generalize task.personIds = personIds at exist
  induction personIds with
  | nil => exact ⟨[], rfl⟩
  | cons personId rest ih =>
      obtain ⟨identity, found⟩ := Option.isSome_iff_exists.1 (exist personId List.mem_cons_self)
      obtain ⟨people, loaded⟩ := ih fun id member => exist id (List.mem_cons_of_mem _ member)
      exact ⟨identity :: people, by rw [List.mapM_cons, found, loaded]; rfl⟩

theorem driverUnavailable_admitted (message : String) (failure : AgentFailure) :
    (driverUnavailable message failure).Admitted := by
  cases failure <;> first | exact rfl | exact trivial

/-- A task that waits for one of these reasons is executed again. -/
theorem executable_of_waiting {modelDriven : Bool} {task : AgentTask} {reason : UserActionReason}
    (waiting : task.status = .waitingForUser) (waits : task.waitingReason = some reason)
    (executable : reason ∈ executableReasons) (executes : task.controlMode ≠ .planOnly)
    (planned : modelDriven = false → task.plan ≠ none) : task.Executable library modelDriven := by
  intro settings environment mode exist
  have goesOn : continued task = { task with status := .ready, waitingReason := none } := by
    rw [continued, if_pos]
    refine ⟨waiting, ?_⟩
    rw [waits]
    simpa using executable
  rw [executeTask]
  split
  · exact rfl
  · obtain ⟨people, loaded⟩ := @loadTaskPeople_ok environment.identities (continued task)
      (by rw [goesOn]; exact exist)
    simp only [loaded]
    split
    · simp only [executeLlmAgent, goesOn]
      rw [if_neg (by simp)]
      split
      · exact rfl
      · split
        · exact driverUnavailable_admitted _ _
        · split
          · exact driverUnavailable_admitted _ _
          · exact driverUnavailable_admitted _ _
          · exact trivial
    · next disabled =>
        have undriven : modelDriven = false := by
          rw [← mode]
          simpa using disabled
        obtain ⟨plan, found⟩ := Option.ne_none_iff_exists'.1 (planned undriven)
        simp only [executePlanned, goesOn, executeTaskPlan, found]
        rw [if_neg (by simp)]
        split
        · exact driverUnavailable_admitted _ _
        · split
          · next impossible => cases impossible
          · split
            · exact driverUnavailable_admitted _ _
            · exact trivial
            · exact driverUnavailable_admitted "Browser driver could not be started." .exception
            · exact trivial

/-- In the planned mode every task that waits can be answered. -/
theorem PlannedSound.answerable {task : AgentTask} (h : PlannedSound library task)
    (waiting : task.status = .waitingForUser) : task.Answerable library false := by
  obtain ⟨plan, blocked, reason, wait⟩ := h.waiting waiting
  have executes : reason ∈ executableReasons → task.Executable library false := by
    intro executable
    refine executable_of_waiting waiting wait.waits executable wait.executes fun _ unplanned => ?_
    exact Option.some_ne_none plan (wait.planned.symm.trans unplanned)
  unfold AgentTask.Answerable
  rw [wait.waits]
  cases reason with
  | clarificationRequired =>
      obtain ⟨step, -, -, asks⟩ := wait.asks
      exact absurd asks (evaluate_not_clarification library task _)
  | sensitiveDataApprovalRequired =>
      refine ⟨blocked, wait.last, fun approvalId now => ?_⟩
      have own : requestedStepId library blocked.stepId = blocked.stepId := by
        obtain ⟨step, member, own, -⟩ := wait.asks
        exact own ▸ h.ids plan wait.planned step member
      have inactive : ¬ task.approvals.any (fun approval =>
          approval.stepId = blocked.stepId ∧ approval.consumedAt = none) = true := by
        intro active
        obtain ⟨approval, held, active⟩ := List.any_eq_true.1 active
        obtain ⟨step, unconsumed⟩ : approval.stepId = blocked.stepId ∧ approval.consumedAt = none :=
          by simpa using active
        obtain ⟨other, reason, planned, version, asks, same⟩ := h.approvals approval held
        obtain rfl : other = plan := Option.some.inj (planned.symm.trans wait.planned)
        obtain rfl := (step ▸ asks).unique wait.asks
        have missed := List.find?_eq_none.1 wait.unapproved approval held
        exact missed (by simp [version, step, same, unconsumed])
      simp only [approveTaskStep, wait.waits, wait.planned, wait.last]
      rw [if_neg (by simp [waiting]), if_neg (by simp [wait.outcome, own]),
        if_neg (by simp [wait.code]), if_neg inactive]
      exact trivial
  | authenticationRequired | captchaRequired | confirmationRequired | paymentRequired =>
      exact executes (by decide)

/-- The last step of the agent is the one that handed over to the user. -/
structure DrivenWait (task : AgentTask) (run : AgentLoopResult) (step : AgentLoopStep) : Prop where
  ran : task.agentRun = some run
  last : run.steps.getLast? = some step
  waits : task.waitingReason = some (agentWaitingReason step.result.reasonCode)
  ends : endsWith step.decision.command step.result = some .waitingForUser
  reports : step.decision.command.Reports step.result
  executes : task.controlMode ≠ .planOnly

/-- The invariant of the model-driven mode. -/
structure DrivenSound (task : AgentTask) : Prop where
  unjournaled : task.journal = none
  waiting : task.status = .waitingForUser → ∃ run step, DrivenWait task run step

/-- A merge keeps the last step of the new run, but for its number. -/
theorem mergeAgentLoopResults_last (previous : Option AgentLoopResult) {current : AgentLoopResult}
    {step : AgentLoopStep} (last : current.steps.getLast? = some step) :
    ∃ sequence, (mergeAgentLoopResults previous current).steps.getLast? =
      some { step with sequence := sequence } := by
  simp only [mergeAgentLoopResults, mergedSteps]
  generalize (previous.map (·.steps)).getD [] = earlier
  have whole : (earlier ++ current.steps).getLast? = some step := by
    rw [List.getLast?_append, last]
    rfl
  have nonempty : 0 < (earlier ++ current.steps).length := by
    cases same : earlier ++ current.steps with
    | nil =>
        rw [same] at whole
        cases whole
    | cons first rest => exact Nat.succ_pos _
  rw [List.getLast?_map, List.getLast?_zipIdx, List.getLast?_drop, whole, if_neg (by omega)]
  exact ⟨_, rfl⟩

theorem applyAgentResult_waiting {task : AgentTask} {result : AgentLoopResult}
    (waits : (applyAgentResult task result).status = .waitingForUser) :
    result.status = .waitingForUser ∧ (applyAgentResult task result).waitingReason =
      some (agentWaitingReason result.reasonCode) := by
  obtain ⟨status, reasonCode, pageSnapshot, steps⟩ := result
  cases status with
  | waitingForUser => exact ⟨rfl, rfl⟩
  | exhausted =>
      simp only [applyAgentResult] at waits
      split at waits <;> cases waits
  | completed | noMatch | stalled => cases waits

/-- A run of the loop ends as its last step says. -/
theorem runAgentLoop_handsOver (library : TaskLibrary) (people : List IdentityRecord)
    (task : AgentTask) (maxSteps : Nat) (answers : Nat → (o : AgentOp) → agentSignature.Answer o)
    {result : AgentLoopResult}
    (ran : (runAgentLoop library people task maxSteps).run.answered answers 0 = .ok result) :
    result.HandsOver := by
  have covered : RunCovered library (fun _ _ => True) (fun _ => True) task false := by
    refine ⟨fun _ _ => trivial, fun _ _ _ => trivial, ?_⟩
    intro snapshot current steps screenshot decision metadata _ _
    exact ⟨fun _ _ => trivial, fun _ => trivial, fun _ _ _ _ => trivial, fun _ _ _ _ _ => trivial,
      fun _ _ _ _ _ => trivial, fun _ _ _ => trivial, fun _ _ _ _ _ => trivial,
      fun _ _ _ _ _ _ _ => trivial⟩
  have within := within_runAgentLoop library people maxSteps 3 covered
  exact Prog.answered_of_each _ within answers 0 result ran

/-- Every request keeps the invariant of the model-driven mode. -/
theorem DrivenSound.request {task : AgentTask} (h : DrivenSound task) {settings : TaskSettings}
    (mode : settings.agentLlmEnabled = true) {request : TaskRequest} {changed : AgentTask}
    (accepted : (request.respond library settings task).outcome = .changed changed) :
    DrivenSound changed := by
  cases request with
  | prepareTaskPlan now =>
      simp only [TaskRequest.respond, prepareTaskPlan, taskRefusal] at accepted
      repeat' split at accepted
      all_goals cases accepted
      exact ⟨rfl, fun waits => absurd waits TaskStatus.noConfusion⟩
  | mapTaskPage identities now =>
      simp only [TaskRequest.respond, mapTaskPage, taskRefusal] at accepted
      repeat' split at accepted
      all_goals cases accepted
      refine ⟨h.unjournaled, fun waits => ?_⟩
      obtain ⟨run, step, wait⟩ := h.waiting waits
      exact ⟨run, step, wait.ran, wait.last, wait.waits, wait.ends, wait.reports, wait.executes⟩
  | approveTaskStep stepId approvalId now =>
      simp only [TaskRequest.respond, approveTaskStep, approvalConflict, taskRefusal,
        h.unjournaled] at accepted
      split at accepted
      · next impossible => cases impossible
      · cases accepted
  | clarifyAgentTask answer now =>
      simp only [TaskRequest.respond, clarifyAgentTask, taskRefusal] at accepted
      repeat' split at accepted
      all_goals cases accepted
      exact ⟨h.unjournaled, fun waits => absurd waits TaskStatus.noConfusion⟩
  | executeTask environment =>
      obtain ⟨-, ⟨-, -, people, result, -, ran, rfl⟩ | ⟨driven, -⟩⟩ :=
        executeTask_changed (TaskResponse.ext accepted rfl)
      · obtain ⟨status, waitingReason, same⟩ := continued_same task
        have unjournaled : (applyAgentResult (continued task) result).journal = none := by
          rw [same]
          exact h.unjournaled
        have allowed := executeTask_executes accepted
        have executes : (applyAgentResult (continued task) result).controlMode ≠ .planOnly := by
          rw [same]
          exact allowed
        refine ⟨unjournaled, fun waits => ?_⟩
        obtain ⟨handsOver, reason⟩ := applyAgentResult_waiting waits
        obtain ⟨step, last, ends, reports, code⟩ :=
          runAgentLoop_handsOver library people _ _ environment.answers ran handsOver
        obtain ⟨sequence, merged⟩ := mergeAgentLoopResults_last (continued task).agentRun last
        exact ⟨_, _, rfl, merged, by rw [reason, ← code], ends, reports, executes⟩
      · rw [mode] at driven
        cases driven
  | pauseTask | resumeTask | cancelTask =>
      simp only [TaskRequest.respond, pauseTask, resumeTask, cancelTask, invalidTransition,
        taskRefusal, updateStatus] at accepted
      repeat' split at accepted
      all_goals cases accepted
      exact ⟨h.unjournaled, fun waits => absurd waits TaskStatus.noConfusion⟩

theorem clarify_answerable {task : AgentTask} {question : AgentQuestion}
    (pending : pendingAgentQuestion task = some question.text)
    (waiting : task.status = .waitingForUser)
    (waits : task.waitingReason = some .clarificationRequired) (answer : String) (now : Time)
    (nonblank : collapse answer ≠ "") : (clarifyAgentTask answer now task).outcome.Changes := by
  have asked : collapse question.text ≠ "" := question.normalized.symm ▸ question.nonblank
  simp only [clarifyAgentTask, pending]
  rw [if_neg (by simp [waiting, waits]), makeClarification, if_neg (by simp [asked, nonblank])]
  exact trivial

/-- Without a question no clarification is accepted. -/
theorem clarify_unanswerable {task : AgentTask} (pending : pendingAgentQuestion task = none)
    (answer : String) (now : Time) : ¬ (clarifyAgentTask answer now task).outcome.Changes := by
  simp only [clarifyAgentTask, pending]
  exact id

namespace DrivenWait
variable {task : AgentTask} {run : AgentLoopResult} {step : AgentLoopStep}

theorem ended_iff (wait : DrivenWait task run step) :
    task.EndedUnanswered ↔ step.result.reasonCode ∈ unansweredReasons := by
  refine ⟨?_, fun known => ⟨run, step, wait.ran, wait.last, known⟩⟩
  intro ended
  obtain ⟨other, last, ran, found, known⟩ := ended
  obtain rfl : other = run := Option.some.inj (ran.symm.trans wait.ran)
  obtain rfl : last = step := Option.some.inj (found.symm.trans wait.last)
  exact known

theorem asked (wait : DrivenWait task run step) {question : AgentQuestion}
    (own : step.decision.command = .askUser question) :
    pendingAgentQuestion task = some question.text := by
  simp only [pendingAgentQuestion, wait.ran, Option.bind_some, wait.last, own]

theorem noQuestion (wait : DrivenWait task run step)
    (other : ∀ question, step.decision.command ≠ .askUser question) :
    pendingAgentQuestion task = none := by
  simp only [pendingAgentQuestion, wait.ran, Option.bind_some, wait.last]

/-- What waits for a confirmation is answered by executing the task again. -/
theorem confirmed (wait : DrivenWait task run step) (waiting : task.status = .waitingForUser)
    (reason : agentWaitingReason step.result.reasonCode = .confirmationRequired) :
    task.Answerable library true := by
  unfold AgentTask.Answerable
  rw [wait.waits, reason]
  exact executable_of_waiting waiting (reason ▸ wait.waits) (by decide) wait.executes
    fun impossible => Bool.noConfusion impossible

/-- Without a question there is nothing to clarify. -/
theorem unasked (wait : DrivenWait task run step)
    (other : ∀ question, step.decision.command ≠ .askUser question)
    (reason : agentWaitingReason step.result.reasonCode = .clarificationRequired) :
    ¬ task.Answerable library true := by
  intro answerable
  unfold AgentTask.Answerable at answerable
  rw [wait.waits, reason] at answerable
  exact clarify_unanswerable (wait.noQuestion other) "yes" 0 (answerable "yes" 0 (by decide +kernel))

/-- Without a journal there is nothing to approve. -/
theorem unblocked (wait : DrivenWait task run step) (unjournaled : task.journal = none)
    (reason : agentWaitingReason step.result.reasonCode = .sensitiveDataApprovalRequired) :
    ¬ task.Answerable library true := by
  intro answerable
  unfold AgentTask.Answerable at answerable
  rw [wait.waits, reason] at answerable
  obtain ⟨blocked, last, -⟩ := answerable
  rw [unjournaled] at last
  cases last

/-- The results of commands on the page that hand over to the user. -/
theorem onPage (wait : DrivenWait task run step) (waiting : task.status = .waitingForUser)
    (unjournaled : task.journal = none)
    (other : ∀ question, step.decision.command ≠ .askUser question)
    (known : step.result.reasonCode ∈ commandUserReasons) :
    task.Answerable library true ↔ ¬ task.EndedUnanswered := by
  rw [wait.ended_iff]
  simp only [commandUserReasons, List.mem_cons, List.not_mem_nil, or_false] at known
  rcases known with same | same | same | same
  · refine iff_of_false (wait.unasked other (same ▸ by decide +kernel)) ?_
    exact not_not_intro (same ▸ by simp [unansweredReasons])
  · refine iff_of_false (wait.unasked other (same ▸ by decide +kernel)) ?_
    exact not_not_intro (same ▸ by simp [unansweredReasons])
  · refine iff_of_true (wait.confirmed waiting (same ▸ by decide +kernel)) ?_
    rw [same]
    decide +kernel
  · refine iff_of_false (wait.unblocked unjournaled (same ▸ by decide +kernel)) ?_
    exact not_not_intro (same ▸ by simp [unansweredReasons])

end DrivenWait

/-- In the model-driven mode a task can be answered but after certain results. -/
theorem DrivenSound.answerable_iff {task : AgentTask} (h : DrivenSound task)
    (waiting : task.status = .waitingForUser) :
    task.Answerable library true ↔ ¬ task.EndedUnanswered := by
  obtain ⟨run, step, wait⟩ := h.waiting waiting
  have ends := wait.ends
  have reports := wait.reports
  cases own : step.decision.command with
  | askUser question =>
      rw [own] at reports
      have code : step.result.reasonCode = "user_input_required" := reports
      rw [wait.ended_iff, code]
      refine iff_of_true ?_ (by decide +kernel)
      have waits : task.waitingReason = some .clarificationRequired := by
        rw [wait.waits, code]
        decide +kernel
      unfold AgentTask.Answerable
      rw [waits]
      exact clarify_answerable (wait.asked own) waiting waits
  | finish outcome summary =>
      rw [own] at ends reports
      have code : step.result.reasonCode = "finished_" ++ outcome.value := reports
      have other : ∀ question, step.decision.command ≠ .askUser question := by
        intro question same
        rw [own] at same
        cases same
      rw [wait.ended_iff, code]
      cases outcome with
      | goalReached | noMatch => cases ends
      | readyForUser =>
          refine iff_of_true (wait.confirmed waiting ?_) (by decide +kernel)
          rw [code]
          decide +kernel
      | needsUser =>
          refine iff_of_false (wait.unasked other ?_) (by decide +kernel)
          rw [code]
          decide +kernel
  | _ =>
      rw [own] at ends reports
      have user : step.result.requiresUser = true := by
        cases required : step.result.requiresUser with
        | true => rfl
        | false =>
            simp only [endsWith, required] at ends
            cases ends
      refine wait.onPage waiting h.unjournaled ?_ (reports user)
      intro question same
      rw [own] at same
      cases same

end

theorem createTask_ok {identities : UUID → Option IdentityRecord} {request : AgentTaskCreate}
    {id : UUID} {now : Time} {task : AgentTask}
    (created : createTask identities request id now = .ok task) :
    task.status = .ready ∧ task.plan = none ∧ task.journal = none ∧ task.approvals = [] ∧
      task.agentRun = none := by
  simp only [createTask] at created
  split at created
  · cases created
    exact ⟨rfl, rfl, rfl, rfl, rfl⟩
  · cases created

theorem TaskReached.planned {library : TaskLibrary} {task : AgentTask}
    (reached : TaskReached library false task) : PlannedSound library task := by
  induction reached with
  | created created =>
      obtain ⟨ready, unplanned, -, unapproved, undriven⟩ := createTask_ok created
      refine ⟨⟨undriven, ?_, ?_⟩, ?_⟩
      · intro plan planned
        rw [unplanned] at planned
        cases planned
      · intro approval held
        rw [unapproved] at held
        cases held
      · intro waits
        rw [ready] at waits
        cases waits
  | request mode reached accepted ih => exact (ih.request mode accepted).saved

theorem TaskReached.driven {library : TaskLibrary} {task : AgentTask}
    (reached : TaskReached library true task) : DrivenSound task := by
  induction reached with
  | created created =>
      obtain ⟨ready, -, unjournaled, -, -⟩ := createTask_ok created
      refine ⟨unjournaled, fun waits => ?_⟩
      rw [ready] at waits
      cases waits
  | request mode reached accepted ih =>
      have sound := ih.request mode accepted
      refine ⟨sound.unjournaled, fun waits => ?_⟩
      obtain ⟨run, step, wait⟩ := sound.waiting waits
      exact ⟨run, step, wait.ran, wait.last, wait.waits, wait.ends, wait.reports, wait.executes⟩

/-- In every reachable state, a task that waits for the user can be answered as its
reason says, unless the last command of the model has ended with one of the results
that nobody can answer. -/
theorem waiting_answerable_iff (library : TaskLibrary) {modelDriven : Bool} {task : AgentTask}
    (reached : TaskReached library modelDriven task) (waiting : task.status = .waitingForUser) :
    task.Answerable library modelDriven ↔ ¬ task.EndedUnanswered := by
  cases modelDriven with
  | false =>
      have sound := reached.planned
      refine iff_of_true (sound.answerable waiting) ?_
      intro ended
      obtain ⟨run, step, ran, -⟩ := ended
      rw [sound.undriven] at ran
      cases ran
  | true => exact reached.driven.answerable_iff waiting

namespace NeededUser

def settings : TaskSettings := ⟨true, true, false, 12⟩

def created : AgentTask := Sample.agentTask

def shown : BrowserPageSnapshot := ⟨"https://shop.example/", "Shop", 0, [], "Choose a train"⟩

def finishing : AgentDecision :=
  ⟨.finish .needsUser "Two trains fit", "The user has to choose", "The user chooses"⟩

/-- A page at the target, and a model that finishes because it needs the user. -/
def answers (_ : Nat) : (o : AgentOp) → agentSignature.Answer o
  | .pageUrl => .ok "https://shop.example/"
  | .snapshotPage => .ok shown
  | .captureVisualContext => .ok none
  | .decide .. => .ok (finishing, none)
  | _ => .error .playwrightError

def environment : ExecutionEnvironment where
  identities _ := some Sample.passenger
  entered := none
  runner := ⟨fun _ _ _ => .raised⟩
  now _ := 1
  answers := answers
  exited := none

def outcome : TaskOutcome := (executeTask Sample.taskLibrary settings environment created).outcome

def changed : AgentTask :=
  match outcome with
  | .changed task => task
  | _ => created

/-- The task as it is saved after the run. -/
def waiting : AgentTask := created.saved changed

theorem reached_created : TaskReached Sample.taskLibrary true created :=
  @TaskReached.created Sample.taskLibrary true (fun _ => some Sample.passenger)
    ⟨"A train", "https://shop.example/", [⟨2⟩], none, {}, .safeAuto⟩ ⟨1⟩ 0 created rfl

theorem waits : waiting.status = .waitingForUser := by decide +kernel

theorem accepted : outcome = .changed changed := by
  have status : changed.status = .waitingForUser := waits
  unfold changed at status ⊢
  cases ended : outcome with
  | changed task => rfl
  | _ =>
      rw [ended] at status
      cases status

theorem reached : TaskReached Sample.taskLibrary true waiting :=
  @TaskReached.request Sample.taskLibrary true settings (.executeTask environment) created changed rfl
    reached_created accepted

end NeededUser

theorem waiting_answerable_iff_needed :
    NeededUser.waiting.Answerable Sample.taskLibrary true ↔ ¬ NeededUser.waiting.EndedUnanswered :=
  waiting_answerable_iff Sample.taskLibrary NeededUser.reached NeededUser.waits

/-- A model that finishes because it needs the user leaves a task that waits for a
clarification which the endpoint refuses. -/
theorem needed_user_unanswerable :
    TaskReached Sample.taskLibrary true NeededUser.waiting ∧
    NeededUser.waiting.status = .waitingForUser ∧
    NeededUser.waiting.waitingReason = some .clarificationRequired ∧
    ¬ NeededUser.waiting.Answerable Sample.taskLibrary true := by
  have unasked : pendingAgentQuestion NeededUser.waiting = none := by decide +kernel
  have reason : NeededUser.waiting.waitingReason = some .clarificationRequired := by decide +kernel
  refine ⟨NeededUser.reached, NeededUser.waits, reason, ?_⟩
  intro answerable
  unfold AgentTask.Answerable at answerable
  rw [reason] at answerable
  exact clarify_unanswerable unasked "yes" 0 (answerable "yes" 0 (by decide +kernel))

end PurchaseAgent
