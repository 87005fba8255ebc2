import PurchaseAgent.Api.Exceptions
import PurchaseAgent.Services.AgentLoop
import PurchaseAgent.Services.PageFieldMapper
import PurchaseAgent.Services.TaskExecutor
import PurchaseAgent.Transactions.VersionedRow

/-!
The endpoints of agent tasks. Each computes a changed copy of the task that it has
loaded, and saves it under the version of that task.
-/

namespace PurchaseAgent

open Cooperative Transactions

structure TaskSettings where
  browserAutomationEnabled : Bool
  agentLlmEnabled : Bool
  /-- Whether the provider is `openai` and has no key. -/
  openaiApiKeyMissing : Bool
  agentLlmMaxSteps : Nat

/-- What an execution meets outside of the program: the people, the driver as it is
entered and left, the runner of steps, the clock, and the page with the model. -/
structure ExecutionEnvironment where
  identities : UUID → Option IdentityRecord
  entered : Option AgentFailure
  runner : BrowserStepRunner
  now : Nat → Time
  answers : Nat → (o : AgentOp) → agentSignature.Answer o
  exited : Option AgentFailure

/-- What an endpoint makes of the task it has loaded. -/
inductive TaskOutcome where
  | refused (answer : HTTPException)
  | raised (error : PyException)
  | interrupted
  | unchanged
  | changed (task : AgentTask)

/-- The outcome of an endpoint, and the calls of the runner on the way to it. -/
@[ext] structure TaskResponse where
  outcome : TaskOutcome
  invocations : List Invocation := []

def taskRefusal (code message : String) : TaskResponse := ⟨.refused (.coded 409 code message), []⟩

def invalidTransition (current target : TaskStatus) : TaskResponse :=
  taskRefusal "invalid_task_transition"
    ("Task cannot move from " ++ current.value ++ " to " ++ target.value ++ ".")

def approvalConflict (message : String) : TaskResponse :=
  taskRefusal "task_step_not_approvable" message

/-- `_update_status`, up to the save. -/
def updateStatus (task : AgentTask) (status : TaskStatus) : TaskResponse :=
  ⟨.changed { task with status := status, waitingReason := none }, []⟩

/-- A body of `POST /tasks`, as the validators of `AgentTask` have normalised it. -/
structure AgentTaskCreate where
  instruction : String
  targetUrl : String
  personIds : List UUID
  inferredKind : Option String
  permissions : TaskPermissionPolicy
  controlMode : TaskControlMode

/-- `create_task`, with the id that it draws. -/
def createTask (identities : UUID → Option IdentityRecord) (request : AgentTaskCreate)
    (id : UUID) (now : Time) : Except HTTPException AgentTask :=
  match request.personIds.filter fun personId => (identities personId).isNone with
  | [] =>
    .ok {
      id := id
      instruction := request.instruction
      targetUrl := request.targetUrl
      personIds := request.personIds
      inferredKind := request.inferredKind
      permissions := request.permissions
      controlMode := request.controlMode
      status := .ready
      createdAt := now }
  | missing =>
    .error (.coded 422 "unknown_people" "Every selected person must exist."
      [("person_ids", .list (missing.map fun personId => .str personId.str))])

def loadTaskPeople (identities : UUID → Option IdentityRecord) (task : AgentTask) :
    Except HTTPException (List IdentityRecord) :=
  task.personIds.mapM fun personId =>
    match identities personId with
    | none => .error
        (.coded 409 "person_no_longer_exists" "A selected person no longer exists.")
    | some identity => .ok identity

def prepareTaskPlan (library : TaskLibrary) (now : Time) (task : AgentTask) : TaskResponse :=
  if task.status ∈ [TaskStatus.running, .completed, .cancelled] then
    taskRefusal "task_cannot_be_planned"
      ("Task in " ++ task.status.value ++ " state cannot be planned.")
  else
    match buildTaskPlan library task now with
    | .error error => ⟨.raised error, []⟩
    | .ok preview =>
      ⟨.changed { task with
        plan := some preview.plan
        journal := none
        approvals := []
        pageSnapshot := none
        pageFillPlan := none
        inferredKind := some preview.inferredKind
        intent := some preview.intent
        status := .ready
        waitingReason := none }, []⟩

def mapTaskPage (library : TaskLibrary) (identities : UUID → Option IdentityRecord) (now : Time)
    (task : AgentTask) : TaskResponse :=
  match task.pageSnapshot with
  | none => taskRefusal "page_not_captured" "Execute page inspection before mapping fields."
  | some snapshot =>
    match loadTaskPeople identities task with
    | .error answer => ⟨.refused answer, []⟩
    | .ok _ =>
      ⟨.changed { task with
        pageFillPlan := some (buildPageFillPlan library task snapshot now) }, []⟩

/-- The step id of a request, as the endpoint compares it. -/
def requestedStepId (library : TaskLibrary) (stepId : String) : String :=
  String.ofList ((library.casefold (strip stepId)).toList.map fun c => if c = '-' then '_' else c)

/-- `approve_task_step`, with the id that it draws. -/
def approveTaskStep (library : TaskLibrary) (stepId : String) (approvalId : UUID) (now : Time)
    (task : AgentTask) : TaskResponse :=
  match task.waitingReason, task.plan, (task.journal.getD []).getLast? with
  | some waitingReason, some plan, some blocked =>
    if task.status ≠ .waitingForUser then
      approvalConflict "Task is not waiting for an approvable step."
    else if blocked.outcome ≠ .blocked ∨ blocked.stepId ≠ requestedStepId library stepId then
      approvalConflict "Only the currently blocked step can be approved."
    else if blocked.reasonCode ≠ some waitingReason.value then
      approvalConflict "Blocked step reason no longer matches the task."
    else if task.approvals.any fun approval =>
        approval.stepId = blocked.stepId ∧ approval.consumedAt = none then
      approvalConflict "The blocked step already has an active approval."
    else
      ⟨.changed { task with
        approvals := task.approvals ++
          [⟨approvalId, plan.version, blocked.stepId, waitingReason.value, now, none⟩]
        status := .ready
        waitingReason := none }, []⟩
  | _, _, _ => approvalConflict "Task is not waiting for an approvable step."

def pendingAgentQuestion (task : AgentTask) : Option String :=
  match task.agentRun.bind (·.steps.getLast?) with
  | none => none
  | some step =>
    match step.decision.command with
    | .askUser question => some question.text
    | _ => none

/-- `TaskClarification(...)`, whose texts may not be blank. -/
def makeClarification (question answer : String) (now : Time) :
    Except PyException TaskClarification :=
  if collapse question = "" ∨ collapse answer = "" then
    .error (validationError "clarification text must not be blank")
  else .ok ⟨collapse question, collapse answer, now⟩

def clarifyAgentTask (answer : String) (now : Time) (task : AgentTask) : TaskResponse :=
  match pendingAgentQuestion task with
  | none => taskRefusal "task_clarification_not_expected"
      "The agent is not waiting for a clarification."
  | some question =>
    if task.status ≠ .waitingForUser ∨ task.waitingReason ≠ some .clarificationRequired then
      taskRefusal "task_clarification_not_expected" "The agent is not waiting for a clarification."
    else
      match makeClarification question answer now with
      | .error error => ⟨.raised error, []⟩
      | .ok clarification =>
        ⟨.changed { task with
          clarifications := task.clarifications ++ [clarification]
          status := .ready
          waitingReason := none }, []⟩

def driverUnavailable (message : String) : AgentFailure → TaskOutcome
  | .interrupted => .interrupted
  | .visibleBrowserUnavailableError => .refused (.coded 503 "visible_browser_unavailable"
      "Окно агента закрыто. Запустите видимый Chromium и повторите шаг.")
  | .agentDecisionProviderError => .refused (.coded 503 "agent_llm_unavailable"
      "The LLM agent could not choose its next action.")
  | .playwrightError | .exception => .refused (.coded 503 "browser_driver_unavailable" message)

/-- The planned mode of `execute_task`. -/
def executePlanned (library : TaskLibrary) (environment : ExecutionEnvironment)
    (task : AgentTask) : TaskResponse :=
  let unavailable := driverUnavailable "Browser driver could not be started."
  match environment.entered with
  | some failure => ⟨unavailable failure, []⟩
  | none =>
    match executeTaskPlan library task environment.runner environment.now
        (if task.controlMode = .stepByStep then some 1 else none) with
    | .error message =>
      match environment.exited with
      | some failure => ⟨unavailable failure, []⟩
      | none => taskRefusal "task_not_executable" message
    | .ok execution =>
      match environment.exited, execution.task, execution.error with
      | some failure, _, _ => ⟨unavailable failure, execution.invocations⟩
      | none, some executed, _ => ⟨.changed executed, execution.invocations⟩
      | none, none, some _ => ⟨unavailable .exception, execution.invocations⟩
      | none, none, none => ⟨.interrupted, execution.invocations⟩

def agentWaitingReason (reasonCode : String) : UserActionReason :=
  if reasonCode = "sensitive_data_approval_required" then .sensitiveDataApprovalRequired
  else if reasonCode = "authentication_required" then .authenticationRequired
  else if reasonCode = "captcha_required" then .captchaRequired
  else if reasonCode = "payment_required" then .paymentRequired
  else if reasonCode = "irreversible_click_requires_user" then .confirmationRequired
  else if reasonCode = "finished_ready_for_user" then .confirmationRequired
  else .clarificationRequired

def applyAgentResult (task : AgentTask) (result : AgentLoopResult) : AgentTask :=
  let (status, waitingReason) : TaskStatus × Option UserActionReason :=
    match result.status with
    | .completed => (.completed, none)
    | .waitingForUser => (.waitingForUser, some (agentWaitingReason result.reasonCode))
    | .exhausted => (if task.controlMode = .stepByStep then .ready else .failed, none)
    | .noMatch | .stalled => (.failed, none)
  { task with
    status := status
    waitingReason := waitingReason
    pageSnapshot := some result.pageSnapshot
    pageFillPlan := none
    agentRun := some (mergeAgentLoopResults task.agentRun result) }

def executeLlmAgent (library : TaskLibrary) (settings : TaskSettings)
    (environment : ExecutionEnvironment) (people : List IdentityRecord) (task : AgentTask) :
    TaskResponse :=
  let unavailable := driverUnavailable "Browser driver could not complete the agent run."
  if task.status ∉ [TaskStatus.ready, .running] then
    taskRefusal "task_not_executable"
      ("Task in " ++ task.status.value ++ " state cannot be executed.")
  else if settings.openaiApiKeyMissing then
    ⟨.refused (.coded 503 "agent_llm_not_configured"
      "LLM agent is enabled but OPENAI_API_KEY is missing."), []⟩
  else
    match environment.entered with
    | some failure => ⟨unavailable failure, []⟩
    | none =>
      let maxSteps := if task.controlMode = .stepByStep then 1 else settings.agentLlmMaxSteps
      match environment.exited,
          (runAgentLoop library people task maxSteps).run.answered environment.answers 0 with
      | some failure, _ => ⟨unavailable failure, []⟩
      | none, .error failure => ⟨unavailable failure, []⟩
      | none, .ok result => ⟨.changed (applyAgentResult task result), []⟩

/-- The reasons after which a user goes on by executing again. -/
def executableReasons : List UserActionReason :=
  [.authenticationRequired, .captchaRequired, .confirmationRequired, .paymentRequired]

/-- The task that `execute_task` goes on with. -/
def continued (task : AgentTask) : AgentTask :=
  if task.status = .waitingForUser ∧ task.waitingReason.any (· ∈ executableReasons) then
    { task with status := .ready, waitingReason := none }
  else task

def executeTask (library : TaskLibrary) (settings : TaskSettings)
    (environment : ExecutionEnvironment) (task : AgentTask) : TaskResponse :=
  if ¬ settings.browserAutomationEnabled then
    ⟨.refused (.coded 503 "browser_automation_disabled" "Browser automation is disabled."), []⟩
  else if task.controlMode = .planOnly then
    taskRefusal "task_execution_disabled" "Task is in plan-only mode."
  else
    let task := continued task
    match loadTaskPeople environment.identities task with
    | .error answer => ⟨.refused answer, []⟩
    | .ok people =>
      if settings.agentLlmEnabled then executeLlmAgent library settings environment people task
      else executePlanned library environment task

def pauseTask (task : AgentTask) : TaskResponse :=
  if task.status ∈ [TaskStatus.completed, .cancelled, .paused] then
    invalidTransition task.status .paused
  else updateStatus task .paused

def resumeTask (task : AgentTask) : TaskResponse :=
  if task.status ∉ [TaskStatus.paused, .failed, .monitoring, .waitingForUser] then
    invalidTransition task.status .ready
  else updateStatus task .ready

def cancelTask (task : AgentTask) : TaskResponse :=
  if task.status = .completed then invalidTransition task.status .cancelled
  else if task.status = .cancelled then ⟨.unchanged, []⟩
  else updateStatus task .cancelled

/-- A request for a task, with what it meets. -/
inductive TaskRequest where
  | prepareTaskPlan (now : Time)
  | mapTaskPage (identities : UUID → Option IdentityRecord) (now : Time)
  | approveTaskStep (stepId : String) (approvalId : UUID) (now : Time)
  | clarifyAgentTask (answer : String) (now : Time)
  | executeTask (environment : ExecutionEnvironment)
  | pauseTask
  | resumeTask
  | cancelTask

/-- The endpoint of a request. -/
def TaskRequest.respond (library : TaskLibrary) (settings : TaskSettings) :
    TaskRequest → AgentTask → TaskResponse
  | .prepareTaskPlan now, task => PurchaseAgent.prepareTaskPlan library now task
  | .mapTaskPage identities now, task => PurchaseAgent.mapTaskPage library identities now task
  | .approveTaskStep stepId approvalId now, task =>
    PurchaseAgent.approveTaskStep library stepId approvalId now task
  | .clarifyAgentTask answer now, task => PurchaseAgent.clarifyAgentTask answer now task
  | .executeTask environment, task => PurchaseAgent.executeTask library settings environment task
  | .pauseTask, task => PurchaseAgent.pauseTask task
  | .resumeTask, task => PurchaseAgent.resumeTask task
  | .cancelTask, task => PurchaseAgent.cancelTask task

inductive AgentTaskRepository where
  | inMemory
  | sqlAlchemy

/-- `update`, applied to the row whose version is the expected one. The SQL
repository leaves the columns that no endpoint changes. -/
def AgentTaskRepository.update (task : AgentTask) : AgentTaskRepository → AgentTask → AgentTask
  | .inMemory, row => { task with version := row.version + 1 }
  | .sqlAlchemy, row =>
    { row with
      status := task.status
      controlMode := task.controlMode
      inferredKind := task.inferredKind
      intent := task.intent
      waitingReason := task.waitingReason
      permissions := task.permissions
      plan := task.plan
      journal := task.journal
      approvals := task.approvals
      pageSnapshot := task.pageSnapshot
      pageFillPlan := task.pageFillPlan
      agentRun := task.agentRun
      clarifications := task.clarifications
      version := row.version + 1 }

/-- The task as the row of a repository. A task is read by one statement; its columns are
taken to give back the task that was written, without the validators of a reload. -/
def AgentTaskRepository.protocol (repository : AgentTaskRepository) (library : TaskLibrary)
    (settings : TaskSettings) : Protocol AgentTask TaskRequest where
  version := AgentTask.version
  reread task _ := task
  decide request task :=
    match (request.respond library settings task).outcome with
    | .changed changed => some fun row => some (repository.update changed row)
    | _ => none

end PurchaseAgent
