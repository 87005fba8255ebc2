import PurchaseAgent.Api.Tasks
import PurchaseAgent.Correctness.TaskExecution

/-!
The lifecycle of a task under concurrent requests. The accepted saves follow each
other, each computed from the task that it replaces, and no request changes what a
completed or cancelled task has come to.
-/

namespace PurchaseAgent

open Transactions Relation

/-- What no endpoint changes of a task. -/
structure AgentTask.SameRequest (task other : AgentTask) : Prop where
  id : other.id = task.id
  version : other.version = task.version
  instruction : other.instruction = task.instruction
  targetUrl : other.targetUrl = task.targetUrl
  personIds : other.personIds = task.personIds
  controlMode : other.controlMode = task.controlMode
  permissions : other.permissions = task.permissions
  createdAt : other.createdAt = task.createdAt

theorem AgentTask.SameRequest.refl (task : AgentTask) : task.SameRequest task :=
  ⟨rfl, rfl, rfl, rfl, rfl, rfl, rfl, rfl⟩

theorem sameRequest_invariant (library : TaskLibrary) (now : Nat → Time) (planVersion : Nat)
    (task : AgentTask) :
    ProgressInvariant library now planVersion fun progress => task.SameRequest progress.current where
  append h _ := ⟨h.id, h.version, h.instruction, h.targetUrl, h.personIds, h.controlMode,
    h.permissions, h.createdAt⟩
  begin h _ := ⟨h.id, h.version, h.instruction, h.targetUrl, h.personIds, h.controlMode,
    h.permissions, h.createdAt⟩
  record := by
    intro progress step result succeededSteps executedSteps h
    obtain ⟨journal, pageSnapshot, pageFillPlan, same⟩ := progress.record_current now step result
    simp only [same]
    exact ⟨h.id, h.version, h.instruction, h.targetUrl, h.personIds, h.controlMode,
      h.permissions, h.createdAt⟩

theorem continued_sameRequest (task : AgentTask) : task.SameRequest (continued task) := by
  rw [continued]
  split
  · exact ⟨rfl, rfl, rfl, rfl, rfl, rfl, rfl, rfl⟩
  · exact .refl task

theorem AgentTask.SameRequest.trans {task other last : AgentTask} (h : task.SameRequest other)
    (h' : other.SameRequest last) : task.SameRequest last :=
  ⟨h'.id.trans h.id, h'.version.trans h.version, h'.instruction.trans h.instruction,
    h'.targetUrl.trans h.targetUrl, h'.personIds.trans h.personIds,
    h'.controlMode.trans h.controlMode, h'.permissions.trans h.permissions,
    h'.createdAt.trans h.createdAt⟩

theorem driverUnavailable_not_changed {message : String} {failure : AgentFailure}
    {changed : AgentTask} : driverUnavailable message failure ≠ .changed changed := by
  cases failure <;> exact TaskOutcome.noConfusion

/-- What `execute_task` saves comes from a run of the loop, in one mode or the other, on a
task that is ready or running; only the planned mode calls the runner. -/
theorem executeTask_changed {library : TaskLibrary} {settings : TaskSettings}
    {environment : ExecutionEnvironment} {task changed : AgentTask}
    {invocations : List Invocation}
    (accepted : executeTask library settings environment task = ⟨.changed changed, invocations⟩) :
    (continued task).status ∈ [TaskStatus.ready, .running] ∧
    ((settings.agentLlmEnabled = true ∧ invocations = [] ∧ ∃ people result,
        loadTaskPeople environment.identities (continued task) = .ok people ∧
        (runAgentLoop library people (continued task)
          (if (continued task).controlMode = .stepByStep then 1
            else settings.agentLlmMaxSteps)).run.answered environment.answers 0 = .ok result ∧
        changed = applyAgentResult (continued task) result) ∨
      (settings.agentLlmEnabled = false ∧ ∃ maxSteps error,
        executeTaskPlan library (continued task) environment.runner environment.now maxSteps =
          .ok ⟨some changed, invocations, error⟩)) := by
  simp only [executeTask, taskRefusal] at accepted
  split at accepted
  · cases accepted
  · split at accepted
    · cases accepted
    · split at accepted
      · cases accepted
      · next people loaded =>
          split at accepted
          · next enabled =>
              simp only [executeLlmAgent, taskRefusal] at accepted
              split at accepted
              · cases accepted
              · next ready =>
                  split at accepted
                  · cases accepted
                  · split at accepted
                    · exact absurd (TaskResponse.mk.inj accepted).1 driverUnavailable_not_changed
                    · split at accepted
                      · exact absurd (TaskResponse.mk.inj accepted).1 driverUnavailable_not_changed
                      · exact absurd (TaskResponse.mk.inj accepted).1 driverUnavailable_not_changed
                      · next result exited ran =>
                          cases accepted
                          exact ⟨Classical.not_not.1 ready,
                            .inl ⟨enabled, rfl, people, result, loaded, ran, rfl⟩⟩
          · next disabled =>
              simp only [executePlanned, taskRefusal] at accepted
              split at accepted
              · exact absurd (TaskResponse.mk.inj accepted).1 driverUnavailable_not_changed
              · split at accepted
                · split at accepted
                  · exact absurd (TaskResponse.mk.inj accepted).1 driverUnavailable_not_changed
                  · cases accepted
                · next execution executed =>
                    split at accepted
                    · exact absurd (TaskResponse.mk.inj accepted).1 driverUnavailable_not_changed
                    · next returned =>
                        cases accepted
                        obtain ⟨plan, planned, ready, -⟩ := executeTaskPlan_ok executed
                        have same : execution =
                            ⟨some changed, execution.invocations, execution.error⟩ := by
                          rw [← returned]
                        exact ⟨ready, .inr ⟨by simpa using disabled, _, _, same ▸ executed⟩⟩
                    · exact absurd (TaskResponse.mk.inj accepted).1 driverUnavailable_not_changed
                    · cases accepted

theorem respond_sameRequest {library : TaskLibrary} {settings : TaskSettings}
    {request : TaskRequest} {task changed : AgentTask}
    (accepted : (request.respond library settings task).outcome = .changed changed) :
    task.SameRequest changed := by
  cases request with
  | executeTask environment =>
      have same := continued_sameRequest task
      obtain ⟨-, ⟨-, -, people, result, -, -, rfl⟩ | ⟨-, maxSteps, error, executed⟩⟩ :=
        executeTask_changed (TaskResponse.ext accepted rfl)
      · exact same.trans ⟨rfl, rfl, rfl, rfl, rfl, rfl, rfl, rfl⟩
      · obtain ⟨plan, -, -, whole⟩ := executeTaskPlan_ok executed
        have first : task.SameRequest (startProgress (continued task)).current :=
          same.trans ⟨rfl, rfl, rfl, rfl, rfl, rfl, rfl, rfl⟩
        obtain ⟨last, kept, ended⟩ :=
          (sameRequest_invariant library environment.now plan.version task).execution
            environment.runner maxSteps plan.steps first
        rw [← whole] at ended
        obtain ⟨status, waitingReason, rfl⟩ := ended.task changed rfl
        exact kept.trans ⟨rfl, rfl, rfl, rfl, rfl, rfl, rfl, rfl⟩
  | approveTaskStep stepId approvalId now =>
      simp only [TaskRequest.respond, approveTaskStep, approvalConflict, taskRefusal] at accepted
      repeat' split at accepted
      all_goals cases accepted
      exact ⟨rfl, rfl, rfl, rfl, rfl, rfl, rfl, rfl⟩
  | prepareTaskPlan now =>
      simp only [TaskRequest.respond, prepareTaskPlan, taskRefusal] at accepted
      repeat' split at accepted
      all_goals cases accepted
      exact ⟨rfl, rfl, rfl, rfl, rfl, rfl, rfl, rfl⟩
  | mapTaskPage identities now =>
      simp only [TaskRequest.respond, mapTaskPage, taskRefusal] at accepted
      repeat' split at accepted
      all_goals cases accepted
      exact ⟨rfl, rfl, rfl, rfl, rfl, rfl, rfl, rfl⟩
  | clarifyAgentTask answer now =>
      simp only [TaskRequest.respond, clarifyAgentTask, taskRefusal] at accepted
      repeat' split at accepted
      all_goals cases accepted
      exact ⟨rfl, rfl, rfl, rfl, rfl, rfl, rfl, rfl⟩
  | pauseTask | resumeTask | cancelTask =>
      simp only [TaskRequest.respond, pauseTask, resumeTask, cancelTask, invalidTransition,
        taskRefusal, updateStatus] at accepted
      repeat' split at accepted
      all_goals cases accepted
      exact ⟨rfl, rfl, rfl, rfl, rfl, rfl, rfl, rfl⟩

/-- A completed or a cancelled task. -/
def AgentTask.Terminal (task : AgentTask) : Prop :=
  task.status = .completed ∨ task.status = .cancelled

/-- What a completed or cancelled task has come to. -/
structure AgentTask.SameOutcome (task other : AgentTask) : Prop where
  status : other.status = task.status
  plan : other.plan = task.plan
  journal : other.journal = task.journal
  approvals : other.approvals = task.approvals
  clarifications : other.clarifications = task.clarifications
  agentRun : other.agentRun = task.agentRun

theorem AgentTask.SameOutcome.trans {task other last : AgentTask} (h : task.SameOutcome other)
    (h' : other.SameOutcome last) : task.SameOutcome last :=
  ⟨h'.status.trans h.status, h'.plan.trans h.plan, h'.journal.trans h.journal,
    h'.approvals.trans h.approvals, h'.clarifications.trans h.clarifications,
    h'.agentRun.trans h.agentRun⟩

/-- Of a terminal task an endpoint changes the fill plan at most. -/
theorem respond_terminal {library : TaskLibrary} {settings : TaskSettings} {request : TaskRequest}
    {task changed : AgentTask} (terminal : task.Terminal)
    (accepted : (request.respond library settings task).outcome = .changed changed) :
    task.SameOutcome changed := by
  have notWaiting : task.status ≠ .waitingForUser := by
    rcases terminal with done | done <;> rw [done] <;> exact TaskStatus.noConfusion
  cases request with
  | mapTaskPage identities now =>
      simp only [TaskRequest.respond, mapTaskPage, taskRefusal] at accepted
      repeat' split at accepted
      all_goals cases accepted
      exact ⟨rfl, rfl, rfl, rfl, rfl, rfl⟩
  | executeTask environment =>
      have same : continued task = task := by
        rw [continued, if_neg]
        exact fun waiting => notWaiting waiting.1
      obtain ⟨executable, -⟩ := executeTask_changed (TaskResponse.ext accepted rfl)
      rw [same] at executable
      rcases terminal with done | done <;> simp [done] at executable
  | approveTaskStep stepId approvalId now =>
      simp only [TaskRequest.respond, approveTaskStep, approvalConflict, taskRefusal] at accepted
      split at accepted
      · rw [if_pos notWaiting] at accepted
        cases accepted
      · cases accepted
  | clarifyAgentTask answer now =>
      simp only [TaskRequest.respond, clarifyAgentTask, taskRefusal] at accepted
      split at accepted
      · cases accepted
      · rw [if_pos (Or.inl notWaiting)] at accepted
        cases accepted
  | prepareTaskPlan now =>
      simp only [TaskRequest.respond, prepareTaskPlan, taskRefusal] at accepted
      rw [if_pos] at accepted
      · cases accepted
      · rcases terminal with done | done <;> simp [done]
  | pauseTask =>
      simp only [TaskRequest.respond, pauseTask, invalidTransition, taskRefusal] at accepted
      rw [if_pos] at accepted
      · cases accepted
      · rcases terminal with done | done <;> simp [done]
  | resumeTask =>
      simp only [TaskRequest.respond, resumeTask, invalidTransition, taskRefusal] at accepted
      rw [if_pos] at accepted
      · cases accepted
      · rcases terminal with done | done <;> simp [done]
  | cancelTask =>
      simp only [TaskRequest.respond, cancelTask, invalidTransition, taskRefusal] at accepted
      rcases terminal with done | done <;> simp [done] at accepted

theorem AgentTaskRepository.update_same (repository : AgentTaskRepository) {task changed : AgentTask}
    (same : task.SameRequest changed) :
    repository.update changed task = { changed with version := task.version + 1 } := by
  cases repository with
  | inMemory => rfl
  | sqlAlchemy =>
      obtain ⟨id, version, instruction, targetUrl, personIds, controlMode, permissions,
        createdAt⟩ := same
      simp only [AgentTaskRepository.update, ← id, ← instruction, ← targetUrl, ← personIds,
        ← createdAt]

section
variable (repository : AgentTaskRepository) (library : TaskLibrary) (settings : TaskSettings)

theorem decide_changed {repository : AgentTaskRepository} {library : TaskLibrary}
    {settings : TaskSettings} {request : TaskRequest} {task : AgentTask}
    {write : AgentTask → Option AgentTask}
    (decided : (repository.protocol library settings).decide request task = some write) :
    ∃ changed, (request.respond library settings task).outcome = .changed changed ∧
      write = fun row => some (repository.update changed row) := by
  simp only [AgentTaskRepository.protocol] at decided
  split at decided
  · next changed outcome => exact ⟨changed, outcome, (Option.some.inj decided).symm⟩
  · cases decided

theorem task_protocol_lawful : (repository.protocol library settings).Lawful where
  raises := by
    intro request task write row row' decided written
    obtain ⟨changed, -, rfl⟩ := decide_changed decided
    obtain rfl := Option.some.inj written
    cases repository <;> rfl
  reread_version _ _ := rfl
  reread_self _ := rfl

end

/-- The accepted saves in turn: each is computed from the task that it replaces and
raises the version by one. -/
def TaskSavesInTurn (library : TaskLibrary) (settings : TaskSettings) :
    Option AgentTask → List (Accepted AgentTask TaskRequest) → Option AgentTask → Prop
  | start, [], final => final = start
  | start, x :: rest, final =>
    start = some x.read ∧ x.before = x.read ∧
      (∃ changed, (x.request.respond library settings x.read).outcome = .changed changed ∧
        x.after = some { changed with version := x.read.version + 1 }) ∧
      TaskSavesInTurn library settings x.after rest final

theorem saved_of_serial {repository : AgentTaskRepository} {library : TaskLibrary}
    {settings : TaskSettings} {x : Accepted AgentTask TaskRequest}
    (serial : (repository.protocol library settings).Serial x) :
    ∃ changed, (x.request.respond library settings x.before).outcome = .changed changed ∧
      x.after = some { changed with version := x.before.version + 1 } := by
  obtain ⟨write, decided, after⟩ := serial.decided
  obtain ⟨changed, outcome, rfl⟩ := decide_changed decided
  refine ⟨changed, outcome, ?_⟩
  rw [after]
  exact congrArg some (repository.update_same (respond_sameRequest outcome))

theorem taskSavesInTurn_of_chained {repository : AgentTaskRepository} {library : TaskLibrary}
    {settings : TaskSettings} {history : List (Accepted AgentTask TaskRequest)}
    {start final : Option AgentTask}
    (chained : (repository.protocol library settings).Chained start history final) :
    TaskSavesInTurn library settings start history final := by
  induction history generalizing start with
  | nil => exact chained
  | cons x rest ih =>
      obtain ⟨before, serial, rest⟩ := chained
      refine ⟨serial.read ▸ before, serial.read.symm, ?_, ih rest⟩
      rw [serial.read]
      exact saved_of_serial serial

/-- In every interleaving of requests for a task the accepted saves follow each other,
and once the task is completed or cancelled its outcome stays. -/
theorem task_lifecycle (repository : AgentTaskRepository) (library : TaskLibrary)
    (settings : TaskSettings) {requests : Nat → TaskRequest} {task : Option AgentTask}
    {c : Config AgentTask TaskRequest}
    (run : ReflTransGen (Step (repository.protocol library settings) requests)
      (Config.start task) c) :
    TaskSavesInTurn library settings task c.history c.committed ∧
    ∀ done, c.committed = some done → done.Terminal → ∀ later,
      ReflTransGen (Step (repository.protocol library settings) requests) c later →
        ∃ last, later.committed = some last ∧ done.SameOutcome last := by
  have lawful := task_protocol_lawful repository library settings
  have sound := (Protocol.sound_start requests task).run lawful run
  refine ⟨taskSavesInTurn_of_chained sound.chained, ?_⟩
  intro done committed terminal later run
  let holds (row : Option AgentTask) := ∃ last, row = some last ∧ done.SameOutcome last
  have first : holds c.committed := ⟨done, committed, rfl, rfl, rfl, rfl, rfl, rfl⟩
  refine sound.preserves lawful ?_ run first
  intro x serial kept
  obtain ⟨last, before, same⟩ := kept
  obtain rfl := Option.some.inj before
  have stays : x.before.Terminal := by
    rw [AgentTask.Terminal, same.status]
    exact terminal
  obtain ⟨changed, outcome, after⟩ := saved_of_serial serial
  have unchanged := respond_terminal stays outcome
  exact ⟨_, after, same.trans ⟨unchanged.status, unchanged.plan, unchanged.journal,
    unchanged.approvals, unchanged.clarifications, unchanged.agentRun⟩⟩

namespace PausedTask

def settings : TaskSettings := ⟨true, false, false, 12⟩

def ready : AgentTask := Sample.agentTask

def paused : AgentTask := { ready with status := .paused, version := 1 }

def cancelled : AgentTask := { ready with status := .cancelled, version := 2 }

/-- A pause, two cancellations and what comes later. -/
def requests : Nat → TaskRequest
  | 0 => .pauseTask
  | 1 | 2 => .cancelTask
  | _ => .resumeTask

abbrev protocol : Protocol AgentTask TaskRequest :=
  AgentTaskRepository.inMemory.protocol Sample.taskLibrary settings

abbrev Run : Config AgentTask TaskRequest → Config AgentTask TaskRequest → Prop :=
  ReflTransGen (Step protocol requests)

def pausing : Accepted AgentTask TaskRequest := ⟨requests 0, ready, ready, some paused⟩

def cancelling : Accepted AgentTask TaskRequest := ⟨requests 2, paused, paused, some cancelled⟩

def load (c : Config AgentTask TaskRequest) (i : Nat) (task : AgentTask) :
    Config AgentTask TaskRequest :=
  (c.enter i (.reading task)).enter i (.loaded task)

def bothLoaded : Config AgentTask TaskRequest :=
  load (load (Config.start (some ready)) 0 ready) 1 ready

/-- The pause is saved, and the cancellation that had read the task before it is refused. -/
def pauseSaved : Config AgentTask TaskRequest :=
  (bothLoaded.commit 0 pausing).refuse 1 (requests 1) ready

def cancelSaved : Config AgentTask TaskRequest := (load pauseSaved 2 paused).commit 2 cancelling

theorem pauseSaved_reached : Run (Config.start (some ready)) pauseSaved := by
  have first : Run (Config.start (some ready)) _ := Step.loads (i := 0) rfl rfl
  have second : Run _ bothLoaded := Step.loads (i := 1) rfl rfl
  have save := @Step.save _ _ protocol requests bothLoaded 0 ready ready
    (fun row => some (AgentTaskRepository.inMemory.update { ready with status := .paused } row))
    rfl rfl rfl rfl rfl
  have conflict := @Step.conflict _ _ protocol requests (bothLoaded.commit 0 pausing) 1 ready
    (fun row => some (AgentTaskRepository.inMemory.update { ready with status := .cancelled } row))
    rfl rfl rfl (by simp [Config.commit, pausing, paused, AgentTaskRepository.protocol, ready, Sample.agentTask])
  exact .tail (.tail (first.trans second) save) conflict

theorem cancelSaved_reached : Run (Config.start (some ready)) cancelSaved := by
  have third : Run pauseSaved _ := Step.loads (i := 2) rfl rfl
  have save := @Step.save _ _ protocol requests (load pauseSaved 2 paused) 2 paused paused
    (fun row => some (AgentTaskRepository.inMemory.update { paused with status := .cancelled } row))
    rfl rfl rfl rfl rfl
  exact .tail (pauseSaved_reached.trans third) save

end PausedTask

/-- The task is paused, then cancelled, and keeps its outcome whatever comes later. -/
theorem task_lifecycle_paused :
    TaskSavesInTurn Sample.taskLibrary PausedTask.settings (some PausedTask.ready)
      [PausedTask.pausing, PausedTask.cancelling] (some PausedTask.cancelled) ∧
    ∀ later, PausedTask.Run PausedTask.cancelSaved later →
      ∃ last, later.committed = some last ∧ PausedTask.cancelled.SameOutcome last := by
  obtain ⟨inTurn, stays⟩ := task_lifecycle .inMemory Sample.taskLibrary PausedTask.settings
    PausedTask.cancelSaved_reached
  exact ⟨inTurn, stays PausedTask.cancelled rfl (.inr rfl)⟩

end PurchaseAgent
