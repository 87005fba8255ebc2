import PurchaseAgent.Correctness.TaskAuthorization
import PurchaseAgent.Correctness.TaskLifecycle
import PurchaseAgent.Transactions.ActingRequests

/-!
Concurrent executions of one task. A save is checked after the browser has acted, so
the calls of an execution whose save is not accepted are known to nobody. Approvals serve
once and the journal shows every call where no save comes between the load and the save of
an execution, none is cancelled and the browser is left without an error.
-/

namespace PurchaseAgent

open Transactions Relation

/-- An execution, a pause or a cancellation. -/
def TaskRequest.Concurrent : TaskRequest → Prop
  | .executeTask _ | .pauseTask | .cancelTask => True
  | _ => False

/-- The calls of the runner by the requests that have ended: those whose save was
accepted, and those that came to nothing. -/
def runnerCalls (library : TaskLibrary) (settings : TaskSettings)
    (c : Config AgentTask TaskRequest) : List Invocation :=
  (c.history.flatMap fun x => (x.request.respond library settings x.read).invocations) ++
    c.lost.flatMap fun x => (x.1.respond library settings x.2).invocations

/-- The steps that a journal shows as started, in order. -/
def startedSteps (task : AgentTask) : List String :=
  ((task.journal.getD []).filter (·.outcome = .started)).map (·.stepId)

/-- The stored journal shows every call after what it showed at first. -/
def CallsRecorded (library : TaskLibrary) (settings : TaskSettings) (first : AgentTask)
    (c : Config AgentTask TaskRequest) : Prop :=
  ∀ task ∈ c.committed, startedSteps task =
    startedSteps first ++ (runnerCalls library settings c).map (·.step.stepId)

/-- No approval has served two calls. -/
def ApprovalsOnce (library : TaskLibrary) (settings : TaskSettings)
    (c : Config AgentTask TaskRequest) : Prop :=
  (usedApprovals library (runnerCalls library settings c)).Nodup

/-- The request is an execution of the plan that passes what is checked before its loop. -/
def TaskRequest.Acts (settings : TaskSettings) (request : TaskRequest) (task : AgentTask) : Prop :=
  ∃ environment people plan, request = .executeTask environment ∧
    settings.browserAutomationEnabled = true ∧ settings.agentLlmEnabled = false ∧
    task.controlMode ≠ .planOnly ∧
    loadTaskPeople environment.identities (continued task) = .ok people ∧
    environment.entered = none ∧ task.plan = some plan ∧
    (continued task).status ∈ [TaskStatus.ready, .running]

/-- An execution is not cancelled, and leaves the browser without an error. -/
def TaskRequest.Undisturbed (request : TaskRequest) : Prop :=
  ∀ environment, request = .executeTask environment → environment.exited = none ∧
    ∀ call task step, environment.runner.run call task step ≠ .interrupted

/-- The policy raises on no step of the plan. -/
def AgentTask.Decided (library : TaskLibrary) (task : AgentTask) : Prop :=
  ∀ plan ∈ task.plan, ∀ step ∈ plan.steps, ∃ decision,
    evaluateBrowserAction library task step.toActionRequest = .ok decision

/-- Every execution that has called the runner has been saved. -/
def CallsSaved (library : TaskLibrary) (settings : TaskSettings)
    (c : Config AgentTask TaskRequest) : Prop :=
  ∀ x ∈ c.lost, (x.1.respond library settings x.2).invocations = []

theorem startedSteps_of_journal {task other : AgentTask} (same : other.journal = task.journal) :
    startedSteps other = startedSteps task := by
  rw [startedSteps, startedSteps, same]

theorem startedSteps_append (progress : ExecutionProgress) (now : Nat → Time) (stepId : String)
    {outcome : TaskJournalOutcome} (message : String) (reasonCode : Option String)
    (notStarted : outcome ≠ .started) :
    startedSteps (progress.append now stepId outcome message reasonCode).current =
      startedSteps progress.current := by
  simp [startedSteps, ExecutionProgress.append, appendTaskJournalEntry, ExecutionProgress.journal,
    notStarted]

theorem startedSteps_begin (progress : ExecutionProgress) (now : Nat → Time) (step : TaskPlanStep)
    (approval : Option TaskStepApproval) (reasonCode : String) :
    startedSteps (progress.begin now step approval reasonCode).current =
      startedSteps progress.current ++ [step.stepId] := by
  simp [startedSteps, ExecutionProgress.begin, appendTaskJournalEntry, ExecutionProgress.journal]

theorem startedSteps_record (progress : ExecutionProgress) (now : Nat → Time) (step : TaskPlanStep)
    (result : BrowserStepResult) :
    startedSteps (progress.record now step result).current = startedSteps progress.current := by
  have appended : (progress.record now step result).current.journal =
      (progress.append now step.stepId (if result.succeeded then .succeeded else .failed)
        (if result.succeeded then "Browser step completed" else "Browser step failed")
        result.reasonCode).current.journal := progress.record_currentJournal now step result
  rw [startedSteps_of_journal appended]
  apply startedSteps_append
  cases result.succeeded <;> exact TaskJournalOutcome.noConfusion

/-- Along an execution the journal shows every call. -/
theorem recording_invariant (library : TaskLibrary) (now : Nat → Time) (planVersion : Nat)
    (first : AgentTask) :
    ProgressInvariant library now planVersion fun progress =>
      startedSteps progress.current =
        startedSteps first ++ progress.invocations.map (·.step.stepId) where
  append := by
    intro progress stepId outcome message reasonCode h notStarted
    rw [startedSteps_append progress now stepId message reasonCode notStarted]
    exact h
  begin := by
    intro progress step decision approval reasonCode h _
    rw [startedSteps_begin, h]
    simp [ExecutionProgress.begin]
  record := by
    intro progress step result succeededSteps executedSteps h
    exact (startedSteps_record progress now step result).trans h

/-- Along an execution the task keeps its plan. -/
theorem plan_invariant (library : TaskLibrary) (now : Nat → Time) (planVersion : Nat)
    (plan : Option TaskPlan) :
    ProgressInvariant library now planVersion fun progress => progress.current.plan = plan where
  append h _ := h
  begin h _ := h
  record h := (ExecutionProgress.record_plan ..).trans h

section
variable {library : TaskLibrary} {settings : TaskSettings}

/-- What an accepted request leaves: its plan, and its calls recorded, which are sound as
the calls before them were. -/
theorem respond_concurrent {request : TaskRequest} (concurrent : request.Concurrent)
    {task changed : AgentTask} {invocations : List Invocation}
    (accepted : request.respond library settings task = ⟨.changed changed, invocations⟩) :
    changed.plan = task.plan ∧
      startedSteps changed = startedSteps task ++ invocations.map (·.step.stepId) ∧
      ∀ granted earlier, AuthorizationSound library granted earlier task →
        AuthorizationSound library granted (earlier ++ invocations) changed := by
  cases request with
  | executeTask environment =>
      obtain ⟨status, waitingReason, same⟩ := continued_same task
      obtain ⟨-, ⟨-, rfl, people, result, -, -, rfl⟩ | ⟨-, maxSteps, error, executed⟩⟩ :=
        executeTask_changed accepted
      · refine ⟨by rw [same]; rfl, ?_, ?_⟩
        · rw [List.map_nil, List.append_nil]
          exact startedSteps_of_journal (by rw [same]; rfl)
        · intro granted earlier sound
          rw [List.append_nil]
          exact sound.of_same (by rw [same]; rfl) (by rw [same]; rfl)
      · refine ⟨?_, ?_, ?_⟩
        · obtain ⟨plan, -, -, whole⟩ := executeTaskPlan_ok executed
          have first : (startProgress (continued task)).current.plan = task.plan := by
            rw [startProgress, same]
          obtain ⟨last, kept, ended⟩ :=
            (plan_invariant library environment.now plan.version task.plan).execution
              environment.runner maxSteps plan.steps first
          rw [← whole] at ended
          obtain ⟨status, waitingReason, rfl⟩ := ended.task changed rfl
          exact kept
        · obtain ⟨plan, -, -, whole⟩ := executeTaskPlan_ok executed
          have first : startedSteps (startProgress (continued task)).current =
              startedSteps task ++
                (startProgress (continued task)).invocations.map (·.step.stepId) := by
            rw [same]
            simp [startedSteps, startProgress]
          obtain ⟨last, recorded, ended⟩ :=
            (recording_invariant library environment.now plan.version task).execution
              environment.runner maxSteps plan.steps first
          rw [← whole] at ended
          obtain ⟨status, waitingReason, rfl⟩ := ended.task changed rfl
          have calls : invocations = last.invocations := ended.invocations
          rw [calls, ← recorded]
          exact startedSteps_of_journal rfl
        · intro granted earlier sound
          exact (sound.execution executed).1 changed rfl
  | pauseTask =>
      simp only [TaskRequest.respond, pauseTask, invalidTransition, taskRefusal, updateStatus]
        at accepted
      split at accepted <;> cases accepted
      refine ⟨rfl, (List.append_nil _).symm, ?_⟩
      intro granted earlier sound
      rw [List.append_nil]
      exact sound.of_same rfl rfl
  | cancelTask =>
      simp only [TaskRequest.respond, cancelTask, invalidTransition, taskRefusal, updateStatus]
        at accepted
      repeat' split at accepted
      all_goals cases accepted
      refine ⟨rfl, (List.append_nil _).symm, ?_⟩
      intro granted earlier sound
      rw [List.append_nil]
      exact sound.of_same rfl rfl
  | prepareTaskPlan | mapTaskPage | approveTaskStep | clarifyAgentTask | resumeTask =>
      exact concurrent.elim

/-- The calls of the accepted requests. -/
def savedCalls (library : TaskLibrary) (settings : TaskSettings)
    (history : List (Accepted AgentTask TaskRequest)) : List Invocation :=
  history.flatMap fun x => (x.request.respond library settings x.read).invocations

theorem savedCalls_sound {repository : AgentTaskRepository}
    {history : List (Accepted AgentTask TaskRequest)} {first : AgentTask}
    {final : Option AgentTask}
    (chained : (repository.protocol library settings).Chained (some first) history final)
    (concurrent : ∀ x ∈ history, x.request.Concurrent) {granted : List (UUID × TaskPlan)}
    {earlier : List Invocation} (sound : AuthorizationSound library granted earlier first) :
    ∃ last, final = some last ∧
      startedSteps last = startedSteps first ++
        (savedCalls library settings history).map (·.step.stepId) ∧
      AuthorizationSound library granted (earlier ++ savedCalls library settings history) last := by
  induction history generalizing first earlier with
  | nil =>
      refine ⟨first, chained, by simp [savedCalls], ?_⟩
      rw [show savedCalls library settings [] = [] from rfl, List.append_nil]
      exact sound
  | cons x rest ih =>
      obtain ⟨before, serial, rest'⟩ := chained
      obtain rfl := Option.some.inj before
      obtain ⟨changed, outcome, after⟩ := saved_of_serial serial
      obtain ⟨-, recorded, keeps⟩ := respond_concurrent
        (concurrent x List.mem_cons_self) (TaskResponse.ext outcome rfl)
      rw [after] at rest'
      obtain ⟨last, final, steps, kept⟩ := ih rest'
        (fun y member => concurrent y (List.mem_cons_of_mem _ member))
        ((keeps granted earlier sound).of_same rfl rfl)
      have calls : savedCalls library settings (x :: rest) =
          (x.request.respond library settings x.before).invocations ++
            savedCalls library settings rest := by
        rw [savedCalls, List.flatMap_cons, serial.read]
        rfl
      refine ⟨last, final, ?_, ?_⟩
      · rw [calls, steps, List.map_append, ← List.append_assoc, ← recorded]
        rfl
      · rw [calls, ← List.append_assoc]
        exact kept

end

/-- The approvals serve once and the journal shows every call exactly as long as every
execution that has called the runner was saved. -/
theorem approvals_once_iff_saved (repository : AgentTaskRepository) (library : TaskLibrary)
    (settings : TaskSettings) {requests : Nat → TaskRequest}
    (concurrent : ∀ i, (requests i).Concurrent) {task : AgentTask} (valid : task.ApprovalsValid)
    {c : Config AgentTask TaskRequest}
    (run : ReflTransGen (Step (repository.protocol library settings) requests)
      (Config.start (some task)) c) :
    (ApprovalsOnce library settings c ∧ CallsRecorded library settings task c) ↔
      CallsSaved library settings c := by
  have chained := (task_protocol_lawful repository library settings).chained run
  have requested : ∀ x ∈ c.history, x.request.Concurrent := by
    intro x member
    obtain ⟨j, same⟩ := (Protocol.requested run).2 x member
    exact same ▸ concurrent j
  have start : AuthorizationSound library (TaskOperationState.start task).granted [] task :=
    (TaskOperationSound.start valid).sound
  obtain ⟨last, committed, recorded, sound⟩ := savedCalls_sound chained requested start
  rw [List.nil_append] at sound
  have calls : runnerCalls library settings c = savedCalls library settings c.history ++
      c.lost.flatMap fun x => (x.1.respond library settings x.2).invocations := rfl
  refine ⟨?_, ?_⟩
  · intro ⟨_, all⟩ x lost
    -- the journal shows no more than the saved calls
    have both := (all last committed).symm.trans recorded
    rw [calls, List.map_append] at both
    have none := List.append_cancel_left both
    rw [List.append_right_eq_self, List.map_eq_nil_iff, List.flatMap_eq_nil_iff] at none
    exact none x lost
  · intro saved
    have none : (c.lost.flatMap fun x => (x.1.respond library settings x.2).invocations) = [] :=
      List.flatMap_eq_nil_iff.2 saved
    rw [none, List.append_nil] at calls
    refine ⟨?_, ?_⟩
    · rw [ApprovalsOnce, calls]
      exact sound.usedOnce
    · intro stored found
      obtain rfl := Option.some.inj (committed.symm.trans found)
      rw [calls]
      exact recorded

section
variable {library : TaskLibrary} {settings : TaskSettings} {request : TaskRequest}
  {task : AgentTask}

/-- A request that does not act calls no runner. -/
theorem invocations_of_passive (passive : ¬ request.Acts settings task) :
    (request.respond library settings task).invocations = [] := by
  cases request with
  | executeTask environment =>
      simp only [TaskRequest.respond, executeTask]
      split
      · rfl
      · next enabled =>
          split
          · rfl
          · next planned =>
              split
              · rfl
              · next people loaded =>
                  split
                  · simp only [executeLlmAgent]
                    repeat' split
                    all_goals rfl
                  · next mode =>
                      simp only [executePlanned]
                      split
                      · rfl
                      · next entered =>
                          split
                          · split <;> rfl
                          · next execution executed =>
                              obtain ⟨plan, found, ready, -⟩ := executeTaskPlan_ok executed
                              obtain ⟨status, waitingReason, same⟩ := continued_same task
                              rw [same] at found
                              refine absurd ⟨environment, people, plan, rfl, ?_, ?_, planned,
                                loaded, entered, found, ready⟩ passive
                              · exact not_not.1 enabled
                              · simpa using mode
  | approveTaskStep stepId approvalId now =>
      simp only [TaskRequest.respond, approveTaskStep, approvalConflict, taskRefusal]
      repeat' split
      all_goals rfl
  | prepareTaskPlan now =>
      simp only [TaskRequest.respond, prepareTaskPlan, taskRefusal]
      repeat' split
      all_goals rfl
  | mapTaskPage identities now =>
      simp only [TaskRequest.respond, mapTaskPage, taskRefusal]
      repeat' split
      all_goals rfl
  | clarifyAgentTask answer now =>
      simp only [TaskRequest.respond, clarifyAgentTask, taskRefusal]
      repeat' split
      all_goals rfl
  | pauseTask =>
      simp only [TaskRequest.respond, pauseTask, invalidTransition, taskRefusal, updateStatus]
      repeat' split
      all_goals rfl
  | resumeTask =>
      simp only [TaskRequest.respond, resumeTask, invalidTransition, taskRefusal, updateStatus]
      repeat' split
      all_goals rfl
  | cancelTask =>
      simp only [TaskRequest.respond, cancelTask, invalidTransition, taskRefusal, updateStatus]
      repeat' split
      all_goals rfl

/-- An execution that acts and is not disturbed decides on a save. -/
theorem changed_of_acts (undisturbed : request.Undisturbed) (decided : task.Decided library)
    (acts : request.Acts settings task) :
    ∃ changed, (request.respond library settings task).outcome = .changed changed := by
  obtain ⟨environment, people, plan, rfl, enabled, mode, planned, loaded, entered, found, ready⟩ :=
    acts
  obtain ⟨exited, uninterrupted⟩ := undisturbed environment rfl
  obtain ⟨status, waitingReason, same⟩ := continued_same task
  have own : (continued task).plan = some plan := by
    rw [same]
    exact found
  obtain ⟨execution, executed⟩ : ∃ execution, executeTaskPlan library (continued task)
      environment.runner environment.now
      (if (continued task).controlMode = .stepByStep then some 1 else none) = .ok execution := by
    rw [executeTaskPlan, own]
    dsimp only
    rw [if_neg (not_not.2 ready)]
    exact ⟨_, rfl⟩
  obtain ⟨plan', planned', -, whole⟩ := executeTaskPlan_ok executed
  obtain rfl := Option.some.inj (planned'.symm.trans own)
  have kept : (startProgress (continued task)).current.plan = some plan' := planned'
  obtain ⟨last, -, ended⟩ :=
    (plan_invariant library environment.now plan'.version (some plan')).execution
      environment.runner (if (continued task).controlMode = .stepByStep then some 1 else none)
      plan'.steps kept
  rw [← whole] at ended
  have returned : execution.task ≠ none := by
    intro none
    cases failed : execution.error with
    | none =>
        obtain ⟨call, step, interrupted⟩ := ended.interrupted none failed
        exact uninterrupted _ _ _ interrupted
    | some error =>
        obtain ⟨before, step, after, error, steps, raised, -⟩ :=
          ended.raised (failed ▸ Option.some_ne_none error)
        obtain ⟨decision, decides⟩ := decided plan' found step
          (steps ▸ List.mem_append_right _ List.mem_cons_self)
        rw [startProgress, same] at raised
        cases decides.symm.trans ((evaluate_same library rfl rfl _).symm.trans raised)
  obtain ⟨changed, result⟩ := Option.ne_none_iff_exists'.1 returned
  refine ⟨changed, ?_⟩
  rw [TaskRequest.respond, executeTask, if_neg (not_not.2 enabled), if_neg planned]
  dsimp only
  rw [loaded]
  dsimp only
  rw [if_neg (by simp [mode]), executePlanned, entered]
  dsimp only
  rw [executed]
  dsimp only
  rw [exited, result]

end

/-- What an accepted request leaves is decided as the task was. -/
theorem decided_of_serial {repository : AgentTaskRepository} {library : TaskLibrary}
    {settings : TaskSettings} {x : Accepted AgentTask TaskRequest}
    (concurrent : x.request.Concurrent)
    (serial : (repository.protocol library settings).Serial x)
    (decided : x.before.Decided library) : ∀ row ∈ x.after, row.Decided library := by
  obtain ⟨changed, outcome, after⟩ := saved_of_serial serial
  intro row found
  obtain rfl := Option.some.inj (after.symm.trans found)
  have same := respond_sameRequest outcome
  obtain ⟨plan, -, -⟩ := respond_concurrent concurrent (TaskResponse.ext outcome rfl)
  intro own member step listed
  obtain ⟨decision, decides⟩ := decided own (plan ▸ member) step listed
  refine ⟨decision, ?_⟩
  exact (evaluate_same library same.permissions same.targetUrl _).trans decides

/-- In every interleaving of executions, pauses and cancellations in which no save passes
an execution that acts, none is rolled back and none disturbed, the approvals serve once
and the journal shows every call. -/
theorem approvals_once (repository : AgentTaskRepository) (library : TaskLibrary)
    (settings : TaskSettings) {requests : Nat → TaskRequest}
    (concurrent : ∀ i, (requests i).Concurrent) (undisturbed : ∀ i, (requests i).Undisturbed)
    {task : AgentTask} (valid : task.ApprovalsValid) (decided : task.Decided library)
    {c : Config AgentTask TaskRequest}
    (run : ReflTransGen (ApartStep (repository.protocol library settings) requests
      (TaskRequest.Acts settings)) (Config.start (some task)) c) :
    ApprovalsOnce library settings c ∧ CallsRecorded library settings task c := by
  have acting : Acting requests (TaskRequest.Acts settings) c := by
    refine @Acting.run _ _ _ _ _ _ _ (task_protocol_lawful repository library settings)
      (fun _ _ => rfl) (fun task => task.Decided library) ?_ ?_ ?_ run
    · intro i x own serial
      exact decided_of_serial (own ▸ concurrent i) serial
    · intro row found
      obtain rfl := Option.some.inj found
      exact decided
    · intro i a held acts none
      obtain ⟨changed, outcome⟩ := changed_of_acts (undisturbed i) held acts
      simp only [AgentTaskRepository.protocol, outcome] at none
      cases none
  refine (approvals_once_iff_saved repository library settings concurrent valid
    (ApartStep.run run)).2 ?_
  intro x lost
  exact invocations_of_passive (acting.lost x lost)

namespace ConcurrentExecutions

open DocumentTask (settings task reading clock)

def person : IdentityRecord :=
  { id := ⟨2⟩, version := 0, displayName := "A", firstName := "A", lastName := "A"
    birthDate := ⟨1990, 1, 1⟩, documents := []
    preferences := ⟨⟨none, none, none⟩, ⟨true, [.webhook], none⟩⟩ }

def environment : ExecutionEnvironment :=
  ⟨fun _ => some person, none, reading true, clock, fun _ _ => .error .exception, none⟩

/-- One pause among executions. -/
def requests : Nat → TaskRequest
  | 2 => .pauseTask
  | _ => .executeTask environment

theorem concurrent (i : Nat) : (requests i).Concurrent := by
  unfold requests
  split <;> trivial

theorem undisturbed (i : Nat) : (requests i).Undisturbed := by
  intro own same
  obtain rfl : environment = own := by
    unfold requests at same
    split at same
    · cases same
    · exact TaskRequest.executeTask.inj same
  exact ⟨rfl, fun _ _ _ => StepOutcome.noConfusion⟩

/-- The task executes one step at a time. -/
def stepwise : AgentTask := { task with controlMode := .stepByStep }

theorem valid : stepwise.ApprovalsValid :=
  ⟨DocumentTask.valid.unique, DocumentTask.valid.current⟩

theorem decided : stepwise.Decided Sample.taskLibrary := by
  intro plan found step listed
  obtain rfl := Option.some.inj found
  apply evaluate_ok
  rcases List.mem_pair.1 listed with rfl | rfl <;> decide

def executed (task : AgentTask) : AgentTask :=
  match ((requests 0).respond Sample.taskLibrary settings task).outcome with
  | .changed changed => changed
  | _ => task

def save (task row : AgentTask) : Option AgentTask :=
  some (AgentTaskRepository.inMemory.update (executed task) row)

def execution (task : AgentTask) : Accepted AgentTask TaskRequest :=
  ⟨.executeTask environment, task, task, save task task⟩

def filled : AgentTask := (save stepwise stepwise).getD stepwise

def finished : AgentTask := (save filled filled).getD filled

abbrev SomeStep : Config AgentTask TaskRequest → Config AgentTask TaskRequest → Prop :=
  Step (AgentTaskRepository.inMemory.protocol Sample.taskLibrary settings) requests

abbrev Run : Config AgentTask TaskRequest → Config AgentTask TaskRequest → Prop :=
  ReflTransGen (ApartStep (AgentTaskRepository.inMemory.protocol Sample.taskLibrary settings) requests
    (TaskRequest.Acts settings))

def paused : Config AgentTask TaskRequest :=
  ((Config.start (some stepwise)).enter 2 (.reading stepwise)).enter 2 (.loaded stepwise)

def first : Config AgentTask TaskRequest :=
  (paused.enter 0 (.reading stepwise)).enter 0 (.loaded stepwise)

def firstSaved : Config AgentTask TaskRequest := first.commit 0 (execution stepwise)

/-- The pause has loaded before the save, and finds another version. -/
def conflicted : Config AgentTask TaskRequest :=
  firstSaved.refuse 2 .pauseTask stepwise

def second : Config AgentTask TaskRequest :=
  (conflicted.enter 1 (.reading filled)).enter 1 (.loaded filled)

def secondSaved : Config AgentTask TaskRequest := second.commit 1 (execution filled)

theorem load {c : Config AgentTask TaskRequest} {i : Nat} {task : AgentTask}
    (idle : c.stage i = .idle) (found : c.committed = some task) :
    Run c ((c.enter i (.reading task)).enter i (.loaded task)) := by
  have read : SomeStep c (c.enter i (.reading task)) := .read idle found
  have reread : SomeStep (c.enter i (.reading task))
      ((c.enter i (.reading task)).enter i (.loaded task)) :=
    .reread (by simp [Config.enter])
  exact .tail (.single (.quiet read rfl (.inr rfl))) (.quiet reread rfl (.inr rfl))

/-- The pause does not act. -/
theorem apart {c : Config AgentTask TaskRequest} {i : Nat}
    (only : ∀ j, j ≠ i → j ≠ 2 → ∀ a, c.stage j ≠ .reading a ∧ c.stage j ≠ .loaded a) :
    c.Apart requests (TaskRequest.Acts settings) i := by
  intro j other a known acts
  by_cases pause : j = 2
  · subst pause
    obtain ⟨environment, -, -, same, -⟩ := acts
    cases same
  · obtain ⟨notReading, notLoaded⟩ := only j other pause a
    rcases known with reading | loaded
    · exact notReading reading
    · exact notLoaded loaded

theorem secondSaved_reached : Run (Config.start (some stepwise)) secondSaved := by
  have pausing : Run (Config.start (some stepwise)) paused := load rfl rfl
  have begun : Run paused first := load rfl rfl
  have saving : SomeStep first firstSaved :=
    @Step.save _ _ (AgentTaskRepository.inMemory.protocol Sample.taskLibrary settings) requests first 0
      stepwise stepwise (save stepwise) rfl rfl rfl rfl rfl
  have conflicting : SomeStep firstSaved conflicted :=
    @Step.conflict _ _ (AgentTaskRepository.inMemory.protocol Sample.taskLibrary settings) requests
      firstSaved 2 stepwise _ rfl rfl rfl (by
        intro row there
        obtain rfl := Option.some.inj there
        exact Nat.one_ne_zero)
  have again : Run conflicted second := load rfl rfl
  have last : SomeStep second secondSaved :=
    @Step.save _ _ (AgentTaskRepository.inMemory.protocol Sample.taskLibrary settings) requests second 1
      filled filled (save filled) rfl rfl rfl rfl rfl
  have firstApart : first.Apart requests (TaskRequest.Acts settings) 0 := by
    refine apart fun j other pause a => ?_
    simp [first, paused, Config.enter, Config.start, other, pause]
  have secondApart : second.Apart requests (TaskRequest.Acts settings) 1 := by
    refine apart fun j other pause a => ?_
    have idle : firstSaved.stage j ≠ .reading a ∧ firstSaved.stage j ≠ .loaded a := by
      by_cases saved : j = 0
      · subst saved
        simp [firstSaved, Config.commit, Config.enter]
      · simp [firstSaved, first, paused, Config.enter, Config.start, Config.commit, pause, saved]
    simpa [second, conflicted, Config.enter, Config.refuse, other, pause] using idle
  have toFirst := (pausing.trans begun).tail (.saved firstApart saving)
  have toConflict := toFirst.tail (.quiet conflicting rfl (.inr rfl))
  exact (toConflict.trans again).tail (.saved secondApart last)

/-- Two executions that have loaded the same version. -/
def requestsTwice (_ : Nat) : TaskRequest := .executeTask environment

def loadedTwice : Config AgentTask TaskRequest :=
  (((Config.start (some task)).enter 0 (.reading task)).enter 0 (.loaded task)).enter 1
    (.reading task) |>.enter 1 (.loaded task)

def savedOnce : Config AgentTask TaskRequest := loadedTwice.commit 0 (execution task)

/-- The second execution has acted, and finds the version of the first. -/
def lost : Config AgentTask TaskRequest := savedOnce.refuse 1 (.executeTask environment) task

theorem lost_reached : ReflTransGen (Step (AgentTaskRepository.inMemory.protocol Sample.taskLibrary settings)
    requestsTwice) (Config.start (some task)) lost := by
  have first := @Step.save _ _ (AgentTaskRepository.inMemory.protocol Sample.taskLibrary settings)
    requestsTwice loadedTwice 0 task task (save task) rfl rfl rfl rfl rfl
  have second := @Step.conflict _ _ (AgentTaskRepository.inMemory.protocol Sample.taskLibrary settings)
    requestsTwice savedOnce 1 task (save task) rfl rfl rfl (by
      intro row there
      obtain rfl := Option.some.inj there
      exact Nat.one_ne_zero)
  refine .tail (.tail ?_ first) second
  exact (((ReflTransGen.refl.tail (.read (i := 0) rfl rfl)).tail
    (.reread (i := 0) (a := task) rfl)).tail (.read (i := 1) rfl rfl)).tail
    (.reread (i := 1) (a := task) rfl)

end ConcurrentExecutions

/-- Two executions in turn, with a pause between that comes too late. -/
theorem approvals_once_in_turn :
    ApprovalsOnce Sample.taskLibrary DocumentTask.settings ConcurrentExecutions.secondSaved ∧
      CallsRecorded Sample.taskLibrary DocumentTask.settings ConcurrentExecutions.stepwise
        ConcurrentExecutions.secondSaved :=
  approvals_once .inMemory Sample.taskLibrary DocumentTask.settings
    ConcurrentExecutions.concurrent ConcurrentExecutions.undisturbed
    ConcurrentExecutions.valid ConcurrentExecutions.decided
    ConcurrentExecutions.secondSaved_reached

/-- Two executions that load the same version both act under the one approval, and the
stored journal shows one of them. -/
theorem concurrent_approval_serves_twice :
    ReflTransGen (Step (AgentTaskRepository.inMemory.protocol Sample.taskLibrary
        DocumentTask.settings) ConcurrentExecutions.requestsTwice)
      (Config.start (some DocumentTask.task)) ConcurrentExecutions.lost ∧
      ¬ ApprovalsOnce Sample.taskLibrary DocumentTask.settings ConcurrentExecutions.lost ∧
      ¬ CallsRecorded Sample.taskLibrary DocumentTask.settings DocumentTask.task
        ConcurrentExecutions.lost := by
  refine ⟨ConcurrentExecutions.lost_reached, ?_, ?_⟩
  · have used : usedApprovals Sample.taskLibrary (runnerCalls Sample.taskLibrary
        DocumentTask.settings ConcurrentExecutions.lost) = [⟨7⟩, ⟨7⟩] := by decide +kernel
    rw [ApprovalsOnce, used]
    decide
  · intro recorded
    have shown := recorded _ rfl
    exact absurd (congrArg List.length shown) (by decide +kernel)

end PurchaseAgent
