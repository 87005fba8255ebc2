import Mathlib.Data.List.Nodup
import PurchaseAgent.Api.Tasks
import PurchaseAgent.Correctness.TaskExecution

/-!
Authorization of browser steps over runs of operations on one task. An approval
serves one call of the runner, for the step, the reason and the plan that it was
granted for; an execution that is interrupted after it has consumed an approval
leaves the approval unconsumed on the stored task.
-/

namespace PurchaseAgent

open Relation

/-- The approval that a call of the runner has used. -/
def Invocation.approval (library : TaskLibrary) (x : Invocation) : Option TaskStepApproval :=
  x.task.plan.bind fun plan =>
    (evaluateBrowserAction library x.task x.step.toActionRequest).toOption.bind fun decision =>
      approvalFor x.task plan.version x.step.stepId decision.reason

/-- The policy allows the step, or the task held an approval for the current plan, the
step and exactly the reason of the policy, not yet consumed. -/
def Invocation.Authorized (library : TaskLibrary) (x : Invocation) : Prop :=
  ∃ decision, evaluateBrowserAction library x.task x.step.toActionRequest = .ok decision ∧
    (decision.allowed = true ∨
      ∃ plan, x.task.plan = some plan ∧ ∃ approval ∈ x.task.approvals,
        approval.planVersion = plan.version ∧ approval.stepId = x.step.stepId ∧
        approval.reason = decision.reason ∧ approval.consumedAt = none)

/-- The ids of the approvals that calls of the runner have used. -/
def usedApprovals (library : TaskLibrary) (invocations : List Invocation) : List UUID :=
  invocations.filterMap fun x => (x.approval library).map (·.approvalId)

/-- What the validators of `AgentTask` say of approvals. -/
structure AgentTask.ApprovalsValid (task : AgentTask) : Prop where
  unique : (task.approvals.map (·.approvalId)).Nodup
  current : ∀ approval ∈ task.approvals, ∃ plan, task.plan = some plan ∧
    approval.planVersion = plan.version

/-- The stored task, the approvals granted so far with their plans, and the calls of
the runner so far. -/
structure TaskOperationState where
  task : AgentTask
  granted : List (UUID × TaskPlan)
  invocations : List Invocation

def TaskOperationState.start (task : AgentTask) : TaskOperationState where
  task := task
  granted := match task.plan with
    | none => []
    | some plan => task.approvals.map fun approval => (approval.approvalId, plan)
  invocations := []

/-- A task that is saved in the place of another. -/
def AgentTask.saved (task changed : AgentTask) : AgentTask :=
  { changed with version := task.version + 1 }

/-- Operations one at a time: executions of the plan by runners that are admissible,
approvals under fresh ids, and the other requests. -/
inductive TaskOperationStep (library : TaskLibrary) (settings : TaskSettings)
    (admissible : AgentTask → BrowserStepRunner → Prop) : TaskOperationState → TaskOperationState → Prop
  | executeTaskPlan {s : TaskOperationState} {runner : BrowserStepRunner} {now : Nat → Time}
      {maxSteps : Option Nat} {execution : Execution} (admitted : admissible s.task runner)
      (executed : executeTaskPlan library (continued s.task) runner now maxSteps = .ok execution) :
      TaskOperationStep library settings admissible s
        { s with
          task := (execution.task.map s.task.saved).getD s.task
          invocations := s.invocations ++ execution.invocations }
  | approveTaskStep {s : TaskOperationState} {stepId : String} {approvalId : UUID} {now : Time}
      {plan : TaskPlan} {changed : AgentTask}
      (fresh : approvalId ∉ s.granted.map (·.1)) (planned : s.task.plan = some plan)
      (approved : (approveTaskStep library stepId approvalId now s.task).outcome =
        .changed changed) :
      TaskOperationStep library settings admissible s
        { s with
          task := s.task.saved changed
          granted := s.granted ++ [(approvalId, plan)] }
  | request {s : TaskOperationState} {request : TaskRequest} {changed : AgentTask}
      (notExecution : ∀ environment, request ≠ .executeTask environment)
      (notApproval : ∀ stepId approvalId now, request ≠ .approveTaskStep stepId approvalId now)
      (accepted : (request.respond library settings s.task).outcome = .changed changed) :
      TaskOperationStep library settings admissible s { s with task := s.task.saved changed }

/-- No call of the runner is interrupted once the execution has consumed an approval,
and the policy raises on no step of the plan behind one that has an approval. -/
structure KeepsApprovals (library : TaskLibrary) (task : AgentTask) (runner : BrowserStepRunner) :
    Prop where
  uninterrupted : ∀ call current step, runner.run call current step = .interrupted →
    current.approvals = task.approvals
  unraised : ∀ plan, task.plan = some plan → ∀ before step after error,
    plan.steps = before ++ step :: after →
      evaluateBrowserAction library task step.toActionRequest = .error error →
        ∀ earlier ∈ before, ¬ Served library task plan.version earlier

/-- Every call of the runner was authorized, no approval has served two of them, and
each has served under the one plan that it was granted for. -/
structure StepsAuthorized (library : TaskLibrary) (s : TaskOperationState) : Prop where
  authorized : ∀ x ∈ s.invocations, x.Authorized library
  usedOnce : (usedApprovals library s.invocations).Nodup
  ownPlan : ∀ x ∈ s.invocations, ∀ approval ∈ x.approval library,
    ∃ plan, x.task.plan = some plan ∧ (approval.approvalId, plan) ∈ s.granted
  grantedOnce : (s.granted.map (·.1)).Nodup

/-- The invariant behind it, for a task on the way of its execution too. -/
structure AuthorizationSound (library : TaskLibrary) (granted : List (UUID × TaskPlan))
    (invocations : List Invocation) (task : AgentTask) : Prop where
  unique : (task.approvals.map (·.approvalId)).Nodup
  current : ∀ approval ∈ task.approvals, ∃ plan, task.plan = some plan ∧
    approval.planVersion = plan.version ∧ (approval.approvalId, plan) ∈ granted
  spent : ∀ approval ∈ task.approvals,
    approval.approvalId ∈ usedApprovals library invocations → approval.consumedAt ≠ none
  authorized : ∀ x ∈ invocations, x.Authorized library
  usedOnce : (usedApprovals library invocations).Nodup
  ownPlan : ∀ x ∈ invocations, ∀ approval ∈ x.approval library,
    ∃ plan, x.task.plan = some plan ∧ (approval.approvalId, plan) ∈ granted

theorem approvalFor_spec {task : AgentTask} {planVersion : Nat} {stepId reason : String}
    {approval : TaskStepApproval} (found : approvalFor task planVersion stepId reason = some approval) :
    approval ∈ task.approvals ∧ approval.planVersion = planVersion ∧ approval.stepId = stepId ∧
      approval.reason = reason ∧ approval.consumedAt = none := by
  have kept := List.find?_some found
  exact ⟨List.mem_of_find?_eq_some found, by simpa using kept⟩

theorem usedApprovals_append (library : TaskLibrary) (first second : List Invocation) :
    usedApprovals library (first ++ second) =
      usedApprovals library first ++ usedApprovals library second :=
  List.filterMap_append

theorem usedApprovals_single (library : TaskLibrary) (x : Invocation) :
    usedApprovals library [x] = ((x.approval library).map (·.approvalId)).toList := by
  cases found : x.approval library <;> simp [usedApprovals, found]

section
variable (approvals : List TaskStepApproval) (approval : TaskStepApproval) (startedAt : Time)

theorem consumeApproval_ids :
    (consumeApproval approvals startedAt (some approval)).map (·.approvalId) =
      approvals.map (·.approvalId) := by
  simp only [consumeApproval, List.map_map]
  apply List.map_congr_left
  intro item _
  by_cases own : item.approvalId = approval.approvalId <;> simp [own]

/-- Consuming one approval leaves the others as they are. -/
theorem mem_consumeApproval {item : TaskStepApproval}
    (member : item ∈ consumeApproval approvals startedAt (some approval)) :
    (item = { approval with consumedAt := some startedAt } ∧
        ∃ old ∈ approvals, old.approvalId = approval.approvalId) ∨
      (item ∈ approvals ∧ item.approvalId ≠ approval.approvalId) := by
  simp only [consumeApproval, List.mem_map] at member
  obtain ⟨old, there, same⟩ := member
  by_cases own : old.approvalId = approval.approvalId
  · rw [if_pos own] at same
    exact .inl ⟨same.symm, old, there, own⟩
  · rw [if_neg own] at same
    exact .inr ⟨same ▸ there, same ▸ own⟩

end

namespace AuthorizationSound
variable {library : TaskLibrary} {granted : List (UUID × TaskPlan)}
  {invocations : List Invocation} {task : AgentTask}

/-- The invariant looks at approvals and plan only. -/
theorem of_same (h : AuthorizationSound library granted invocations task) {other : AgentTask}
    (approvals : other.approvals = task.approvals) (plan : other.plan = task.plan) :
    AuthorizationSound library granted invocations other := by
  refine ⟨?_, ?_, ?_, h.authorized, h.usedOnce, h.ownPlan⟩
  · rw [approvals]
    exact h.unique
  · rw [approvals, plan]
    exact h.current
  · rw [approvals]
    exact h.spent

/-- A task without approvals has no approval to misuse. -/
theorem of_none (h : AuthorizationSound library granted invocations task) {other : AgentTask}
    (none : other.approvals = []) : AuthorizationSound library granted invocations other := by
  refine ⟨?_, ?_, ?_, h.authorized, h.usedOnce, h.ownPlan⟩
  · rw [none]
    exact List.nodup_nil
  · rw [none]
    intro approval impossible
    cases impossible
  · rw [none]
    intro approval impossible
    cases impossible

/-- A call that needs no approval. -/
theorem allow (h : AuthorizationSound library granted invocations task) {x : Invocation}
    (authorized : x.Authorized library) (unused : x.approval library = none) :
    AuthorizationSound library granted (invocations ++ [x]) task := by
  have same : usedApprovals library (invocations ++ [x]) = usedApprovals library invocations := by
    rw [usedApprovals_append, usedApprovals_single, unused]
    exact List.append_nil _
  refine ⟨h.unique, h.current, by rw [same]; exact h.spent, ?_, by rw [same]; exact h.usedOnce, ?_⟩
  · intro y member
    rcases List.mem_append.1 member with old | new
    · exact h.authorized y old
    · obtain rfl := List.mem_singleton.1 new
      exact authorized
  · intro y member approval used
    rcases List.mem_append.1 member with old | new
    · exact h.ownPlan y old approval used
    · obtain rfl := List.mem_singleton.1 new
      rw [unused] at used
      cases used

/-- A call under an approval, which is consumed. -/
theorem consume (h : AuthorizationSound library granted invocations task) {step : TaskPlanStep}
    {approval : TaskStepApproval} (startedAt : Time)
    (authorized : Invocation.Authorized library ⟨task, step⟩)
    (used : Invocation.approval library ⟨task, step⟩ = some approval)
    (held : approval ∈ task.approvals) (unconsumed : approval.consumedAt = none) :
    AuthorizationSound library granted (invocations ++ [⟨task, step⟩])
      { task with approvals := consumeApproval task.approvals startedAt (some approval) } := by
  have ids : usedApprovals library (invocations ++ [⟨task, step⟩]) =
      usedApprovals library invocations ++ [approval.approvalId] := by
    rw [usedApprovals_append, usedApprovals_single, used]
    rfl
  have unspent : approval.approvalId ∉ usedApprovals library invocations :=
    fun spent => h.spent approval held spent unconsumed
  refine ⟨?_, ?_, ?_, ?_, ?_, ?_⟩
  · rw [consumeApproval_ids]
    exact h.unique
  · intro item member
    rcases mem_consumeApproval _ _ _ member with ⟨rfl, -⟩ | ⟨there, -⟩
    · exact h.current approval held
    · exact h.current item there
  · intro item member spent
    rcases mem_consumeApproval _ _ _ member with ⟨rfl, -⟩ | ⟨there, other⟩
    · exact Option.some_ne_none _
    · rw [ids, List.mem_append, List.mem_singleton] at spent
      exact h.spent item there (spent.resolve_right other)
  · intro y member
    rcases List.mem_append.1 member with old | new
    · exact h.authorized y old
    · obtain rfl := List.mem_singleton.1 new
      exact authorized
  · rw [ids]
    exact h.usedOnce.append (List.nodup_singleton _) (by simpa using unspent)
  · intro y member item found
    rcases List.mem_append.1 member with old | new
    · exact h.ownPlan y old item found
    · obtain rfl := List.mem_singleton.1 new
      obtain rfl := Option.some.inj (used.symm.trans found)
      obtain ⟨plan, planned, -, there⟩ := h.current _ held
      exact ⟨plan, planned, there⟩

/-- A step that is permitted begins. -/
theorem begin {plan : TaskPlan} (h : AuthorizationSound library granted invocations task)
    (planned : task.plan = some plan) {step : TaskPlanStep} {approval : Option TaskStepApproval}
    {decision : PermissionDecision}
    (permitted : Permitted library task plan.version step decision approval) (startedAt : Time) :
    AuthorizationSound library granted (invocations ++ [⟨task, step⟩])
      { task with approvals := consumeApproval task.approvals startedAt approval } := by
  have used : Invocation.approval library ⟨task, step⟩ = approval := by
    simp only [Invocation.approval, planned, Option.bind_some, permitted.decided,
      Except.toOption]
    exact permitted.found
  cases approval with
  | none =>
      have authorized : Invocation.Authorized library ⟨task, step⟩ :=
        ⟨decision, permitted.decided, .inl (permitted.allowed.resolve_right (by simp))⟩
      exact (h.allow authorized used).of_same rfl rfl
  | some approval =>
      obtain ⟨held, version, own, reason, unconsumed⟩ := approvalFor_spec permitted.found
      exact h.consume startedAt
        ⟨decision, permitted.decided,
          .inr ⟨plan, planned, approval, held, version, own, reason, unconsumed⟩⟩
        used held unconsumed

end AuthorizationSound

theorem authorization_invariant (library : TaskLibrary) (now : Nat → Time)
    (granted : List (UUID × TaskPlan)) (earlier : List Invocation) (plan : TaskPlan) :
    ProgressInvariant library now plan.version fun progress =>
      progress.current.plan = some plan ∧
        AuthorizationSound library granted (earlier ++ progress.invocations) progress.current where
  append h _ := ⟨h.1, h.2.of_same rfl rfl⟩
  begin := by
    intro progress step decision approval reasonCode h permitted
    refine ⟨h.1, ?_⟩
    have begun := h.2.begin h.1 permitted (now progress.readings)
    rw [List.append_assoc] at begun
    exact begun.of_same rfl rfl
  record h := by
    refine ⟨?_, h.2.of_same ?_ ?_⟩
    · rw [ExecutionProgress.record_plan]
      exact h.1
    · exact ExecutionProgress.record_approvals ..
    · exact ExecutionProgress.record_plan ..

theorem continued_same (task : AgentTask) :
    ∃ status waitingReason,
      continued task = { task with status := status, waitingReason := waitingReason } := by
  rw [continued]
  split
  · exact ⟨_, _, rfl⟩
  · exact ⟨task.status, task.waitingReason, rfl⟩

/-- A request that is neither an execution nor an approval keeps approvals and plan,
or drops the approvals. -/
theorem respond_approvals {library : TaskLibrary} {settings : TaskSettings} {request : TaskRequest}
    {task changed : AgentTask} (notExecution : ∀ environment, request ≠ .executeTask environment)
    (notApproval : ∀ stepId approvalId now, request ≠ .approveTaskStep stepId approvalId now)
    (accepted : (request.respond library settings task).outcome = .changed changed) :
    (changed.approvals = task.approvals ∧ changed.plan = task.plan) ∨ changed.approvals = [] := by
  cases request with
  | executeTask environment => exact absurd rfl (notExecution environment)
  | approveTaskStep stepId approvalId now => exact absurd rfl (notApproval stepId approvalId now)
  | prepareTaskPlan now =>
      simp only [TaskRequest.respond, prepareTaskPlan, taskRefusal] at accepted
      split at accepted
      · cases accepted
      · split at accepted <;> cases accepted
        exact .inr rfl
  | mapTaskPage identities now =>
      simp only [TaskRequest.respond, mapTaskPage, taskRefusal] at accepted
      split at accepted
      · cases accepted
      · split at accepted <;> cases accepted
        exact .inl ⟨rfl, rfl⟩
  | clarifyAgentTask answer now =>
      simp only [TaskRequest.respond, clarifyAgentTask, taskRefusal] at accepted
      split at accepted
      · cases accepted
      · split at accepted
        · cases accepted
        · split at accepted <;> cases accepted
          exact .inl ⟨rfl, rfl⟩
  | pauseTask =>
      simp only [TaskRequest.respond, pauseTask, invalidTransition, taskRefusal, updateStatus]
        at accepted
      split at accepted <;> cases accepted
      exact .inl ⟨rfl, rfl⟩
  | resumeTask =>
      simp only [TaskRequest.respond, resumeTask, invalidTransition, taskRefusal, updateStatus]
        at accepted
      split at accepted <;> cases accepted
      exact .inl ⟨rfl, rfl⟩
  | cancelTask =>
      simp only [TaskRequest.respond, cancelTask, invalidTransition, taskRefusal, updateStatus]
        at accepted
      split at accepted
      · cases accepted
      · split at accepted <;> cases accepted
        exact .inl ⟨rfl, rfl⟩

/-- Where no approved step comes before the one that raises, no approval is consumed. -/
theorem KeepsApprovals.approvals {library : TaskLibrary} {task last : AgentTask}
    {runner : BrowserStepRunner} {plan : TaskPlan} (keeps : KeepsApprovals library task runner)
    (planned : (continued task).plan = some plan)
    (raised : RaisesAt library plan.version plan.steps (startProgress (continued task)).current
      last) : last.approvals = task.approvals := by
  obtain ⟨status, waitingReason, same⟩ := continued_same task
  obtain ⟨before, step, after, error, steps, raised, kept⟩ := raised
  rw [startProgress, same] at raised kept
  rw [same] at planned
  rcases kept with kept | ⟨earlier, member, decision, decided, found⟩
  · exact kept
  · have raised := (evaluate_same library rfl rfl _).symm.trans raised
    have decided := (evaluate_same library rfl rfl _).symm.trans decided
    exact absurd ⟨decision, decided, found⟩
      (keeps.unraised plan planned before step after error steps raised earlier member)

theorem approveTaskStep_changed {library : TaskLibrary} {stepId : String} {approvalId : UUID}
    {now : Time} {task changed : AgentTask}
    (approved : (approveTaskStep library stepId approvalId now task).outcome = .changed changed) :
    ∃ plan blocked reason, task.plan = some plan ∧
      changed = { task with
        approvals := task.approvals ++ [⟨approvalId, plan.version, blocked, reason, now, none⟩]
        status := .ready
        waitingReason := none } := by
  simp only [approveTaskStep, approvalConflict, taskRefusal] at approved
  split at approved
  · next waitingReason plan blocked waiting planned last =>
      split at approved
      · cases approved
      · split at approved
        · cases approved
        · split at approved
          · cases approved
          · split at approved
            · cases approved
            · cases approved
              exact ⟨plan, blocked.stepId, waitingReason.value, planned, rfl⟩
  · cases approved

namespace AuthorizationSound
variable {library : TaskLibrary} {granted : List (UUID × TaskPlan)}
  {invocations : List Invocation} {task : AgentTask}

/-- An execution, with what it leaves when it is lost. -/
theorem execution (h : AuthorizationSound library granted invocations task)
    {runner : BrowserStepRunner} {now : Nat → Time} {maxSteps : Option Nat} {execution : Execution}
    (executed : executeTaskPlan library (continued task) runner now maxSteps = .ok execution) :
    (∀ changed ∈ execution.task,
      AuthorizationSound library granted (invocations ++ execution.invocations) changed) ∧
    (execution.task = none → KeepsApprovals library task runner →
      AuthorizationSound library granted (invocations ++ execution.invocations) task) := by
  obtain ⟨plan, planned, -, rfl⟩ := executeTaskPlan_ok executed
  obtain ⟨status, waitingReason, same⟩ := continued_same task
  have first : (startProgress (continued task)).current.plan = some plan ∧
      AuthorizationSound library granted
        (invocations ++ (startProgress (continued task)).invocations)
        (startProgress (continued task)).current := by
    refine ⟨planned, ?_⟩
    rw [show (startProgress (continued task)).invocations = [] from rfl, List.append_nil]
    refine h.of_same ?_ ?_
    · rw [startProgress, same]
    · rw [startProgress, same]
  obtain ⟨last, ⟨lastPlan, sound⟩, ended⟩ :=
    (authorization_invariant library now granted invocations plan).execution runner maxSteps
      plan.steps first
  rw [ended.invocations]
  refine ⟨?_, ?_⟩
  · intro changed found
    obtain ⟨status, waitingReason, rfl⟩ := ended.task changed found
    exact sound.of_same rfl rfl
  · intro none keeps
    have approvals : task.approvals = last.current.approvals := by
      cases failed : Execution.error (executeSteps library runner now maxSteps plan.version
          plan.steps (startProgress (continued task))) with
      | none =>
          obtain ⟨call, step, interrupted⟩ := ended.interrupted none failed
          exact (keeps.uninterrupted call last.current step interrupted).symm
      | some error =>
          refine (keeps.approvals planned ?_).symm
          exact ended.raised (failed ▸ Option.some_ne_none error)
    refine sound.of_same approvals ?_
    rw [lastPlan, ← planned, same]

/-- An approval under a fresh id. -/
theorem approve (h : AuthorizationSound library granted invocations task) {plan : TaskPlan}
    {approval : TaskStepApproval} (fresh : approval.approvalId ∉ granted.map (·.1))
    (planned : task.plan = some plan) (version : approval.planVersion = plan.version)
    {changed : AgentTask} (approvals : changed.approvals = task.approvals ++ [approval])
    (same : changed.plan = task.plan) :
    AuthorizationSound library (granted ++ [(approval.approvalId, plan)]) invocations changed := by
  have known : ∀ item ∈ task.approvals, item.approvalId ∈ granted.map (·.1) := by
    intro item there
    obtain ⟨own, -, -, member⟩ := h.current item there
    exact List.mem_map_of_mem member
  have unused : approval.approvalId ∉ usedApprovals library invocations := by
    intro used
    obtain ⟨x, member, found⟩ := List.mem_filterMap.1 used
    obtain ⟨item, used, own⟩ := Option.map_eq_some_iff.1 found
    obtain ⟨plan, -, there⟩ := h.ownPlan x member item used
    exact fresh (own ▸ List.mem_map_of_mem there)
  refine ⟨?_, ?_, ?_, h.authorized, h.usedOnce, ?_⟩
  · rw [approvals, List.map_append]
    refine h.unique.append (List.nodup_singleton _) ?_
    intro id old new
    obtain ⟨item, there, rfl⟩ := List.mem_map.1 old
    rw [List.map_singleton, List.mem_singleton] at new
    exact fresh (new ▸ known item there)
  · intro item member
    rw [approvals, List.mem_append, List.mem_singleton] at member
    rw [same]
    rcases member with old | rfl
    · obtain ⟨own, planned, version, there⟩ := h.current item old
      exact ⟨own, planned, version, List.mem_append_left _ there⟩
    · exact ⟨plan, planned, version, List.mem_append_right _ (List.mem_singleton.2 rfl)⟩
  · intro item member spent
    rw [approvals, List.mem_append, List.mem_singleton] at member
    rcases member with old | rfl
    · exact h.spent item old spent
    · exact absurd spent unused
  · intro x member item used
    obtain ⟨own, planned, there⟩ := h.ownPlan x member item used
    exact ⟨own, planned, List.mem_append_left _ there⟩

end AuthorizationSound

/-- The invariant of a run of operations. -/
structure TaskOperationSound (library : TaskLibrary) (s : TaskOperationState) : Prop where
  sound : AuthorizationSound library s.granted s.invocations s.task
  grantedOnce : (s.granted.map (·.1)).Nodup

namespace TaskOperationSound
variable {library : TaskLibrary} {settings : TaskSettings} {s : TaskOperationState}

theorem start {task : AgentTask} (valid : task.ApprovalsValid) :
    TaskOperationSound library (TaskOperationState.start task) := by
  refine ⟨⟨valid.unique, ?_, ?_, ?_, List.nodup_nil, ?_⟩, ?_⟩
  · intro approval held
    obtain ⟨plan, planned, version⟩ := valid.current approval held
    refine ⟨plan, planned, version, ?_⟩
    have held : approval ∈ task.approvals := held
    have planned : task.plan = some plan := planned
    simp only [TaskOperationState.start, planned, List.mem_map]
    exact ⟨approval, held, rfl⟩
  · intro approval _ impossible
    cases impossible
  · intro x impossible
    cases impossible
  · intro x impossible
    cases impossible
  · cases planned : task.plan with
    | none => simp [TaskOperationState.start, planned]
    | some plan =>
        have ids : ((TaskOperationState.start task).granted.map (·.1)) =
            task.approvals.map (·.approvalId) := by
          simp [TaskOperationState.start, planned, Function.comp_def]
        rw [ids]
        exact valid.unique

theorem step (h : TaskOperationSound library s) {s' : TaskOperationState}
    (step : TaskOperationStep library settings (KeepsApprovals library) s s') :
    TaskOperationSound library s' := by
  cases step with
  | @executeTaskPlan runner now maxSteps execution admitted executed =>
      refine ⟨?_, h.grantedOnce⟩
      obtain ⟨returned, lost⟩ := h.sound.execution executed
      cases ended : execution.task with
      | some changed => exact (returned changed ended).of_same rfl rfl
      -- the stored task stays, with the approvals that it had when the execution ended
      | none => exact lost ended admitted
  | @approveTaskStep stepId approvalId now plan changed fresh planned approved =>
      obtain ⟨own, blocked, reason, found, rfl⟩ := approveTaskStep_changed approved
      obtain rfl : own = plan := Option.some.inj (found.symm.trans planned)
      let approval : TaskStepApproval := ⟨approvalId, own.version, blocked, reason, now, none⟩
      have fresh' : approval.approvalId ∉ s.granted.map (·.1) := fresh
      refine ⟨h.sound.approve fresh' planned rfl rfl rfl, ?_⟩
      rw [List.map_append]
      refine h.grantedOnce.append (List.nodup_singleton _) ?_
      intro id old new
      obtain rfl : id = approvalId := List.mem_singleton.1 new
      exact fresh old
  | request notExecution notApproval accepted =>
      refine ⟨?_, h.grantedOnce⟩
      rcases respond_approvals notExecution notApproval accepted with ⟨approvals, plan⟩ | none
      · exact h.sound.of_same approvals plan
      · exact h.sound.of_none none

theorem run (h : TaskOperationSound library s) {s' : TaskOperationState}
    (run : ReflTransGen (TaskOperationStep library settings (KeepsApprovals library)) s s') :
    TaskOperationSound library s' := by
  induction run with
  | refl => exact h
  | tail _ step ih => exact ih.step step

end TaskOperationSound

/-- In every run of operations in which no execution is interrupted with an approval
consumed, every step was authorized and every approval has served once. -/
theorem steps_authorized (library : TaskLibrary) (settings : TaskSettings) {task : AgentTask}
    (valid : task.ApprovalsValid) {s : TaskOperationState}
    (run : ReflTransGen (TaskOperationStep library settings (KeepsApprovals library))
      (TaskOperationState.start task) s) : StepsAuthorized library s := by
  have sound := (TaskOperationSound.start valid).run run
  exact ⟨sound.sound.authorized, sound.sound.usedOnce, sound.sound.ownPlan, sound.grantedOnce⟩

namespace DocumentTask

def settings : TaskSettings := ⟨true, false, false, 12⟩

def fillDocuments : TaskPlanStep :=
  { stepId := "fill_documents", action := .fillSensitiveProfile
    summary := "Fill required identity document details after approval" }

def inspectPage : TaskPlanStep :=
  { stepId := "inspect_page", action := .readPage
    summary := "Inspect the page and locate the relevant form" }

def plan : TaskPlan := ⟨1, 0, [fillDocuments, inspectPage], by decide⟩

def approval : TaskStepApproval :=
  ⟨⟨7⟩, 1, "fill_documents", "sensitive_data_approval_required", 1, none⟩

def task : AgentTask :=
  { Sample.agentTask with
    plan := some plan
    journal := some [⟨0, "fill_documents", .blocked, "Execution paused for a required user action",
      some "sensitive_data_approval_required"⟩]
    approvals := [approval] }

theorem valid : task.ApprovalsValid where
  unique := List.nodup_singleton _
  current item held := by
    obtain rfl := List.mem_singleton.1 held
    exact ⟨plan, rfl, rfl⟩

/-- A runner whose page can only be read when it says so. -/
def reading (readable : Bool) : BrowserStepRunner :=
  ⟨fun _ _ step => .returned { succeeded := step.action ≠ .readPage ∨ readable }⟩

def cancelled : BrowserStepRunner := ⟨fun _ _ _ => .interrupted⟩

def clock (n : Nat) : Time := n + 2

/-- The execution of the plan that a state comes to. -/
def execution (s : TaskOperationState) (runner : BrowserStepRunner) : Execution :=
  executeSteps Sample.taskLibrary runner clock none 1 plan.steps (startProgress (continued s.task))

def after (s : TaskOperationState) (runner : BrowserStepRunner) : TaskOperationState :=
  { s with
    task := ((execution s runner).task.map s.task.saved).getD s.task
    invocations := s.invocations ++ (execution s runner).invocations }

/-- The documents are filled, and the page cannot be read. -/
def failed : TaskOperationState := after (TaskOperationState.start task) (reading false)

def resumedTask : AgentTask :=
  { failed.task with status := .ready, waitingReason := none }

def resumed : TaskOperationState :=
  { failed with task := failed.task.saved resumedTask }

def finished : TaskOperationState := after resumed (reading true)

theorem keeps (s : TaskOperationState) (planned : s.task.plan = some plan) (readable : Bool) :
    KeepsApprovals Sample.taskLibrary s.task (reading readable) := by
  refine ⟨fun call current step impossible => StepOutcome.noConfusion impossible, ?_⟩
  intro own found before step after error steps raised
  obtain rfl := Option.some.inj (planned.symm.trans found)
  have other : step.action ≠ .navigate := by
    have member : step ∈ plan.steps := steps ▸ List.mem_append_right _ List.mem_cons_self
    rcases List.mem_pair.1 member with rfl | rfl <;> decide
  obtain ⟨decision, decided⟩ := @evaluate_ok Sample.taskLibrary s.task step.toActionRequest other
  cases decided.symm.trans raised

theorem finished_reached :
    ReflTransGen (TaskOperationStep Sample.taskLibrary settings (KeepsApprovals Sample.taskLibrary))
      (TaskOperationState.start task) finished := by
  have first : TaskOperationStep Sample.taskLibrary settings (KeepsApprovals Sample.taskLibrary)
      (TaskOperationState.start task) failed :=
    .executeTaskPlan (keeps (TaskOperationState.start task) rfl false) rfl
  have second : TaskOperationStep Sample.taskLibrary settings (KeepsApprovals Sample.taskLibrary) failed resumed :=
    @TaskOperationStep.request Sample.taskLibrary settings _ failed .resumeTask resumedTask
      (fun _ => nofun) (fun _ _ _ => nofun) rfl
  have third : TaskOperationStep Sample.taskLibrary settings (KeepsApprovals Sample.taskLibrary) resumed finished :=
    .executeTaskPlan (keeps resumed rfl true) rfl
  exact ((ReflTransGen.single first).tail second).tail third

def cancelledOnce : TaskOperationState := after (TaskOperationState.start task) cancelled

/-- Two executions, each cancelled during the call. -/
def cancelledTwice : TaskOperationState := after cancelledOnce cancelled

theorem cancelledTwice_reached : ReflTransGen (TaskOperationStep Sample.taskLibrary settings fun _ _ => True)
    (TaskOperationState.start task) cancelledTwice := by
  have first : TaskOperationStep Sample.taskLibrary settings (fun _ _ => True) (TaskOperationState.start task)
      cancelledOnce :=
    .executeTaskPlan trivial rfl
  have second : TaskOperationStep Sample.taskLibrary settings (fun _ _ => True) cancelledOnce cancelledTwice :=
    .executeTaskPlan trivial rfl
  exact .tail (.single first) second

end DocumentTask

/-- The documents are filled once over two executions with a resumption in between. -/
theorem steps_authorized_finished : StepsAuthorized Sample.taskLibrary DocumentTask.finished ∧
    DocumentTask.finished.invocations.map (·.step.stepId) =
      ["fill_documents", "inspect_page", "inspect_page"] :=
  ⟨steps_authorized Sample.taskLibrary DocumentTask.settings DocumentTask.valid
    DocumentTask.finished_reached, by decide +kernel⟩

/-- An execution that is cancelled during a call loses the consumption of its
approval, which then authorizes a second call. -/
theorem cancelled_approval_serves_twice :
    ReflTransGen (TaskOperationStep Sample.taskLibrary DocumentTask.settings fun _ _ => True)
      (TaskOperationState.start DocumentTask.task) DocumentTask.cancelledTwice ∧
    ¬ StepsAuthorized Sample.taskLibrary DocumentTask.cancelledTwice := by
  refine ⟨DocumentTask.cancelledTwice_reached, ?_⟩
  intro authorized
  have used : usedApprovals Sample.taskLibrary DocumentTask.cancelledTwice.invocations =
      [⟨7⟩, ⟨7⟩] := by decide +kernel
  have once := authorized.usedOnce
  rw [used] at once
  exact absurd once (by decide)

end PurchaseAgent
