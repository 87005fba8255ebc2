import PurchaseAgent.Correctness.Initial

/-!
Status changes with the in-memory repository. Every operation of a service takes
a legal edge of the state machine, except for the direct assignment with which a
batch fails a mission whose run raised. So the statuses of a run change legally
exactly when these assignments do.
-/

namespace PurchaseAgent

open Cooperative InMemoryMissionRepository

variable {σ : Type} (env : Environment σ)

namespace MemoryWorld

def storedStatus (w : MemoryWorld σ) (id : UUID) : Option MissionStatus :=
  (w.repository.missions.get? id).map fun r => (w.mission r).status

end MemoryWorld

open MemoryWorld

/-- A status that stays or takes an edge of the state machine. -/
def StatusStep (before after : MissionStatus) : Prop :=
  after = before ∨ MissionStateMachine.Legal before after

instance (before after : MissionStatus) : Decidable (StatusStep before after) :=
  inferInstanceAs (Decidable (_ ∨ _))

/-- What an operation may do to a mission object. -/
def ObjectStep (before after : Mission) : Prop :=
  after.id = before.id ∧ StatusStep before.status after.status

theorem objectStep_refl (mission : Mission) : ObjectStep mission mission := ⟨rfl, .inl rfl⟩

theorem objectStep_assign (mission : Mission) (assignment : Assignment)
    (notStatus : ∀ status, assignment ≠ .status status) :
    ObjectStep mission (mission.assign assignment) := by
  cases assignment <;> first
    | exact ⟨rfl, .inl rfl⟩
    | exact absurd rfl (notStatus _)

theorem objectStep_claimed {currentTime : Time} {mission : Mission}
    (h : isDue currentTime mission) : ObjectStep mission (claimedMission currentTime mission) := by
  have waiting : mission.status = .waiting := (of_decide_eq_true h).1
  refine ⟨rfl, .inr (.inl ?_)⟩
  rw [waiting]
  exact List.mem_of_elem_eq_true rfl

theorem objectStep_expires {currentTime : Time} {before after : Mission}
    (h : Expires currentTime before after) : ObjectStep before after := by
  obtain ⟨due, outcome⟩ := h
  have legal := MissionStateMachine.transition_legal (transition_expired due)
  rcases outcome with rfl | ⟨event, -, rfl⟩ <;> exact ⟨rfl, .inr legal⟩

theorem objectStep_recovers {currentTime : Time} {before after : Mission}
    (h : Recovers currentTime before after) : ObjectStep before after := by
  obtain ⟨eventId, rfl⟩ := h
  exact ⟨recoverStale_id _ _ _, MissionStateMachine.recoverStale_legal _ _ _⟩

/-- The direct status assignment an operation makes, if it is one. -/
def Op.assignedStatus {B : Backend} : Op B → Option (Ref × MissionStatus)
  | .assign r (.status status) => some (r, status)
  | _ => none

/-- What an operation on known objects does: dictionary and ids stay, statuses
take legal edges unless assigned directly, and only known objects come back. -/
structure OperationStep (o : Op memory) (w : MemoryWorld σ) (answer : o.Answer)
    (w' : MemoryWorld σ) : Prop where
  missions : w'.repository.missions = w.repository.missions
  hands : o.Hands w.Known answer
  ids : ∀ r, (w'.mission r).id = (w.mission r).id
  statuses : ∀ r, (w'.mission r).status = (w.mission r).status ∨
    MissionStateMachine.Legal (w.mission r).status (w'.mission r).status ∨
    o.assignedStatus = some (r, (w'.mission r).status)

theorem OperationStep.of_objects {o : Op memory} {w w' : MemoryWorld σ} {answer : o.Answer}
    (missions : w'.repository.missions = w.repository.missions) (hands : o.Hands w.Known answer)
    (objects : ∀ r, ObjectStep (w.mission r) (w'.mission r)) :
    OperationStep o w answer w' where
  missions := missions
  hands := hands
  ids r := (objects r).1
  statuses r := (objects r).2.imp_right .inl

theorem OperationStep.consistent {o : Op memory} {w w' : MemoryWorld σ} {answer : o.Answer}
    (step : OperationStep o w answer w') (h : Consistent w) : Consistent w' where
  keys := by rw [step.missions]; exact h.keys
  ids entry member := by
    rw [step.missions] at member
    exact (step.ids entry.2).trans (h.ids entry member)

/-- One object changes. -/
theorem objects_setMission {w : MemoryWorld σ} {r : Ref} {mission : Mission}
    (step : ObjectStep (w.mission r) mission) (other : Ref) :
    ObjectStep (w.mission other) ((w.setMission r mission).mission other) := by
  rcases w.setMission_cases r mission other with ⟨rfl, same⟩ | same
  · rwa [same]
  · rw [same]
    exact objectStep_refl _

theorem hands_of_returns {edge : Mission → Mission → Prop} {x : Except PyException (List Ref)}
    {w w' : MemoryWorld σ} (h : Returns edge x w w') :
    ∀ rs, x = .ok rs → ∀ r ∈ rs, w.Known r :=
  fun rs ok r member => known_of_stored ((h.stored rs ok).2 r member)

theorem objects_of_returns {edge : Mission → Mission → Prop} {x : Except PyException (List Ref)}
    {w w' : MemoryWorld σ} (h : Returns edge x w w')
    (step : ∀ before after, edge before after → ObjectStep before after) (r : Ref) :
    ObjectStep (w.mission r) (w'.mission r) := by
  obtain ⟨-, selected, -, swept⟩ := h
  rcases swept.moved r with same | ⟨-, moved⟩
  · rw [same]
    exact objectStep_refl _
  · exact step _ _ moved

theorem missions_of_returns {edge : Mission → Mission → Prop} {x : Except PyException (List Ref)}
    {w w' : MemoryWorld σ} (h : Returns edge x w w') :
    w'.repository.missions = w.repository.missions := by
  obtain ⟨-, selected, -, swept⟩ := h
  exact swept.missions

theorem operationStep_memory {w : MemoryWorld σ} (consistent : Consistent w) (t : TaskId)
    (o : MemoryOp) (uses : Op.Uses w.Known (fun _ => True) (.repository o)) :
    OperationStep (.repository o) w (o.exec env t w).1 (o.exec env t w).2 := by
  cases o with
  | create r => exact uses.elim
  | get id => exact .of_objects rfl (fun r found => ⟨id, found⟩) fun _ => objectStep_refl _
  | update r =>
      obtain ⟨id, found⟩ := uses
      have stored := (consistent.stored_of_get? found).1
      change OperationStep (.repository (.update r)) w (update r w).1 (update r w).2
      rcases update_of_stored stored with ⟨attempts, eq⟩ | ⟨⟨error, eq⟩, -⟩
      · rw [eq]
        refine .of_objects rfl ?_ fun _ => objectStep_refl _
        rintro _ ⟨⟩
        exact ⟨id, found⟩
      · rw [eq]
        exact .of_objects rfl nofun fun _ => objectStep_refl _
  | claimDue currentTime limit =>
      have returns := claimDue_returns consistent t currentTime limit
      refine .of_objects (missions_of_returns returns) (hands_of_returns returns)
        (objects_of_returns returns ?_)
      rintro before _ ⟨due, rfl⟩
      exact objectStep_claimed due
  | expireDue currentTime limit =>
      have returns := expireDue_returns env consistent currentTime limit
      exact .of_objects (missions_of_returns returns) (hands_of_returns returns)
        (objects_of_returns returns fun _ _ h => objectStep_expires h.2)
  | recoverStaleProcessing currentTime claimTimeout limit =>
      have returns := recoverStaleProcessing_returns env consistent currentTime claimTimeout limit
      exact .of_objects (missions_of_returns returns) (hands_of_returns returns)
        (objects_of_returns returns fun _ _ h => objectStep_recovers h.2)

theorem objectStep_transition {mission after : Mission} {target : MissionStatus}
    {options : MissionStateMachine.Options}
    (h : MissionStateMachine.transition mission target options = .ok after) :
    ObjectStep mission after := by
  have legal := MissionStateMachine.transition_legal h
  obtain ⟨-, rfl⟩ := MissionStateMachine.transition_ok h
  exact ⟨rfl, .inr legal⟩

theorem operationStep {w : MemoryWorld σ} (consistent : Consistent w) (t : TaskId)
    (o : Op memory) (uses : o.Uses w.Known fun _ => True) :
    OperationStep o w (o.exec env t w).1 (o.exec env t w).2 := by
  cases o with
  | read | utcNow | getIdentity | call | request | deliver =>
      exact .of_objects rfl trivial fun _ => objectStep_refl _
  | construct | copy => exact uses.elim
  | assign r assignment =>
      by_cases direct : ∃ status, assignment = .status status
      · obtain ⟨status, rfl⟩ := direct
        have cases := w.setMission_cases r ((w.mission r).assign (.status status))
        refine ⟨rfl, trivial, fun other => ?_, fun other => ?_⟩
        · rcases cases other with ⟨rfl, same⟩ | same
          · exact (congrArg Mission.id same).trans rfl
          · exact congrArg Mission.id same
        · rcases cases other with ⟨rfl, same⟩ | same
          · refine .inr (.inr ?_)
            simp only [Op.exec, same]
            rfl
          · exact .inl (congrArg Mission.status same)
      · refine .of_objects rfl trivial (objects_setMission (objectStep_assign _ _ ?_))
        exact fun status same => direct ⟨status, same⟩
  | transition r target options =>
      simp only [Op.exec]
      cases outcome : MissionStateMachine.transition (w.mission r) target options with
      | error error => exact .of_objects rfl trivial fun _ => objectStep_refl _
      | ok mission =>
          exact .of_objects rfl trivial (objects_setMission (objectStep_transition outcome))
  | recordEvent r timestamp eventType message metadata =>
      simp only [Op.exec]
      cases outcome : (w.mission r).recordEvent (env.newEventId w.idsDrawn) timestamp eventType
        message metadata with
      | error error => exact .of_objects rfl trivial fun _ => objectStep_refl _
      | ok mission =>
          obtain ⟨-, rfl⟩ := Mission.recordEvent_ok outcome
          exact .of_objects rfl trivial (objects_setMission (w := w.drawId) ⟨rfl, .inl rfl⟩)
  | repository o => exact operationStep_memory env consistent t o uses

/-- The choice changes the status of every stored mission legally. -/
def StatusesStep (c : CommandConfig σ) (t : TaskId) : Prop :=
  ∀ id before after, storedStatus c.shared id = some before →
    storedStatus (c.step (machine memory env) t).shared id = some after → StatusStep before after

/-- A status the choice assigns directly is one the mission could have taken. -/
def AssignsLegally (c : CommandConfig σ) (t : TaskId) : Prop :=
  ∀ r status, c.Performs (machine memory env) t (.assign r (.status status)) →
    StatusStep (c.shared.mission r).status status

/-- What holds all along: the dictionary is the initial one and leads to missions
with its keys, and no task knows any other object. -/
structure Ordered (w : MemoryWorld σ) (c : CommandConfig σ) : Prop where
  missions : c.shared.repository.missions = w.repository.missions
  consistent : Consistent c.shared
  tasks : c.Each (Op.Hands w.Known) (Op.Uses w.Known fun _ => True) fun _ => True

theorem ordered_startCommands {w : MemoryWorld σ} (consistent : Consistent w)
    (registry : ProviderRegistry) (commands : TaskId → Command) :
    Ordered w (startCommands registry commands w) where
  missions := rfl
  consistent := consistent
  tasks t := Prog.each_mono (fun _ _ => trivial) _ (keeps_service registry (commands t) fun _ _ => trivial)

variable {env}

theorem Ordered.operationStep {w : MemoryWorld σ} {c : CommandConfig σ} (ordered : Ordered w c)
    {t : TaskId} {o : Op memory} (h : c.Performs (machine memory env) t o) :
    OperationStep o c.shared ((machine memory env).exec t o c.shared).1
      ((machine memory env).exec t o c.shared).2 := by
  have same : w.Known = c.shared.Known := by
    unfold Known
    rw [ordered.missions]
  exact PurchaseAgent.operationStep env ordered.consistent t o
    (same ▸ ordered.tasks.performs (machine memory env) h)

theorem Ordered.step {w : MemoryWorld σ} {c : CommandConfig σ} (ordered : Ordered w c)
    (t : TaskId) : Ordered w (c.step (machine memory env) t) := by
  have tasks := ordered.tasks.step (machine memory env) t fun o performs => by
    have hands := (ordered.operationStep performs).hands
    unfold Known at hands ⊢
    rwa [ordered.missions] at hands
  rcases c.step_shared (machine memory env) t with same | ⟨o, performs, same⟩
  · exact ⟨same ▸ ordered.missions, same ▸ ordered.consistent, tasks⟩
  · have step := ordered.operationStep performs
    rw [← same] at step
    exact ⟨step.missions.trans ordered.missions, step.consistent ordered.consistent, tasks⟩

theorem Ordered.statusesStep_iff {w : MemoryWorld σ} {c : CommandConfig σ}
    (ordered : Ordered w c) (t : TaskId) : StatusesStep env c t ↔ AssignsLegally env c t := by
  constructor
  · rintro legal r status ⟨admits, ready, next, task⟩
    obtain ⟨id, found⟩ : w.Known r := ordered.tasks.performs (machine memory env)
      (o := .assign r (.status status)) ⟨admits, ready, next, task⟩
    rw [← ordered.missions] at found
    have after : (c.step (machine memory env) t).shared =
        c.shared.setMission r ((c.shared.mission r).assign (.status status)) := by
      rw [Config.step_of_performs _ c t _ next admits ready task]
      rfl
    refine legal id _ _ (by rw [storedStatus, found]; rfl) ?_
    rw [storedStatus, after]
    simp only [World.setMission_repository, found, Option.map_some, World.mission_setMission]
    rfl
  · intro legal id before after hb ha
    rcases c.step_shared (machine memory env) t with same | ⟨o, performs, same⟩
    · rw [same] at ha
      exact .inl (Option.some.inj (ha.symm.trans hb))
    · have step := ordered.operationStep performs
      rw [← same] at step
      unfold storedStatus at hb ha
      rw [step.missions] at ha
      obtain ⟨r, found, rfl⟩ := Option.map_eq_some_iff.mp hb
      rw [found] at ha
      cases ha
      rcases step.statuses r with same | edge | assigned
      · exact .inl same
      · exact .inr edge
      · cases o with
        | assign r' assignment =>
            cases assignment with
            | status status =>
                simp only [Op.assignedStatus, Option.some.injEq, Prod.mk.injEq] at assigned
                obtain ⟨rfl, rfl⟩ := assigned
                exact legal r' _ performs
            | _ => cases assigned
        | _ => cases assigned

/-- No edge leaves these statuses. -/
def MissionStatus.isFinal (status : MissionStatus) : Bool :=
  status ∈ [.completed, .cancelled, .expired]

theorem statusStep_final {before after : MissionStatus} (final : before.isFinal = true)
    (step : StatusStep before after) : after = before := by
  revert final step
  cases before <;> cases after <;> decide

theorem Ordered.storedStatus_isSome {w : MemoryWorld σ} {c : CommandConfig σ}
    (ordered : Ordered w c) (id : UUID) :
    (storedStatus c.shared id).isSome = (w.repository.missions.get? id).isSome := by
  simp [storedStatus, ordered.missions]

/-- A final status stays to the end of a run with legal assignments. -/
theorem final_stays {w : MemoryWorld σ} {c : CommandConfig σ} (ordered : Ordered w c)
    {sched : List TaskId} (along : c.Along (machine memory env) (AssignsLegally env) sched)
    {id : UUID} {status : MissionStatus} (final : status.isFinal = true)
    (now : storedStatus c.shared id = some status) :
    storedStatus (c.run (machine memory env) sched).shared id = some status := by
  refine (Config.run_induct (machine memory env)
    (I := fun c => Ordered w c ∧ storedStatus c.shared id = some status) ?_ c sched
    ⟨ordered, now⟩ along).2
  rintro c t ⟨ordered, now⟩ legal
  refine ⟨ordered.step t, ?_⟩
  have stored : (storedStatus (c.step (machine memory env) t).shared id).isSome := by
    rw [(ordered.step t).storedStatus_isSome, ← ordered.storedStatus_isSome, now]
    rfl
  obtain ⟨after, ha⟩ := Option.isSome_iff_exists.mp stored
  have step := (ordered.statusesStep_iff t).mpr legal id status after now ha
  rw [ha, statusStep_final final step]

/-- In every run, all status changes are legal exactly when the direct
assignments of a failed run's handler are; then a completed, cancelled or expired
mission keeps its status from any point of the run to its end. -/
theorem statuses_legal_iff (env : Environment σ) (registry : ProviderRegistry) (commands : TaskId → Command)
    (w : MemoryWorld σ) (consistent : Consistent w) (sched : List TaskId) :
    ((startCommands registry commands w).Along (machine memory env) (StatusesStep env) sched ↔
      (startCommands registry commands w).Along (machine memory env) (AssignsLegally env)
        sched) ∧
    ((startCommands registry commands w).Along (machine memory env) (AssignsLegally env) sched →
      ∀ first second, sched = first ++ second → ∀ id status, status.isFinal = true →
        storedStatus ((startCommands registry commands w).run (machine memory env) first).shared
          id = some status →
        storedStatus ((startCommands registry commands w).run (machine memory env) sched).shared
          id = some status) := by
  have ordered := ordered_startCommands consistent registry commands
  refine ⟨Config.along_iff (machine memory env) (I := Ordered w) (fun c t h _ => h.step t)
    (fun c t h => h.statusesStep_iff t) _ sched ordered, ?_⟩
  rintro along first second rfl id status final now
  rw [Config.along_append] at along
  rw [Config.run_append]
  refine final_stays (w := w) ?_ along.2 final now
  exact Config.run_induct (machine memory env) (fun c t h _ => h.step t) _ first ordered along.1

/-! A batch whose search raises after its claim was recovered and cancelled. -/

namespace RecoveredClaim

def environment : Environment Unit :=
  .withProviders fun _ _ s => (.error (.other "RuntimeError" "boom"), s)

def commands : TaskId → Command
  | 0 => .processDueMissions 1 100 defaultMissionRetryPolicy
  | 1 => .recoverStaleProcessing 1000 1 100
  | _ => .cancelMission ⟨7⟩

def start : CommandConfig Unit := Sample.start commands ()

/-- The batch claims and calls the provider, recovery and cancellation run, and
the provider's exception reaches the handler. -/
def schedule : List TaskId :=
  List.replicate 20 0 ++ [1] ++ List.replicate 6 2 ++ List.replicate 4 0

theorem storedStatus_before :
    storedStatus (start.run (machine memory environment) schedule).shared ⟨7⟩ =
      some .cancelled := by
  decide +kernel

theorem storedStatus_after :
    storedStatus ((start.run (machine memory environment) schedule).step
      (machine memory environment) 0).shared ⟨7⟩ = some .failed := by
  decide +kernel

end RecoveredClaim

/-- A cancelled mission becomes failed. -/
theorem cancelled_mission_fails :
    ¬ RecoveredClaim.start.Along (machine memory RecoveredClaim.environment)
      (StatusesStep RecoveredClaim.environment) (RecoveredClaim.schedule ++ [0]) := by
  rw [Config.along_append]
  rintro ⟨-, step, -⟩
  exact absurd (step ⟨7⟩ _ _ RecoveredClaim.storedStatus_before RecoveredClaim.storedStatus_after)
    (by decide)

/-- The same calls, one after the other. -/
theorem statuses_legal_iff_recovered :
    (RecoveredClaim.start.Along (machine memory RecoveredClaim.environment)
        (StatusesStep RecoveredClaim.environment) (List.replicate 60 0 ++ [1] ++ [2]) ↔
      RecoveredClaim.start.Along (machine memory RecoveredClaim.environment)
        (AssignsLegally RecoveredClaim.environment) (List.replicate 60 0 ++ [1] ++ [2])) :=
  (statuses_legal_iff RecoveredClaim.environment Sample.registry
    RecoveredClaim.commands _
    (consistent_initialWorld [Sample.mission] Sample.mission () (by decide)) _).1

end PurchaseAgent
