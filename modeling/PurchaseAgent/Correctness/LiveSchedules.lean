import PurchaseAgent.Correctness.Alone
import PurchaseAgent.Correctness.Initial
import PurchaseAgent.Correctness.MissionRuns
import PurchaseAgent.Services.DueMissionProcessor
import PurchaseAgent.Services.MissionCommands

/-!
Missions left waiting. Each command that reschedules a mission keeps its expiry
and its attempts, and says for when it leaves it and how many attempts it
allows; whether a claim can still take it is decided by these four values.
-/

namespace PurchaseAgent

open Cooperative Cooperative.Discipline InMemoryMissionRepository Service

/-- A claim takes the mission at some time. -/
def Claimable (mission : Mission) : Prop := ∃ t, isDue t mission = true

/-- A time before the expiry. -/
def InTime (expiresAt scheduledAt : Option Time) : Prop :=
  ∃ s ∈ scheduledAt, ∀ e ∈ expiresAt, s < e

/-- The scheduled time itself is the first at which a claim may succeed. -/
theorem claimable_iff {mission : Mission} (waiting : mission.status = .waiting) :
    Claimable mission ↔ InTime mission.expiresAt mission.scheduledAt ∧
      mission.executionAttempts < mission.maxExecutionAttempts := by
  simp only [Claimable, isDue, waiting, Mission.hasExhaustedAttempts, InTime, true_and,
    decide_eq_true_eq, decide_eq_false_iff_not, Nat.not_le]
  cases mission.scheduledAt with
  | none => simp
  | some s =>
      cases mission.expiresAt with
      | none => simpa using fun _ => ⟨s, le_rfl⟩
      | some e =>
          simp only [Option.any_some, Option.all_some, decide_eq_true_eq, Option.mem_some_iff,
            exists_eq_left', forall_eq']
          constructor
          · rintro ⟨t, le, lt, left⟩
            exact ⟨Int.lt_of_le_of_lt le lt, left⟩
          · rintro ⟨lt, left⟩
            exact ⟨s, le_rfl, lt, left⟩
/-- What `claim_due` looks at. -/
structure Slot where
  status : MissionStatus
  scheduledAt : Option Time
  expiresAt : Option Time
  executionAttempts : Nat
  maxExecutionAttempts : Nat

def Mission.slot (mission : Mission) : Slot where
  status := mission.status
  scheduledAt := mission.scheduledAt
  expiresAt := mission.expiresAt
  executionAttempts := mission.executionAttempts
  maxExecutionAttempts := mission.maxExecutionAttempts

def Slot.assign (slot : Slot) : Assignment → Slot
  | .status value => { slot with status := value }
  | .scheduledAt value => { slot with scheduledAt := value }
  | .maxExecutionAttempts value => { slot with maxExecutionAttempts := value }
  | _ => slot

theorem slot_assign (mission : Mission) (assignment : Assignment) :
    (mission.assign assignment).slot = mission.slot.assign assignment := by
  cases assignment <;> rfl

section Rules
variable {σ : Type} {env : Environment σ} {t : TaskId} {w : MemoryWorld σ} {r : Ref} {slot : Slot}

/-- What holds of the slot after a service that returns. -/
def Leaves {α : Type} (r : Ref) (P : Slot → Prop) : Except PyException α → MemoryWorld σ → Prop
  | .ok _, w => P (w.mission r).slot
  | .error _, _ => True

theorem leaves_then {α β : Type} {P : Slot → Prop} {p : Service memory α}
    {f : α → Service memory β} (leaves : (alone env).Safe t (Leaves r (· = slot)) p.run w)
    (next : ∀ a w', (w'.mission r).slot = slot → (alone env).Safe t (Leaves r P) (f a).run w') :
    (alone env).Safe t (Leaves r P) (p >>= f).run w :=
  safe_seq leaves next fun _ _ _ => trivial

theorem leaves_assign (h : (w.mission r).slot = slot) (assignment : Assignment) :
    (alone env).Safe t (Leaves r (· = slot.assign assignment))
      (Service.assign r assignment).run w := by
  refine (safe_assign (B := memory) w r _ _).mpr ⟨trivial, ?_⟩
  change ((w.setMission r _).mission r).slot = _
  rw [World.mission_setMission, slot_assign, h]

theorem leaves_transition (h : (w.mission r).slot = slot) (target : MissionStatus)
    (options : MissionStateMachine.Options) :
    (alone env).Safe t (Leaves r (· = slot.assign (.status target)))
      (Service.transition r target options).run w := by
  refine (safe_transition (B := memory) w r _ _ _).mpr
    ⟨fun mission ok => ⟨trivial, ?_⟩, fun _ _ => ⟨trivial, trivial⟩⟩
  obtain ⟨-, rfl⟩ := MissionStateMachine.transition_ok ok
  change ((w.setMission r _).mission r).slot = _
  rw [World.mission_setMission, ← h]
  rfl

theorem leaves_recordEvent (h : (w.mission r).slot = slot) (timestamp : Time)
    (eventType message : String) (metadata : List (String × PyValue)) :
    (alone env).Safe t (Leaves r (· = slot))
      (Service.recordEvent r timestamp eventType message metadata).run w := by
  refine (safe_recordEvent (B := memory) w r _ _ _ _ _).mpr
    ⟨fun mission ok => ⟨trivial, ?_⟩, fun _ _ => ⟨trivial, trivial⟩⟩
  obtain ⟨-, rfl⟩ := Mission.recordEvent_ok ok
  change ((w.drawId.setMission r _).mission r).slot = _
  rw [World.mission_setMission, ← h]
  rfl

theorem leaves_addEvent (h : (w.mission r).slot = slot) (eventType message : String)
    (metadata : List (String × PyValue)) :
    (alone env).Safe t (Leaves r (· = slot))
      (Service.addEvent r eventType message metadata).run w := by
  refine (safe_run_bind _ _ _ _).mpr ((safe_utcNow (B := memory) w _).mpr ⟨trivial, ?_⟩)
  exact leaves_recordEvent (w := { w with clockReads := w.clockReads + 1 }) h _ _ _ _

theorem leaves_update {P : Slot → Prop} (h : P (w.mission r).slot) :
    (alone env).Safe t (Leaves r P) (inMemoryMissionRepository.update r).run w := by
  refine (safe_update w r _).mpr ?_
  intro w' same
  obtain rfl : w = w' := same.symm
  refine ⟨trivial, ?_⟩
  have kept := congrArg Mission.slot (update_mission r w r)
  revert kept
  cases (InMemoryMissionRepository.update r w).1 with
  | error => exact fun _ => trivial
  | ok => exact fun kept => show P _ from kept ▸ h

theorem leaves_assignAll (h : (w.mission r).slot = slot) (assignments : List Assignment) :
    (alone env).Safe t (Leaves r (· = assignments.foldl Slot.assign slot))
      (assignAll r assignments).run w := by
  induction assignments generalizing w slot with
  | nil => exact h
  | cons assignment rest ih =>
      exact leaves_then (leaves_assign h assignment) fun _ _ h' => ih h'

/-- The stored mission is found under its id. -/
theorem leaves_get {α : Type} {P : Slot → Prop} (stored : Stored w r)
    {f : Option Ref → Service memory α}
    (next : (alone env).Safe t (Leaves r P) (f (some r)).run w) :
    (alone env).Safe t (Leaves r P)
      (inMemoryMissionRepository.get (w.mission r).id >>= f).run w := by
  refine (safe_run_bind _ _ _ _).mpr ((safe_get w _ _).mpr ?_)
  intro w' same
  obtain rfl : w = w' := same.symm
  refine ⟨trivial, ?_⟩
  rw [show w.repository.missions.get? (w.mission r).id = some r from stored]
  exact next

theorem leaves_read {α : Type} {P : Slot → Prop} {f : Mission → Service memory α}
    (next : (alone env).Safe t (Leaves r P) (f (w.mission r)).run w) :
    (alone env).Safe t (Leaves r P) (Service.read r >>= f).run w :=
  Reaches.read_then next

end Rules

/-! The commands. -/

/-- With the expiry and the attempts of the mission, left for this time and with
this limit if it is left waiting. -/
structure LeftFor (mission : Mission) (scheduledAt : Option Time) (limit : Nat) (slot : Slot) :
    Prop where
  expiresAt : slot.expiresAt = mission.expiresAt
  executionAttempts : slot.executionAttempts = mission.executionAttempts
  scheduledAt : slot.status = .waiting → slot.scheduledAt = scheduledAt
  limit : slot.status = .waiting → slot.maxExecutionAttempts = limit

section Commands
variable {σ : Type} {env : Environment σ} {t : TaskId} {w : MemoryWorld σ} {r : Ref}

theorem leaves_resumeMission (stored : Stored w r) :
    (alone env).Safe t
      (Leaves r (LeftFor (w.mission r) (w.mission r).scheduledAt
        (w.mission r).maxExecutionAttempts))
      (resumeMission inMemoryMissionRepository (w.mission r).id).run w := by
  refine leaves_get stored (leaves_read ?_)
  split
  · trivial
  · refine leaves_then (leaves_transition rfl _ _) fun _ w' h => ?_
    refine leaves_then (leaves_addEvent h _ _ _) fun _ w' h => leaves_update ?_
    rw [h]
    exact ⟨rfl, rfl, fun _ => rfl, fun _ => rfl⟩

theorem leaves_scheduleMissionAt (scheduledAt now : Time) :
    (alone env).Safe t
      (Leaves r (LeftFor (w.mission r) (some scheduledAt) (w.mission r).maxExecutionAttempts))
      (scheduleMissionAt inMemoryMissionRepository r (w.mission r) scheduledAt now).run w := by
  unfold scheduleMissionAt
  split
  · trivial
  · split
    · trivial
    · refine leaves_then (leaves_assign rfl _) fun _ w' h => ?_
      split
      · refine leaves_then (leaves_transition h _ _) fun _ w' h => ?_
        refine leaves_then (leaves_recordEvent h _ _ _ _) fun _ w' h => leaves_update ?_
        rw [h]
        exact ⟨rfl, rfl, fun _ => rfl, fun _ => rfl⟩
      · refine leaves_then (leaves_recordEvent h _ _ _ _) fun _ w' h => leaves_update ?_
        rw [h]
        exact ⟨rfl, rfl, fun _ => rfl, fun _ => rfl⟩

theorem leaves_unscheduleMission (now : Time) :
    (alone env).Safe t
      (Leaves r fun slot => LeftFor (w.mission r) none (w.mission r).maxExecutionAttempts slot)
      (unscheduleMission inMemoryMissionRepository r (w.mission r) now).run w := by
  unfold unscheduleMission
  split
  · rename_i created
    have resting : (w.mission r).slot.status ≠ .waiting := by simp [Mission.slot, created]
    exact ⟨rfl, rfl, fun waiting => absurd waiting resting, fun _ => rfl⟩
  · split
    · refine leaves_then (leaves_transition rfl _ _) fun _ w' h => ?_
      refine leaves_then (leaves_assign h _) fun _ w' h => ?_
      refine leaves_then (leaves_recordEvent h _ _ _ _) fun _ w' h => leaves_update ?_
      rw [h]
      exact ⟨rfl, rfl, fun _ => rfl, fun _ => rfl⟩
    · refine leaves_then (leaves_assign rfl _) fun _ w' h => ?_
      refine leaves_then (leaves_recordEvent h _ _ _ _) fun _ w' h => leaves_update ?_
      rw [h]
      exact ⟨rfl, rfl, fun _ => rfl, fun _ => rfl⟩

theorem leaves_orUtcNow {α : Type} {P : Slot → Prop} (time : Option Time)
    {f : Time → Service memory α}
    (next : ∀ w', w'.objects = w.objects → w'.repository = w.repository →
      (alone env).Safe t (Leaves r P) (f (time.getD (env.utcNow w.clockReads))).run w') :
    (alone env).Safe t (Leaves r P) (orUtcNow time >>= f).run w := by
  cases time with
  | some time => exact next w rfl rfl
  | none =>
      exact (safe_run_bind _ _ _ _).mpr
        ((safe_utcNow (B := memory) w _).mpr ⟨trivial, next _ rfl rfl⟩)

theorem leaves_scheduleMission (stored : Stored w r) (scheduledAt currentTime : Option Time) :
    (alone env).Safe t
      (Leaves r (LeftFor (w.mission r) scheduledAt (w.mission r).maxExecutionAttempts))
      (scheduleMission inMemoryMissionRepository (w.mission r).id scheduledAt currentTime).run
      w := by
  refine leaves_orUtcNow currentTime fun w' objects repository => ?_
  have same : w'.mission r = w.mission r := by simp only [World.mission, objects]
  rw [← same]
  have stored' : Stored w' r := by simpa only [Stored, same, repository] using stored
  refine leaves_get stored' (leaves_read ?_)
  split
  · trivial
  · split
    · rename_i already
      exact ⟨rfl, rfl, fun _ => already, fun _ => rfl⟩
    · cases scheduledAt with
      | none => exact leaves_unscheduleMission _
      | some scheduledAt => exact leaves_scheduleMissionAt scheduledAt _

theorem leaves_retryMission (stored : Stored w r) (options : RetryOptions) :
    (alone env).Safe t
      (Leaves r fun slot => (w.mission r).hasExhaustedAttempts = false ∧
        LeftFor (w.mission r)
          (some (options.retryAt.getD (options.currentTime.getD (env.utcNow w.clockReads))))
          (w.mission r).maxExecutionAttempts slot)
      (retryMission inMemoryMissionRepository (w.mission r).id options).run w := by
  refine leaves_orUtcNow options.currentTime fun w' objects repository => ?_
  have same : w'.mission r = w.mission r := by simp only [World.mission, objects]
  rw [← same]
  have stored' : Stored w' r := by simpa only [Stored, same, repository] using stored
  dsimp only
  split
  · trivial
  · refine leaves_get stored' (leaves_read ?_)
    split
    · trivial
    · split
      · trivial
      · rename_i left
        unfold resetForRetry
        refine leaves_then (leaves_transition rfl _ _) fun _ w' h => ?_
        refine leaves_then (leaves_assign h _) fun _ w' h => ?_
        refine leaves_then (leaves_assign h _) fun _ w' h => ?_
        refine leaves_then (leaves_assign h _) fun _ w' h => ?_
        refine leaves_then (leaves_assign h _) fun _ w' h => ?_
        refine leaves_then (leaves_recordEvent h _ _ _ _) fun _ w' h => leaves_update ?_
        rw [h]
        exact ⟨Bool.eq_false_of_not_eq_true left, rfl, rfl, fun _ => rfl, fun _ => rfl⟩

theorem leaves_scheduleAutomaticRetry (stored : Stored w r) (currentTime : Time)
    (policy : MissionRetryPolicy) (reason : String) :
    (alone env).Safe t
      (Leaves r fun slot => (w.mission r).hasExhaustedAttempts = false ∧
        LeftFor (w.mission r) (automaticRetryAt policy (w.mission r) currentTime).toOption
          (w.mission r).maxExecutionAttempts slot)
      (scheduleAutomaticRetry inMemoryMissionRepository r currentTime policy reason).run w := by
  refine leaves_read ?_
  cases automaticRetryAt policy (w.mission r) currentTime with
  | error => trivial
  | ok retryAt =>
      exact leaves_retryMission stored
        { retryAt := some retryAt, currentTime := some currentTime, trigger := .automatic,
          reason := some reason }

/-- The changes are of fields that a claim does not look at, and of the limit. -/
theorem slot_changes (update : MissionUpdate) (mission : Mission) :
    ((update.changes mission).map (·.assignment)).foldl Slot.assign mission.slot =
      { mission.slot with
        maxExecutionAttempts := update.maxExecutionAttempts.getD mission.maxExecutionAttempts } := by
  have skips : ∀ {α : Type} [DecidableEq α] (name : String) (existing : α) (value : Option α)
      (serialize : α → PyValue) (assignment : α → Assignment) (slot : Slot),
      (∀ a slot', Slot.assign slot' (assignment a) = slot') →
      ((applyChange name existing value serialize assignment).map (·.assignment)).foldl
        Slot.assign slot = slot := by
    intro α _ name existing value serialize assignment slot keeps
    unfold applyChange
    split
    · rfl
    · split
      · rfl
      · exact keeps _ _
  simp only [MissionUpdate.changes, List.map_append, List.foldl_append]
  rw [skips "title" _ _ _ _ _ fun _ _ => rfl, skips "fallback_rules" _ _ _ _ _ fun _ _ => rfl,
    skips "execution_mode" _ _ _ _ _ fun _ _ => rfl]
  cases update.maxExecutionAttempts with
  | none => rfl
  | some limit =>
      by_cases same : mission.maxExecutionAttempts = limit
      · subst same
        simp only [applyChange, if_pos, List.map_nil, List.foldl_nil, Option.getD_some]
        rfl
      · simp only [applyChange, if_neg same]
        rfl

theorem leaves_updateMission (stored : Stored w r) (registry : ProviderRegistry)
    (update : MissionUpdate) :
    (alone env).Safe t
      (Leaves r (LeftFor (w.mission r) (w.mission r).scheduledAt
        (update.maxExecutionAttempts.getD (w.mission r).maxExecutionAttempts)))
      (updateMission inMemoryMissionRepository registry (w.mission r).id update).run w := by
  refine leaves_get stored (leaves_read ?_)
  split
  · trivial
  · split
    · trivial
    · cases checkExecutionMode registry (w.mission r) update.executionMode with
      | error => trivial
      | ok =>
          refine Reaches.fromExcept_then rfl ?_
          refine leaves_then (leaves_assignAll rfl _) fun _ w' h => ?_
          rw [slot_changes] at h
          have left : LeftFor (w.mission r) (w.mission r).scheduledAt
              (update.maxExecutionAttempts.getD (w.mission r).maxExecutionAttempts)
              (w'.mission r).slot := h ▸ ⟨rfl, rfl, fun _ => rfl, fun _ => rfl⟩
          split
          · exact left
          · refine leaves_then (leaves_addEvent rfl _ _ _) fun _ w'' h' => leaves_update ?_
            rw [h']
            exact left

/-- Recovery changes the status alone. -/
theorem leftFor_recoverStale {before after : Mission} {eventId : UUID} {currentTime : Time}
    (recovered : after = (MissionStateMachine.recoverStale before eventId currentTime).2) :
    LeftFor before before.scheduledAt before.maxExecutionAttempts after.slot := by
  subst recovered
  simp only [MissionStateMachine.recoverStale]
  split
  · exact ⟨rfl, rfl, fun _ => rfl, fun _ => rfl⟩
  · rename_i recovered transitioned
    obtain ⟨-, rfl⟩ := MissionStateMachine.transition_ok transitioned
    split
    · exact ⟨rfl, rfl, fun _ => rfl, fun _ => rfl⟩
    · rename_i after recorded
      obtain ⟨-, rfl⟩ := Mission.recordEvent_ok recorded
      exact ⟨rfl, rfl, fun _ => rfl, fun _ => rfl⟩

theorem leaves_recoverStaleProcessing (consistent : Consistent w) (currentTime : Time)
    (claimTimeout : TimeDelta) (limit : Int) :
    (alone env).Safe t
      (Leaves r (LeftFor (w.mission r) (w.mission r).scheduledAt
        (w.mission r).maxExecutionAttempts))
      (inMemoryMissionRepository.recoverStaleProcessing currentTime claimTimeout limit).run w := by
  refine (safe_recoverStaleProcessing w _ _ _ _).mpr ?_
  intro w' same
  obtain rfl : w = w' := same.symm
  refine ⟨trivial, ?_⟩
  have returns := recoverStaleProcessing_returns env consistent currentTime claimTimeout limit
  generalize InMemoryMissionRepository.recoverStaleProcessing env currentTime claimTimeout limit w =
    outcome at returns
  obtain ⟨result, w'⟩ := outcome
  cases result with
  | error => trivial
  | ok rs =>
      obtain ⟨-, selected, -, sweeps⟩ := returns
      rcases sweeps.moved r with kept | ⟨-, -, eventId, recovered⟩
      · change LeftFor _ _ _ (w'.mission r).slot
        rw [show w'.mission r = w.mission r from kept]
        exact ⟨rfl, rfl, fun _ => rfl, fun _ => rfl⟩
      · exact leftFor_recoverStale recovered

end Commands

/-- The calls that may leave a mission waiting until a later time. -/
inductive SchedulingCall where
  | schedule (scheduledAt currentTime : Option Time)
  | retry (options : RetryOptions)
  | automaticRetry (currentTime : Time) (policy : MissionRetryPolicy) (reason : String)
  | update (registry : ProviderRegistry) (changes : MissionUpdate)
  | resume
  | recoverStale (currentTime : Time) (claimTimeout : TimeDelta) (limit : Int)

namespace SchedulingCall

/-- The call for the mission object with this id. -/
def service (r : Ref) (id : UUID) : SchedulingCall → Service memory Unit
  | schedule scheduledAt currentTime => do
    let _ ← scheduleMission inMemoryMissionRepository id scheduledAt currentTime
  | retry options => do
    let _ ← retryMission inMemoryMissionRepository id options
  | automaticRetry currentTime policy reason => do
    let _ ← scheduleAutomaticRetry inMemoryMissionRepository r currentTime policy reason
  | update registry changes => do
    let _ ← updateMission inMemoryMissionRepository registry id changes
  | resume => do
    let _ ← resumeMission inMemoryMissionRepository id
  | recoverStale currentTime claimTimeout limit => do
    let _ ← inMemoryMissionRepository.recoverStaleProcessing currentTime claimTimeout limit

/-- The time of a manual retry, called at `now`. -/
def retryTime (options : RetryOptions) (now : Time) : Time :=
  options.retryAt.getD (options.currentTime.getD now)

/-- A manual retry is not for a time after the expiry. -/
def WithinExpiry (mission : Mission) (now : Time) : SchedulingCall → Prop
  | retry options => ∀ e ∈ mission.expiresAt, retryTime options now ≤ e
  | _ => True

/-- The call is for a time before the expiry, and attempts are left. -/
def LeavesTime (mission : Mission) (now : Time) : SchedulingCall → Prop
  | schedule scheduledAt _ => InTime mission.expiresAt scheduledAt ∧
      mission.executionAttempts < mission.maxExecutionAttempts
  | retry options => ∀ e ∈ mission.expiresAt, retryTime options now ≠ e
  | automaticRetry currentTime policy _ => InTime mission.expiresAt
      (automaticRetryAt policy mission currentTime).toOption
  | update _ changes => InTime mission.expiresAt mission.scheduledAt ∧
      mission.executionAttempts <
        changes.maxExecutionAttempts.getD mission.maxExecutionAttempts
  | resume | recoverStale _ _ _ => InTime mission.expiresAt mission.scheduledAt ∧
      mission.executionAttempts < mission.maxExecutionAttempts

end SchedulingCall

theorem LeftFor.claimable_iff {mission after : Mission} {scheduledAt : Option Time} {limit : Nat}
    (left : LeftFor mission scheduledAt limit after.slot) (waiting : after.status = .waiting) :
    Claimable after ↔ InTime mission.expiresAt scheduledAt ∧ mission.executionAttempts < limit := by
  rw [PurchaseAgent.claimable_iff waiting, ← left.expiresAt, ← left.executionAttempts,
    ← left.scheduledAt waiting, ← left.limit waiting]
  rfl

theorem safe_schedulingCall {σ : Type} {env : Environment σ} {t : TaskId} {w : MemoryWorld σ}
    {r : Ref} (consistent : Consistent w) (stored : Stored w r) (call : SchedulingCall)
    (within : call.WithinExpiry (w.mission r) (env.utcNow w.clockReads)) :
    (alone env).Safe t
      (Leaves r fun slot => ∀ after : Mission, after.slot = slot → after.status = .waiting →
        (Claimable after ↔ call.LeavesTime (w.mission r) (env.utcNow w.clockReads)))
      (call.service r (w.mission r).id).run w := by
  have finish : ∀ {α : Type} {P P' : Slot → Prop} {p : Service memory α},
      (alone env).Safe t (Leaves r P) p.run w → (∀ slot, P slot → P' slot) →
      (alone env).Safe t (Leaves r P') (p >>= fun _ => pure ()).run w := by
    intro α P P' p leaves implies
    exact safe_seq leaves (fun _ _ holds => implies _ holds) fun _ _ _ => trivial
  cases call with
  | schedule scheduledAt currentTime =>
      refine finish (leaves_scheduleMission stored scheduledAt currentTime) ?_
      rintro _ left after rfl waiting
      exact left.claimable_iff waiting
  | retry options =>
      refine finish (leaves_retryMission stored options) ?_
      rintro _ ⟨attempts, left⟩ after rfl waiting
      have attempts : (w.mission r).executionAttempts < (w.mission r).maxExecutionAttempts := by
        simpa [Mission.hasExhaustedAttempts] using attempts
      rw [left.claimable_iff waiting]
      constructor
      · rintro ⟨⟨s, chosen, inTime⟩, -⟩ e expiry same
        obtain rfl := Option.some.inj chosen
        exact absurd same (Int.ne_of_lt (inTime e expiry))
      · intro differs
        exact ⟨⟨_, rfl, fun e expiry =>
          Int.lt_iff_le_and_ne.mpr ⟨within e expiry, differs e expiry⟩⟩, attempts⟩
  | automaticRetry currentTime policy reason =>
      refine finish (leaves_scheduleAutomaticRetry stored currentTime policy reason) ?_
      rintro _ ⟨attempts, left⟩ after rfl waiting
      have attempts : (w.mission r).executionAttempts < (w.mission r).maxExecutionAttempts := by
        simpa [Mission.hasExhaustedAttempts] using attempts
      rw [left.claimable_iff waiting]
      exact and_iff_left attempts
  | update registry changes =>
      refine finish (leaves_updateMission stored registry changes) ?_
      rintro _ left after rfl waiting
      exact left.claimable_iff waiting
  | resume =>
      refine finish (leaves_resumeMission stored) ?_
      rintro _ left after rfl waiting
      exact left.claimable_iff waiting
  | recoverStale currentTime claimTimeout limit =>
      refine finish (leaves_recoverStaleProcessing consistent currentTime claimTimeout limit) ?_
      rintro _ left after rfl waiting
      exact left.claimable_iff waiting

/-- A mission that such a call leaves waiting can be claimed at some time if and
only if the call was for a time before the expiry and attempts are left. -/
theorem schedule_live_iff {σ : Type} (env : Environment σ) (t : TaskId) {w : MemoryWorld σ}
    {r : Ref} (consistent : Consistent w) (stored : Stored w r) (call : SchedulingCall)
    (within : call.WithinExpiry (w.mission r) (env.utcNow w.clockReads))
    (returned : ((call.service r (w.mission r).id).run.eval (machine memory env) t w).1 = .ok ())
    (waiting : (((call.service r (w.mission r).id).run.eval (machine memory env) t w).2.mission
      r).status = .waiting) :
    Claimable (((call.service r (w.mission r).id).run.eval (machine memory env) t w).2.mission r) ↔
      call.LeavesTime (w.mission r) (env.utcNow w.clockReads) := by
  have safe : (alone env).Safe t _ (call.service r (w.mission r).id).run w :=
    safe_schedulingCall consistent stored call within
  rw [safe_alone, returned] at safe
  exact safe _ rfl waiting

/-! A mission scheduled for the moment it expires. -/

namespace ScheduledAtExpiry

def mission : Mission :=
  { Sample.mission with status := .created, scheduledAt := none, expiresAt := some 100 }

def start : MemoryWorld Unit := initialWorld [mission] mission ()

def environment : Environment Unit := .withProviders (Sample.accepting [])

def outcome (scheduledAt : Time) : Except PyException Unit × MemoryWorld Unit :=
  ((SchedulingCall.schedule (some scheduledAt) (some 50)).service 0 ⟨7⟩).run.eval
    (machine memory environment) 0 start

end ScheduledAtExpiry

/-- It is left waiting and no claim will take it. -/
theorem schedule_at_expiry_dead :
    (ScheduledAtExpiry.outcome 100).1 = .ok () ∧
      ((ScheduledAtExpiry.outcome 100).2.mission 0).status = .waiting ∧
      ¬ Claimable ((ScheduledAtExpiry.outcome 100).2.mission 0) := by
  have waiting : ((ScheduledAtExpiry.outcome 100).2.mission 0).status = .waiting := by
    decide +kernel
  have scheduled : ((ScheduledAtExpiry.outcome 100).2.mission 0).scheduledAt = some 100 := by
    decide +kernel
  have expires : ((ScheduledAtExpiry.outcome 100).2.mission 0).expiresAt = some 100 := by
    decide +kernel
  refine ⟨by decide +kernel, waiting, fun claimable => ?_⟩
  obtain ⟨⟨s, chosen, inTime⟩, -⟩ := (claimable_iff waiting).mp claimable
  obtain rfl := Option.some.inj (scheduled.symm.trans chosen)
  exact Int.lt_irrefl _ (inTime _ expires)

theorem schedule_live_iff_sample :
    Claimable ((ScheduledAtExpiry.outcome 99).2.mission 0) ↔
      (SchedulingCall.schedule (some 99) (some 50)).LeavesTime ScheduledAtExpiry.mission
        (ScheduledAtExpiry.environment.utcNow 0) :=
  schedule_live_iff (r := 0) ScheduledAtExpiry.environment 0
    (consistent_initialWorld [ScheduledAtExpiry.mission] ScheduledAtExpiry.mission () (by decide))
    rfl (.schedule (some 99) (some 50)) trivial (by decide +kernel) (by decide +kernel)

end PurchaseAgent
