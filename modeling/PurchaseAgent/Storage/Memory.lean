import PurchaseAgent.Collections.Dict
import PurchaseAgent.Collections.StableSort
import PurchaseAgent.Domain.ExecutionAttempt
import PurchaseAgent.Services.Rules

/-!
The in-memory mission repository. It hands out the stored objects themselves, so
what a service assigns to a loaded mission is stored at once; `update` only
keeps the audit records of attempts in step. The claim lock is never contended,
because no method awaits while it holds it.
-/

namespace PurchaseAgent

open Collections Cooperative

structure MemoryState where
  missions : Dict UUID Ref
  executionAttempts : UUID → List MissionExecutionAttempt

abbrev MemoryWorld (σ : Type) := World MemoryState σ

namespace InMemoryMissionRepository
variable {σ : Type}

/-- `self._missions[mission.id] = mission`. -/
def store (w : MemoryWorld σ) (r : Ref) : MemoryWorld σ :=
  { w with repository :=
    { w.repository with missions := w.repository.missions.set (w.mission r).id r } }

/-- The world with other audit records. -/
def withAttempts (w : MemoryWorld σ) (attempts : UUID → List MissionExecutionAttempt) :
    MemoryWorld σ :=
  { w with repository := { w.repository with executionAttempts := attempts } }

section Fields
variable (w : MemoryWorld σ) (attempts : UUID → List MissionExecutionAttempt)

@[simp] theorem withAttempts_mission (r : Ref) :
    (withAttempts w attempts).mission r = w.mission r := rfl
@[simp] theorem withAttempts_objects : (withAttempts w attempts).objects = w.objects := rfl
@[simp] theorem withAttempts_missions :
    (withAttempts w attempts).repository.missions = w.repository.missions := rfl
@[simp] theorem withAttempts_executionAttempts :
    (withAttempts w attempts).repository.executionAttempts = attempts := rfl
@[simp] theorem withAttempts_outside : (withAttempts w attempts).outside = w.outside := rfl
@[simp] theorem withAttempts_idsDrawn : (withAttempts w attempts).idsDrawn = w.idsDrawn := rfl
@[simp] theorem withAttempts_trace : (withAttempts w attempts).trace = w.trace := rfl

end Fields

def setAttempts (w : MemoryWorld σ) (id : UUID) (attempts : List MissionExecutionAttempt) :
    MemoryWorld σ :=
  withAttempts w (Function.update w.repository.executionAttempts id attempts)

/-- The missions that satisfy `p`, in the order of `key`, at most `limit`. -/
def select (w : MemoryWorld σ) (p : Mission → Bool) (key : Mission → Time) (limit : Int) :
    List Ref :=
  let candidates := (w.repository.missions.map (·.2)).filter fun r => p (w.mission r)
  (sortedBy (fun r => key (w.mission r)) candidates).take limit.toNat

/-- The body of a loop that may raise. -/
def forEach (body : Ref → MemoryWorld σ → Except PyException Unit × MemoryWorld σ) :
    List Ref → MemoryWorld σ → Except PyException Unit × MemoryWorld σ
  | [], w => (.ok (), w)
  | r :: rest, w =>
    match body r w with
    | (.error error, w) => (.error error, w)
    | (.ok (), w) => forEach body rest w

/-- Work through the selected missions and return them. -/
def processSelected (body : Ref → MemoryWorld σ → Except PyException Unit × MemoryWorld σ)
    (selected : List Ref) (w : MemoryWorld σ) : Except PyException (List Ref) × MemoryWorld σ :=
  ((forEach body selected w).1.map fun _ => selected, (forEach body selected w).2)

/-- `attempts[-1]` changes if it is still open. -/
def updateOpenAttempt (w : MemoryWorld σ) (id : UUID)
    (change : MissionExecutionAttempt → MissionExecutionAttempt) : MemoryWorld σ :=
  match (w.repository.executionAttempts id).getLast? with
  | none => w
  | some attempt =>
    if attempt.status = .processing then
      setAttempts w id ((w.repository.executionAttempts id).dropLast ++ [change attempt])
    else w

def closeExecutionAttempt (w : MemoryWorld σ) (mission : Mission) (finishedAt : Time)
    (status : MissionExecutionAttemptStatus) : MemoryWorld σ :=
  updateOpenAttempt w mission.id fun attempt =>
    { attempt with
      status := status
      finishedAt := some finishedAt
      resolvedProviderId := mission.resolvedProviderId
      reservationId := mission.reservationId }

def setOpenAttemptProvider (w : MemoryWorld σ) (mission : Mission) : MemoryWorld σ :=
  if mission.resolvedProviderId.isNone then w
  else updateOpenAttempt w mission.id fun attempt =>
    { attempt with resolvedProviderId := mission.resolvedProviderId }

def isDue (currentTime : Time) (mission : Mission) : Bool :=
  mission.status = .waiting ∧ mission.scheduledAt.any (· ≤ currentTime) ∧
    mission.expiresAt.all (currentTime < ·) ∧ mission.hasExhaustedAttempts = false

/-- What a claim makes of a mission. -/
def claimedMission (currentTime : Time) (mission : Mission) : Mission :=
  { mission with
    status := .processing
    claimedAt := some currentTime
    executionAttempts := mission.executionAttempts + 1 }

/-- One turn of the loop of `claim_due`. -/
def claim (t : TaskId) (currentTime : Time) (r : Ref) (w : MemoryWorld σ) :
    Except PyException Unit × MemoryWorld σ :=
  let mission := claimedMission currentTime (w.mission r)
  let w := setAttempts (w.setMission r mission) mission.id
    (w.repository.executionAttempts mission.id ++
      [.opened mission.id mission.executionAttempts currentTime])
  (.ok (), store (w.log t (.claimed mission.id mission.executionAttempts)) r)

def claimDue (t : TaskId) (currentTime : Time) (limit : Int) (w : MemoryWorld σ) :
    Except PyException (List Ref) × MemoryWorld σ :=
  if limit ≤ 0 then (.error (.valueError "limit must be greater than 0"), w)
  else
    processSelected (claim t currentTime)
      (select w (isDue currentTime) (·.scheduledAt.getD currentTime) limit) w

def isExpired (currentTime : Time) (mission : Mission) : Bool :=
  mission.status ∈ [.created, .waiting, .paused] ∧ mission.expiresAt.any (· ≤ currentTime)

/-- One turn of the loop of `expire_due`. -/
def expire (env : Environment σ) (currentTime : Time) (r : Ref) (w : MemoryWorld σ) :
    Except PyException Unit × MemoryWorld σ :=
  let mission := w.mission r
  match MissionStateMachine.transition mission .expired with
  | .error error => (.error error, w)
  | .ok expired =>
    match expired.recordEvent (env.newEventId w.idsDrawn) currentTime "mission_expired"
      "Mission expired before execution."
      [("expires_at", .ofTime mission.expiresAt),
        ("previous_status", .str mission.status.value)] with
    | .error error => (.error error, w.drawId.setMission r expired)
    | .ok recorded => (.ok (), store (w.drawId.setMission r recorded) r)

def expireDue (env : Environment σ) (currentTime : Time) (limit : Int) (w : MemoryWorld σ) :
    Except PyException (List Ref) × MemoryWorld σ :=
  if limit ≤ 0 then (.error (.valueError "limit must be greater than 0"), w)
  else
    processSelected (expire env currentTime)
      (select w (isExpired currentTime) (·.expiresAt.getD currentTime) limit) w

def isStale (staleBefore : Time) (mission : Mission) : Bool :=
  mission.status = .processing ∧ mission.claimedAt.any (· ≤ staleBefore)

/-- One turn of the loop of `recover_stale_processing`. -/
def recover (env : Environment σ) (currentTime : Time) (r : Ref) (w : MemoryWorld σ) :
    Except PyException Unit × MemoryWorld σ :=
  let (outcome, mission) :=
    MissionStateMachine.recoverStale (w.mission r) (env.newEventId w.idsDrawn) currentTime
  let w := w.drawId.setMission r mission
  match outcome with
  | .error error => (.error error, w)
  | .ok () =>
    (.ok (), store (closeExecutionAttempt w mission currentTime
      (if mission.status = .failed then .failed else .recovered)) r)

def recoverStaleProcessing (env : Environment σ) (currentTime : Time) (claimTimeout : TimeDelta)
    (limit : Int) (w : MemoryWorld σ) : Except PyException (List Ref) × MemoryWorld σ :=
  if limit ≤ 0 then (.error (.valueError "limit must be greater than 0"), w)
  else if claimTimeout ≤ 0 then
    (.error (.valueError "claim_timeout must be greater than 0"), w)
  else
    match Time.add currentTime (-claimTimeout) with
    | .error message => (.error (.overflowError message), w)
    | .ok staleBefore =>
      processSelected (recover env currentTime)
        (select w (isStale staleBefore) (·.claimedAt.getD currentTime) limit) w

/-- `MissionExecutionAttemptStatus(mission.status.value)`, where `update` uses it. -/
def finalAttemptStatus : MissionStatus → Option MissionExecutionAttemptStatus
  | .requiresConfirmation => some .requiresConfirmation
  | .completed => some .completed
  | .failed => some .failed
  | _ => none

def missionEventTime (mission : Mission) : Except PyException Time :=
  match mission.executionLog.getLast?, mission.claimedAt with
  | some event, _ => .ok event.timestamp
  | none, some claimedAt => .ok claimedAt
  | none, none => .error (.valueError "cannot close execution attempt without a timestamp")

def hasOpenAttempt (w : MemoryWorld σ) (id : UUID) : Bool :=
  (w.repository.executionAttempts id).getLast?.any (·.status = .processing)

/-- What `update` does to the attempts of a mission. -/
def synchronizeAttempt (w : MemoryWorld σ) (mission : Mission) :
    Except PyException (MemoryWorld σ) :=
  if mission.status = .processing then .ok (setOpenAttemptProvider w mission)
  else
    match finalAttemptStatus mission.status with
    | none => .ok w
    | some status =>
      if hasOpenAttempt w mission.id then
        match missionEventTime mission with
        | .error error => .error error
        | .ok finishedAt => .ok (closeExecutionAttempt w mission finishedAt status)
      else .ok w

def update (r : Ref) (w : MemoryWorld σ) : Except PyException Ref × MemoryWorld σ :=
  match synchronizeAttempt w (w.mission r) with
  | .error error => (.error error, w)
  | .ok w => (.ok r, store w r)

end InMemoryMissionRepository

/-- The methods of `InMemoryMissionRepository`. -/
inductive MemoryOp where
  | create (r : Ref)
  | get (id : UUID)
  | update (r : Ref)
  | claimDue (currentTime : Time) (limit : Int)
  | expireDue (currentTime : Time) (limit : Int)
  | recoverStaleProcessing (currentTime : Time) (claimTimeout : TimeDelta) (limit : Int)

abbrev MemoryOp.Answer : MemoryOp → Type
  | .create _ => Ref
  | .get _ => Option Ref
  | .update _ => Except PyException Ref
  | .claimDue _ _ | .expireDue _ _ | .recoverStaleProcessing _ _ _ =>
      Except PyException (List Ref)

def MemoryOp.exec {σ : Type} (env : Environment σ) (t : TaskId) :
    (o : MemoryOp) → MemoryWorld σ → o.Answer × MemoryWorld σ
  | .create r, w => (r, InMemoryMissionRepository.store w r)
  | .get id, w => (w.repository.missions.get? id, w)
  | .update r, w => InMemoryMissionRepository.update r w
  | .claimDue currentTime limit, w => InMemoryMissionRepository.claimDue t currentTime limit w
  | .expireDue currentTime limit, w => InMemoryMissionRepository.expireDue env currentTime limit w
  | .recoverStaleProcessing currentTime claimTimeout limit, w =>
      InMemoryMissionRepository.recoverStaleProcessing env currentTime claimTimeout limit w

abbrev memory : Backend where
  Op := MemoryOp
  Answer := MemoryOp.Answer
  State := MemoryState
  ready _ _ _ := true
  exec := MemoryOp.exec

def inMemoryMissionRepository : MissionRepository memory where
  create r := Service.lift (Prog.perform (F := signature memory) (.repository (.create r)))
  get id := Service.lift (Prog.perform (F := signature memory) (.repository (.get id)))
  update r := ExceptT.mk (Prog.perform (F := signature memory) (.repository (.update r)))
  claimDue currentTime limit :=
    ExceptT.mk (Prog.perform (F := signature memory) (.repository (.claimDue currentTime limit)))
  expireDue currentTime limit :=
    ExceptT.mk (Prog.perform (F := signature memory) (.repository (.expireDue currentTime limit)))
  recoverStaleProcessing currentTime claimTimeout limit :=
    ExceptT.mk (Prog.perform (F := signature memory)
      (.repository (.recoverStaleProcessing currentTime claimTimeout limit)))

namespace InMemoryMissionRepository
variable {σ : Type}

/-! What the methods change. -/

/-- The mission object is the one stored under its id. -/
def Stored (w : MemoryWorld σ) (r : Ref) : Prop :=
  w.repository.missions.get? (w.mission r).id = some r

theorem store_of_stored {w : MemoryWorld σ} {r : Ref} (h : Stored w r) : store w r = w := by
  simp only [store, Dict.set_of_get? _ h]

theorem updateOpenAttempt_eq (w : MemoryWorld σ) (id : UUID)
    (change : MissionExecutionAttempt → MissionExecutionAttempt) :
    ∃ attempts, updateOpenAttempt w id change = withAttempts w attempts := by
  unfold updateOpenAttempt
  split
  · exact ⟨_, rfl⟩
  · split <;> exact ⟨_, rfl⟩

theorem synchronizeAttempt_ok {w w' : MemoryWorld σ} {mission : Mission}
    (h : synchronizeAttempt w mission = .ok w') : ∃ attempts, w' = withAttempts w attempts := by
  unfold synchronizeAttempt at h
  split at h
  · cases h
    unfold setOpenAttemptProvider
    split
    · exact ⟨_, rfl⟩
    · exact updateOpenAttempt_eq w _ _
  · split at h
    · cases h
      exact ⟨_, rfl⟩
    · split at h
      · split at h
        · cases h
        · cases h
          exact updateOpenAttempt_eq w _ _
      · cases h
        exact ⟨_, rfl⟩

/-- `update` fails only for a mission without any event. -/
theorem synchronizeAttempt_error {w : MemoryWorld σ} {mission : Mission} {error : PyException}
    (h : synchronizeAttempt w mission = .error error) : mission.executionLog = [] := by
  unfold synchronizeAttempt at h
  split at h
  · cases h
  · split at h
    · cases h
    · split at h
      · split at h
        · rename_i failed
          unfold missionEventTime at failed
          split at failed
          · cases failed
          · cases failed
          · rename_i empty _
            exact List.getLast?_eq_none_iff.mp empty
        · cases h
      · cases h

/-- Updating a stored mission touches its audit records only. -/
theorem update_of_stored {w : MemoryWorld σ} {r : Ref} (h : Stored w r) :
    (∃ attempts, update r w = (.ok r, withAttempts w attempts)) ∨
      ((∃ error, update r w = (.error error, w)) ∧ (w.mission r).executionLog = []) := by
  unfold update
  split
  · exact .inr ⟨⟨_, rfl⟩, synchronizeAttempt_error ‹_›⟩
  · rename_i w' ok
    obtain ⟨attempts, rfl⟩ := synchronizeAttempt_ok ok
    exact .inl ⟨attempts, by rw [store_of_stored (w := withAttempts w attempts) h]⟩

theorem claim_of_stored {w : MemoryWorld σ} {r : Ref} (h : Stored w r) (t : TaskId)
    (currentTime : Time) :
    ∃ attempts, claim t currentTime r w =
      (.ok (), withAttempts ((w.setMission r (claimedMission currentTime (w.mission r))).log t
        (.claimed (w.mission r).id ((w.mission r).executionAttempts + 1))) attempts) := by
  refine ⟨_, Prod.ext rfl (store_of_stored ?_)⟩
  simpa [Stored, setAttempts, claimedMission] using h

/-- What `expire_due` makes of a mission, up to where an exception may stop it. -/
def Expires (currentTime : Time) (before after : Mission) : Prop :=
  isExpired currentTime before ∧
    (after = before.withStatus .expired none ∨
      ∃ event, event.type = "mission_expired" ∧
        after = (before.withStatus .expired none).append event)

/-- What `recover_stale_processing` makes of a mission. -/
def Recovers (currentTime : Time) (before after : Mission) : Prop :=
  ∃ eventId, after = (MissionStateMachine.recoverStale before eventId currentTime).2

/-- The object changes as `edge` says, all others and the dictionary stay. -/
structure Touches (edge : Mission → Mission → Prop) (r : Ref) (w w' : MemoryWorld σ) : Prop where
  missions : w'.repository.missions = w.repository.missions
  others : ∀ other, other ≠ r → w'.mission other = w.mission other
  outside : w'.outside = w.outside
  moved : edge (w.mission r) (w'.mission r)

/-- Each selected object changes as `edge` says or not at all, all others and
the dictionary stay. -/
structure Sweeps (edge : Mission → Mission → Prop) (selected : List Ref) (w w' : MemoryWorld σ) :
    Prop where
  missions : w'.repository.missions = w.repository.missions
  outside : w'.outside = w.outside
  moved : ∀ r, w'.mission r = w.mission r ∨ (r ∈ selected ∧ edge (w.mission r) (w'.mission r))

/-- A loop over distinct stored missions moves each of them at most once. -/
theorem forEach_sweeps {edge : Mission → Mission → Prop} {p : Mission → Bool}
    {body : Ref → MemoryWorld σ → Except PyException Unit × MemoryWorld σ}
    (touches : ∀ r w, Stored w r → p (w.mission r) → Touches edge r w (body r w).2) :
    ∀ (selected : List Ref) (w : MemoryWorld σ), selected.Nodup →
      (∀ r ∈ selected, Stored w r ∧ p (w.mission r)) →
      Sweeps (fun before after => p before ∧ edge before after) selected w
        (forEach body selected w).2
  | [], w, _, _ => ⟨rfl, rfl, fun _ => .inl rfl⟩
  | r :: rest, w, nodup, stored => by
    obtain ⟨fresh, nodup⟩ := List.nodup_cons.mp nodup
    obtain ⟨first, later⟩ := List.forall_mem_cons.mp stored
    have touch := touches r w first.1 first.2
    have alone : Sweeps (fun before after => p before ∧ edge before after) (r :: rest) w
        (body r w).2 :=
      ⟨touch.missions, touch.outside, fun other => by
        by_cases same : other = r
        · subst same
          exact .inr ⟨List.mem_cons_self, first.2, touch.moved⟩
        · exact .inl (touch.others other same)⟩
    unfold forEach
    split
    · rename_i w' step
      rwa [step] at alone
    · rename_i w' step
      rw [step] at touch alone
      have unchanged : ∀ other ∈ rest, w'.mission other = w.mission other := fun other member =>
        touch.others other fun same => fresh (same ▸ member)
      have tail := forEach_sweeps touches rest w' nodup fun other member => by
        rw [Stored, touch.missions, unchanged other member]
        exact later other member
      refine ⟨tail.missions.trans alone.missions, tail.outside.trans alone.outside, fun other => ?_⟩
      rcases tail.moved other with same | ⟨member, moved⟩
      · rw [same]
        exact alone.moved other
      · exact .inr ⟨List.mem_cons_of_mem _ member, unchanged other member ▸ moved⟩

theorem claim_touches {w : MemoryWorld σ} {r : Ref} (h : Stored w r) (t : TaskId)
    (currentTime : Time) :
    Touches (fun before after => after = claimedMission currentTime before) r w
      (claim t currentTime r w).2 := by
  obtain ⟨attempts, eq⟩ := claim_of_stored h t currentTime
  rw [eq]
  exact ⟨rfl, fun other differs => by simp [differs], rfl, by simp⟩

theorem transition_expired {currentTime : Time} {mission : Mission}
    (h : isExpired currentTime mission) :
    MissionStateMachine.transition mission .expired = .ok (mission.withStatus .expired none) := by
  have status : mission.status ∈ [.created, .waiting, .paused] := (of_decide_eq_true h).1
  refine MissionStateMachine.transition_of_allowed mission ?_ (.inr (by simp))
  simp only [List.mem_cons, List.not_mem_nil, or_false] at status
  rcases status with status | status | status <;> rw [status] <;> decide

theorem expire_touches (env : Environment σ) {w : MemoryWorld σ} {r : Ref} (h : Stored w r)
    (currentTime : Time) (due : isExpired currentTime (w.mission r)) :
    Touches (Expires currentTime) r w (expire env currentTime r w).2 := by
  simp only [expire, transition_expired due]
  split
  · exact ⟨rfl, fun other differs => by simp [differs], rfl, by simp [Expires, due]⟩
  · rename_i recorded ok
    obtain ⟨-, rfl⟩ := Mission.recordEvent_ok ok
    rw [store_of_stored (by simpa [Stored] using h)]
    refine ⟨rfl, fun other differs => by simp [differs], rfl, due, .inr ?_⟩
    simp only [World.mission_setMission]
    exact ⟨_, rfl, rfl⟩

theorem recoverStale_id (mission : Mission) (eventId : UUID) (currentTime : Time) :
    (MissionStateMachine.recoverStale mission eventId currentTime).2.id = mission.id := by
  simp only [MissionStateMachine.recoverStale]
  split
  · rfl
  · rename_i recovered transitioned
    obtain ⟨-, rfl⟩ := MissionStateMachine.transition_ok transitioned
    split
    · rfl
    · rename_i after recorded
      obtain ⟨-, rfl⟩ := Mission.recordEvent_ok recorded
      rfl

theorem recover_touches (env : Environment σ) {w : MemoryWorld σ} {r : Ref} (h : Stored w r)
    (currentTime : Time) :
    Touches (Recovers currentTime) r w (recover env currentTime r w).2 := by
  unfold recover
  have id := recoverStale_id (w.mission r) (env.newEventId w.idsDrawn) currentTime
  dsimp only
  split
  · exact ⟨rfl, fun other differs => by simp [differs], rfl, env.newEventId w.idsDrawn, by simp⟩
  · obtain ⟨attempts, eq⟩ := updateOpenAttempt_eq
      (w.drawId.setMission r (MissionStateMachine.recoverStale (w.mission r)
        (env.newEventId w.idsDrawn) currentTime).2) _ _
    unfold closeExecutionAttempt
    rw [eq, store_of_stored (by simpa [Stored, id] using h)]
    exact ⟨rfl, fun other differs => by simp [differs], rfl, env.newEventId w.idsDrawn, by simp⟩

/-- Every key of the dictionary is the id of the object it leads to. -/
structure Consistent (w : MemoryWorld σ) : Prop where
  keys : (w.repository.missions.map (·.1)).Nodup
  ids : ∀ entry ∈ w.repository.missions, (w.mission entry.2).id = entry.1

namespace Consistent
variable {w : MemoryWorld σ} (h : Consistent w)
include h

theorem stored_of_mem {r : Ref} (member : r ∈ w.repository.missions.map (·.2)) : Stored w r := by
  obtain ⟨⟨key, _⟩, entry, rfl⟩ := List.mem_map.mp member
  rw [Stored, h.ids _ entry]
  exact Dict.get?_of_mem h.keys entry

theorem stored_of_get? {id : UUID} {r : Ref} (found : w.repository.missions.get? id = some r) :
    Stored w r ∧ (w.mission r).id = id := by
  have entry := Dict.mem_of_get? found
  exact ⟨h.stored_of_mem (List.mem_map_of_mem entry), h.ids _ entry⟩

theorem values_nodup : (w.repository.missions.map (·.2)).Nodup := by
  have same : (w.repository.missions.map (·.2)).map (fun r => (w.mission r).id) =
      w.repository.missions.map (·.1) := by
    rw [List.map_map]
    exact List.map_congr_left h.ids
  exact List.Nodup.of_map _ (same ▸ h.keys)

theorem select_nodup (p : Mission → Bool) (key : Mission → Time) (limit : Int) :
    (select w p key limit).Nodup := by
  refine List.Nodup.sublist (List.take_sublist _ _) ?_
  exact (sortedBy_perm _ _).nodup_iff.mpr (h.values_nodup.filter _)

end Consistent

theorem mem_select {w : MemoryWorld σ} {p : Mission → Bool} {key : Mission → Time} {limit : Int}
    {r : Ref} (h : r ∈ select w p key limit) :
    r ∈ w.repository.missions.map (·.2) ∧ p (w.mission r) = true := by
  have := List.mem_of_mem_take h
  simpa only [mem_sortedBy, List.mem_filter] using this

/-- Selected missions are stored, distinct and satisfy the condition. -/
theorem Consistent.selected {w : MemoryWorld σ} (h : Consistent w) (p : Mission → Bool)
    (key : Mission → Time) (limit : Int) :
    (select w p key limit).Nodup ∧
      ∀ r ∈ select w p key limit, Stored w r ∧ p (w.mission r) = true :=
  ⟨h.select_nodup p key limit, fun _ member =>
    ⟨h.stored_of_mem (mem_select member).1, (mem_select member).2⟩⟩

/-- A method that selects missions and works through them. -/
theorem processSelected_sweeps {edge : Mission → Mission → Prop}
    {body : Ref → MemoryWorld σ → Except PyException Unit × MemoryWorld σ} {w : MemoryWorld σ}
    (h : Consistent w) (p : Mission → Bool) (key : Mission → Time) (limit : Int)
    (touches : ∀ r w', Stored w' r → p (w'.mission r) → Touches edge r w' (body r w').2) :
    Sweeps (fun before after => p before ∧ edge before after) (select w p key limit) w
      (processSelected body (select w p key limit) w).2 :=
  forEach_sweeps touches _ w (h.selected p key limit).1 (h.selected p key limit).2

/-- A loop whose body never raises does not raise. -/
theorem forEach_ok {body : Ref → MemoryWorld σ → Except PyException Unit × MemoryWorld σ}
    (ok : ∀ r w, (body r w).1 = .ok ()) (selected : List Ref) (w : MemoryWorld σ) :
    (forEach body selected w).1 = .ok () := by
  induction selected generalizing w with
  | nil => rfl
  | cons r rest ih =>
      unfold forEach
      split
      · rename_i raised
        have := ok r w
        rw [raised] at this
        cases this
      · exact ih _

/-- A method of the repository that returns the missions it worked through. -/
structure Returns (edge : Mission → Mission → Prop) (x : Except PyException (List Ref))
    (w w' : MemoryWorld σ) : Prop where
  stored : ∀ rs, x = .ok rs → rs.Nodup ∧ ∀ r ∈ rs, Stored w r
  sweeps : ∃ selected, (∀ rs, x = .ok rs → rs = selected) ∧ Sweeps edge selected w w'

theorem returns_of_error (edge : Mission → Mission → Prop) (error : PyException)
    (w : MemoryWorld σ) : Returns edge (.error error) w w where
  stored := nofun
  sweeps := ⟨[], nofun, rfl, rfl, fun _ => .inl rfl⟩

theorem returns_of_select {edge : Mission → Mission → Prop}
    {body : Ref → MemoryWorld σ → Except PyException Unit × MemoryWorld σ} {w : MemoryWorld σ}
    (h : Consistent w) (p : Mission → Bool) (key : Mission → Time) (limit : Int)
    (touches : ∀ r w', Stored w' r → p (w'.mission r) → Touches edge r w' (body r w').2) :
    Returns (fun before after => p before ∧ edge before after)
      (processSelected body (select w p key limit) w).1 w
      (processSelected body (select w p key limit) w).2 := by
  have selected : ∀ rs, (processSelected body (select w p key limit) w).1 = .ok rs →
      rs = select w p key limit := fun rs ok => by
    simp only [processSelected] at ok
    cases outcome : (forEach body (select w p key limit) w).1 <;> rw [outcome] at ok <;> cases ok
    rfl
  obtain ⟨nodup, stored⟩ := h.selected p key limit
  exact ⟨fun rs ok => selected rs ok ▸ ⟨nodup, fun r member => (stored r member).1⟩,
    _, selected, processSelected_sweeps h p key limit touches⟩

theorem claimDue_returns {w : MemoryWorld σ} (h : Consistent w) (t : TaskId) (currentTime : Time)
    (limit : Int) :
    Returns (fun before after => isDue currentTime before ∧
        after = claimedMission currentTime before)
      (claimDue t currentTime limit w).1 w (claimDue t currentTime limit w).2 := by
  unfold claimDue
  split
  · exact returns_of_error _ _ w
  · exact returns_of_select h _ _ _ fun r w' stored _ => claim_touches stored t currentTime

theorem expireDue_returns (env : Environment σ) {w : MemoryWorld σ} (h : Consistent w)
    (currentTime : Time) (limit : Int) :
    Returns (fun before after => isExpired currentTime before ∧
        Expires currentTime before after)
      (expireDue env currentTime limit w).1 w (expireDue env currentTime limit w).2 := by
  unfold expireDue
  split
  · exact returns_of_error _ _ w
  · exact returns_of_select h _ _ _ fun r w' stored due =>
      expire_touches env stored currentTime due

/-- Stale claims only are recovered. -/
theorem recoverStaleProcessing_returns (env : Environment σ) {w : MemoryWorld σ}
    (h : Consistent w) (currentTime : Time) (claimTimeout : TimeDelta) (limit : Int) :
    Returns (fun before after => isStale (currentTime - claimTimeout) before ∧
        Recovers currentTime before after)
      (recoverStaleProcessing env currentTime claimTimeout limit w).1 w
      (recoverStaleProcessing env currentTime claimTimeout limit w).2 := by
  unfold recoverStaleProcessing
  split
  · exact returns_of_error _ _ w
  · split
    · exact returns_of_error _ _ w
    · split
      · exact returns_of_error _ _ w
      · rename_i staleBefore added
        have same : staleBefore = currentTime - claimTimeout := by
          unfold Time.add at added
          split at added
          · rw [← Except.ok.inj added, Int.sub_eq_add_neg]
          · cases added
        subst same
        exact returns_of_select h _ _ _ fun r w' stored _ => recover_touches env stored currentTime

/-! The trace only grows. -/

theorem forEach_trace {body : Ref → MemoryWorld σ → Except PyException Unit × MemoryWorld σ}
    (keeps : ∀ r w, ∀ event ∈ w.trace, event ∈ (body r w).2.trace) (selected : List Ref)
    (w : MemoryWorld σ) : ∀ event ∈ w.trace, event ∈ (forEach body selected w).2.trace := by
  induction selected generalizing w with
  | nil => exact fun _ => id
  | cons r rest ih =>
      have first := keeps r w
      unfold forEach
      split
      · rename_i raised
        rwa [raised] at first
      · rename_i returned
        rw [returned] at first
        exact fun event member => ih _ event (first event member)

theorem claim_trace (t : TaskId) (currentTime : Time) (r : Ref) (w : MemoryWorld σ) :
    ∀ event ∈ w.trace, event ∈ (claim t currentTime r w).2.trace :=
  fun _ => List.mem_append_left _

theorem expire_trace (env : Environment σ) (currentTime : Time) (r : Ref) (w : MemoryWorld σ) :
    ∀ event ∈ w.trace, event ∈ (expire env currentTime r w).2.trace := by
  unfold expire
  dsimp only
  split
  · exact fun _ => id
  · split <;> exact fun _ => id

theorem recover_trace (env : Environment σ) (currentTime : Time) (r : Ref) (w : MemoryWorld σ) :
    ∀ event ∈ w.trace, event ∈ (recover env currentTime r w).2.trace := by
  unfold recover
  dsimp only
  split
  · exact fun _ => id
  · obtain ⟨attempts, eq⟩ := updateOpenAttempt_eq
      (w.drawId.setMission r (MissionStateMachine.recoverStale (w.mission r)
        (env.newEventId w.idsDrawn) currentTime).2) _ _
    unfold closeExecutionAttempt
    rw [eq]
    exact fun _ => id

/-- The claim of a stored mission, as it is logged. -/
def claimedEvent (t : TaskId) (w : MemoryWorld σ) (r : Ref) : TaskId × Event :=
  (t, .claimed (w.mission r).id ((w.mission r).executionAttempts + 1))

/-- Every selected mission is claimed, and the claims are logged. -/
theorem forEach_claim (t : TaskId) (currentTime : Time) (selected : List Ref)
    (w : MemoryWorld σ) (nodup : selected.Nodup) (stored : ∀ r ∈ selected, Stored w r) :
    (∀ r ∈ selected, (forEach (claim t currentTime) selected w).2.mission r =
        claimedMission currentTime (w.mission r)) ∧
      (forEach (claim t currentTime) selected w).2.trace =
        w.trace ++ selected.map (claimedEvent t w) := by
  induction selected generalizing w with
  | nil => simp [forEach]
  | cons first rest ih =>
      obtain ⟨fresh, nodup⟩ := List.nodup_cons.mp nodup
      obtain ⟨here, later⟩ := List.forall_mem_cons.mp stored
      have touch := claim_touches here t currentTime
      have unchanged : ∀ other ∈ rest, (claim t currentTime first w).2.mission other =
          w.mission other := fun other member =>
        touch.others other fun same => fresh (same ▸ member)
      have storedLater : ∀ other ∈ rest, Stored (claim t currentTime first w).2 other := by
        intro other member
        rw [Stored, touch.missions, unchanged other member]
        exact later other member
      obtain ⟨tail, trace⟩ := ih _ nodup storedLater
      have sweep := forEach_sweeps (p := fun _ => true) (fun r w h _ => claim_touches h t currentTime)
        rest _ nodup fun other member => ⟨storedLater other member, rfl⟩
      have step : forEach (claim t currentTime) (first :: rest) w =
          forEach (claim t currentTime) rest (claim t currentTime first w).2 := rfl
      rw [step]
      constructor
      · intro r member
        rcases List.mem_cons.mp member with rfl | member
        · rcases sweep.moved r with same | ⟨again, -⟩
          · rw [same, touch.moved]
          · exact absurd again fresh
        · rw [← unchanged r member]
          exact tail r member
      · obtain ⟨attempts, eq⟩ := claim_of_stored here t currentTime
        have events : rest.map (claimedEvent t (claim t currentTime first w).2) =
            rest.map (claimedEvent t w) := List.map_congr_left fun r member => by
          simp only [claimedEvent, unchanged r member]
        rw [trace, events, eq]
        simp [claimedEvent]

theorem claimDue_claims {w : MemoryWorld σ} (h : Consistent w) (t : TaskId) (currentTime : Time)
    (limit : Int) (rs : List Ref) (ok : (claimDue t currentTime limit w).1 = .ok rs) :
    (∀ r ∈ rs, isDue currentTime (w.mission r) ∧
      (claimDue t currentTime limit w).2.mission r = claimedMission currentTime (w.mission r)) ∧
      (claimDue t currentTime limit w).2.trace = w.trace ++ rs.map (claimedEvent t w) := by
  unfold claimDue at ok ⊢
  split
  · rename_i invalid
    rw [if_pos invalid] at ok
    cases ok
  · rename_i valid
    rw [if_neg valid, processSelected, forEach_ok (fun _ _ => rfl)] at ok
    obtain rfl := Except.ok.inj ok
    obtain ⟨nodup, stored⟩ := h.selected (isDue currentTime) (·.scheduledAt.getD currentTime) limit
    obtain ⟨claimed, trace⟩ := forEach_claim t currentTime _ w nodup fun r member =>
      (stored r member).1
    exact ⟨fun r member => ⟨(stored r member).2, claimed r member⟩, trace⟩

theorem claimDue_ok (t : TaskId) (currentTime : Time) {limit : Int} (positive : 0 < limit)
    (w : MemoryWorld σ) : ∃ rs, (claimDue t currentTime limit w).1 = .ok rs := by
  unfold claimDue
  rw [if_neg (Int.not_le.mpr positive), processSelected, forEach_ok (fun _ _ => rfl)]
  exact ⟨_, rfl⟩

end InMemoryMissionRepository

section Rules
variable {σ : Type} {env : Environment σ} {D : Discipline (machine memory env)} {t : TaskId}

/-! Rules of the weakest precondition for the methods. -/

theorem safe_method {α : Type} (o : MemoryOp) (Q : α → MemoryWorld σ → Prop)
    (next : o.Answer → Prog (signature memory) α) (w : MemoryWorld σ) :
    D.Safe t Q (.op (Op.repository o : Op memory) next) w ↔
      ∀ w', D.rely t w w' → D.guarantee t (.repository o) w' (o.exec env t w').2 ∧
        D.Safe t Q (next (o.exec env t w').1) (o.exec env t w').2 :=
  (Service.safe_later (B := memory) (o := .repository o) rfl Q next w).trans
    (forall_congr' fun _ => forall_congr' fun _ => forall_prop_of_true rfl)

theorem safe_get (w : MemoryWorld σ) (id : UUID)
    (Q : Except PyException (Option Ref) → MemoryWorld σ → Prop) :
    D.Safe t Q (inMemoryMissionRepository.get id).run w ↔
      ∀ w', D.rely t w w' → D.guarantee t (.repository (MemoryOp.get id)) w' w' ∧
        Q (.ok (w'.repository.missions.get? id)) w' :=
  safe_method (.get id) Q _ w

theorem safe_update (w : MemoryWorld σ) (r : Ref)
    (Q : Except PyException Ref → MemoryWorld σ → Prop) :
    D.Safe t Q (inMemoryMissionRepository.update r).run w ↔
      ∀ w', D.rely t w w' →
        D.guarantee t (.repository (MemoryOp.update r)) w' (InMemoryMissionRepository.update r w').2 ∧
        Q (InMemoryMissionRepository.update r w').1 (InMemoryMissionRepository.update r w').2 :=
  safe_method (.update r) Q _ w

theorem safe_claimDue (w : MemoryWorld σ) (currentTime : Time) (limit : Int)
    (Q : Except PyException (List Ref) → MemoryWorld σ → Prop) :
    D.Safe t Q (inMemoryMissionRepository.claimDue currentTime limit).run w ↔
      ∀ w', D.rely t w w' →
        D.guarantee t (.repository (MemoryOp.claimDue currentTime limit)) w'
            (InMemoryMissionRepository.claimDue t currentTime limit w').2 ∧
        Q (InMemoryMissionRepository.claimDue t currentTime limit w').1
          (InMemoryMissionRepository.claimDue t currentTime limit w').2 :=
  safe_method (.claimDue currentTime limit) Q _ w

theorem safe_expireDue (w : MemoryWorld σ) (currentTime : Time) (limit : Int)
    (Q : Except PyException (List Ref) → MemoryWorld σ → Prop) :
    D.Safe t Q (inMemoryMissionRepository.expireDue currentTime limit).run w ↔
      ∀ w', D.rely t w w' →
        D.guarantee t (.repository (MemoryOp.expireDue currentTime limit)) w'
            (InMemoryMissionRepository.expireDue env currentTime limit w').2 ∧
        Q (InMemoryMissionRepository.expireDue env currentTime limit w').1
          (InMemoryMissionRepository.expireDue env currentTime limit w').2 :=
  safe_method (.expireDue currentTime limit) Q _ w

theorem safe_recoverStaleProcessing (w : MemoryWorld σ) (currentTime : Time)
    (claimTimeout : TimeDelta) (limit : Int)
    (Q : Except PyException (List Ref) → MemoryWorld σ → Prop) :
    D.Safe t Q
        (inMemoryMissionRepository.recoverStaleProcessing currentTime claimTimeout limit).run w ↔
      ∀ w', D.rely t w w' →
        D.guarantee t (.repository (MemoryOp.recoverStaleProcessing currentTime claimTimeout limit)) w'
            (InMemoryMissionRepository.recoverStaleProcessing env currentTime claimTimeout limit
              w').2 ∧
        Q (InMemoryMissionRepository.recoverStaleProcessing env currentTime claimTimeout limit
              w').1
          (InMemoryMissionRepository.recoverStaleProcessing env currentTime claimTimeout limit
              w').2 :=
  safe_method (.recoverStaleProcessing currentTime claimTimeout limit) Q _ w

end Rules
end PurchaseAgent
