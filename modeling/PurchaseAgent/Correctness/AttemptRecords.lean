import Mathlib.Logic.Relation
import PurchaseAgent.Correctness.Initial
import PurchaseAgent.Storage.SqlExecutionAttempts

/-!
The two repositories keep the same audit records. A call of both is a step: in memory on
the mission objects, in SQL on the rows of a transaction. SQL alone refuses a claim of a
mission whose last attempt is still open, or whose number is taken, and an update whose
compare-and-set fails.
-/

namespace PurchaseAgent

open Collections Sql InMemoryMissionRepository

namespace MissionExecutionAttempt

def toModel (attempt : MissionExecutionAttempt) : MissionExecutionAttemptModel where
  missionId := attempt.missionId
  attemptNumber := attempt.attemptNumber
  status := attempt.status.value
  claimedAt := attempt.claimedAt
  finishedAt := attempt.finishedAt
  resolvedProviderId := attempt.resolvedProviderId
  reservationId := attempt.reservationId

theorem executionAttemptFromModel_toModel (attempt : MissionExecutionAttempt) :
    SqlExecutionAttempts.executionAttemptFromModel attempt.toModel = attempt.validate := by
  simp [SqlExecutionAttempts.executionAttemptFromModel, toModel]
  rfl

theorem isOpen_toModel (attempt : MissionExecutionAttempt) :
    SqlExecutionAttempts.isOpen attempt.toModel = decide (attempt.status = .processing) := by
  simp [SqlExecutionAttempts.isOpen, toModel, MissionExecutionAttemptStatus.value_eq_processing]

end MissionExecutionAttempt

namespace InMemoryMissionRepository
variable {σ : Type}

/-- The records of each mission in memory, as rows. -/
def attemptLedger (w : MemoryWorld σ) (id : UUID) : SqlExecutionAttempts.Table :=
  (w.repository.executionAttempts id).map MissionExecutionAttempt.toModel

theorem attemptLedger_setAttempts (w : MemoryWorld σ) (id : UUID)
    (attempts : List MissionExecutionAttempt) :
    attemptLedger (setAttempts w id attempts) =
      Function.update (attemptLedger w) id (attempts.map MissionExecutionAttempt.toModel) := by
  funext other
  by_cases same : other = id
  · subst same
    simp [attemptLedger, setAttempts]
  · simp [attemptLedger, setAttempts, same]

theorem attemptLedger_updateOpenAttempt (w : MemoryWorld σ) (id : UUID)
    {change : MissionExecutionAttempt → MissionExecutionAttempt}
    {changeRow : MissionExecutionAttemptModel → MissionExecutionAttemptModel}
    (changed : ∀ attempt, (change attempt).toModel = changeRow attempt.toModel) :
    attemptLedger (updateOpenAttempt w id change) =
      Function.update (attemptLedger w) id
        (OpenRows.updateLast SqlExecutionAttempts.isOpen changeRow (attemptLedger w id)) := by
  have last : (OpenRows.updateLast (fun attempt => decide (attempt.status = .processing)) change
      (w.repository.executionAttempts id)).map MissionExecutionAttempt.toModel =
      OpenRows.updateLast SqlExecutionAttempts.isOpen changeRow (attemptLedger w id) :=
    OpenRows.map_updateLast MissionExecutionAttempt.isOpen_toModel changed
  unfold attemptLedger at last ⊢
  rw [← last]
  unfold updateOpenAttempt OpenRows.updateLast
  cases (w.repository.executionAttempts id).getLast? with
  | none => simp
  | some attempt =>
    by_cases opened : attempt.status = .processing
    · simp only [opened, if_true, decide_true]
      exact attemptLedger_setAttempts w id _
    · simp [opened]

end InMemoryMissionRepository

namespace SqlExecutionAttempts

/-- The row of a claim. -/
def opened (mission : Mission) (currentTime : Time) : MissionExecutionAttemptModel :=
  (MissionExecutionAttempt.opened mission.id mission.executionAttempts currentTime).toModel

theorem addClaimed_eq (table : Table) (mission : Mission) (currentTime : Time) :
    addClaimed table mission currentTime = add table (opened mission currentTime) := rfl

/-- A record has a number, and an end once it is closed. -/
structure Sound (row : MissionExecutionAttemptModel) : Prop where
  numbered : 1 ≤ row.attemptNumber
  finished : row.finishedAt = none ↔ isOpen row = true

/-- The rows that the constraints and the methods of the repository leave. -/
structure Kept (table : Table) : Prop where
  numbers : table.Pairwise fun row other =>
    row.missionId = other.missionId → row.attemptNumber ≠ other.attemptNumber
  sound : ∀ row ∈ table, Sound row

variable {table table' : Table}

theorem Kept.add {added : MissionExecutionAttemptModel} (h : Kept table) (sound : Sound added)
    (ok : add table added = .ok table') : Kept table' := by
  unfold SqlExecutionAttempts.add at ok
  split at ok
  · rename_i admitted
    cases ok
    simp only [admits, List.all_eq_true, decide_eq_true_eq] at admitted
    refine ⟨List.pairwise_append.mpr ⟨h.numbers, List.pairwise_singleton .., ?_⟩, ?_⟩
    · intro row member other last same number
      cases List.mem_singleton.mp last
      exact admitted row member ⟨same, .inl number⟩
    · intro row member
      cases List.mem_append.mp member with
      | inl inside => exact h.sound row inside
      | inr last =>
        cases List.mem_singleton.mp last
        exact sound
  · cases ok

theorem Kept.updateOpen {id : UUID}
    {change : MissionExecutionAttemptModel → MissionExecutionAttemptModel} (h : Kept table)
    (mission : ∀ row, (change row).missionId = row.missionId)
    (number : ∀ row, (change row).attemptNumber = row.attemptNumber)
    (sound : ∀ row, isOpen row = true → Sound row → Sound (change row)) :
    Kept (OpenRows.updateOpen (·.missionId) isOpen id change table) := by
  have kept : ∀ row, (if row.missionId = id then OpenRows.changeOpen isOpen change row
      else row).missionId = row.missionId ∧
      (if row.missionId = id then OpenRows.changeOpen isOpen change row
      else row).attemptNumber = row.attemptNumber := by
    intro row
    unfold OpenRows.changeOpen
    split
    · split
      · exact ⟨mission row, number row⟩
      · exact ⟨rfl, rfl⟩
    · exact ⟨rfl, rfl⟩
  refine ⟨List.pairwise_map.mpr (h.numbers.imp ?_), ?_⟩
  · intro row other apart
    simpa only [kept] using apart
  · intro changed member
    obtain ⟨row, inside, rfl⟩ := List.mem_map.mp member
    unfold OpenRows.changeOpen
    split
    · split
      · exact sound row ‹_› (h.sound row inside)
      · exact h.sound row inside
    · exact h.sound row inside

/-- A finished attempt stays as it is. -/
def KeepsFinished (table table' : Table) : Prop :=
  ∀ row ∈ table, isOpen row = false → row ∈ table'

theorem keepsFinished_updateOpen (id : UUID)
    (change : MissionExecutionAttemptModel → MissionExecutionAttemptModel) :
    KeepsFinished table (OpenRows.updateOpen (·.missionId) isOpen id change table) :=
  fun _ member closed => OpenRows.mem_updateOpen_of_closed member closed

theorem keepsFinished_add {added : MissionExecutionAttemptModel}
    (ok : add table added = .ok table') : KeepsFinished table table' := by
  unfold add at ok
  split at ok
  · cases ok
    exact fun _ member _ => List.mem_append_left _ member
  · cases ok

end SqlExecutionAttempts

open SqlExecutionAttempts

section
variable {σ : Type} {env : Environment σ} {w w' : MemoryWorld σ} {table table' : Table}

/-- Both repositories hold the same records. -/
structure SameRecords (w : MemoryWorld σ) (table : Table) : Prop where
  agree : OpenRows.Agree (·.missionId) isOpen table (attemptLedger w)
  kept : Kept table

namespace SameRecords

theorem elsewhere (h : SameRecords w table)
    (same : w'.repository.executionAttempts = w.repository.executionAttempts) :
    SameRecords w' table := by
  have ledger : attemptLedger w' = attemptLedger w := by
    unfold attemptLedger
    rw [same]
  exact ⟨ledger ▸ h.agree, h.kept⟩

theorem updateOpenAttempt (h : SameRecords w table) (id : UUID)
    {change : MissionExecutionAttempt → MissionExecutionAttempt}
    {changeRow : MissionExecutionAttemptModel → MissionExecutionAttemptModel}
    (changed : ∀ attempt, (change attempt).toModel = changeRow attempt.toModel)
    (mission : ∀ row, (changeRow row).missionId = row.missionId)
    (number : ∀ row, (changeRow row).attemptNumber = row.attemptNumber)
    (sound : ∀ row, isOpen row = true → Sound row → Sound (changeRow row)) :
    SameRecords (InMemoryMissionRepository.updateOpenAttempt w id change)
      (OpenRows.updateOpen (·.missionId) isOpen id changeRow table) where
  agree := attemptLedger_updateOpenAttempt w id changed ▸ h.agree.updateOpen mission
  kept := h.kept.updateOpen mission number sound

/-- A record that is closed with a final status. -/
theorem close (h : SameRecords w table) (mission : Mission) (finishedAt : Time)
    {status : MissionExecutionAttemptStatus} (final : status ≠ .processing) :
    SameRecords (closeExecutionAttempt w mission finishedAt status)
      (closeOpenExecutionAttempt table mission finishedAt status) := by
  refine h.updateOpenAttempt mission.id (fun _ => rfl) (fun _ => rfl) (fun _ => rfl) ?_
  intro row _ sound
  refine ⟨sound.numbered, ?_⟩
  simp [isOpen, MissionExecutionAttemptStatus.value_eq_processing, final]

theorem hasOpenAttempt_eq (h : SameRecords w table) (id : UUID) :
    (table.any fun row => decide (row.missionId = id) && isOpen row) = hasOpenAttempt w id := by
  rw [h.agree.any_open, attemptLedger, List.getLast?_map, hasOpenAttempt, Option.any_map]
  congr 1
  funext attempt
  exact attempt.isOpen_toModel

end SameRecords

theorem finalAttemptStatus_ne {status : MissionStatus} {final : MissionExecutionAttemptStatus}
    (found : finalAttemptStatus status = some final) : final ≠ .processing := by
  cases status <;> cases found <;> decide

/-- An update does the same to the records of both, or fails in both alike. -/
theorem SameRecords.synchronize (h : SameRecords w table) (mission : Mission) :
    (∃ w' table', synchronizeAttempt w mission = .ok w' ∧
        synchronizeOpenExecutionAttempt table mission = .ok table' ∧
        SameRecords w' table' ∧ KeepsFinished table table') ∨
      ∃ error, synchronizeAttempt w mission = .error error ∧
        synchronizeOpenExecutionAttempt table mission = .error error := by
  have unchanged : KeepsFinished table table := fun _ member _ => member
  unfold synchronizeAttempt synchronizeOpenExecutionAttempt
  by_cases processing : mission.status = .processing
  · left
    rw [if_pos processing, if_pos processing]
    unfold setOpenAttemptProvider
    cases resolved : mission.resolvedProviderId with
    | none => exact ⟨w, table, rfl, rfl, h, unchanged⟩
    | some provider =>
      refine ⟨_, _, rfl, rfl, ?_, keepsFinished_updateOpen _ _⟩
      refine h.updateOpenAttempt mission.id (fun _ => rfl) (fun _ => rfl) (fun _ => rfl) ?_
      exact fun _ _ sound => ⟨sound.numbered, sound.finished⟩
  · rw [if_neg processing, if_neg processing, statusByMissionStatus]
    cases final : finalAttemptStatus mission.status with
    | none => exact .inl ⟨w, table, rfl, rfl, h, unchanged⟩
    | some status =>
      simp only [h.hasOpenAttempt_eq]
      cases hasOpenAttempt w mission.id with
      | false => exact .inl ⟨w, table, rfl, rfl, h, unchanged⟩
      | true =>
        cases missionEventTime mission with
        | error error => exact .inr ⟨error, rfl, rfl⟩
        | ok finishedAt =>
          exact .inl ⟨_, _, rfl, rfl, h.close mission finishedAt (finalAttemptStatus_ne final),
            keepsFinished_updateOpen _ _⟩

theorem SameRecords.mem_iff (h : SameRecords w table) {id : UUID}
    {row : MissionExecutionAttemptModel} :
    row ∈ table ∧ row.missionId = id ↔
      ∃ attempt ∈ w.repository.executionAttempts id, attempt.toModel = row := by
  have rows := h.agree.rows id
  rw [← List.mem_map, ← attemptLedger, ← rows]
  simp

/-- No row of the mission is open or has its number. -/
def Unclaimed (table : Table) (mission : Mission) : Prop :=
  ∀ row ∈ table, row.missionId = mission.id →
    row.attemptNumber ≠ mission.executionAttempts ∧ isOpen row = false

theorem addClaimed_of_unclaimed {mission : Mission} (free : Unclaimed table mission)
    (currentTime : Time) :
    addClaimed table mission currentTime = .ok (table ++ [opened mission currentTime]) := by
  rw [addClaimed_eq]
  unfold add
  refine if_pos ?_
  simp only [admits, List.all_eq_true, decide_eq_true_eq]
  rintro row member ⟨own, number | ⟨unfinished, -⟩⟩
  · exact (free row member own).1 number
  · exact Bool.false_ne_true ((free row member own).2.symm.trans unfinished)

theorem unclaimed_of_addClaimed {mission : Mission} {currentTime : Time}
    (claimed : addClaimed table mission currentTime = .ok table') :
    Unclaimed table mission ∧ table' = table ++ [opened mission currentTime] := by
  rw [addClaimed_eq] at claimed
  unfold add at claimed
  split at claimed
  · rename_i admitted
    cases claimed
    simp only [admits, List.all_eq_true, decide_eq_true_eq] at admitted
    refine ⟨fun row member own => ⟨fun number => admitted row member ⟨own, .inl number⟩, ?_⟩, rfl⟩
    exact Bool.eq_false_iff.mpr fun unfinished => admitted row member ⟨own, .inr ⟨unfinished, rfl⟩⟩
  · cases claimed

theorem unclaimed_snoc {mission other : Mission} {currentTime : Time} :
    Unclaimed (table ++ [opened mission currentTime]) other ↔
      Unclaimed table other ∧ mission.id ≠ other.id := by
  constructor
  · intro free
    refine ⟨fun row member => free row (List.mem_append_left _ member), fun own => ?_⟩
    exact absurd (free _ (List.mem_append_right _ (List.mem_singleton_self _)) own).2
      Bool.true_eq_false_eq_False
  · rintro ⟨free, apart⟩ row member own
    cases List.mem_append.mp member with
    | inl inside => exact free row inside own
    | inr last =>
      cases List.mem_singleton.mp last
      exact absurd own apart

/-- One mission that cannot be claimed fails the claim of all. -/
theorem claimBatch_iff (table : Table) (missions : List Mission) (currentTime : Time) :
    (∃ table', SqlExecutionAttempts.claimDue table missions currentTime = .ok table') ↔
      (missions.map (·.id)).Nodup ∧ ∀ mission ∈ missions, Unclaimed table mission := by
  induction missions generalizing table with
  | nil => exact iff_of_true ⟨table, rfl⟩ ⟨List.nodup_nil, fun _ member => nomatch member⟩
  | cons mission rest ih =>
    unfold SqlExecutionAttempts.claimDue at ih ⊢
    rw [List.foldlM_cons, List.map_cons, List.nodup_cons, List.forall_mem_cons]
    constructor
    · rintro ⟨table', claimed⟩
      cases first : addClaimed table mission currentTime with
      | error error =>
        rw [first] at claimed
        cases claimed
      | ok added =>
        rw [first] at claimed
        obtain ⟨free, rfl⟩ := unclaimed_of_addClaimed first
        obtain ⟨distinct, others⟩ := (ih _).mp ⟨table', claimed⟩
        refine ⟨⟨?_, distinct⟩, free,
          fun other member => (unclaimed_snoc.mp (others other member)).1⟩
        intro again
        obtain ⟨other, member, same⟩ := List.mem_map.mp again
        exact (unclaimed_snoc.mp (others other member)).2 same.symm
    · rintro ⟨⟨fresh, distinct⟩, free, others⟩
      rw [addClaimed_of_unclaimed free]
      refine (ih _).mpr ⟨distinct, fun other member => unclaimed_snoc.mpr ⟨others other member, ?_⟩⟩
      intro same
      exact fresh (List.mem_map.mpr ⟨other, member, same.symm⟩)

theorem SameRecords.unclaimed_iff (h : SameRecords w table) (mission : Mission) :
    Unclaimed table mission ↔ hasOpenAttempt w mission.id = false ∧
      ∀ attempt ∈ w.repository.executionAttempts mission.id,
        attempt.attemptNumber ≠ mission.executionAttempts := by
  rw [← h.hasOpenAttempt_eq]
  simp only [List.any_eq_false, Bool.and_eq_true, decide_eq_true_eq, not_and,
    Bool.not_eq_true]
  constructor
  · intro free
    refine ⟨fun row member own => (free row member own).2, ?_⟩
    intro attempt member
    obtain ⟨inside, own⟩ := h.mem_iff.mpr ⟨attempt, member, rfl⟩
    exact (free attempt.toModel inside own).1
  · rintro ⟨closed, numbers⟩ row inside own
    refine ⟨?_, closed row inside own⟩
    obtain ⟨attempt, member, rfl⟩ := h.mem_iff.mp ⟨inside, own⟩
    exact numbers attempt member

theorem SameRecords.closed (h : SameRecords w table) {id : UUID}
    (unopened : hasOpenAttempt w id = false) : ∀ row ∈ attemptLedger w id, isOpen row = false := by
  rw [← h.hasOpenAttempt_eq, List.any_eq_false] at unopened
  intro row member
  rw [← h.agree.rows id] at member
  obtain ⟨inside, own⟩ := List.mem_filter.mp member
  simpa [of_decide_eq_true own] using unopened row inside

theorem attemptLedger_claim (t : Cooperative.TaskId) (currentTime : Time) (r : Ref)
    (w : MemoryWorld σ) :
    attemptLedger (InMemoryMissionRepository.claim t currentTime r w).2 =
      Function.update (attemptLedger w) (w.mission r).id
        (attemptLedger w (w.mission r).id ++
          [opened (claimedMission currentTime (w.mission r)) currentTime]) := by
  have records := attemptLedger_setAttempts (w.setMission r (claimedMission currentTime
    (w.mission r))) (w.mission r).id (w.repository.executionAttempts (w.mission r).id ++
      [.opened (w.mission r).id ((w.mission r).executionAttempts + 1) currentTime])
  rw [List.map_append] at records
  exact records

theorem SameRecords.claim (h : SameRecords w table) (t : Cooperative.TaskId) (currentTime : Time)
    (r : Ref)
    (claimed : addClaimed table (claimedMission currentTime (w.mission r)) currentTime =
      .ok table') :
    SameRecords (InMemoryMissionRepository.claim t currentTime r w).2 table' := by
  obtain ⟨free, rfl⟩ := unclaimed_of_addClaimed claimed
  have closed := h.closed ((h.unclaimed_iff _).mp free).1
  refine ⟨?_, h.kept.add ⟨Nat.le_add_left .., iff_of_true rfl rfl⟩ claimed⟩
  rw [attemptLedger_claim]
  exact h.agree.insert rfl closed

theorem closeExecutionAttempt_mission (w : MemoryWorld σ) (mission : Mission) (finishedAt : Time)
    (status : MissionExecutionAttemptStatus) (r : Ref) :
    (closeExecutionAttempt w mission finishedAt status).mission r = w.mission r := by
  obtain ⟨attempts, changed⟩ := updateOpenAttempt_eq w mission.id fun attempt =>
    { attempt with
      status := status
      finishedAt := some finishedAt
      resolvedProviderId := mission.resolvedProviderId
      reservationId := mission.reservationId }
  unfold closeExecutionAttempt
  rw [changed, withAttempts_mission]

/-- A recovered mission leaves its attempt closed in both. -/
theorem SameRecords.recover (h : SameRecords w table) {currentTime : Time} {r : Ref}
    (ok : InMemoryMissionRepository.recover env currentTime r w = (.ok (), w')) :
    SameRecords w'
      (SqlExecutionAttempts.recoverStaleProcessing table (w'.mission r) currentTime) := by
  unfold InMemoryMissionRepository.recover at ok
  simp only at ok
  split at ok
  · cases ok
  · obtain ⟨-, rfl⟩ := Prod.mk.inj ok
    set recovered := (MissionStateMachine.recoverStale (w.mission r)
      (env.newEventId w.idsDrawn) currentTime).2
    have moved : SameRecords (w.drawId.setMission r recovered) table := h.elsewhere rfl
    have final : (if recovered.status = .failed then MissionExecutionAttemptStatus.failed
        else .recovered) ≠ .processing := by
      split <;> decide
    have own : (store (closeExecutionAttempt (w.drawId.setMission r recovered) recovered
        currentTime (if recovered.status = .failed then .failed else .recovered)) r).mission r =
        recovered :=
      (closeExecutionAttempt_mission ..).trans (by simp)
    rw [own]
    exact (moved.close recovered currentTime final).elsewhere rfl

/-- A call of both repositories about one mission. An update is one that the compare-and-set
lets through: the row still has the event sequence that the object has persisted. -/
inductive BothRepositories (env : Environment σ) :
    MemoryWorld σ × Table → MemoryWorld σ × Table → Prop
  | elsewhere {w w' : MemoryWorld σ} {table : Table}
      (same : w'.repository.executionAttempts = w.repository.executionAttempts) :
      BothRepositories env (w, table) (w', table)
  | claimDue {w : MemoryWorld σ} {table table' : Table} (t : Cooperative.TaskId)
      (currentTime : Time) (r : Ref)
      (claimed : addClaimed table (claimedMission currentTime (w.mission r)) currentTime =
        .ok table') :
      BothRepositories env (w, table) ((claim t currentTime r w).2, table')
  | update {w : MemoryWorld σ} {table : Table} {stored : Option Nat} {object : MissionObject}
      (r : Ref) (same : object.mission = w.mission r)
      (current : stored = some object.persistedLastEventSequence) :
      BothRepositories env (w, table) ((InMemoryMissionRepository.update r w).2,
        committed table (SqlExecutionAttempts.update table stored object))
  | recoverStaleProcessing {w w' : MemoryWorld σ} {table : Table} {currentTime : Time} {r : Ref}
      (ok : recover env currentTime r w = (.ok (), w')) :
      BothRepositories env (w, table)
        (w', SqlExecutionAttempts.recoverStaleProcessing table (w'.mission r) currentTime)

theorem update_current {stored : Option Nat} {object : MissionObject}
    (current : stored = some object.persistedLastEventSequence) :
    SqlExecutionAttempts.update table stored object =
      synchronizeOpenExecutionAttempt table object.mission := by
  rw [current]
  exact if_pos rfl

theorem BothRepositories.preserves {s s' : MemoryWorld σ × Table}
    (step : BothRepositories env s s') (h : SameRecords s.1 s.2) :
    SameRecords s'.1 s'.2 ∧ KeepsFinished s.2 s'.2 := by
  cases step with
  | elsewhere same => exact ⟨h.elsewhere same, fun _ member _ => member⟩
  | claimDue t currentTime r claimed =>
    exact ⟨h.claim t currentTime r claimed, keepsFinished_add claimed⟩
  | update r same current =>
    rw [update_current current, same]
    unfold InMemoryMissionRepository.update
    obtain ⟨w', table', memory, sql, same, finished⟩ | ⟨error, memory, sql⟩ :=
      h.synchronize (World.mission _ r)
    · rw [memory, sql]
      exact ⟨same.elsewhere rfl, finished⟩
    · rw [memory, sql]
      exact ⟨h, fun _ member _ => member⟩
  | recoverStaleProcessing ok => exact ⟨h.recover ok, keepsFinished_updateOpen _ _⟩

theorem sameRecords_run {s s' : MemoryWorld σ × Table}
    (run : Relation.ReflTransGen (BothRepositories env) s s') (h : SameRecords s.1 s.2) :
    SameRecords s'.1 s'.2 ∧ KeepsFinished s.2 s'.2 := by
  induction run with
  | refl => exact ⟨h, fun _ member _ => member⟩
  | tail _ step ih =>
    obtain ⟨same, finished⟩ := step.preserves ih.1
    exact ⟨same, fun row member closed => finished row (ih.2 row member closed) closed⟩

/-- The checks of the ids of a record, which are stripped. -/
def checkIds (attempt : MissionExecutionAttempt) : Except PyException MissionExecutionAttempt := do
  reject (attempt.reservationId.any (255 < ·.length)) "String should have at most 255 characters"
  let resolvedProviderId ← requireText "Provider ID must be a non-empty string"
    attempt.resolvedProviderId
  let reservationId ← requireText "reservation_id must be a non-empty string"
    attempt.reservationId
  return { attempt with resolvedProviderId := resolvedProviderId, reservationId := reservationId }

/-- What the callers of the repositories can tell of the attempts. -/
structure SameAnswers (w : MemoryWorld σ) (table : Table) : Prop where
  listed : ∀ id, listExecutionAttempts table id =
    (sortedBy (·.attemptNumber) (w.repository.executionAttempts id)).mapM checkIds
  updated : ∀ r (object : MissionObject) stored, object.mission = w.mission r →
    stored = some object.persistedLastEventSequence →
      (SqlExecutionAttempts.update table stored object).map (fun _ => r) =
        (InMemoryMissionRepository.update r w).1
  stale : ∀ (object : MissionObject) stored, stored ≠ some object.persistedLastEventSequence →
    ∃ error, SqlExecutionAttempts.update table stored object = .error error ∧
      (error = .repositoryEntityNotFoundError ∨ error = .missionEventSequenceConflictError)
  claimed : ∀ missions currentTime,
    (∃ table', SqlExecutionAttempts.claimDue table missions currentTime = .ok table') ↔
      (missions.map (·.id)).Nodup ∧ ∀ mission ∈ missions,
        hasOpenAttempt w mission.id = false ∧
          ∀ attempt ∈ w.repository.executionAttempts mission.id,
            attempt.attemptNumber ≠ mission.executionAttempts

private theorem mapM_congr_mem {α β ε : Type} {f g : α → Except ε β} {xs : List α}
    (same : ∀ x ∈ xs, f x = g x) : xs.mapM f = xs.mapM g := by
  induction xs with
  | nil => rfl
  | cons x xs ih =>
    rw [List.forall_mem_cons] at same
    rw [List.mapM_cons, List.mapM_cons, same.1, ih same.2]

theorem validate_of_sound {attempt : MissionExecutionAttempt} (sound : Sound attempt.toModel) :
    attempt.validate = checkIds attempt := by
  have numbered : ¬ attempt.attemptNumber < 1 := Nat.not_lt.mpr sound.numbered
  have finished : attempt.finishedAt = none ↔ attempt.status = .processing := by
    rw [← decide_eq_true_eq (p := attempt.status = .processing), ← attempt.isOpen_toModel]
    exact sound.finished
  have unfinished : ¬ (attempt.status = .processing ∧ attempt.finishedAt.isSome) := by
    rintro ⟨processing, some⟩
    simp [finished.mpr processing] at some
  have ended : ¬ (attempt.status ≠ .processing ∧ attempt.finishedAt = none) :=
    fun ⟨final, unended⟩ => final (finished.mp unended)
  unfold MissionExecutionAttempt.validate checkIds
  rw [reject_of_not numbered, reject_of_not unfinished, reject_of_not ended]
  rfl

theorem SameRecords.listExecutionAttempts_eq (h : SameRecords w table) (id : UUID) :
    listExecutionAttempts table id =
      (sortedBy (·.attemptNumber) (w.repository.executionAttempts id)).mapM checkIds := by
  have sorted : sortedBy (·.attemptNumber) (attemptLedger w id) =
      (sortedBy (·.attemptNumber) (w.repository.executionAttempts id)).map
        MissionExecutionAttempt.toModel :=
    (List.map_insertionSort
      (fun left right : MissionExecutionAttempt => left.attemptNumber ≤ right.attemptNumber)
      (fun left right : MissionExecutionAttemptModel => left.attemptNumber ≤ right.attemptNumber)
      _ _ fun _ _ _ _ => Iff.rfl).symm
  unfold listExecutionAttempts
  rw [h.agree.rows, sorted, List.mapM_map]
  refine mapM_congr_mem fun attempt member => ?_
  obtain ⟨inside, -⟩ := h.mem_iff.mpr ⟨attempt, (mem_sortedBy ..).mp member, rfl⟩
  exact attempt.executionAttemptFromModel_toModel.trans (validate_of_sound (h.kept.sound _ inside))

theorem SameRecords.answers (h : SameRecords w table) : SameAnswers w table where
  listed := h.listExecutionAttempts_eq
  updated r object stored same current := by
    rw [update_current current, same]
    unfold InMemoryMissionRepository.update
    obtain ⟨w', table', memory, sql, -, -⟩ | ⟨error, memory, sql⟩ := h.synchronize (w.mission r)
    · rw [memory, sql]
      rfl
    · rw [memory, sql]
      rfl
  stale object stored differs := by
    unfold SqlExecutionAttempts.update
    cases stored with
    | none => exact ⟨_, rfl, .inl rfl⟩
    | some sequence =>
      refine ⟨_, if_neg ?_, .inr rfl⟩
      exact fun same => differs (congrArg some same)
  claimed missions currentTime := by
    rw [claimBatch_iff]
    simp only [h.unclaimed_iff]

theorem sameRecords_empty (empty : ∀ id, w.repository.executionAttempts id = []) :
    SameRecords w [] := by
  have ledger : attemptLedger w = fun _ => [] := by
    funext id
    simp [attemptLedger, empty id]
  exact ⟨ledger ▸ OpenRows.agree_nil, List.Pairwise.nil, fun _ member => nomatch member⟩

/-- From empty stores on, whatever both are asked to do, they list the same attempts, fail
the same updates and keep what is finished; SQL alone fails the updates that are stale, and
the claims that would leave two attempts of a mission open or with one number, with one of
them all of its batch. -/
theorem attempts_alike {rows : Table} {v : MemoryWorld σ}
    (empty : ∀ id, w.repository.executionAttempts id = [])
    (before : Relation.ReflTransGen (BothRepositories env) (w, []) (v, rows))
    (run : Relation.ReflTransGen (BothRepositories env) (v, rows) (w', table)) :
    SameAnswers w' table ∧ KeepsFinished rows table := by
  have middle := (sameRecords_run before (sameRecords_empty empty)).1
  have last := sameRecords_run run middle
  exact ⟨last.1.answers, last.2⟩

end

namespace AttemptRecords

/-- The world of one due mission, among providers that accept everything. -/
def world : MemoryWorld Unit := initialWorld [Sample.mission] Sample.mission ()

def environment : Environment Unit := .withProviders (Sample.accepting [])

/-- The row of its first claim. -/
def claimedRows : Table := [opened (claimedMission 5000000 Sample.mission) 5000000]

theorem first_claim :
    BothRepositories environment (world, []) ((claim 0 5000000 0 world).2, claimedRows) :=
  .claimDue 0 5000000 0 rfl

def failed : Mission :=
  let mission := { claimedMission 5000000 Sample.mission with status := .failed }
  mission.append (mission.nextEvent ⟨21⟩ 6000000 "mission_failed" "Mission failed." [])

def failedWorld : MemoryWorld Unit := (claim 0 5000000 0 world).2.setMission 0 failed

theorem fails : BothRepositories environment ((claim 0 5000000 0 world).2, claimedRows)
    (failedWorld, claimedRows) :=
  .elsewhere rfl

/-- The object of the session, loaded when the log was empty. -/
def failedObject : MissionObject := ⟨failed, 0⟩

end AttemptRecords

theorem attempts_alike_failed :
    SameAnswers (InMemoryMissionRepository.update 0 AttemptRecords.failedWorld).2
      (committed AttemptRecords.claimedRows (SqlExecutionAttempts.update
        AttemptRecords.claimedRows (some 0) AttemptRecords.failedObject)) ∧
    KeepsFinished AttemptRecords.claimedRows
      (committed AttemptRecords.claimedRows (SqlExecutionAttempts.update
        AttemptRecords.claimedRows (some 0) AttemptRecords.failedObject)) :=
  attempts_alike (fun _ => rfl)
    (.tail (.single AttemptRecords.first_claim) AttemptRecords.fails) (.single (.update 0 rfl rfl))

end PurchaseAgent
