import PurchaseAgent.Collections.StableSort
import PurchaseAgent.Domain.MissionValidators
import PurchaseAgent.Sql.OpenRows
import PurchaseAgent.Storage.Memory

/-!
The audit records of mission claims in the SQL repository. The methods of a transaction
change the rows of a mission while they hold the lock of its own row.
-/

namespace PurchaseAgent

open Sql

namespace MissionExecutionAttemptStatus

def value : MissionExecutionAttemptStatus → String
  | .processing => "processing"
  | .requiresConfirmation => "requires_confirmation"
  | .completed => "completed"
  | .failed => "failed"
  | .recovered => "recovered"

def members : List MissionExecutionAttemptStatus :=
  [.processing, .requiresConfirmation, .completed, .failed, .recovered]

/-- `MissionExecutionAttemptStatus(text)`. -/
def ofValue (text : String) : Except PyException MissionExecutionAttemptStatus :=
  match members.find? (·.value = text) with
  | some status => .ok status
  | none => .error (.valueError ("'" ++ text ++ "' is not a valid MissionExecutionAttemptStatus"))

@[simp] theorem ofValue_value (status : MissionExecutionAttemptStatus) :
    ofValue status.value = .ok status := by
  cases status <;> rfl

theorem value_eq_processing {status : MissionExecutionAttemptStatus} :
    status.value = processing.value ↔ status = .processing := by
  cases status <;> decide

end MissionExecutionAttemptStatus

/-- The checks of a record that is built, which strip its ids. -/
def MissionExecutionAttempt.validate (attempt : MissionExecutionAttempt) :
    Except PyException MissionExecutionAttempt := do
  reject (attempt.attemptNumber < 1) "Input should be greater than or equal to 1"
  reject (attempt.reservationId.any (255 < ·.length)) "String should have at most 255 characters"
  reject (attempt.status = .processing ∧ attempt.finishedAt.isSome)
    "processing attempt cannot have finished_at"
  reject (attempt.status ≠ .processing ∧ attempt.finishedAt = none)
    "finished attempt must have finished_at"
  let resolvedProviderId ← requireText "Provider ID must be a non-empty string"
    attempt.resolvedProviderId
  let reservationId ← requireText "reservation_id must be a non-empty string"
    attempt.reservationId
  return { attempt with resolvedProviderId := resolvedProviderId, reservationId := reservationId }

/-- A row of `mission_execution_attempts`. -/
structure MissionExecutionAttemptModel where
  missionId : UUID
  attemptNumber : Nat
  status : String
  claimedAt : Time
  finishedAt : Option Time
  resolvedProviderId : Option String
  reservationId : Option String
deriving DecidableEq

namespace SqlExecutionAttempts

abbrev Table := List MissionExecutionAttemptModel

/-- The condition of the index `uq_mission_execution_attempts_one_open`. -/
def isOpen (row : MissionExecutionAttemptModel) : Bool :=
  row.status = MissionExecutionAttemptStatus.processing.value

/-- `uq_mission_execution_attempt_number` and `uq_mission_execution_attempts_one_open`. -/
def admits (table : Table) (added : MissionExecutionAttemptModel) : Bool :=
  table.all fun row => ¬ (row.missionId = added.missionId ∧
    (row.attemptNumber = added.attemptNumber ∨ (isOpen row ∧ isOpen added)))

def add (table : Table) (added : MissionExecutionAttemptModel) : Except PyException Table :=
  if admits table added then .ok (table ++ [added])
  else .error (.other "IntegrityError" "UNIQUE constraint failed: mission_execution_attempts")

/-- The row that `claim_due` adds for a mission, with the number that it has counted. -/
def addClaimed (table : Table) (mission : Mission) (currentTime : Time) :
    Except PyException Table :=
  add table {
    missionId := mission.id
    attemptNumber := mission.executionAttempts
    status := MissionExecutionAttemptStatus.processing.value
    claimedAt := currentTime
    finishedAt := none
    resolvedProviderId := none
    reservationId := none }

/-- The rows of all missions that `claim_due` claims in its transaction. -/
def claimDue (table : Table) (claimed : List Mission) (currentTime : Time) :
    Except PyException Table :=
  claimed.foldlM (fun table mission => addClaimed table mission currentTime) table

def closeOpenExecutionAttempt (table : Table) (mission : Mission) (finishedAt : Time)
    (status : MissionExecutionAttemptStatus) : Table :=
  OpenRows.updateOpen (·.missionId) isOpen mission.id (fun row =>
    { row with
      status := status.value
      finishedAt := some finishedAt
      resolvedProviderId := mission.resolvedProviderId
      reservationId := mission.reservationId }) table

/-- `status_by_mission_status`, the table of the repository in memory too. -/
def statusByMissionStatus : MissionStatus → Option MissionExecutionAttemptStatus :=
  InMemoryMissionRepository.finalAttemptStatus

def synchronizeOpenExecutionAttempt (table : Table) (mission : Mission) :
    Except PyException Table :=
  if mission.status = .processing then
    if mission.resolvedProviderId.isSome then
      .ok (OpenRows.updateOpen (·.missionId) isOpen mission.id
        (fun row => { row with resolvedProviderId := mission.resolvedProviderId }) table)
    else .ok table
  else
    match statusByMissionStatus mission.status with
    | none => .ok table
    | some status =>
      if table.any fun row => row.missionId = mission.id && isOpen row then
        (InMemoryMissionRepository.missionEventTime mission).map fun finishedAt =>
          closeOpenExecutionAttempt table mission finishedAt status
      else .ok table

/-- What `update` does to the attempts. The compare-and-set on the row of the mission comes
first; `stored` is the event sequence of that row. -/
def update (table : Table) (stored : Option Nat) (object : MissionObject) :
    Except PyException Table :=
  match stored with
  | none => .error .repositoryEntityNotFoundError
  | some sequence =>
    if sequence = object.persistedLastEventSequence then
      synchronizeOpenExecutionAttempt table object.mission
    else .error .missionEventSequenceConflictError

/-- What `recover_stale_processing` does to the attempts of a mission that it has recovered. -/
def recoverStaleProcessing (table : Table) (mission : Mission) (currentTime : Time) : Table :=
  closeOpenExecutionAttempt table mission currentTime
    (if mission.status = .failed then .failed else .recovered)

def executionAttemptFromModel (model : MissionExecutionAttemptModel) :
    Except PyException MissionExecutionAttempt := do
  let status ← MissionExecutionAttemptStatus.ofValue model.status
  MissionExecutionAttempt.validate {
    missionId := model.missionId
    attemptNumber := model.attemptNumber
    status := status
    claimedAt := model.claimedAt
    finishedAt := model.finishedAt
    resolvedProviderId := model.resolvedProviderId
    reservationId := model.reservationId }

def listExecutionAttempts (table : Table) (missionId : UUID) :
    Except PyException (List MissionExecutionAttempt) :=
  (Collections.sortedBy (·.attemptNumber) (table.filter (·.missionId = missionId))).mapM
    executionAttemptFromModel

/-- A transaction that raises is rolled back. -/
def committed (table : Table) : Except PyException Table → Table
  | .ok changed => changed
  | .error _ => table

end SqlExecutionAttempts

end PurchaseAgent
