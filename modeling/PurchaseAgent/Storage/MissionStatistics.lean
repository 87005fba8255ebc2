import PurchaseAgent.Domain.ProviderResolution
import PurchaseAgent.Sql.Condition
import PurchaseAgent.Storage.Memory
import PurchaseAgent.Storage.MissionRows

/-!
The statistics of the mission queue, as each repository computes them, and the methods
of the SQL repository that take the rows which they count.
-/

namespace PurchaseAgent

open Collections Sql

/-- `MissionStatistics`; the dictionary is given by its lookups. -/
structure MissionStatistics where
  generatedAt : Time
  totalMissions : Nat
  missionsByStatus : MissionStatus → Option Nat
  dueMissions : Nat
  expiredPendingMissions : Nat
  staleProcessingMissions : Nat
  exhaustedWaitingMissions : Nat
  claimTimeoutSeconds : Int

/-- `_validate_stale_processing_arguments` with the limit one. -/
def validateStaleProcessingArguments (claimTimeout : TimeDelta) : Except PyException Unit :=
  if claimTimeout ≤ 0 then .error (.valueError "claim_timeout must be greater than 0")
  else .ok ()

/-- The validator of `MissionStatistics`. -/
def MissionStatistics.validated (statistics : MissionStatistics) :
    Except PyException MissionStatistics :=
  if statistics.claimTimeoutSeconds < 1 then
    .error (validationError "Input should be greater than or equal to 1")
  else .ok statistics

namespace InMemoryMissionRepository
variable {σ : Type}

def missionsOf (w : MemoryWorld σ) : List Mission :=
  (w.repository.missions.map (·.2)).map w.mission

/-- `missions_by_status`, without the statuses that no mission has. -/
def missionsByStatus (missions : List Mission) (status : MissionStatus) : Option Nat :=
  let count := missions.countP (·.status = status)
  if 0 < count then some count else none

end InMemoryMissionRepository

/-- The columns of a mission that its repository selects by. -/
structure MissionModel where
  id : UUID
  status : String
  scheduledAt : Option Time
  expiresAt : Option Time
  claimedAt : Option Time
  executionAttempts : Nat
  maxExecutionAttempts : Nat
deriving DecidableEq, Repr

def missionToModel (mission : Mission) : MissionModel where
  id := mission.id
  status := mission.status.value
  scheduledAt := mission.scheduledAt
  expiresAt := mission.expiresAt
  claimedAt := mission.claimedAt
  executionAttempts := mission.executionAttempts
  maxExecutionAttempts := mission.maxExecutionAttempts

namespace SqlAlchemyMissionRepository

def equals {α : Type} [DecidableEq α] (column : Option α) (value : α) : Truth :=
  compare (· = ·) column (some value)

def atMost (column : Option Int) (value : Int) : Truth := compare (· ≤ ·) column (some value)

def moreThan (column : Option Int) (value : Int) : Truth := compare (· > ·) column (some value)

/-- The condition of `claim_due`, and of `due_missions`. -/
def due (currentTime : Time) (row : MissionModel) : Truth :=
  ((((equals (some row.status) MissionStatus.waiting.value).and
    (isNotNull row.scheduledAt)).and
    (atMost row.scheduledAt currentTime)).and
    ((isNull row.expiresAt).or (moreThan row.expiresAt currentTime))).and
    (compare (· < ·) (some row.executionAttempts) (some row.maxExecutionAttempts))

/-- The condition of `expire_due`, and of `expired_pending_missions`. -/
def expiredPending (currentTime : Time) (row : MissionModel) : Truth :=
  ((compare (· ∈ ·) (some row.status) (some
    [MissionStatus.created.value, MissionStatus.waiting.value, MissionStatus.paused.value])).and
    (isNotNull row.expiresAt)).and
    (atMost row.expiresAt currentTime)

/-- The condition of `recover_stale_processing`, and of `stale_processing_missions`. -/
def staleProcessing (staleBefore : Time) (row : MissionModel) : Truth :=
  ((equals (some row.status) MissionStatus.processing.value).and
    (isNotNull row.claimedAt)).and
    (atMost row.claimedAt staleBefore)

/-- `SELECT ... WHERE condition ORDER BY key LIMIT limit`, with no row locked. -/
def select (rows : List PersistedMission) (condition : MissionModel → Truth)
    (key : MissionModel → Time) (limit : Int) : List PersistedMission :=
  (sortedBy (fun row => key (missionToModel row.mission))
    (rows.filter fun row => (condition (missionToModel row.mission)).isTrue)).take limit.toNat

section
variable (fields : EventFields) (newIds : UUID → Nat → UUID × UUID) (newEventId : UUID → UUID)
  (rows : List PersistedMission) (currentTime : Time)

/-- A row that `claim_due` has claimed. -/
def claimRow (row : PersistedMission) : PersistedMission :=
  { row with mission := { row.mission with
      status := .processing
      claimedAt := some currentTime
      executionAttempts := row.mission.executionAttempts + 1 } }

/-- `claim_due`: the rows that it commits, and what it answers, which is read after the
commit. -/
def claimDue (limit : Int) :
    Except PyException (List PersistedMission × Except PyException (List Mission)) :=
  if limit ≤ 0 then .error (.valueError "limit must be greater than 0")
  else
    let models := (select rows (due currentTime) (·.scheduledAt.getD currentTime) limit).map
      (claimRow currentTime)
    .ok (models, models.mapM (load fields newIds))

/-- One turn of the loop of `expire_due`, but for the log and the projections that it
writes. -/
def expire (row : PersistedMission) : Except PyException Mission := do
  let mission ← load fields newIds row
  let expired ← MissionStateMachine.transition mission .expired
  expired.recordEvent (newEventId mission.id) currentTime "mission_expired"
    "Mission expired before execution."
    [("expires_at", .ofTime mission.expiresAt), ("previous_status", .str mission.status.value)]

/-- `expire_due`, which commits when all rows have been expired. -/
def expireDue (limit : Int) : Except PyException (List Mission) :=
  if limit ≤ 0 then .error (.valueError "limit must be greater than 0")
  else (select rows (expiredPending currentTime) (·.expiresAt.getD currentTime) limit).mapM
    (expire fields newIds newEventId currentTime)

/-- One turn of the loop of `recover_stale_processing`, but for the log and the attempt
that it writes. -/
def recover (row : PersistedMission) : Except PyException Mission := do
  let mission ← load fields newIds row
  let (outcome, recovered) :=
    MissionStateMachine.recoverStale mission (newEventId mission.id) currentTime
  outcome.map fun _ => recovered

/-- `recover_stale_processing`, which commits when all rows have been recovered. -/
def recoverStaleProcessing (claimTimeout : TimeDelta) (limit : Int) :
    Except PyException (List Mission) :=
  if limit ≤ 0 then .error (.valueError "limit must be greater than 0")
  else do
    validateStaleProcessingArguments claimTimeout
    let staleBefore ← (Time.add currentTime (-claimTimeout)).mapError .overflowError
    (select rows (staleProcessing staleBefore) (·.claimedAt.getD currentTime) limit).mapM
      (recover fields newIds newEventId currentTime)

end

end SqlAlchemyMissionRepository

end PurchaseAgent
