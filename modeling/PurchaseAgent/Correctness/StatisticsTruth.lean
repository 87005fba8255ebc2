import PurchaseAgent.Correctness.EventFields
import PurchaseAgent.Correctness.ProviderHistory
import PurchaseAgent.Correctness.WellFormed
import PurchaseAgent.Storage.MissionStatistics

/-!
The statistics of both repositories, against what the methods of both select. The
conditions are written in Python and in SQL; on the rows of missions they agree.
-/

namespace PurchaseAgent

open Collections Sql

theorem MissionStatus.value_injective : Function.Injective MissionStatus.value := by
  intro left right same
  cases left <;> cases right <;> first | rfl | exact absurd same (by decide)

theorem MissionStatus.value_eq_iff {left right : MissionStatus} :
    left.value = right.value ↔ left = right :=
  MissionStatus.value_injective.eq_iff

section
variable (mission : Mission)

end

section
variable {currentTime : Time} {claimTimeout : TimeDelta} {staleBefore : Time}

end

section
variable {σ : Type} {env : Environment σ} {w : MemoryWorld σ}

/-- A method of each repository has taken the same missions, as many as counted. -/
def SelectedAlike (w : MemoryWorld σ) (count : Nat) (returned : Except PyException (List Ref))
    (ids : Except PyException (List UUID)) : Prop :=
  ∃ selected taken, returned = .ok selected ∧ ids = .ok taken ∧
    taken.Perm (selected.map fun r => (w.mission r).id) ∧ selected.length = count

/-- The rows of the database, with what reading and saving them draws. -/
structure MissionTable where
  fields : EventFields
  newIds : UUID → Nat → UUID × UUID
  newEventId : UUID → UUID
  rows : List PersistedMission

namespace MissionTable
variable (db : MissionTable) (currentTime : Time) (claimTimeout : TimeDelta) (limit : Int)

def claimDue : Except PyException (List PersistedMission × Except PyException (List Mission)) :=
  SqlAlchemyMissionRepository.claimDue db.fields db.newIds db.rows currentTime limit

def expireDue : Except PyException (List Mission) :=
  SqlAlchemyMissionRepository.expireDue db.fields db.newIds db.newEventId db.rows currentTime limit

def recoverStaleProcessing : Except PyException (List Mission) :=
  SqlAlchemyMissionRepository.recoverStaleProcessing db.fields db.newIds db.newEventId db.rows
    currentTime claimTimeout limit

/-- Every row of a condition can be read back. -/
def Loads (condition : MissionModel → Truth) : Prop :=
  ∀ row ∈ db.rows, (condition (missionToModel row.mission)).isTrue = true →
    ∃ mission, SqlAlchemyMissionRepository.load db.fields db.newIds row = .ok mission

end MissionTable

/-- What the statistics count is what the methods of both repositories take, under any
limit that suffices. -/
structure MissionStatistics.Truthful (statistics : MissionStatistics) (env : Environment σ)
    (t : Cooperative.TaskId) (w : MemoryWorld σ) (db : MissionTable) (currentTime : Time)
    (claimTimeout : TimeDelta) (limit : Int) : Prop where
  due : SelectedAlike w statistics.dueMissions
    (InMemoryMissionRepository.claimDue t currentTime limit w).1
    ((db.claimDue currentTime limit).map fun claimed => claimed.1.map (·.mission.id))
  stale : SelectedAlike w statistics.staleProcessingMissions
    (InMemoryMissionRepository.recoverStaleProcessing env currentTime claimTimeout limit w).1
    ((db.recoverStaleProcessing currentTime claimTimeout limit).map fun missions =>
      missions.map (·.id))
  expired : SelectedAlike w statistics.expiredPendingMissions
    (InMemoryMissionRepository.expireDue env currentTime limit w).1
    ((db.expireDue currentTime limit).map fun missions => missions.map (·.id))

section
variable {db : MissionTable} {currentTime : Time} {row : PersistedMission}

end

theorem SqlAlchemyMissionRepository.mem_select {rows : List PersistedMission}
    {condition : MissionModel → Truth} {key : MissionModel → Time} {limit : Int} {row : PersistedMission}
    (member : row ∈ SqlAlchemyMissionRepository.select rows condition key limit) :
    row ∈ rows ∧ (condition (missionToModel row.mission)).isTrue = true :=
  List.mem_filter.1 ((sortedBy_perm _ _).mem_iff.1 (List.mem_of_mem_take member))

/-- No repository returns statistics, for the timeout is too short or the time limit of
the claims that are stored is no time; or that limit is a time, and the rows that are
expired or stale can be read back. -/
def MissionTable.Readable (db : MissionTable) (currentTime : Time) (claimTimeout : TimeDelta) :
    Prop :=
  claimTimeout < 1000000 ∨
  match Time.add currentTime (-claimTimeout) with
  | .error _ => ∃ row ∈ db.rows,
      row.mission.status = .processing ∧ row.mission.claimedAt.isSome = true
  | .ok staleBefore =>
    db.Loads (SqlAlchemyMissionRepository.expiredPending currentTime) ∧
      db.Loads (SqlAlchemyMissionRepository.staleProcessing staleBefore)

section
variable {db : MissionTable} {currentTime : Time} {claimTimeout : TimeDelta}

end

end

namespace QueueStatistics

/-- A due mission, one whose expiry has passed and one under a stale claim. -/
def missions : List Mission :=
  [Sample.mission,
    { Sample.mission with id := ⟨8⟩, status := .paused, scheduledAt := none, expiresAt := some 100 },
    { Sample.mission with
      id := ⟨10⟩, status := .processing, claimedAt := some 0, executionAttempts := 1 }]

def world (missions : List Mission) : MemoryWorld Unit := initialWorld missions Sample.mission ()

/-- The missions of a world, as the database has stored them. -/
def table (missions : List Mission) : MissionTable :=
  ⟨.plain fun _ _ => ⟨1⟩, fun _ _ => (⟨1⟩, ⟨1⟩), fun _ => ⟨99⟩,
    (InMemoryMissionRepository.missionsOf (world missions)).map fun mission => ⟨mission, []⟩⟩

def environment : Environment Unit := .withProviders (Sample.accepting [])

theorem wellFormed_world : WellFormed environment (world missions) :=
  wellFormed_start
    (consistent_initialWorld missions Sample.mission () (by decide))
    (fun r _ => fresh_initialWorld () (by decide) r) rfl

end QueueStatistics

end PurchaseAgent
