import PurchaseAgent.Domain.MissionValidators
import PurchaseAgent.Services.MissionEventSerializer

/-!
The rows of missions, and what reading one back can raise.
-/

namespace PurchaseAgent

/-- A row of `missions`: the columns, as a mission has them, and the log as it is stored. -/
structure PersistedMission where
  mission : Mission
  executionLog : List RawEvent

/-- `mission_from_model`, with the ids drawn for events that have none. A mission that is
processed without a claim is not validated. -/
def missionFromModel (fields : EventFields) (newIds : Nat → UUID × UUID) (row : PersistedMission) :
    Except PyException Mission := do
  let executionLog ← MissionJsonEventStore.deserialize fields newIds row.executionLog
    row.mission.lastEventSequence (some row.mission.id)
  let maxExecutionAttempts :=
    if row.mission.maxExecutionAttempts = 0 then 3 else row.mission.maxExecutionAttempts
  let mission : Mission := { row.mission with
    executionLog := executionLog
    maxExecutionAttempts := max maxExecutionAttempts row.mission.executionAttempts }
  if mission.status = .processing ∧ mission.claimedAt = none then .ok mission
  else mission.validate

/-- `mission_from_model`, with the ids that are drawn for the mission. -/
def SqlAlchemyMissionRepository.load (fields : EventFields) (newIds : UUID → Nat → UUID × UUID)
    (row : PersistedMission) : Except PyException Mission :=
  missionFromModel fields (newIds row.mission.id) row

/-- What a read keeps of a row. -/
structure PersistedMission.Kept (row : PersistedMission) (mission : Mission) : Prop where
  id : mission.id = row.mission.id
  status : mission.status = row.mission.status
  expiresAt : mission.expiresAt = row.mission.expiresAt
  claimedAt : mission.claimedAt = row.mission.claimedAt
  lastEventSequence : mission.lastEventSequence = row.mission.lastEventSequence

theorem Mission.validate_ok {mission after : Mission} (validated : mission.validate = .ok after) :
    ∃ resolvedProviderId reservationId, after = { mission with
      resolvedProviderId := resolvedProviderId, reservationId := reservationId } := by
  simp only [Mission.validate, bind, Except.bind] at validated
  repeat' split at validated
  all_goals first
    | cases validated; done
    | exact ⟨_, _, (Except.ok.inj validated).symm⟩

theorem missionFromModel_kept {fields : EventFields} {newIds : Nat → UUID × UUID}
    {row : PersistedMission} {mission : Mission}
    (loaded : missionFromModel fields newIds row = .ok mission) : row.Kept mission := by
  simp only [missionFromModel, bind, Except.bind] at loaded
  split at loaded
  · cases loaded
  · split at loaded
    · obtain rfl := Except.ok.inj loaded
      exact ⟨rfl, rfl, rfl, rfl, rfl⟩
    · obtain ⟨resolvedProviderId, reservationId, rfl⟩ := Mission.validate_ok loaded
      exact ⟨rfl, rfl, rfl, rfl, rfl⟩

end PurchaseAgent
