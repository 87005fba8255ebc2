import PurchaseAgent.Storage.SqlMissionEvents
import PurchaseAgent.Storage.SqlMissionOutbox
import PurchaseAgent.Storage.SqlProviderHistory

/-!
The two projections beside the missions. A method of the repository appends to each by
itself, behind the sequence that it takes to be persisted.
-/

namespace PurchaseAgent

/-- The missions with the outbox and the objects of the sessions, and the projections. -/
structure MissionTables where
  sessions : MissionSessions
  providerEvents : SqlProviderHistory.Table
  missionEvents : SqlMissionEvents.Table

namespace RepositoryCall

/-- Where a method calls `_append_provider_history_events`. -/
def appendProviderHistoryEvents (table : SqlProviderHistory.Table) :
    RepositoryCall → Except PyException SqlProviderHistory.Table
  | .create mission => SqlProviderHistory.appendProviderHistoryEvents table mission 0
  | .update object =>
    SqlProviderHistory.appendProviderHistoryEvents table object.mission
      object.persistedLastEventSequence
  | .edit _ _ | .get | .claimDue _ | .expireDue _ _ | .recoverStaleProcessing _ => .ok table

/-- Where a method calls `_append_mission_events`. -/
def appendMissionEvents (fields : EventFields) (table : SqlMissionEvents.Table) :
    RepositoryCall → Except PyException SqlMissionEvents.Table
  | .create mission => SqlMissionEvents.appendMissionEvents fields table mission 0
  | .update object =>
    SqlMissionEvents.appendMissionEvents fields table object.mission
      object.persistedLastEventSequence
  | .expireDue mission previousLastEventSequence =>
    SqlMissionEvents.appendMissionEvents fields table mission previousLastEventSequence
  | .edit _ _ | .get | .claimDue _ | .recoverStaleProcessing _ => .ok table

end RepositoryCall

/-- A step of a session that commits with what it appends. -/
structure RepositoryStep (fields : EventFields) (call : RepositoryCall) (t t' : MissionTables) :
    Prop where
  session : SessionStep fields call t.sessions t'.sessions
  providerEvents : call.appendProviderHistoryEvents t.providerEvents = .ok t'.providerEvents
  missionEvents : call.appendMissionEvents fields t.missionEvents = .ok t'.missionEvents

end PurchaseAgent
