import PurchaseAgent.Services.MissionEventSerializer
import PurchaseAgent.Services.ProviderResolutionHistory
import PurchaseAgent.Storage.MissionRows

/-!
The projection table of provider history events: what is written into it when a
mission is saved or the projection is rebuilt, and the queries over it.
-/

namespace PurchaseAgent

def executionEventToProviderProjection (missionId : UUID) (event : ExecutionEvent)
    (legacyEventIndex : Nat) : Except PyException (Option ProviderHistoryProjectionEvent) :=
  if event.isProviderHistory = false then .ok none
  else
    (providerEventToHistoryItem event).map fun item =>
      some ⟨missionId, item.sequence, item.eventType, item.occurredAt, item.payload,
        legacyEventIndex, item.sequence_ge⟩

/-- The projections of events that come with their indexes. -/
def providerProjections (missionId : UUID) :
    List (ExecutionEvent × Nat) → Except PyException (List ProviderHistoryProjectionEvent)
  | [] => .ok []
  | (event, index) :: rest =>
    match executionEventToProviderProjection missionId event index,
        providerProjections missionId rest with
    | .error error, _ | .ok _, .error error => .error error
    | .ok none, .ok projections => .ok projections
    | .ok (some projection), .ok projections => .ok (projection :: projections)

/-- A row of `mission_provider_history_events`. -/
structure MissionProviderHistoryEventModel where
  missionId : UUID
  sequence : Int
  eventType : String
  occurredAt : Time
  payload : PyValue
  legacyEventIndex : Int
deriving DecidableEq

namespace SqlProviderHistory

abbrev Table := List MissionProviderHistoryEventModel

/-- The row that `append_many` adds for an event. -/
def toModel (event : ProviderHistoryProjectionEvent) : MissionProviderHistoryEventModel :=
  ⟨event.missionId, event.sequence, event.eventType.value, event.occurredAt,
    .dict event.payload.dump, event.legacyEventIndex⟩

def projectionFromModel (model : MissionProviderHistoryEventModel) :
    Except PyException ProviderHistoryProjectionEvent :=
  match ProviderHistoryEventType.ofText model.eventType with
  | none => .error (.valueError s!"'{model.eventType}' is not a valid ProviderHistoryEventType")
  | some eventType =>
    match model.payload with
    | .dict fields =>
      match ProviderHistoryPayload.validate eventType fields with
      | .error error => .error error
      | .ok payload =>
        if sequence_ge : 1 ≤ model.sequence.toNat then
          if 0 ≤ model.legacyEventIndex then
            .ok ⟨model.missionId, model.sequence.toNat, eventType, model.occurredAt, payload,
              model.legacyEventIndex.toNat, sequence_ge⟩
          else .error (validationError "Input should be greater than or equal to 0")
        else .error (validationError "Input should be greater than or equal to 1")
    | _ => .error (validationError "Input should be a valid dictionary")

/-- `append_many` and its flush, with the primary key of the table. -/
def appendMany (table : Table) (events : List ProviderHistoryProjectionEvent) :
    Except PyException Table :=
  if ((table ++ events.map toModel).map fun row => (row.missionId, row.sequence)).Nodup then
    .ok (table ++ events.map toModel)
  else .error (.other "IntegrityError" "mission_provider_history_events_pkey")

def rowsOf (missionId : UUID) (table : Table) : Table :=
  table.filter (·.missionId = missionId)

/-- The columns a page is ordered by and its cursor compared with. -/
def pageKey (row : MissionProviderHistoryEventModel) : Time ×ₗ Int :=
  toLex (row.occurredAt, row.legacyEventIndex)

def listSince (table : Table) (missionId : UUID) (sinceSequence fetchLimit : Nat) :
    Except PyException (List ProviderHistoryProjectionEvent) :=
  ((Collections.sortedBy (·.sequence)
    ((rowsOf missionId table).filter ((sinceSequence : Int) < ·.sequence))).take
      fetchLimit).mapM projectionFromModel

def listAllForMission (table : Table) (missionId : UUID) :
    Except PyException (List ProviderHistoryProjectionEvent) :=
  (Collections.sortedBy (·.sequence) (rowsOf missionId table)).mapM projectionFromModel

/-- Rows with equal keys come in the order of the table. -/
def listPage (table : Table) (missionId : UUID) (cursor : Option ProviderHistoryCursor)
    (fetchLimit : Nat) : Except PyException (List ProviderHistoryProjectionEvent) :=
  ((Collections.sortedBy pageKey
    (Collections.Keyset.after pageKey (cursor.map (·.key)) (rowsOf missionId table))).take
      fetchLimit).mapM projectionFromModel

def reader (table : Table) : ProviderHistoryProjectionReader where
  listPage := listPage table
  listSince := listSince table

def appendProviderHistoryEvents (table : Table) (mission : Mission)
    (previousLastEventSequence : Nat) : Except PyException Table := do
  let events ← providerProjections mission.id
    (mission.executionLog.zipIdx.filter (previousLastEventSequence < ·.1.sequence))
  if events.isEmpty then return table
  appendMany table events

def rebuildBatchSize : Nat := 500

section
variable (fields : EventFields) (newIds : UUID → Nat → UUID × UUID)

/-- The loop of `RebuildProviderHistoryProjection.execute`, which reads the rows one by
one. -/
def rebuildLoop (table : Table) (pending : List ProviderHistoryProjectionEvent) :
    List PersistedMission → Except PyException Table
  | [] => if pending.isEmpty then .ok table else appendMany table pending
  | row :: rest => do
    let mission ← SqlAlchemyMissionRepository.load fields newIds row
    let events ← providerProjections mission.id mission.executionLog.zipIdx
    if rebuildBatchSize ≤ (pending ++ events).length then
      let table ← appendMany table (pending ++ events)
      rebuildLoop table [] rest
    else rebuildLoop table (pending ++ events) rest

/-- `RebuildProviderHistoryProjection.execute`, over the rows in the order of their ids. -/
def rebuild (rows : List PersistedMission) : Except PyException Table :=
  rebuildLoop fields newIds [] [] (Collections.sortedBy (·.mission.id.int) rows)

end

/-- The loop of a rebuild, over missions that have been read. -/
def projectLoop (table : Table) (pending : List ProviderHistoryProjectionEvent) :
    List Mission → Except PyException Table
  | [] => if pending.isEmpty then .ok table else appendMany table pending
  | mission :: rest => do
    let events ← providerProjections mission.id mission.executionLog.zipIdx
    if rebuildBatchSize ≤ (pending ++ events).length then
      let table ← appendMany table (pending ++ events)
      projectLoop table [] rest
    else projectLoop table (pending ++ events) rest

/-- A rebuild from missions that have been read. -/
def projectAll (missions : List Mission) : Except PyException Table :=
  projectLoop [] [] (Collections.sortedBy (·.id.int) missions)

end SqlProviderHistory
end PurchaseAgent
