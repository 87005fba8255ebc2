import PurchaseAgent.Services.ProviderResolutionHistory

/-!
Pages of a mission's events behind a sequence, read from the log or from the
projection table.
-/

namespace PurchaseAgent

/-- A request; the bounds of its limit are checked where requests come in. -/
structure MissionEventHistoryPageRequest where
  afterSequence : Nat
  limit : Nat

structure MissionEventHistoryPage where
  missionId : UUID
  afterSequence : Nat
  latestSequence : Nat
  hasMore : Bool
  items : List ExecutionEvent
deriving DecidableEq

/-- `MissionEventProjectionReader.list_after`. -/
abbrev MissionEventProjectionReader :=
  (missionId : UUID) → (afterSequence fetchLimit : Nat) → Except PyException (List ExecutionEvent)

def pageFromEvents (missionId : UUID) (request : MissionEventHistoryPageRequest)
    (fetchedEvents : List ExecutionEvent) : MissionEventHistoryPage :=
  let items := fetchedEvents.take request.limit
  { missionId := missionId
    afterSequence := request.afterSequence
    latestSequence := (items.getLast?.map (·.sequence)).getD request.afterSequence
    hasMore := decide (request.limit < fetchedEvents.length)
    items := items }

/-- The events behind the sequence, one more than the page shows. -/
def fetchedEvents (mission : Mission) (request : MissionEventHistoryPageRequest) :
    List ExecutionEvent :=
  (mission.executionLog.filter (request.afterSequence < ·.sequence)).take (request.limit + 1)

def GetMissionEventHistory.execute (repository : MissionReadRepository)
    (projectionReader : Option MissionEventProjectionReader) (missionId : UUID)
    (request : MissionEventHistoryPageRequest) : Except PyException MissionEventHistoryPage :=
  match repository.get missionId with
  | none => .error .missionNotFoundError
  | some mission =>
    match projectionReader with
    | none => .ok (pageFromEvents mission.id request (fetchedEvents mission request))
    | some listAfter =>
      (listAfter missionId request.afterSequence (request.limit + 1)).map
        (pageFromEvents mission.id request)

def WaitForMissionEventHistory.readOnce (repository : MissionReadRepository)
    (projectionReader : Option MissionEventProjectionReader) (missionId : UUID)
    (request : MissionEventHistoryPageRequest) : Except PyException MissionEventHistoryPage :=
  match projectionReader with
  | some listAfter =>
    (listAfter missionId request.afterSequence (request.limit + 1)).map
      (pageFromEvents missionId request)
  | none =>
    match repository.get missionId with
    | none => .error .missionNotFoundError
    | some mission => .ok (pageFromEvents mission.id request (fetchedEvents mission request))

end PurchaseAgent
