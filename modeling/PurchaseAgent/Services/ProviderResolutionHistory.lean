import PurchaseAgent.Collections.Keyset
import PurchaseAgent.Collections.StableSort
import PurchaseAgent.Domain.Mission
import PurchaseAgent.Domain.ProviderResolution

/-!
The readers of a mission's provider history: pages in the order of (timestamp,
log index), and increments in the order of the sequences. Both are served from
the canonical log or from a projection of it.
-/

namespace PurchaseAgent

structure ProviderHistoryCursor where
  missionId : UUID
  occurredAt : Time
  eventIndex : Nat
deriving DecidableEq, Repr

structure ProviderResolutionHistoryPageRequest where
  limit : Nat
  cursor : Option ProviderHistoryCursor
  limit_ge : 1 ≤ limit
  limit_le : limit ≤ 100

@[ext]
structure ProviderResolutionHistoryItem where
  sequence : Nat
  eventType : ProviderHistoryEventType
  occurredAt : Time
  payload : ProviderHistoryPayload
  sequence_ge : 1 ≤ sequence
  payload_type : payload.eventType = eventType

instance : DecidableEq ProviderResolutionHistoryItem := fun _ _ =>
  decidable_of_iff _ ProviderResolutionHistoryItem.ext_iff.symm

/-- An event as the projection keeps it. -/
@[ext]
structure ProviderHistoryProjectionEvent where
  missionId : UUID
  sequence : Nat
  eventType : ProviderHistoryEventType
  occurredAt : Time
  payload : ProviderHistoryPayload
  legacyEventIndex : Nat
  sequence_ge : 1 ≤ sequence

instance : DecidableEq ProviderHistoryProjectionEvent := fun _ _ =>
  decidable_of_iff _ ProviderHistoryProjectionEvent.ext_iff.symm

/-- The two queries of `ProviderHistoryProjectionReader`. -/
structure ProviderHistoryProjectionReader where
  listPage (missionId : UUID) (cursor : Option ProviderHistoryCursor) (fetchLimit : Nat) :
    Except PyException (List ProviderHistoryProjectionEvent)
  listSince (missionId : UUID) (sinceSequence : Nat) (fetchLimit : Nat) :
    Except PyException (List ProviderHistoryProjectionEvent)

/-- The missions a repository can read. -/
abbrev MissionReadRepository := List Mission

def MissionReadRepository.get (missions : MissionReadRepository) (missionId : UUID) :
    Option Mission :=
  missions.find? (·.id = missionId)

theorem MissionReadRepository.get_id {missions : MissionReadRepository} {missionId : UUID}
    {mission : Mission} (h : missions.get missionId = some mission) : mission.id = missionId := by
  simpa using List.find?_some h

structure MissionProviderResolutionHistoryPage where
  missionId : UUID
  items : List ProviderResolutionHistoryItem
  limit : Nat
  hasMore : Bool
  nextCursor : Option ProviderHistoryCursor
deriving DecidableEq

namespace MissionProviderResolutionHistoryPage

def validatePage (page : MissionProviderResolutionHistoryPage) :
    Except PyException MissionProviderResolutionHistoryPage :=
  if page.hasMore then
    match page.items.getLast?, page.nextCursor with
    | some last, some cursor =>
      if cursor.missionId ≠ page.missionId then
        .error (validationError "next cursor must belong to the mission")
      else if cursor.occurredAt ≠ last.occurredAt then
        .error (validationError "next cursor must follow the last visible item")
      else .ok page
    | _, _ => .error (validationError "non-final history page requires a next cursor")
  else if page.nextCursor.isSome then
    .error (validationError "final history page must not have a next cursor")
  else .ok page

end MissionProviderResolutionHistoryPage

structure MissionProviderResolutionIncrement where
  missionId : UUID
  sinceSequence : Nat
  latestSequence : Nat
  hasMore : Bool
  items : List ProviderResolutionHistoryItem
deriving DecidableEq

namespace MissionProviderResolutionIncrement

def validateIncrement (increment : MissionProviderResolutionIncrement) :
    Except PyException MissionProviderResolutionIncrement :=
  if increment.latestSequence < increment.sinceSequence then
    .error (validationError "latest sequence cannot precede since sequence")
  else if ¬ (increment.sinceSequence :: increment.items.map (·.sequence)).Pairwise (· < ·) then
    .error (validationError "increment items must be strictly increasing")
  else
    match increment.items.getLast? with
    | some last =>
      if increment.latestSequence ≠ last.sequence then
        .error (validationError "latest sequence must match the final item")
      else .ok increment
    | none =>
      if increment.latestSequence ≠ increment.sinceSequence then
        .error (validationError "empty increment must retain since sequence")
      else if increment.hasMore then
        .error (validationError "empty increment cannot have more items")
      else .ok increment

end MissionProviderResolutionIncrement

/-- `event.type in PROVIDER_HISTORY_EVENT_TYPES`. -/
def ExecutionEvent.isProviderHistory (event : ExecutionEvent) : Bool :=
  (ProviderHistoryEventType.ofText event.type).isSome

def providerEventToHistoryItem (event : ExecutionEvent) :
    Except PyException ProviderResolutionHistoryItem :=
  match ProviderHistoryEventType.ofText event.type with
  | none => .error (.valueError s!"Unsupported provider history event type '{event.type}'")
  | some eventType =>
    match validated : ProviderHistoryPayload.validate eventType event.metadata with
    | .error error => .error error
    | .ok payload =>
      .ok ⟨event.sequence, eventType, event.timestamp, payload, event.sequence_pos,
        ProviderHistoryPayload.eventType_of_validate validated⟩

def projectionToHistoryItem (event : ProviderHistoryProjectionEvent) :
    Except PyException ProviderResolutionHistoryItem :=
  if payload_type : event.payload.eventType = event.eventType then
    .ok ⟨event.sequence, event.eventType, event.occurredAt, event.payload, event.sequence_ge,
      payload_type⟩
  else .error (validationError "provider history payload does not match event type")

/-- `_history_event_key`, of an event and its index in the log. -/
def historyEventKey (indexed : ExecutionEvent × Nat) : Time ×ₗ Int :=
  toLex (indexed.1.timestamp, (indexed.2 : Int))

/-- What a cursor compares with those keys. -/
def ProviderHistoryCursor.key (cursor : ProviderHistoryCursor) : Time ×ₗ Int :=
  toLex (cursor.occurredAt, (cursor.eventIndex : Int))

namespace GetMissionProviderResolutionHistory

/-- The page shown of the fetched events, which look ahead by one. -/
def page {α : Type} (toItem : α → Except PyException ProviderResolutionHistoryItem)
    (occurredAt : α → Time) (eventIndex : α → Nat) (missionId : UUID)
    (request : ProviderResolutionHistoryPageRequest) (fetched : List α) :
    Except PyException MissionProviderResolutionHistoryPage := do
  let hasMore := decide (request.limit < fetched.length)
  let visible := fetched.take request.limit
  let nextCursor :=
    if hasMore then
      visible.getLast?.map fun last => ⟨missionId, occurredAt last, eventIndex last⟩
    else none
  let items ← visible.mapM toItem
  MissionProviderResolutionHistoryPage.validatePage
    ⟨missionId, items, request.limit, hasMore, nextCursor⟩

/-- The provider events of the log with their indexes, in history order. -/
def orderedEvents (mission : Mission) : List (ExecutionEvent × Nat) :=
  Collections.sortedBy historyEventKey
    (mission.executionLog.zipIdx.filter (·.1.isProviderHistory))

def readCanonicalPage (mission : Mission) (request : ProviderResolutionHistoryPageRequest) :
    Except PyException MissionProviderResolutionHistoryPage :=
  if ∃ cursor ∈ request.cursor, cursor.missionId ≠ mission.id then
    .error (.other "InvalidProviderHistoryCursorError"
      "Provider history cursor does not belong to this mission")
  else
    page (fun indexed => providerEventToHistoryItem indexed.1) (·.1.timestamp) (·.2) mission.id
      request
      ((Collections.Keyset.after historyEventKey (request.cursor.map (·.key))
        (orderedEvents mission)).take (request.limit + 1))

def readProjectionPage (reader : ProviderHistoryProjectionReader) (missionId : UUID)
    (request : ProviderResolutionHistoryPageRequest) :
    Except PyException MissionProviderResolutionHistoryPage := do
  if ∃ cursor ∈ request.cursor, cursor.missionId ≠ missionId then
    .error (.other "InvalidProviderHistoryCursorError"
      "Provider history cursor does not belong to this mission")
  else
    let events ← reader.listPage missionId request.cursor (request.limit + 1)
    page projectionToHistoryItem (·.occurredAt) (·.legacyEventIndex) missionId request events

def execute (repository : MissionReadRepository)
    (projectionReader : Option ProviderHistoryProjectionReader) (missionId : UUID)
    (request : ProviderResolutionHistoryPageRequest) :
    Except PyException MissionProviderResolutionHistoryPage :=
  match repository.get missionId with
  | none => .error .missionNotFoundError
  | some mission =>
    match projectionReader with
    | some reader => readProjectionPage reader missionId request
    | none => readCanonicalPage mission request

end GetMissionProviderResolutionHistory

namespace GetMissionProviderResolutionIncrement

/-- The increment made of the fetched events, which look ahead by one. -/
def increment {α : Type} (toItem : α → Except PyException ProviderResolutionHistoryItem)
    (missionId : UUID) (sinceSequence limit : Nat) (fetched : List α) :
    Except PyException MissionProviderResolutionIncrement := do
  let hasMore := decide (limit < fetched.length)
  let items ← (fetched.take limit).mapM toItem
  let latestSequence := (items.getLast?.map (·.sequence)).getD sinceSequence
  MissionProviderResolutionIncrement.validateIncrement
    ⟨missionId, sinceSequence, latestSequence, hasMore, items⟩

/-- The loop that gathers up to `room` provider events behind the sequence. -/
def candidates (sinceSequence : Nat) : Nat → List ExecutionEvent → List ExecutionEvent
  | 0, _ | _, [] => []
  | room + 1, event :: rest =>
    if event.sequence ≤ sinceSequence then candidates sinceSequence (room + 1) rest
    else if event.isProviderHistory = false then candidates sinceSequence (room + 1) rest
    else event :: candidates sinceSequence room rest

def readIncrementOnce (repository : MissionReadRepository)
    (projectionReader : Option ProviderHistoryProjectionReader) (missionId : UUID)
    (sinceSequence limit : Nat) : Except PyException MissionProviderResolutionIncrement :=
  match projectionReader with
  | some reader => do
    let events ← reader.listSince missionId sinceSequence (limit + 1)
    increment projectionToHistoryItem missionId sinceSequence limit events
  | none =>
    match repository.get missionId with
    | none => .error .missionNotFoundError
    | some mission =>
      increment providerEventToHistoryItem mission.id sinceSequence limit
        (candidates sinceSequence (limit + 1) mission.executionLog)

theorem candidates_eq (sinceSequence room : Nat) (events : List ExecutionEvent) :
    candidates sinceSequence room events =
      (events.filter fun event => sinceSequence < event.sequence ∧ event.isProviderHistory).take
        room := by
  fun_induction candidates sinceSequence room events with
  | case1 events => simp
  | case2 room => simp
  | case3 room event rest early ih =>
      rw [ih, List.filter_cons, if_neg (by simpa using fun later => absurd later early.not_gt)]
  | case4 room event rest later other ih =>
      rw [ih, List.filter_cons, if_neg (by simp [other])]
  | case5 room event rest later provider ih =>
      rw [ih, List.filter_cons, if_pos (by simpa using ⟨Nat.lt_of_not_le later, Bool.eq_true_of_not_eq_false provider⟩),
        List.take_succ_cons]

end GetMissionProviderResolutionIncrement
end PurchaseAgent
