import PurchaseAgent.Api.Exceptions
import PurchaseAgent.Collections.Dict
import PurchaseAgent.Collections.StableSort
import PurchaseAgent.Domain.Mission
import PurchaseAgent.Domain.Notification
import PurchaseAgent.Domain.ProviderResolution

/-!
The pages of mission summaries, identity summaries and outbox messages: the texts
of their cursors, the candidates that the repositories select behind one, and the
endpoints, which look ahead by one.
-/

namespace PurchaseAgent

open Collections

/-- The payload of a cursor: its texts and `_CURSOR_VERSION`. -/
def cursorPayload (texts : List (String × String)) : Dict String PyValue :=
  texts.map (fun entry => (entry.1, .str entry.2)) ++ [("v", .int 1)]

/-- What the codecs use of the libraries: `json` in url-safe base64 without padding,
and the texts of ids and aware datetimes, which pydantic parses. -/
structure CursorLibrary where
  dumps : Dict String PyValue → String
  loads : String → Except PyException PyValue
  isoformat : Time → String
  parseUUID : PyValue → Except PyException UUID
  parseDatetime : PyValue → Except PyException Time
  loads_dumps : ∀ texts, loads (dumps (cursorPayload texts)) = .ok (.dict (cursorPayload texts))
  parseUUID_str : ∀ id, parseUUID (.str id.str) = .ok id
  parseDatetime_isoformat : ∀ time, parseDatetime (.str (isoformat time)) = .ok time

/-- `value == _CURSOR_VERSION`, where `True == 1`. -/
def isCursorVersion : PyValue → Bool
  | .int n => n = 1
  | .bool b => b
  | _ => false

/-- A cursor class with its codec: the fields, and how they are written and read. -/
structure CursorCodec (κ : Type) where
  names : List String
  texts : κ → List (String × String)
  validate : Dict String PyValue → Except PyException κ
  invalid : PyException

section Codecs
variable (library : CursorLibrary)

def CursorCodec.encode {κ : Type} (codec : CursorCodec κ) (cursor : κ) : String :=
  library.dumps (cursorPayload (codec.texts cursor))

def CursorCodec.decode {κ : Type} (codec : CursorCodec κ) (value : String) :
    Except PyException κ :=
  match library.loads value with
  | .ok (.dict payload) =>
    if (Dict.get? payload "v").all (fun version => !isCursorVersion version) then
      .error codec.invalid
    else
      let fields := Dict.erase payload "v"
      if fields.any fun field => !codec.names.contains field.1 then .error codec.invalid
      else (codec.validate fields).mapError fun _ => codec.invalid
  | _ => .error codec.invalid

structure MissionCursor where
  missionId : UUID
deriving DecidableEq, Repr

def MissionCursorCodec : CursorCodec MissionCursor where
  names := ["mission_id"]
  texts cursor := [("mission_id", cursor.missionId.str)]
  validate fields := do
    let missionId ← requiredField fields "mission_id" >>= library.parseUUID
    return ⟨missionId⟩
  invalid := .other "InvalidMissionCursorError" "Mission cursor is invalid"

structure IdentityCursor where
  identityId : UUID
deriving DecidableEq, Repr

def IdentityCursorCodec : CursorCodec IdentityCursor where
  names := ["identity_id"]
  texts cursor := [("identity_id", cursor.identityId.str)]
  validate fields := do
    let identityId ← requiredField fields "identity_id" >>= library.parseUUID
    return ⟨identityId⟩
  invalid := .other "InvalidIdentityCursorError" "Identity cursor is invalid"

structure NotificationOutboxCursor where
  occurredAt : Time
  messageId : UUID
deriving DecidableEq, Repr

def NotificationOutboxCursorCodec : CursorCodec NotificationOutboxCursor where
  names := ["occurred_at", "message_id"]
  texts cursor := [("message_id", cursor.messageId.str),
    ("occurred_at", library.isoformat cursor.occurredAt)]
  validate fields := do
    let occurredAt ← requiredField fields "occurred_at" >>= library.parseDatetime
    let messageId ← requiredField fields "message_id" >>= library.parseUUID
    return ⟨occurredAt, messageId⟩
  invalid := .other "InvalidNotificationOutboxCursorError" "Notification outbox cursor is invalid"

end Codecs

/-- A mission as it is stored, with what its field constraints promise. -/
structure StoredMissionRow where
  mission : Mission
  participantIds_ne : mission.participantIds ≠ []
  maxExecutionAttempts_ge : 1 ≤ mission.maxExecutionAttempts

structure MissionSummary where
  id : UUID
  type : MissionType
  title : String
  status : MissionStatus
  executionMode : MissionExecutionMode
  providerId : Option ProviderId
  resolvedProviderId : Option String
  scheduledAt : Option Time
  expiresAt : Option Time
  executionAttempts : Nat
  maxExecutionAttempts : Nat
  lastEventSequence : Nat
  participantCount : Nat
  maxExecutionAttempts_ge : 1 ≤ maxExecutionAttempts
  participantCount_ge : 1 ≤ participantCount

theorem StoredMissionRow.participantCount_ge (row : StoredMissionRow) :
    1 ≤ row.mission.participantIds.length :=
  List.length_pos_iff.mpr row.participantIds_ne

def MissionSummary.fromMission (row : StoredMissionRow) : MissionSummary where
  id := row.mission.id
  type := row.mission.type
  title := row.mission.title
  status := row.mission.status
  executionMode := row.mission.executionMode
  providerId := row.mission.providerId
  resolvedProviderId := row.mission.resolvedProviderId
  scheduledAt := row.mission.scheduledAt
  expiresAt := row.mission.expiresAt
  executionAttempts := row.mission.executionAttempts
  maxExecutionAttempts := row.mission.maxExecutionAttempts
  lastEventSequence := row.mission.lastEventSequence
  participantCount := row.mission.participantIds.length
  maxExecutionAttempts_ge := row.maxExecutionAttempts_ge
  participantCount_ge := row.participantCount_ge

/-- The filters of the mission pages. -/
structure MissionFilter where
  status : Option MissionStatus
  missionType : Option MissionType

namespace InMemoryMissionRepository

def listSummaryPageCandidates (missions : List StoredMissionRow) (filter : MissionFilter)
    (cursor : Option MissionCursor) (limit : Nat) : Except PyException (List MissionSummary) :=
  if limit ≤ 0 then .error (.valueError "limit must be greater than 0")
  else
    .ok ((((sortedBy (·.mission.id.int) missions).filter fun row =>
      cursor.all (·.missionId.int < row.mission.id.int) &&
      filter.status.all (row.mission.status = ·) &&
      filter.missionType.all (row.mission.type = ·)).map MissionSummary.fromMission).take limit)

end InMemoryMissionRepository

namespace SqlAlchemyMissionRepository

def listSummaryPageCandidates (missions : List StoredMissionRow) (filter : MissionFilter)
    (cursor : Option MissionCursor) (limit : Nat) : Except PyException (List MissionSummary) :=
  if limit ≤ 0 then .error (.valueError "limit must be greater than 0")
  else
    let selected := missions.filter fun row =>
      filter.status.all (fun status => row.mission.status.value = status.value) &&
      filter.missionType.all (fun missionType => row.mission.type.value = missionType.value) &&
      cursor.all (·.missionId.int < row.mission.id.int)
    .ok (((sortedBy (·.mission.id.int) selected).take limit).map MissionSummary.fromMission)

end SqlAlchemyMissionRepository

/-- The columns of an identity that its summary and the search read. -/
structure IdentityRow where
  id : UUID
  displayName : String
  firstName : String
  lastName : String
deriving DecidableEq, Repr

structure IdentitySummary where
  id : UUID
  displayName : String
deriving DecidableEq, Repr

def IdentitySummary.fromIdentity (row : IdentityRow) : IdentitySummary := ⟨row.id, row.displayName⟩

/-- `str.casefold`, and `ILIKE` of the database with a backslash as its escape. -/
structure TextSearch where
  casefold : String → String
  ilike : String → String → Bool
  casefold_eq_empty : ∀ text, casefold text = "" → text = ""

/-- `needle in text`. -/
def contains (needle : List Char) : List Char → Bool
  | [] => needle.isEmpty
  | c :: rest => needle.isPrefixOf (c :: rest) || contains needle rest

namespace InMemoryIdentityRepository

def listSummaryPageCandidates (search : TextSearch) (identities : List IdentityRow)
    (query : Option String) (cursor : Option IdentityCursor) (limit : Nat) :
    Except PyException (List IdentitySummary) :=
  let normalized := query.map fun text => search.casefold (strip text)
  if limit ≤ 0 then .error (.valueError "limit must be greater than 0")
  else if normalized = some "" then .error (.valueError "query must not be blank")
  else
    .ok ((((sortedBy (·.id.int) identities).filter fun row =>
      cursor.all (·.identityId.int < row.id.int) &&
      normalized.all fun text =>
        [row.displayName, row.firstName, row.lastName].any fun value =>
          contains text.toList (search.casefold value).toList).map
        IdentitySummary.fromIdentity).take limit)

end InMemoryIdentityRepository

namespace SqlAlchemyIdentityRepository

/-- `text.replace(c, "\\" + c)`. -/
def escapeChar (c : Char) (text : List Char) : List Char :=
  text.flatMap fun d => if d = c then ['\\', c] else [d]

/-- The pattern of a text that is found anywhere. -/
def searchPattern (text : String) : String :=
  String.ofList
    (['%'] ++ escapeChar '_' (escapeChar '%' (escapeChar '\\' text.toList)) ++ ['%'])

def identitySearchPattern : Option String → Except PyException (Option String)
  | none => .ok none
  | some query =>
    if strip query = "" then .error (.valueError "query must not be blank")
    else .ok (some (searchPattern (strip query)))

def listSummaryPageCandidates (search : TextSearch) (identities : List IdentityRow)
    (query : Option String) (cursor : Option IdentityCursor) (limit : Nat) :
    Except PyException (List IdentitySummary) :=
  if limit ≤ 0 then .error (.valueError "limit must be greater than 0")
  else
    match identitySearchPattern query with
    | .error error => .error error
    | .ok pattern =>
      let selected := identities.filter fun row =>
        (pattern.all fun text =>
          search.ilike row.displayName text || search.ilike row.firstName text ||
            search.ilike row.lastName text) &&
        cursor.all (·.identityId.int < row.id.int)
      .ok (((sortedBy (·.id.int) selected).take limit).map IdentitySummary.fromIdentity)

end SqlAlchemyIdentityRepository

/-- The filters of the outbox pages. -/
structure OutboxFilter where
  status : Option NotificationOutboxStatus
  missionId : Option UUID

/-- `ORDER BY occurred_at DESC, id DESC`. -/
def NotificationOutboxMessage.pageKey (message : NotificationOutboxMessage) : (Time ×ₗ Nat)ᵒᵈ :=
  OrderDual.toDual (toLex (message.occurredAt, message.id.int))

namespace SqlAlchemyNotificationOutboxRepository

def listMessagePageCandidates (messages : List NotificationOutboxMessage) (filter : OutboxFilter)
    (cursor : Option NotificationOutboxCursor) (limit : Nat) :
    Except PyException (List NotificationOutboxMessage) :=
  if limit < 1 then .error (.valueError "limit must be at least one")
  else
    let selected := messages.filter fun message =>
      filter.status.all (message.status = ·) && filter.missionId.all (message.missionId = ·) &&
      cursor.all fun behind => message.occurredAt < behind.occurredAt ||
        (message.occurredAt = behind.occurredAt && message.id.int < behind.messageId.int)
    .ok ((sortedBy (·.pageKey) selected).take limit)

end SqlAlchemyNotificationOutboxRepository

structure NotificationOutboxMessageSummary where
  id : UUID
  missionId : UUID
  eventId : UUID
  eventType : String
  occurredAt : Time
  status : NotificationOutboxStatus
  deliveryAttempts : Nat
  availableAt : Time
  claimedAt : Option Time
  deliveredAt : Option Time
  lastError : Option String
deriving DecidableEq, Repr

def NotificationOutboxMessageSummary.fromMessage (message : NotificationOutboxMessage) :
    NotificationOutboxMessageSummary where
  id := message.id
  missionId := message.missionId
  eventId := message.eventId
  eventType := message.eventType
  occurredAt := message.occurredAt
  status := message.status
  deliveryAttempts := message.deliveryAttempts
  availableAt := message.availableAt
  claimedAt := message.claimedAt
  deliveredAt := message.deliveredAt
  lastError := message.lastError

/-- The storage that a request is served from. -/
inductive PageStore where
  | memory
  | database
deriving DecidableEq, Repr

def PageStore.missionCandidates : PageStore → List StoredMissionRow → MissionFilter →
    Option MissionCursor → Nat → Except PyException (List MissionSummary)
  | .memory => InMemoryMissionRepository.listSummaryPageCandidates
  | .database => SqlAlchemyMissionRepository.listSummaryPageCandidates

def PageStore.identityCandidates (search : TextSearch) : PageStore → List IdentityRow →
    Option String → Option IdentityCursor → Nat → Except PyException (List IdentitySummary)
  | .memory => InMemoryIdentityRepository.listSummaryPageCandidates search
  | .database => SqlAlchemyIdentityRepository.listSummaryPageCandidates search

/-- `ORDER BY` again, of what a page shows. -/
def NotificationOutboxMessageSummary.pageKey (item : NotificationOutboxMessageSummary) :
    (Time ×ₗ Nat)ᵒᵈ :=
  OrderDual.toDual (toLex (item.occurredAt, item.id.int))

structure KeysetPage (ι : Type) where
  items : List ι
  hasMore : Bool
  nextCursor : Option String

section Endpoints
variable {κ α ι : Type} (library : CursorLibrary)

/-- The part the endpoints share: decode the cursor, select one row more than the limit,
and point behind the last row shown if there is one more. -/
def keysetPage (codec : CursorCodec κ) (code message : String)
    (candidates : Option κ → Nat → Except PyException (List α)) (cursorOf : α → κ) (toItem : α → ι)
    (limit : Nat) (cursor : Option String) : Except ApiException (KeysetPage ι) := do
  let decoded ← (cursor.mapM (codec.decode library)).mapError fun _ =>
    ApiException.httpException (.coded 422 code message)
  let found ← (candidates decoded (limit + 1)).mapError ApiException.service
  let hasMore := decide (limit < found.length)
  let items := found.take limit
  let nextCursor :=
    if hasMore then items.getLast?.map fun last => codec.encode library (cursorOf last) else none
  return ⟨items.map toItem, hasMore, nextCursor⟩

/-- The query of a request, stripped. -/
def normalizedQuery (query : Option String) : Except ApiException (Option String) :=
  if query.map strip = some "" then
    .error (.httpException ⟨422, .str "q must not be blank"⟩)
  else .ok (query.map strip)

def pageMissionSummaries
    (candidates : MissionFilter → Option MissionCursor → Nat →
      Except PyException (List MissionSummary))
    (filter : MissionFilter) (limit : Nat) (cursor : Option String) :
    Except ApiException (KeysetPage MissionSummary) :=
  keysetPage library (MissionCursorCodec library) "invalid_mission_cursor"
    "Mission cursor is invalid." (candidates filter) (fun item => ⟨item.id⟩) id limit cursor

def pageIdentitySummaries
    (candidates : Option String → Option IdentityCursor → Nat →
      Except PyException (List IdentitySummary))
    (query : Option String) (limit : Nat) (cursor : Option String) :
    Except ApiException (KeysetPage IdentitySummary) := do
  let normalized ← normalizedQuery query
  keysetPage library (IdentityCursorCodec library) "invalid_identity_cursor"
    "Identity cursor is invalid." (candidates normalized) (fun item => ⟨item.id⟩) id limit cursor

def pageNotificationOutboxEndpoint
    (candidates : OutboxFilter → Option NotificationOutboxCursor → Nat →
      Except PyException (List NotificationOutboxMessage))
    (filter : OutboxFilter) (limit : Nat) (cursor : Option String) :
    Except ApiException (KeysetPage NotificationOutboxMessageSummary) :=
  keysetPage library (NotificationOutboxCursorCodec library) "invalid_notification_outbox_cursor"
    "Notification outbox cursor is invalid." (candidates filter)
    (fun message => ⟨message.occurredAt, message.id⟩) .fromMessage limit cursor

end Endpoints
end PurchaseAgent
