import PurchaseAgent.Domain.Errors
import PurchaseAgent.Encoding.Base64
import PurchaseAgent.Encoding.IsoTime
import PurchaseAgent.Encoding.Json

/-!
The texts of the cursors, which the pages take from a library: JSON with sorted keys, in
url-safe base64 without its padding. The classes of the cursors are validated by pydantic,
which also parses their fields.
-/

namespace PurchaseAgent.CursorCodecs

open Collections Encoding

/-- A UUID of 128 bits. -/
structure UUID128 where
  id : UUID
  int_lt : id.int < 2 ^ 128

/-- What the validation takes from pydantic, and `float(literal) == 1`. A datetime without an
offset is parsed to nothing but itself. -/
structure PydanticLibrary where
  parseUUID : Json → Option UUID128
  parseDatetime : Json → Option (Option AwareDateTime)
  parseInt : Json → Option Int
  floatIsOne : List Char → Bool
  parseUUID_text : ∀ text n, readUuid text = some n → ∀ below : n < 2 ^ 128,
    parseUUID (.str (Json.codePoints text)) = some ⟨⟨n⟩, below⟩
  parseDatetime_text : ∀ text fields, IsoTime.read text = some fields → ∀ valid : fields.Valid,
    parseDatetime (.str (Json.codePoints text)) = some (some ⟨fields, valid⟩)
  parseInt_int : ∀ n, parseInt (.int n) = some n

/-- A payload of JSON, by the code points of its keys. -/
abbrev Payload := Dict (List Nat) Json

def key (name : String) : List Nat := Json.codePoints name.toList

/-- `value == _CURSOR_VERSION`. -/
def isVersion (library : PydanticLibrary) : Json → Bool
  | .int n => n = 1
  | .bool b => b
  | .float literal => library.floatIsOne literal
  | _ => false

/-- A cursor class with its codec: the names of its fields, all required, the payload that is
written, the validation of what was read, and the error of every failure. -/
structure JsonCodec (κ : Type) where
  names : List String
  members : κ → List (List Char × Scalar)
  validate : Payload → Option κ
  invalid : PyException

namespace JsonCodec
variable {κ : Type} (codec : JsonCodec κ)

def encode (cursor : κ) : String :=
  String.ofList (Base64.stripPadding
    (Base64.encode (String.ofList (Json.dumps (codec.members cursor))).toUTF8.data.toList))

/-- `json.loads(base64.urlsafe_b64decode(f"{value}{padding}").decode())`. -/
def readPayload (value : String) : Option Json :=
  (Base64.decode (value.toList ++ Base64.padding value.length)).bind fun bytes =>
    (String.fromUTF8? ⟨bytes.toArray⟩).bind fun text => Json.loads text.toList

/-- `model_validate` of a class that forbids other fields. -/
def modelValidate (fields : Payload) : Option κ :=
  if fields.all fun field => (codec.names.map key).contains field.1 then codec.validate fields
  else none

/-- The version is taken out of the payload and checked. -/
def checkVersion (library : PydanticLibrary) : Json → Option Payload
  | .object payload =>
    if (Dict.get? payload (key "v")).any (isVersion library) then
      some (Dict.erase payload (key "v"))
    else none
  | _ => none

def decode (library : PydanticLibrary) (value : String) : Except PyException κ :=
  match ((readPayload value).bind (checkVersion library)).bind codec.modelValidate with
  | some cursor => .ok cursor
  | none => .error codec.invalid

end JsonCodec

def uuidText (id : UUID128) : Scalar := .str id.id.str.toList

def timeText (time : AwareDateTime) : Scalar := .str (IsoTime.isoformat time.fields)

def version : List Char × Scalar := ("v".toList, .number 1)

section
variable (library : PydanticLibrary)

/-- A required field of a UUID. -/
def uuidField (fields : Payload) (name : String) : Option UUID128 :=
  (fields.get? (key name)).bind library.parseUUID

/-- A required datetime, which `validate_occurred_at` asks to be aware. -/
def timeField (fields : Payload) (name : String) : Option AwareDateTime :=
  ((fields.get? (key name)).bind library.parseDatetime).bind id

/-- A required integer with `ge=0`. -/
def indexField (fields : Payload) (name : String) : Option Nat :=
  ((fields.get? (key name)).bind library.parseInt).bind fun n =>
    if 0 ≤ n then some n.toNat else none

structure ProviderHistoryCursor where
  missionId : UUID128
  occurredAt : AwareDateTime
  eventIndex : Nat

def ProviderHistoryCursorCodec : JsonCodec ProviderHistoryCursor where
  names := ["mission_id", "occurred_at", "event_index"]
  members cursor :=
    [("event_index".toList, .number cursor.eventIndex),
      ("mission_id".toList, uuidText cursor.missionId),
      ("occurred_at".toList, timeText cursor.occurredAt), version]
  validate fields :=
    (uuidField library fields "mission_id").bind fun missionId =>
      (timeField library fields "occurred_at").bind fun occurredAt =>
        (indexField library fields "event_index").map fun eventIndex =>
          ⟨missionId, occurredAt, eventIndex⟩
  invalid := .other "InvalidProviderHistoryCursorError" "Provider history cursor is invalid"

structure NotificationOutboxCursor where
  occurredAt : AwareDateTime
  messageId : UUID128

def NotificationOutboxCursorCodec : JsonCodec NotificationOutboxCursor where
  names := ["occurred_at", "message_id"]
  members cursor :=
    [("message_id".toList, uuidText cursor.messageId),
      ("occurred_at".toList, timeText cursor.occurredAt), version]
  validate fields :=
    (timeField library fields "occurred_at").bind fun occurredAt =>
      (uuidField library fields "message_id").map fun messageId => ⟨occurredAt, messageId⟩
  invalid := .other "InvalidNotificationOutboxCursorError" "Notification outbox cursor is invalid"

structure MissionCursor where
  missionId : UUID128

def MissionCursorCodec : JsonCodec MissionCursor where
  names := ["mission_id"]
  members cursor := [("mission_id".toList, uuidText cursor.missionId), version]
  validate fields :=
    (uuidField library fields "mission_id").map fun missionId => ⟨missionId⟩
  invalid := .other "InvalidMissionCursorError" "Mission cursor is invalid"

structure IdentityCursor where
  identityId : UUID128

def IdentityCursorCodec : JsonCodec IdentityCursor where
  names := ["identity_id"]
  members cursor := [("identity_id".toList, uuidText cursor.identityId), version]
  validate fields :=
    (uuidField library fields "identity_id").map fun identityId => ⟨identityId⟩
  invalid := .other "InvalidIdentityCursorError" "Identity cursor is invalid"

end

inductive CursorKind where
  | providerHistory
  | notificationOutbox
  | mission
  | identity
deriving DecidableEq, Repr

def CursorKind.Cursor : CursorKind → Type
  | .providerHistory => ProviderHistoryCursor
  | .notificationOutbox => NotificationOutboxCursor
  | .mission => MissionCursor
  | .identity => IdentityCursor

def CursorKind.codec (library : PydanticLibrary) : (kind : CursorKind) → JsonCodec kind.Cursor
  | .providerHistory => ProviderHistoryCursorCodec library
  | .notificationOutbox => NotificationOutboxCursorCodec library
  | .mission => MissionCursorCodec library
  | .identity => IdentityCursorCodec library

end PurchaseAgent.CursorCodecs
