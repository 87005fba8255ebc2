import PurchaseAgent.Domain.ProviderResolution
import PurchaseAgent.Services.MissionEventUpcaster

/-!
The persisted JSON form of mission events. The metadata of a provider event is
normalized through its payload model on the way out and on the way in.
-/

namespace PurchaseAgent

namespace PyValue

mutual
/-- `model_dump(mode="json")` of a value annotated `Any`. -/
def dumpJson : PyValue → Except PyException PyValue
  | .none => .ok .none
  | .bool b => .ok (.bool b)
  | .int n => .ok (.int n)
  | .str s => .ok (.str s)
  | .list values => (dumpJsonAll values).map .list
  | .tuple values => (dumpJsonAll values).map .list
  | .dict fields => (dumpJsonFields fields).map .dict
  | .object className _ =>
    .error (.other "PydanticSerializationError" s!"Unable to serialize unknown type: {className}")

def dumpJsonAll : List PyValue → Except PyException (List PyValue)
  | [] => .ok []
  | value :: rest =>
    match dumpJson value with
    | .error error => .error error
    | .ok dumped => (dumpJsonAll rest).map (dumped :: ·)

def dumpJsonFields : List (String × PyValue) → Except PyException (List (String × PyValue))
  | [] => .ok []
  | (name, value) :: rest =>
    match dumpJson value with
    | .error error => .error error
    | .ok dumped => (dumpJsonFields rest).map ((name, dumped) :: ·)
end

/-- A value that came out of JSON. -/
inductive IsJson : PyValue → Prop
  | none : IsJson .none
  | bool (b : Bool) : IsJson (.bool b)
  | int (n : Int) : IsJson (.int n)
  | str (s : String) : IsJson (.str s)
  | list {values : List PyValue} (h : ∀ value ∈ values, IsJson value) : IsJson (.list values)
  | dict {fields : List (String × PyValue)} (h : ∀ field ∈ fields, IsJson field.2) :
      IsJson (.dict fields)

attribute [simp] IsJson.none IsJson.bool IsJson.int IsJson.str

@[simp] theorem isJson_list {values : List PyValue} :
    IsJson (.list values) ↔ ∀ value ∈ values, IsJson value :=
  ⟨fun h => by cases h; assumption, .list⟩

@[simp] theorem isJson_dict {fields : List (String × PyValue)} :
    IsJson (.dict fields) ↔ ∀ field ∈ fields, IsJson field.2 :=
  ⟨fun h => by cases h; assumption, .dict⟩

@[simp] theorem isJson_ofText (text : Option String) : IsJson (.ofText text) := by
  cases text <;> simp [ofText]

@[simp] theorem isJson_ofTime (time : Option Time) : IsJson (.ofTime time) := isJson_ofText _

@[simp] theorem isJson_ofBool (value : Option Bool) : IsJson (.ofBool value) := by
  cases value <;> simp [ofBool]

theorem dumpJsonAll_eq {values : List PyValue} (h : ∀ value ∈ values, dumpJson value = .ok value) :
    dumpJsonAll values = .ok values := by
  induction values with
  | nil => rfl
  | cons value rest ih =>
      obtain ⟨first, others⟩ := List.forall_mem_cons.mp h
      simp only [dumpJsonAll, first, ih others]
      rfl

theorem dumpJsonFields_eq {fields : List (String × PyValue)}
    (h : ∀ field ∈ fields, dumpJson field.2 = .ok field.2) : dumpJsonFields fields = .ok fields := by
  induction fields with
  | nil => rfl
  | cons field rest ih =>
      obtain ⟨name, value⟩ := field
      obtain ⟨first, others⟩ := List.forall_mem_cons.mp h
      simp only [dumpJsonFields, first, ih others]
      rfl

/-- JSON is dumped as it is. -/
theorem IsJson.dumpJson {value : PyValue} (h : IsJson value) : value.dumpJson = .ok value := by
  induction h with
  | none | bool _ | int _ | str _ => rfl
  | list _ ih =>
      simp only [PyValue.dumpJson, dumpJsonAll_eq ih]
      rfl
  | dict _ ih =>
      simp only [PyValue.dumpJson, dumpJsonFields_eq ih]
      rfl

end PyValue

/-- Metadata that came out of JSON. -/
def JsonMetadata (metadata : List (String × PyValue)) : Prop :=
  ∀ field ∈ metadata, field.2.IsJson

theorem JsonMetadata.dump {metadata : List (String × PyValue)} (h : JsonMetadata metadata) :
    PyValue.dumpJsonFields metadata = .ok metadata :=
  PyValue.dumpJsonFields_eq fun field member => (h field member).dumpJson

namespace MissionEventSerializer

def genericEventTypes : List String :=
  ["best_option_selected", "automatic_confirmation_failed", "automatic_confirmation_started",
    "automatic_confirmation_succeeded", "claim_recovered", "cancellation_failed",
    "cancellation_started", "cancellation_succeeded", "confirmation_failed",
    "confirmation_started", "confirmation_succeeded", "mission.completed", "mission.created",
    "mission_completed", "mission_cancelled", "mission_confirmed", "mission_created",
    "mission_expired", "mission_failed", "mission_paused", "mission_processing_failed",
    "mission_resumed", "mission_retry_scheduled", "mission_scheduled", "mission_search_completed",
    "mission_unscheduled", "mission_started", "mission_updated", "no_valid_option_found",
    "options_found", "participant_missing", "provider_operation_failed", "reservation_failed",
    "reservation_started", "reservation_succeeded", "search_started",
    "waiting_for_user_confirmation"]

def withSerializedPayload (event : ExecutionEvent) : Except PyException ExecutionEvent :=
  match ProviderHistoryEventType.ofText event.type with
  | some eventType =>
    (ProviderHistoryPayload.validate eventType event.metadata).map fun payload =>
      { event with metadata := payload.dump }
  | none =>
    if event.type ∉ genericEventTypes then .error (.valueError "Unknown Mission event type")
    else .ok event

def validateEventId (eventId : UUID) : Except PyException Unit :=
  if eventId = .nil then .error (.valueError "Mission event ID must not be nil") else .ok ()

section
variable (fields : EventFields)

/-- `MissionEventSerializationError`, of either class. -/
def serializationError (className operation : String) (eventType sequence : Option PyValue) :
    PyException :=
  .other className
    ("Unable to " ++ operation ++ " Mission event type " ++ fields.repr eventType ++
      " at sequence " ++ fields.repr sequence)

/-- The dump of an event with dumped metadata, and the schema version. -/
def dump (event : ExecutionEvent) (metadata : List (String × PyValue)) : RawEvent :=
  [("event_id", .str event.eventId.str),
    ("correlation_id", .str event.correlationId.str),
    ("causation_id", .ofText (event.causationId.map (·.str))),
    ("sequence", .int event.sequence),
    ("timestamp", .str (fields.dumpDatetime event.timestamp)),
    ("type", .str event.type),
    ("message", .str event.message),
    ("metadata", .dict metadata),
    ("schema_version", .int currentMissionEventSchemaVersion)]

/-- The body of `serialize`. -/
def writeEvent (event : ExecutionEvent) : Except PyException RawEvent := do
  let serialized ← withSerializedPayload event
  let metadata ← PyValue.dumpJsonFields serialized.metadata
  validateEventId event.eventId
  return dump fields serialized metadata

def serialize (event : ExecutionEvent) : Except PyException RawEvent :=
  match writeEvent fields event with
  | .ok persistedEvent => .ok persistedEvent
  | .error _ =>
    .error (serializationError fields "MissionEventSerializationError" "serialize"
      (some (.str event.type)) (some (.int event.sequence)))

def parseText : PyValue → Except PyException String
  | .str text => .ok text
  | _ => .error (validationError "Input should be a valid string")

def parseMetadata : PyValue → Except PyException (List (String × PyValue))
  | .dict metadata => .ok metadata
  | _ => .error (validationError "Input should be a valid dictionary")

def defaultField {α : Type} (raw : RawEvent) (name : String) (default : α)
    (parse : PyValue → Except PyException α) : Except PyException α :=
  match raw.get? name with
  | some value => parse value
  | none => .ok default

/-- `ExecutionEvent.model_validate`, with the ids its default factories draw. -/
def validateEvent (newIds : UUID × UUID) (raw : RawEvent) : Except PyException ExecutionEvent := do
  let eventId ← defaultField raw "event_id" newIds.1 fields.parseUUID
  let correlationId ← defaultField raw "correlation_id" newIds.2 fields.parseUUID
  let causationId ← defaultField raw "causation_id" none (optionalField fields.parseUUID)
  let sequence ← requiredField raw "sequence" >>= fields.parseInt
  let timestamp ← requiredField raw "timestamp" >>= fields.parseDatetime
  let type ← requiredField raw "type" >>= parseText
  let message ← requiredField raw "message" >>= parseText
  let metadata ← defaultField raw "metadata" [] parseMetadata
  if sequence_pos : 1 ≤ sequence.toNat then
    .ok ⟨eventId, correlationId, causationId, sequence.toNat, timestamp, type, message, metadata,
      sequence_pos⟩
  else .error (validationError "Input should be greater than or equal to 1")

/-- The exceptions that `deserialize` lets through. -/
def passesThrough : PyException → Bool
  | .other className _ => className ∈ "KeyError" :: schemaVersionErrors
  | _ => false

/-- The body of `deserialize`. -/
def readEvent (newIds : UUID × UUID) (raw : RawEvent)
    (context : MissionEventDeserializationContext) : Except PyException ExecutionEvent := do
  let currentRaw ← upcastToCurrent fields raw context
  let event ← validateEvent fields newIds currentRaw
  validateEventId event.eventId
  withSerializedPayload event

def deserialize (newIds : UUID × UUID) (raw : RawEvent)
    (context : MissionEventDeserializationContext) : Except PyException ExecutionEvent :=
  match readEvent fields newIds raw context with
  | .ok event => .ok event
  | .error error =>
    if passesThrough error then .error error
    else
      .error (serializationError fields "MissionEventDeserializationError" "deserialize"
        (raw.get? "type") (raw.get? "sequence"))

end
end MissionEventSerializer

/-- The exceptions of `validate_event_sequence`. -/
def MissionEventError.raised : MissionEventError → PyException
  | .invalidSequence message => .other "InvalidMissionEventSequenceError" message
  | .invalidEventId message => .other "InvalidMissionEventIdError" message

namespace MissionJsonEventStore
variable (fields : EventFields)

/-- The loop of `deserialize`, with the ids that are drawn for each index. -/
def restore (newIds : Nat → UUID × UUID) (missionId : Option UUID) (index : Nat)
    (previous : Option ExecutionEvent) : List RawEvent → Except PyException (List ExecutionEvent)
  | [] => .ok []
  | raw :: rest =>
    match MissionEventSerializer.deserialize fields (newIds index) raw
        ⟨missionId, some index, previous.map (·.eventId), previous.map (·.correlationId)⟩ with
    | .error error => .error error
    | .ok event => (restore newIds missionId (index + 1) (some event) rest).map (event :: ·)

def deserialize (newIds : Nat → UUID × UUID) (raws : List RawEvent) (lastEventSequence : Nat)
    (missionId : Option UUID) : Except PyException (List ExecutionEvent) :=
  match restore fields newIds missionId 0 none raws with
  | .error error => .error error
  | .ok restored =>
    match validateEventSequence restored lastEventSequence with
    | .error error => .error error.raised
    | .ok () => .ok restored

def serialize : List ExecutionEvent → Except PyException (List RawEvent)
  | [] => .ok []
  | event :: rest =>
    match MissionEventSerializer.serialize fields event with
    | .error error => .error error
    | .ok persisted => (serialize rest).map (persisted :: ·)

end MissionJsonEventStore
end PurchaseAgent
