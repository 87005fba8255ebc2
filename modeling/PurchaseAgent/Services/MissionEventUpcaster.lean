import PurchaseAgent.Collections.Dict
import PurchaseAgent.Domain.Errors
import PurchaseAgent.Domain.Execution

/-!
Persisted events of older schema versions and the steps that lift them to the
current one. What the libraries do with the scalar fields is a parameter.
-/

namespace PurchaseAgent

def legacyMissionEventSchemaVersion : Int := 0

def currentMissionEventSchemaVersion : Int := 3

/-- A decoded JSON object. -/
abbrev RawEvent := Collections.Dict String PyValue

/-- The conversions of the model fields, of `UUID(str(value))`, `uuid5` and `repr`.
A field that was dumped is read back as it was. -/
structure EventFields where
  parseUUID : PyValue → Except PyException UUID
  parseInt : PyValue → Except PyException Int
  parseDatetime : PyValue → Except PyException Time
  dumpDatetime : Time → String
  uuidOf : PyValue → Except PyException UUID
  uuid5 : UUID → String → UUID
  repr : Option PyValue → String
  parseUUID_str : ∀ id, parseUUID (.str id.str) = .ok id
  parseInt_int : ∀ n, parseInt (.int n) = .ok n
  parseDatetime_dump : ∀ time, parseDatetime (.str (dumpDatetime time)) = .ok time

structure MissionEventDeserializationContext where
  missionId : Option UUID := none
  eventIndex : Option Nat := none
  previousEventId : Option UUID := none
  previousCorrelationId : Option UUID := none

/-- The errors about schema versions, by their class. -/
def schemaVersionErrors : List String :=
  ["MissionEventSchemaVersionError", "UnsupportedMissionEventSchemaVersionError",
    "MissingMissionEventUpcasterError", "InvalidMissionEventUpcastResultError"]

section
variable (fields : EventFields)

/-- `for event type ... at sequence ...`, of the event that is read. -/
def describeEvent (raw : RawEvent) : String :=
  "for event type " ++ fields.repr (raw.get? "type") ++ " at sequence " ++
    fields.repr (raw.get? "sequence")

def schemaVersionError (className : String) (raw : RawEvent) (schemaVersion : Option PyValue) :
    PyException :=
  .other className
    ("Invalid Mission event schema version " ++ fields.repr schemaVersion ++ " " ++
      describeEvent fields raw)

def missionEventIdNamespace : UUID := ⟨0xa42492d0825a4c3d908c678e4900753b⟩

def deriveLegacyEventId (missionId : UUID) (sequence : Int) : UUID :=
  fields.uuid5 missionEventIdNamespace s!"mission-event:v1:{missionId.str}:{sequence}"

structure MissionEventUpcaster where
  sourceVersion : Int
  targetVersion : Int
  upcast (raw : RawEvent) (context : MissionEventDeserializationContext) :
    Except PyException RawEvent

def missionEventUpcasterV0ToV1 : MissionEventUpcaster where
  sourceVersion := legacyMissionEventSchemaVersion
  targetVersion := 1
  upcast raw _ := .ok (raw.set "schema_version" (.int 1))

def missionEventUpcasterV1ToV2 : MissionEventUpcaster where
  sourceVersion := 1
  targetVersion := 2
  upcast raw context :=
    match context.missionId with
    | none =>
      .error (.other "MissingMissionEventDeserializationContextError"
        "mission_id is required to upcast a legacy Mission event")
    | some missionId =>
      match raw.get? "sequence" with
      | some (.int sequence) =>
        if sequence < 1 then
          .error (.valueError "Legacy Mission event sequence must be positive")
        else
          let upcasted := raw.set "schema_version" (.int 2)
          if (upcasted.get? "event_id").isSome then .ok upcasted
          else
            .ok (upcasted.set "event_id" (.str (deriveLegacyEventId fields missionId sequence).str))
      | _ => .error (.valueError "Legacy Mission event sequence must be positive")

def missionEventUpcasterV2ToV3 : MissionEventUpcaster where
  sourceVersion := 2
  targetVersion := currentMissionEventSchemaVersion
  upcast raw context :=
    match raw.get? "event_id" with
    | none => .error (.other "KeyError" "'event_id'")
    | some value =>
      match fields.uuidOf value with
      | .error error => .error error
      | .ok eventId =>
        let upcasted := raw.set "schema_version" (.int currentMissionEventSchemaVersion)
        let correlated :=
          if (upcasted.get? "correlation_id").isSome then upcasted
          else upcasted.set "correlation_id" (.str (context.previousCorrelationId.getD eventId).str)
        if (correlated.get? "causation_id").isSome then .ok correlated
        else .ok (correlated.set "causation_id" (.ofText (context.previousEventId.map (·.str))))

def defaultMissionEventUpcasters : List MissionEventUpcaster :=
  [missionEventUpcasterV0ToV1, missionEventUpcasterV1ToV2 fields,
    missionEventUpcasterV2ToV3 fields]

def extractSchemaVersion (raw : RawEvent) : Except PyException Int :=
  match raw.get? "schema_version" with
  | none => .ok legacyMissionEventSchemaVersion
  | some (.int version) =>
    if version < 0 then
      .error (schemaVersionError fields "MissionEventSchemaVersionError" raw (some (.int version)))
    else .ok version
  | some value =>
    .error (schemaVersionError fields "MissionEventSchemaVersionError" raw (some value))

/-- The loop of `_upcast_to_current`, for the number of versions still to go. -/
def upcastLoop (raw : RawEvent) (context : MissionEventDeserializationContext) :
    Nat → Int → RawEvent → Except PyException RawEvent
  | 0, _, currentRaw => .ok currentRaw
  | steps + 1, version, currentRaw =>
    match (defaultMissionEventUpcasters fields).find? (·.sourceVersion = version) with
    | none =>
      .error (schemaVersionError fields "MissingMissionEventUpcasterError" raw (some (.int version)))
    | some upcaster =>
      match upcaster.upcast currentRaw context with
      | .error error => .error error
      | .ok upcasted =>
        if upcasted.get? "schema_version" ≠ some (.int upcaster.targetVersion) then
          .error (schemaVersionError fields "InvalidMissionEventUpcastResultError" raw
            (upcasted.get? "schema_version"))
        else upcastLoop raw context steps upcaster.targetVersion upcasted

def upcastToCurrent (raw : RawEvent) (context : MissionEventDeserializationContext) :
    Except PyException RawEvent :=
  match extractSchemaVersion fields raw with
  | .error error => .error error
  | .ok version =>
    if currentMissionEventSchemaVersion < version then
      .error (.other "UnsupportedMissionEventSchemaVersionError"
        (s!"Mission event schema version {version} is newer than supported version " ++
          toString currentMissionEventSchemaVersion ++ " " ++ describeEvent fields raw))
    else
      match upcastLoop fields raw context (currentMissionEventSchemaVersion - version).toNat
          version raw with
      | .error error => .error error
      | .ok currentRaw =>
        if currentRaw.get? "schema_version" ≠ some (.int currentMissionEventSchemaVersion) then
          .error (schemaVersionError fields "InvalidMissionEventUpcastResultError" raw
            (currentRaw.get? "schema_version"))
        else .ok currentRaw

/-- An event of the current version is taken as it is. -/
theorem upcastToCurrent_current {raw : RawEvent} (context : MissionEventDeserializationContext)
    (current : raw.get? "schema_version" = some (.int currentMissionEventSchemaVersion)) :
    upcastToCurrent fields raw context = .ok raw := by
  have version : extractSchemaVersion fields raw = .ok currentMissionEventSchemaVersion := by
    simp only [extractSchemaVersion, current]
    rfl
  simp only [upcastToCurrent, version, Int.lt_irrefl, if_false, Int.sub_self, Int.toNat_zero,
    upcastLoop, current, ne_eq, not_true_eq_false]

end
end PurchaseAgent
