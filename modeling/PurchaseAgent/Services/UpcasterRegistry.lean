import PurchaseAgent.Services.MissionEventUpcaster

/-!
Registries of upcasters: what `build_mission_event_upcaster_registry` accepts of a
collection of objects, and the loop that follows a registry from one version to the next.
-/

namespace PurchaseAgent

open Collections

/-- An object of the protocol: its two attributes may hold anything, and so may its answers. -/
structure UpcasterObject where
  sourceVersion : PyValue
  targetVersion : PyValue
  upcast (raw : RawEvent) (context : MissionEventDeserializationContext) : Except PyException PyValue

/-- The integer that a value is, if `type(value) is int`. -/
def PyValue.exactInt : PyValue → Option Int
  | .int n => some n
  | _ => Option.none

/-- `value == n`, where `True == 1`. -/
def PyValue.equalsInt (n : Int) : PyValue → Bool
  | .int m => m = n
  | .bool b => b.toInt = n
  | _ => false

abbrev UpcasterRegistry := Dict Int UpcasterObject

def invalidRegistry (message : String) : PyException :=
  .other "InvalidMissionEventUpcasterRegistryError" message

/-- The source and target versions, if they are adjacent and within the versions. -/
def UpcasterObject.adjacent (upcaster : UpcasterObject) (currentSchemaVersion : Int) : Option Int :=
  upcaster.sourceVersion.exactInt.bind fun source =>
    upcaster.targetVersion.exactInt.bind fun target =>
      if source < legacyMissionEventSchemaVersion ∨ target ≠ source + 1 ∨
        currentSchemaVersion < target then none
      else some source

/-- The loop of `build_mission_event_upcaster_registry`. -/
def registerUpcasters (currentSchemaVersion : Int) (registry : UpcasterRegistry) :
    List UpcasterObject → Except PyException UpcasterRegistry
  | [] => .ok registry
  | upcaster :: rest =>
    match upcaster.adjacent currentSchemaVersion with
    | none => .error (invalidRegistry "Mission event upcasters must form adjacent schema versions")
    | some source =>
      if (registry.get? source).isSome then
        .error (invalidRegistry "Mission event upcaster source versions must be unique")
      else registerUpcasters currentSchemaVersion (registry.set source upcaster) rest

/-- `set(registry) == set(range(legacy, current))`. -/
def coversVersions (registry : UpcasterRegistry) (currentSchemaVersion : Int) : Bool :=
  (registry.all fun entry => decide (legacyMissionEventSchemaVersion ≤ entry.1) &&
    decide (entry.1 < currentSchemaVersion)) &&
  (List.range currentSchemaVersion.toNat).all fun version => (registry.get? version).isSome

def buildMissionEventUpcasterRegistry (upcasters : List UpcasterObject)
    (currentSchemaVersion : PyValue) : Except PyException UpcasterRegistry :=
  match currentSchemaVersion.exactInt with
  | none =>
    .error (invalidRegistry
      "Current Mission event schema version must be a non-negative integer")
  | some current =>
    if current < legacyMissionEventSchemaVersion then
      .error (invalidRegistry
        "Current Mission event schema version must be a non-negative integer")
    else
      match registerUpcasters current [] upcasters with
      | .error error => .error error
      | .ok registry =>
        if coversVersions registry current then .ok registry
        else
          .error (invalidRegistry "Mission event upcasters must form a contiguous version chain")

/-- A mapping, or nothing for a value of another class. -/
def PyValue.mapping : PyValue → Option RawEvent
  | .dict fields => some fields
  | _ => Option.none

/-- `isinstance(raw, Mapping)` and `raw.get("schema_version") == target_version`. -/
def reportsVersion (target : Int) (raw : RawEvent) : Bool :=
  (raw.get? "schema_version").any (PyValue.equalsInt target)

/-- How far the loop has come: the source versions of the upcasters that were called, in
their order, and the version and the event it stands at, or the exception that ended it. -/
structure UpcastRun where
  called : List Int
  result : Except PyException (Int × RawEvent)

/-- One more call in front. -/
def UpcastRun.after (version : Int) (run : UpcastRun) : UpcastRun :=
  { run with called := version :: run.called }

section
variable (fields : EventFields) (registry : UpcasterRegistry) (current : Int) (raw : RawEvent)
  (context : MissionEventDeserializationContext)

/-- One round: the next version and event. The targets in a registry are integers. -/
def upcastOnce (upcaster : UpcasterObject) (currentRaw : RawEvent) :
    Except PyException (Int × RawEvent) :=
  match upcaster.upcast currentRaw context with
  | .error error => .error error
  | .ok upcasted =>
    match upcaster.targetVersion.exactInt, upcasted.mapping with
    | some target, some upcastedRaw =>
      if reportsVersion target upcastedRaw then .ok (target, upcastedRaw)
      else
        .error (schemaVersionError fields "InvalidMissionEventUpcastResultError" raw
          (upcastedRaw.get? "schema_version"))
    | _, _ =>
      .error (schemaVersionError fields "InvalidMissionEventUpcastResultError" raw none)

/-- The loop of `_upcast_to_current`, for as many rounds as there is fuel. -/
def followRegistry : Nat → Int → RawEvent → Option UpcastRun
  | fuel, version, currentRaw =>
    if current ≤ version then some ⟨[], .ok (version, currentRaw)⟩
    else
      match fuel with
      | 0 => none
      | fuel + 1 =>
        match registry.get? version with
        | none =>
          some ⟨[], .error (schemaVersionError fields "MissingMissionEventUpcasterError" raw
            (some (.int version)))⟩
        | some upcaster =>
          match upcastOnce fields raw context upcaster currentRaw with
          | .error error => some ⟨[version], .error error⟩
          | .ok next => (followRegistry fuel next.1 next.2).map (UpcastRun.after version)

end
end PurchaseAgent
