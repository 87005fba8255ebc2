import PurchaseAgent.Collections.Raises
import PurchaseAgent.Correctness.EventFields
import PurchaseAgent.Correctness.EventStore

/-!
The exceptions that reading a persisted event can end with. Everything the
validators and the converters raise is wrapped; a `KeyError` is not, and the
upcaster that indexes `event_id` is the only step that raises one.
-/

namespace PurchaseAgent
open Collections MissionEventSerializer

/-- `MissionEventSerializationError`, `MissionEventSchemaVersionError` and their subclasses. -/
def DeclaredEventError : PyException → Prop
  | .other className _ =>
    className ∈ "MissionEventSerializationError" :: "MissionEventDeserializationError" ::
      schemaVersionErrors
  | _ => False

def IsKeyError : PyException → Prop
  | .other className _ => className = "KeyError"
  | _ => False

def IsValidationError (error : PyException) : Prop := ∃ message, error = validationError message

def IsValueError (error : PyException) : Prop := ∃ message, error = .valueError message

/-- What the handler of `deserialize` catches, or lets through as a schema version error. -/
def Expected (error : PyException) : Prop := ¬ IsKeyError error

/-- The converters raise the errors of their libraries: a `ValidationError` for a model field
and a `ValueError` for `UUID(text)`. -/
structure EventFields.LibraryErrors (fields : EventFields) : Prop where
  parseUUID : ∀ value, Raises IsValidationError (fields.parseUUID value)
  parseInt : ∀ value, Raises IsValidationError (fields.parseInt value)
  parseDatetime : ∀ value, Raises IsValidationError (fields.parseDatetime value)
  uuidOf : ∀ value, Raises IsValueError (fields.uuidOf value)

@[simp] theorem expected_validationError (message : String) : Expected (validationError message) := by
  simp [Expected, IsKeyError, validationError]

theorem expected_valueError (message : String) : Expected (.valueError message) := id

theorem raises_validation {α : Type} {computation : Except PyException α}
    (raises : Raises IsValidationError computation) : Raises Expected computation := by
  refine Raises.mono ?_ raises
  intro error named
  obtain ⟨message, rfl⟩ := named
  exact expected_validationError message

theorem raises_rejected {α : Type} (message : String) :
    Raises Expected (.error (validationError message) : Except PyException α) :=
  Raises.error_iff.mpr (expected_validationError message)

section
variable {α : Type} {parse : PyValue → Except PyException α}

theorem raises_requiredField (raw : List (String × PyValue)) (name : String) :
    Raises Expected (requiredField raw name) := by
  unfold requiredField
  split
  · exact .ok
  · exact raises_rejected _

theorem raises_required (raw : List (String × PyValue)) (name : String)
    (parses : ∀ value, Raises Expected (parse value)) :
    Raises Expected (requiredField raw name >>= parse) :=
  (raises_requiredField raw name).bind parses

theorem raises_defaultField (raw : RawEvent) (name : String) (default : α)
    (parses : ∀ value, Raises Expected (parse value)) :
    Raises Expected (defaultField raw name default parse) := by
  unfold defaultField
  split
  · exact parses _
  · exact .ok

theorem raises_optionalField (parses : ∀ value, Raises Expected (parse value)) (value : PyValue) :
    Raises Expected (optionalField parse value) := by
  cases value
  case none => exact .ok
  all_goals exact (parses _).map some

theorem raises_enumField (text : α → String) (members : List α) (value : PyValue) :
    Raises Expected (enumField text members value) := by
  unfold enumField
  split
  · split
    · exact .ok
    · exact raises_rejected _
  · exact raises_rejected _

end

theorem raises_parseProvider (value : PyValue) : Raises Expected (ProviderId.parse value) := by
  unfold ProviderId.parse
  split
  · split
    · exact raises_rejected _
    · exact .ok
  · exact raises_rejected _

theorem raises_parseProviders (values : List PyValue) :
    Raises Expected (ProviderId.parseAll values) := by
  induction values with
  | nil => exact .ok
  | cons value rest ih =>
      have first := raises_parseProvider value
      simp only [ProviderId.parseAll]
      split
      · exact .ok
      · rename_i error failed
        exact Raises.error_iff.mpr (first error failed)
      · rename_i error failed _
        exact Raises.error_iff.mpr (ih error failed)

theorem raises_parseTuple (value : PyValue) : Raises Expected (ProviderId.parseTuple value) := by
  unfold ProviderId.parseTuple
  split
  · exact raises_parseProviders _
  · exact raises_parseProviders _
  · exact raises_rejected _

namespace ProviderResolutionSnapshot

theorem raises_create (selectionMode : ProviderSelectionMode) (requested : Option ProviderId)
    (resolved : ProviderId) (candidates : List ProviderId) (missionType : MissionType) :
    Raises Expected (create selectionMode requested resolved candidates missionType) := by
  unfold create
  split_ifs <;> simp

theorem raises_validate (value : PyValue) : Raises Expected (validate value) := by
  unfold validate
  split
  · apply (raises_required _ _ (raises_enumField _ _)).bind
    intro selectionMode
    apply (raises_required _ _ (raises_optionalField raises_parseProvider)).bind
    intro requested
    apply (raises_required _ _ raises_parseProvider).bind
    intro resolved
    apply (raises_required _ _ raises_parseTuple).bind
    intro candidates
    apply (raises_required _ _ (raises_enumField _ _)).bind
    intro missionType
    exact raises_create selectionMode requested resolved candidates missionType
  · exact raises_rejected _

end ProviderResolutionSnapshot

theorem ProviderResolvedEventPayload.raises_validate (metadata : List (String × PyValue)) :
    Raises Expected (ProviderResolvedEventPayload.validate metadata) := by
  unfold ProviderResolvedEventPayload.validate
  apply (raises_required _ _ raises_parseProvider).bind
  intro providerId
  apply (raises_required _ _ (raises_enumField _ _)).bind
  intro missionType
  apply (raises_required _ _ (raises_enumField _ _)).bind
  intro selectionMode
  apply (raises_optionalField ProviderResolutionSnapshot.raises_validate _).bind
  intro snapshot
  unfold ProviderResolvedEventPayload.create
  split_ifs <;> simp

theorem ProviderResolutionFailedEventPayload.raises_validate (metadata : List (String × PyValue)) :
    Raises Expected (ProviderResolutionFailedEventPayload.validate metadata) := by
  unfold ProviderResolutionFailedEventPayload.validate
  apply (raises_required _ _ (raises_enumField _ _)).bind
  intro reason
  apply (raises_required _ _ (raises_enumField _ _)).bind
  intro missionType
  apply (raises_optionalField raises_parseProvider _).bind
  intro requested
  apply (raises_parseTuple _).bind
  intro candidates
  unfold ProviderResolutionFailedEventPayload.create
  split_ifs <;> simp

theorem ProviderSelectionChangedEventPayload.raises_validate (metadata : List (String × PyValue)) :
    Raises Expected (ProviderSelectionChangedEventPayload.validate metadata) := by
  unfold ProviderSelectionChangedEventPayload.validate
  apply (raises_required _ _ (raises_optionalField raises_parseProvider)).bind
  intro previous
  apply (raises_required _ _ (raises_optionalField raises_parseProvider)).bind
  intro new
  apply (raises_required _ _ (raises_enumField _ _)).bind
  intro previousMode
  apply (raises_required _ _ (raises_enumField _ _)).bind
  intro newMode
  unfold ProviderSelectionChangedEventPayload.create
  split_ifs <;> simp

theorem raises_payload (eventType : ProviderHistoryEventType)
    (metadata : List (String × PyValue)) :
    Raises Expected (ProviderHistoryPayload.validate eventType metadata) := by
  cases eventType with
  | providerSelectionChanged =>
      exact (ProviderSelectionChangedEventPayload.raises_validate metadata).map _
  | providerResolved => exact (ProviderResolvedEventPayload.raises_validate metadata).map _
  | providerResolutionFailed =>
      exact (ProviderResolutionFailedEventPayload.raises_validate metadata).map _

theorem raises_withSerializedPayload (event : ExecutionEvent) :
    Raises Expected (withSerializedPayload event) := by
  unfold withSerializedPayload
  split
  · exact (raises_payload _ _).map _
  · split
    · exact Raises.error_iff.mpr (expected_valueError _)
    · exact .ok

theorem raises_validateEventId (eventId : UUID) : Raises Expected (validateEventId eventId) := by
  unfold validateEventId
  split
  · exact Raises.error_iff.mpr (expected_valueError _)
  · exact .ok

theorem raises_parseText (value : PyValue) : Raises Expected (parseText value) := by
  cases value
  case str => exact .ok
  all_goals exact raises_rejected _

theorem raises_parseMetadata (value : PyValue) : Raises Expected (parseMetadata value) := by
  cases value
  case dict => exact .ok
  all_goals exact raises_rejected _

section
variable {fields : EventFields}

theorem EventFields.LibraryErrors.raises_uuidOf (library : fields.LibraryErrors)
    (value : PyValue) : Raises Expected (fields.uuidOf value) := by
  refine Raises.mono ?_ (library.uuidOf value)
  intro error named
  obtain ⟨message, rfl⟩ := named
  exact expected_valueError message

theorem raises_validateEvent (library : fields.LibraryErrors) (newIds : UUID × UUID)
    (raw : RawEvent) : Raises Expected (validateEvent fields newIds raw) := by
  have uuids := fun value => raises_validation (library.parseUUID value)
  have ints := fun value => raises_validation (library.parseInt value)
  have datetimes := fun value => raises_validation (library.parseDatetime value)
  unfold validateEvent
  apply (raises_defaultField raw _ _ uuids).bind
  intro eventId
  apply (raises_defaultField raw _ _ uuids).bind
  intro correlationId
  apply (raises_defaultField raw _ _ (raises_optionalField uuids)).bind
  intro causationId
  apply (raises_required _ _ ints).bind
  intro sequence
  apply (raises_required _ _ datetimes).bind
  intro timestamp
  apply (raises_required _ _ raises_parseText).bind
  intro type
  apply (raises_required _ _ raises_parseText).bind
  intro message
  apply (raises_defaultField raw _ _ raises_parseMetadata).bind
  intro metadata
  split_ifs <;> simp

/-- An event of version 2 is told by its id; a version below gets one on the way. -/
def Identified (version : Int) (raw : RawEvent) : Prop :=
  version = 2 → (raw.get? "event_id").isSome

/-- What one upcaster can raise, and what it leaves for the next one. -/
theorem upcast_identified (library : fields.LibraryErrors)
    (context : MissionEventDeserializationContext) {upcaster : MissionEventUpcaster}
    (listed : upcaster ∈ defaultMissionEventUpcasters fields) {raw : RawEvent}
    (identified : Identified upcaster.sourceVersion raw) :
    Raises Expected (upcaster.upcast raw context) ∧
      ∀ upcasted, upcaster.upcast raw context = .ok upcasted →
        Identified upcaster.targetVersion upcasted := by
  simp only [defaultMissionEventUpcasters, List.mem_cons, List.not_mem_nil, or_false] at listed
  obtain rfl | rfl | rfl := listed
  · refine ⟨.ok, ?_⟩
    intro upcasted _ impossible
    cases impossible
  · simp only [missionEventUpcasterV1ToV2]
    split
    · exact ⟨Raises.error_iff.mpr (by simp [Expected, IsKeyError]), fun _ impossible => by cases impossible⟩
    split
    · split
      · exact ⟨Raises.error_iff.mpr (expected_valueError _), fun _ impossible => by cases impossible⟩
      split
      · rename_i present
        refine ⟨.ok, ?_⟩
        intro upcasted same _
        obtain rfl := Except.ok.inj same
        exact present
      · refine ⟨.ok, ?_⟩
        intro upcasted same _
        obtain rfl := Except.ok.inj same
        rw [Dict.get?_set_self]
        rfl
    · exact ⟨Raises.error_iff.mpr (expected_valueError _), fun _ impossible => by cases impossible⟩
  · refine ⟨?_, fun upcasted _ impossible => by cases impossible⟩
    obtain ⟨value, present⟩ := Option.isSome_iff_exists.mp (identified rfl)
    simp only [missionEventUpcasterV2ToV3, present]
    split
    · rename_i error failed
      exact Raises.error_iff.mpr (library.raises_uuidOf value error failed)
    · split_ifs <;> exact .ok

theorem expected_schemaVersionError {className : String} (listed : className ∈ schemaVersionErrors)
    (raw : RawEvent) (schemaVersion : Option PyValue) :
    Expected (schemaVersionError fields className raw schemaVersion) := by
  intro keyError
  have same : className = "KeyError" := keyError
  rw [same] at listed
  revert listed
  decide

theorem raises_upcastLoop (library : fields.LibraryErrors)
    (context : MissionEventDeserializationContext) (raw : RawEvent) (steps : Nat) (version : Int)
    (current : RawEvent) (identified : Identified version current) :
    Raises Expected (upcastLoop fields raw context steps version current) := by
  induction steps generalizing version current with
  | zero => exact .ok
  | succ steps ih =>
      simp only [upcastLoop]
      split
      · exact Raises.error_iff.mpr (expected_schemaVersionError (by decide) raw _)
      rename_i upcaster found
      have source : upcaster.sourceVersion = version := by simpa using List.find?_some found
      obtain ⟨raises, next⟩ := upcast_identified library context
        (List.mem_of_find?_eq_some found) (source ▸ identified)
      split
      · rename_i error failed
        exact Raises.error_iff.mpr (raises error failed)
      rename_i upcasted lifted
      split
      · exact Raises.error_iff.mpr (expected_schemaVersionError (by decide) raw _)
      · exact ih _ _ (next upcasted lifted)

/-- Only an event that says version 2 is taken to be of version 2. -/
theorem extractSchemaVersion_two {raw : RawEvent}
    (extracted : extractSchemaVersion fields raw = .ok 2) :
    raw.get? "schema_version" = some (.int 2) := by
  unfold extractSchemaVersion at extracted
  split at extracted
  · cases extracted
  · rename_i version found
    split at extracted
    · cases extracted
    · rw [found, Except.ok.inj extracted]
  · cases extracted

/-- The event of version 2 that has no id. -/
def LacksEventId (raw : RawEvent) : Prop :=
  raw.get? "schema_version" = some (.int 2) ∧ raw.get? "event_id" = none

theorem raises_upcastToCurrent (library : fields.LibraryErrors) {raw : RawEvent}
    (context : MissionEventDeserializationContext) (complete : ¬ LacksEventId raw) :
    Raises Expected (upcastToCurrent fields raw context) := by
  unfold upcastToCurrent
  split
  · rename_i error failed
    unfold extractSchemaVersion at failed
    split at failed
    · cases failed
    · split at failed
      · obtain rfl := Except.error.inj failed
        exact Raises.error_iff.mpr (expected_schemaVersionError (by decide) raw _)
      · cases failed
    · obtain rfl := Except.error.inj failed
      exact Raises.error_iff.mpr (expected_schemaVersionError (by decide) raw _)
  rename_i version extracted
  split
  · exact Raises.error_iff.mpr (by decide : ¬ "UnsupportedMissionEventSchemaVersionError" = "KeyError")
  have identified : Identified version raw := by
    intro two
    have found := extractSchemaVersion_two (two ▸ extracted)
    by_contra missing
    exact complete ⟨found, Option.not_isSome_iff_eq_none.mp missing⟩
  split
  · rename_i error failed
    exact Raises.error_iff.mpr
      (raises_upcastLoop library context raw _ version raw identified error failed)
  · split
    · exact Raises.error_iff.mpr (expected_schemaVersionError (by decide) raw _)
    · exact .ok

/-- The index of the missing key is the error of the whole reading. -/
theorem upcastToCurrent_lacking {raw : RawEvent} (lacking : LacksEventId raw)
    (context : MissionEventDeserializationContext) :
    upcastToCurrent fields raw context = .error (.other "KeyError" "'event_id'") := by
  obtain ⟨version, eventId⟩ := lacking
  have extracted : extractSchemaVersion fields raw = .ok 2 := by
    simp only [extractSchemaVersion, version]
    rfl
  have found : (defaultMissionEventUpcasters fields).find? (·.sourceVersion = 2) =
      some (missionEventUpcasterV2ToV3 fields) := rfl
  have raised : (missionEventUpcasterV2ToV3 fields).upcast raw context =
      .error (.other "KeyError" "'event_id'") := by
    simp only [missionEventUpcasterV2ToV3, eventId]
  have steps : (currentMissionEventSchemaVersion - 2).toNat = 1 := rfl
  have supported : ¬ currentMissionEventSchemaVersion < 2 := by decide
  simp only [upcastToCurrent, extracted, if_neg supported, steps, upcastLoop, found, raised]

theorem raises_readEvent (library : fields.LibraryErrors) (newIds : UUID × UUID) {raw : RawEvent}
    (context : MissionEventDeserializationContext) (complete : ¬ LacksEventId raw) :
    Raises Expected (readEvent fields newIds raw context) := by
  unfold readEvent
  apply (raises_upcastToCurrent library context complete).bind
  intro currentRaw
  apply (raises_validateEvent library newIds currentRaw).bind
  intro event
  apply (raises_validateEventId event.eventId).bind
  intro _
  exact raises_withSerializedPayload event

/-- What is let through or wrapped is declared, but for a `KeyError`. -/
theorem declared_of_expected {error : PyException} (expected : Expected error)
    (through : passesThrough error) : DeclaredEventError error := by
  cases error with
  | other className message =>
      have listed : className ∈ "KeyError" :: schemaVersionErrors := by
        simpa [passesThrough] using through
      obtain same | declared := List.mem_cons.mp listed
      · exact absurd same expected
      · exact List.mem_cons_of_mem _ (List.mem_cons_of_mem _ declared)
  | _ => cases through

end

/-- Reading an event fails in a declared way exactly when it is not an event of schema version 2
without an `event_id`: that one raises the `KeyError` of its upcaster. -/
theorem deserialize_declared_iff (fields : EventFields) (library : fields.LibraryErrors)
    (newIds : UUID × UUID) (raw : RawEvent) (context : MissionEventDeserializationContext) :
    Raises DeclaredEventError (deserialize fields newIds raw context) ↔ ¬ LacksEventId raw := by
  constructor
  · intro declared lacking
    have read : readEvent fields newIds raw context = .error (.other "KeyError" "'event_id'") := by
      rw [readEvent, upcastToCurrent_lacking lacking context]
      rfl
    have raised : deserialize fields newIds raw context =
        .error (.other "KeyError" "'event_id'") := by
      simp only [deserialize, read]
      rfl
    have listed : DeclaredEventError (.other "KeyError" "'event_id'") := declared _ raised
    revert listed
    simp [DeclaredEventError, schemaVersionErrors]
  · intro complete
    unfold deserialize
    split
    · exact .ok
    · rename_i error failed
      have expected := raises_readEvent library newIds context complete error failed
      split
      · rename_i through
        exact Raises.error_iff.mpr (declared_of_expected expected through)
      · refine Raises.error_iff.mpr ?_
        exact List.mem_cons_of_mem _ List.mem_cons_self

theorem plain_libraryErrors (uuid5 : UUID → String → UUID) :
    (EventFields.plain uuid5).LibraryErrors := by
  constructor
  all_goals
    intro value
    cases value
    all_goals simp [EventFields.plain, IsValidationError, IsValueError, validationError]

/-- An event of the current version with no field is rejected as declared. -/
theorem empty_event_declared :
    Raises DeclaredEventError (deserialize (EventFields.plain fun _ _ => .nil) (.nil, .nil)
      [("schema_version", .int 3)] {}) :=
  (deserialize_declared_iff _ (plain_libraryErrors _) (.nil, .nil) _ {}).mpr
    (by simp [LacksEventId, Dict.get?])

/-- An event of version 2 without an id. -/
def unidentifiedEvent : RawEvent := [("schema_version", .int 2)]

theorem unidentified_event_raises :
    deserialize (EventFields.plain fun _ _ => .nil) (.nil, .nil) unidentifiedEvent {} =
        .error (.other "KeyError" "'event_id'") ∧
      ¬ DeclaredEventError (.other "KeyError" "'event_id'") := by
  refine ⟨rfl, ?_⟩
  simp [DeclaredEventError, schemaVersionErrors]

end PurchaseAgent
