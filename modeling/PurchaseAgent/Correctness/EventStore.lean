import PurchaseAgent.Services.MissionEventSerializer

/-!
The JSON event store read back: an event it returns is stored as it is, at the
current schema version, and returned again whatever the context is.
-/

namespace PurchaseAgent
open Collections MissionEventSerializer

theorem bind_eq_ok {ε α β : Type} {x : Except ε α} {f : α → Except ε β} {b : β}
    (h : (x >>= f) = .ok b) : ∃ a, x = .ok a ∧ f a = .ok b := by
  cases x with
  | error error => cases h
  | ok a => exact ⟨a, rfl, h⟩

theorem jsonMetadata_cons {name : String} {value : PyValue} {rest : List (String × PyValue)} :
    JsonMetadata ((name, value) :: rest) ↔ value.IsJson ∧ JsonMetadata rest := by
  simp only [JsonMetadata, List.forall_mem_cons]

theorem JsonMetadata.nil : JsonMetadata [] := by
  intro field member
  cases member

theorem isJson_dumpAll (providerIds : List ProviderId) : (ProviderId.dumpAll providerIds).IsJson := by
  simp [ProviderId.dumpAll]

theorem ProviderResolutionSnapshot.dump_json (snapshot : ProviderResolutionSnapshot) :
    JsonMetadata snapshot.dump := by
  simp [ProviderResolutionSnapshot.dump, jsonMetadata_cons, JsonMetadata.nil, isJson_dumpAll]

/-- What a payload model dumps is JSON. -/
theorem ProviderHistoryPayload.dump_json (payload : ProviderHistoryPayload) :
    JsonMetadata payload.dump := by
  cases payload with
  | selectionChanged payload =>
      simp [ProviderHistoryPayload.dump, ProviderSelectionChangedEventPayload.dump,
        jsonMetadata_cons, JsonMetadata.nil]
  | resolved payload =>
      cases found : payload.snapshot with
      | none =>
          simp [ProviderHistoryPayload.dump, ProviderResolvedEventPayload.dump, jsonMetadata_cons,
            JsonMetadata.nil, found]
      | some snapshot =>
          have inner := snapshot.dump_json
          simp [ProviderHistoryPayload.dump, ProviderResolvedEventPayload.dump, jsonMetadata_cons,
            JsonMetadata.nil, found]
          exact fun name value member => inner (name, value) member
  | resolutionFailed payload =>
      simp [ProviderHistoryPayload.dump, ProviderResolutionFailedEventPayload.dump,
        jsonMetadata_cons, JsonMetadata.nil, isJson_dumpAll]

/-- An event that its own JSON form keeps. -/
structure Storable (event : ExecutionEvent) : Prop where
  payload : withSerializedPayload event = .ok event
  json : JsonMetadata event.metadata
  eventId : event.eventId ≠ .nil

/-- Normalizing leaves everything but the metadata. -/
theorem withSerializedPayload_ok {event serialized : ExecutionEvent}
    (h : withSerializedPayload event = .ok serialized) :
    withSerializedPayload serialized = .ok serialized ∧ serialized.eventId = event.eventId ∧
      (JsonMetadata event.metadata → JsonMetadata serialized.metadata) := by
  unfold withSerializedPayload at h
  cases known : ProviderHistoryEventType.ofText event.type with
  | some eventType =>
      simp only [known] at h
      obtain ⟨payload, validated, rfl⟩ := exists_of_map_ok h
      have types := ProviderHistoryPayload.eventType_of_validate validated
      refine ⟨?_, rfl, fun _ => payload.dump_json⟩
      have read : ProviderHistoryPayload.validate eventType payload.dump = .ok payload :=
        types ▸ payload.validate_dump
      simp only [withSerializedPayload, known, read]
      rfl
  | none =>
      simp only [known] at h
      split at h
      · cases h
      · rename_i generic
        obtain rfl := Except.ok.inj h
        exact ⟨by simp only [withSerializedPayload, known, if_neg generic], rfl, id⟩

theorem withSerializedPayload_ids {event serialized : ExecutionEvent}
    (h : withSerializedPayload event = .ok serialized) :
    serialized.correlationId = event.correlationId ∧ serialized.causationId = event.causationId ∧
      serialized.sequence = event.sequence := by
  unfold withSerializedPayload at h
  split at h
  · obtain ⟨payload, -, rfl⟩ := exists_of_map_ok h
    exact ⟨rfl, rfl, rfl⟩
  · split at h
    · cases h
    · obtain rfl := Except.ok.inj h
      exact ⟨rfl, rfl, rfl⟩

section
variable (fields : EventFields)

theorem serialize_of_storable {event : ExecutionEvent} (storable : Storable event) :
    MissionEventSerializer.serialize fields event = .ok (dump fields event event.metadata) := by
  simp only [MissionEventSerializer.serialize, writeEvent, storable.payload, storable.json.dump,
    validateEventId, if_neg storable.eventId, bind, Except.bind]
  rfl

theorem optionalField_uuid (id : Option UUID) :
    optionalField fields.parseUUID (.ofText (id.map (·.str))) = .ok id := by
  cases id with
  | none => rfl
  | some id =>
      change (fields.parseUUID (.str id.str)).map some = _
      rw [fields.parseUUID_str]
      rfl

/-- The fields of a dump are read back. -/
theorem validateEvent_dump (newIds : UUID × UUID) (event : ExecutionEvent) :
    validateEvent fields newIds (dump fields event event.metadata) = .ok event := by
  have causationId := optionalField_uuid fields event.causationId
  have sequence_pos : 1 ≤ ((event.sequence : Int)).toNat := event.sequence_pos
  have kept : ((event.sequence : Int)).toNat = event.sequence := rfl
  simp [validateEvent, dump, defaultField, requiredField, Dict.get?, List.lookup_cons,
    fields.parseUUID_str, fields.parseInt_int, fields.parseDatetime_dump, causationId, parseText,
    parseMetadata, bind, Except.bind, event.sequence_pos]

theorem deserialize_dump (newIds : UUID × UUID) (context : MissionEventDeserializationContext)
    {event : ExecutionEvent} (storable : Storable event) :
    MissionEventSerializer.deserialize fields newIds (dump fields event event.metadata) context =
      .ok event := by
  have current : Dict.get? (dump fields event event.metadata) "schema_version" =
      some (.int currentMissionEventSchemaVersion) := by
    simp [dump, Dict.get?, List.lookup_cons]
  simp only [MissionEventSerializer.deserialize, readEvent, upcastToCurrent_current fields context current,
    validateEvent_dump, validateEventId, if_neg storable.eventId, storable.payload, bind,
    Except.bind]

/-- The keys that the upcasters set. -/
def upcastKeys : List String := ["schema_version", "event_id", "correlation_id", "causation_id"]

theorem upcast_get? {context : MissionEventDeserializationContext} {raw upcasted : RawEvent}
    {upcaster : MissionEventUpcaster} (listed : upcaster ∈ defaultMissionEventUpcasters fields)
    (h : upcaster.upcast raw context = .ok upcasted) {name : String} (other : name ∉ upcastKeys) :
    upcasted.get? name = raw.get? name := by
  simp only [upcastKeys, List.mem_cons, List.not_mem_nil, or_false, not_or] at other
  obtain ⟨version, eventId, correlationId, causationId⟩ := other
  simp only [defaultMissionEventUpcasters, List.mem_cons, List.not_mem_nil, or_false] at listed
  rcases listed with rfl | rfl | rfl
  · obtain rfl := Except.ok.inj h
    exact Dict.get?_set_of_ne _ version _
  · simp only [missionEventUpcasterV1ToV2] at h
    split at h
    · cases h
    split at h
    · split at h
      · cases h
      split at h
      · obtain rfl := Except.ok.inj h
        exact Dict.get?_set_of_ne _ version _
      · obtain rfl := Except.ok.inj h
        rw [Dict.get?_set_of_ne _ eventId, Dict.get?_set_of_ne _ version]
    · cases h
  · simp only [missionEventUpcasterV2ToV3] at h
    split at h
    · cases h
    split at h
    · cases h
    split at h <;> split at h <;> obtain rfl := Except.ok.inj h
    all_goals
      simp only [Dict.get?_set_of_ne _ causationId, Dict.get?_set_of_ne _ correlationId,
        Dict.get?_set_of_ne _ version]

theorem upcastLoop_get? {raw current currentRaw : RawEvent}
    {context : MissionEventDeserializationContext} {steps : Nat} {version : Int}
    (h : upcastLoop fields raw context steps version current = .ok currentRaw) {name : String}
    (other : name ∉ upcastKeys) : currentRaw.get? name = current.get? name := by
  induction steps generalizing version current with
  | zero =>
      obtain rfl := Except.ok.inj h
      rfl
  | succ steps ih =>
      simp only [upcastLoop] at h
      split at h
      · cases h
      rename_i upcaster found
      split at h
      · cases h
      rename_i upcasted lifted
      split at h
      · cases h
      rw [ih h]
      exact upcast_get? fields (List.mem_of_find?_eq_some found) lifted other

theorem upcastToCurrent_get? {raw currentRaw : RawEvent}
    {context : MissionEventDeserializationContext}
    (h : upcastToCurrent fields raw context = .ok currentRaw) {name : String}
    (other : name ∉ upcastKeys) : currentRaw.get? name = raw.get? name := by
  unfold upcastToCurrent at h
  split at h
  · cases h
  split at h
  · cases h
  split at h
  · cases h
  rename_i lifted looped
  split at h
  · cases h
  obtain rfl := Except.ok.inj h
  exact upcastLoop_get? fields looped other

/-- What `deserialize` did for an event it returned. -/
theorem deserialize_ok {newIds : UUID × UUID} {raw : RawEvent}
    {context : MissionEventDeserializationContext} {event : ExecutionEvent}
    (h : MissionEventSerializer.deserialize fields newIds raw context = .ok event) :
    ∃ currentRaw validated, upcastToCurrent fields raw context = .ok currentRaw ∧
      validateEvent fields newIds currentRaw = .ok validated ∧ validated.eventId ≠ .nil ∧
        withSerializedPayload validated = .ok event := by
  unfold MissionEventSerializer.deserialize at h
  split at h
  · rename_i restored read
    obtain rfl := Except.ok.inj h
    obtain ⟨currentRaw, lifted, read⟩ := bind_eq_ok read
    obtain ⟨validated, parsed, read⟩ := bind_eq_ok read
    obtain ⟨_, checked, read⟩ := bind_eq_ok read
    refine ⟨currentRaw, validated, lifted, parsed, ?_, read⟩
    intro isNil
    simp only [validateEventId, if_pos isNil] at checked
    cases checked
  · split at h <;> cases h

theorem deserialize_of_current {newIds : UUID × UUID} {raw currentRaw : RawEvent}
    {context : MissionEventDeserializationContext} {validated event : ExecutionEvent}
    (lifted : upcastToCurrent fields raw context = .ok currentRaw)
    (parsed : validateEvent fields newIds currentRaw = .ok validated)
    (notNil : validated.eventId ≠ .nil) (serialized : withSerializedPayload validated = .ok event) :
    MissionEventSerializer.deserialize fields newIds raw context = .ok event := by
  simp only [MissionEventSerializer.deserialize, readEvent, lifted, parsed, validateEventId,
    if_neg notNil, serialized, bind, Except.bind]

/-- An event with both ids draws none. -/
theorem validateEvent_newIds (newIds newIds' : UUID × UUID) {raw : RawEvent}
    (eventId : (raw.get? "event_id").isSome) (correlationId : (raw.get? "correlation_id").isSome) :
    validateEvent fields newIds raw = validateEvent fields newIds' raw := by
  obtain ⟨id, found⟩ := Option.isSome_iff_exists.mp eventId
  obtain ⟨correlation, found'⟩ := Option.isSome_iff_exists.mp correlationId
  simp only [validateEvent, defaultField, found, found']

/-- The fields of a validated event. -/
theorem validateEvent_ok {newIds : UUID × UUID} {raw : RawEvent} {event : ExecutionEvent}
    (h : validateEvent fields newIds raw = .ok event) :
    defaultField raw "event_id" newIds.1 fields.parseUUID = .ok event.eventId ∧
      defaultField raw "correlation_id" newIds.2 fields.parseUUID = .ok event.correlationId ∧
      defaultField raw "causation_id" none (optionalField fields.parseUUID) =
        .ok event.causationId ∧
      (∃ sequence, (requiredField raw "sequence" >>= fields.parseInt) = .ok sequence ∧
        event.sequence = sequence.toNat) ∧
      (requiredField raw "timestamp" >>= fields.parseDatetime) = .ok event.timestamp ∧
      (requiredField raw "type" >>= parseText) = .ok event.type ∧
      (requiredField raw "message" >>= parseText) = .ok event.message ∧
      defaultField raw "metadata" [] parseMetadata = .ok event.metadata := by
  obtain ⟨eventId, readEventId, h⟩ := bind_eq_ok h
  obtain ⟨correlationId, readCorrelationId, h⟩ := bind_eq_ok h
  obtain ⟨causationId, readCausationId, h⟩ := bind_eq_ok h
  obtain ⟨sequence, readSequence, h⟩ := bind_eq_ok h
  obtain ⟨timestamp, readTimestamp, h⟩ := bind_eq_ok h
  obtain ⟨type, readType, h⟩ := bind_eq_ok h
  obtain ⟨message, readMessage, h⟩ := bind_eq_ok h
  obtain ⟨metadata, readMetadata, h⟩ := bind_eq_ok h
  split at h
  · obtain rfl := Except.ok.inj h
    exact ⟨readEventId, readCorrelationId, readCausationId, ⟨sequence, readSequence, rfl⟩,
      readTimestamp, readType, readMessage, readMetadata⟩
  · cases h

theorem json_of_get? {raw : RawEvent} (json : JsonMetadata raw) {name : String} {value : PyValue}
    (found : raw.get? name = some value) : value.IsJson := by
  obtain ⟨before, after, rfl, -⟩ := List.lookup_eq_some_iff.mp found
  exact json (name, value) (by simp)

/-- Whatever version it has, an event that is read can be stored. -/
theorem storable_of_deserialize {newIds : UUID × UUID} {raw : RawEvent}
    {context : MissionEventDeserializationContext} {event : ExecutionEvent}
    (json : JsonMetadata raw)
    (h : MissionEventSerializer.deserialize fields newIds raw context = .ok event) :
    Storable event := by
  obtain ⟨currentRaw, validated, lifted, parsed, notNil, serialized⟩ := deserialize_ok fields h
  obtain ⟨payload, eventId, jsonOf⟩ := withSerializedPayload_ok serialized
  obtain ⟨-, -, -, -, -, -, -, metadata⟩ := validateEvent_ok fields parsed
  refine ⟨payload, jsonOf ?_, eventId ▸ notNil⟩
  unfold defaultField at metadata
  rw [upcastToCurrent_get? fields lifted (by decide)] at metadata
  split at metadata
  · rename_i value found
    have inner := json_of_get? json found
    unfold parseMetadata at metadata
    split at metadata
    · obtain rfl := Except.ok.inj metadata
      exact PyValue.isJson_dict.mp inner
    · cases metadata
  · rw [← Except.ok.inj metadata]
    exact JsonMetadata.nil

namespace MissionJsonEventStore

/-- The persisted form of storable events. -/
def dumps (events : List ExecutionEvent) : List RawEvent :=
  events.map fun event => dump fields event event.metadata

theorem serialize_dumps {events : List ExecutionEvent}
    (storable : ∀ event ∈ events, Storable event) :
    serialize fields events = .ok (dumps fields events) := by
  induction events with
  | nil => rfl
  | cons event rest ih =>
      obtain ⟨first, others⟩ := List.forall_mem_cons.mp storable
      simp only [serialize, serialize_of_storable fields first, ih others]
      rfl

theorem restore_dumps (newIds : Nat → UUID × UUID) (missionId : Option UUID) (index : Nat)
    (previous : Option ExecutionEvent) {events : List ExecutionEvent}
    (storable : ∀ event ∈ events, Storable event) :
    restore fields newIds missionId index previous (dumps fields events) = .ok events := by
  induction events generalizing index previous with
  | nil => rfl
  | cons event rest ih =>
      obtain ⟨first, others⟩ := List.forall_mem_cons.mp storable
      simp only [dumps, List.map_cons, restore, deserialize_dump fields _ _ first]
      rw [show rest.map (fun event => dump fields event event.metadata) = dumps fields rest from rfl,
        ih _ _ others]
      rfl

theorem storable_of_restore {newIds : Nat → UUID × UUID} {missionId : Option UUID} {index : Nat}
    {previous : Option ExecutionEvent} {raws : List RawEvent} {events : List ExecutionEvent}
    (json : ∀ raw ∈ raws, JsonMetadata raw)
    (h : restore fields newIds missionId index previous raws = .ok events) :
    ∀ event ∈ events, Storable event := by
  induction raws generalizing index previous events with
  | nil =>
      obtain rfl := Except.ok.inj h
      simp
  | cons raw rest ih =>
      obtain ⟨here, later⟩ := List.forall_mem_cons.mp json
      simp only [restore] at h
      split at h
      · cases h
      rename_i event read
      obtain ⟨others, restored, rfl⟩ := exists_of_map_ok h
      exact List.forall_mem_cons.mpr ⟨storable_of_deserialize fields here read, ih later restored⟩

theorem deserialize_ok {newIds : Nat → UUID × UUID} {missionId : Option UUID}
    {raws : List RawEvent} {last : Nat} {events : List ExecutionEvent}
    (h : deserialize fields newIds raws last missionId = .ok events) :
    restore fields newIds missionId 0 none raws = .ok events ∧
      validateEventSequence events last = .ok () := by
  unfold deserialize at h
  split at h
  · cases h
  rename_i restored read
  split at h
  · cases h
  rename_i valid
  obtain rfl := Except.ok.inj h
  exact ⟨read, valid⟩

/-- Storable events come back as they were, whatever ids would have been drawn. -/
theorem deserialize_dumps (newIds : Nat → UUID × UUID) (missionId : Option UUID)
    {events : List ExecutionEvent} {last : Nat} (storable : ∀ event ∈ events, Storable event)
    (valid : validateEventSequence events last = .ok ()) :
    deserialize fields newIds (dumps fields events) last missionId = .ok events := by
  simp only [deserialize, restore_dumps fields newIds missionId 0 none storable, valid]

theorem dumps_current {events : List ExecutionEvent} :
    ∀ raw ∈ dumps fields events,
      raw.get? "schema_version" = some (.int currentMissionEventSchemaVersion) := by
  intro raw member
  obtain ⟨event, -, rfl⟩ := List.mem_map.mp member
  simp [dump, Dict.get?, List.lookup_cons]

end MissionJsonEventStore
end
end PurchaseAgent
