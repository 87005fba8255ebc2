import PurchaseAgent.Correctness.EventChain
import PurchaseAgent.Correctness.ProviderHistory
import PurchaseAgent.Storage.SqlMissionEvents

/-!
The migration that fills the table of mission events copies the stored events as
they are, and its reader reads each of them alone. An event of an old version
then has no event before it to take its ids from.
-/

namespace PurchaseAgent
open Collections MissionEventSerializer SqlMissionEvents

section
variable {fields : EventFields}

/-- What the step from version 2 makes of an event, for the ids it links it with. -/
def linkIds (raw : RawEvent) (correlationId : UUID) (causationId : Option UUID) : RawEvent :=
  ((raw.set "schema_version" (.int currentMissionEventSchemaVersion)).setDefault "correlation_id"
    (.str correlationId.str)).setDefault "causation_id" (.ofText (causationId.map (·.str)))

theorem upcastV2ToV3_ok {raw upcasted : RawEvent} {context : MissionEventDeserializationContext}
    (h : (missionEventUpcasterV2ToV3 fields).upcast raw context = .ok upcasted) :
    ∃ value eventId, raw.get? "event_id" = some value ∧ fields.uuidOf value = .ok eventId ∧
      ∀ context' : MissionEventDeserializationContext,
        (missionEventUpcasterV2ToV3 fields).upcast raw context' =
          .ok (linkIds raw (context'.previousCorrelationId.getD eventId)
            context'.previousEventId) := by
  simp only [missionEventUpcasterV2ToV3] at h
  split at h
  · cases h
  rename_i value found
  split at h
  · cases h
  rename_i eventId read
  refine ⟨value, eventId, found, read, fun context' => ?_⟩
  simp only [missionEventUpcasterV2ToV3, found, read, linkIds, Dict.setDefault]
  split <;> split <;> rfl

/-- The keys of a linked event. -/
theorem linkIds_get? (raw : RawEvent) (correlationId : UUID) (causationId : Option UUID) :
    (linkIds raw correlationId causationId).get? "schema_version" =
        some (.int currentMissionEventSchemaVersion) ∧
      (linkIds raw correlationId causationId).get? "event_id" = raw.get? "event_id" ∧
      (linkIds raw correlationId causationId).get? "correlation_id" =
        some ((raw.get? "correlation_id").getD (.str correlationId.str)) ∧
      (linkIds raw correlationId causationId).get? "causation_id" =
        some ((raw.get? "causation_id").getD (.ofText (causationId.map (·.str)))) := by
  unfold linkIds
  refine ⟨?_, ?_, ?_, ?_⟩
  · rw [Dict.get?_setDefault_of_ne _ (by decide), Dict.get?_setDefault_of_ne _ (by decide),
      Dict.get?_set_self]
  · rw [Dict.get?_setDefault_of_ne _ (by decide), Dict.get?_setDefault_of_ne _ (by decide),
      Dict.get?_set_of_ne _ (by decide)]
  · rw [Dict.get?_setDefault_of_ne _ (by decide), Dict.get?_setDefault_self,
      Dict.get?_set_of_ne _ (by decide)]
  · rw [Dict.get?_setDefault_self, Dict.get?_setDefault_of_ne _ (by decide),
      Dict.get?_set_of_ne _ (by decide)]

/-- Ids that the event has, or that are the same, make no difference. -/
theorem linkIds_congr {raw : RawEvent} {correlationId correlationId' : UUID}
    {causationId causationId' : Option UUID}
    (correlated : (raw.get? "correlation_id").isSome ∨ correlationId = correlationId')
    (caused : (raw.get? "causation_id").isSome ∨ causationId = causationId') :
    linkIds raw correlationId causationId = linkIds raw correlationId' causationId' := by
  have first : ∀ id : UUID, (raw.get? "correlation_id").isSome →
      (raw.set "schema_version" (.int currentMissionEventSchemaVersion)).setDefault
        "correlation_id" (.str id.str) =
      raw.set "schema_version" (.int currentMissionEventSchemaVersion) := fun id has =>
    Dict.setDefault_of_isSome (by rwa [Dict.get?_set_of_ne _ (by decide)]) _
  have second : ∀ (id : UUID) (cause : Option UUID), (raw.get? "causation_id").isSome →
      linkIds raw id cause =
        (raw.set "schema_version" (.int currentMissionEventSchemaVersion)).setDefault
          "correlation_id" (.str id.str) := fun id cause has =>
    Dict.setDefault_of_isSome (by
      rwa [Dict.get?_setDefault_of_ne _ (by decide), Dict.get?_set_of_ne _ (by decide)]) _
  rcases caused with has | rfl
  · rw [second _ _ has, second _ _ has]
    rcases correlated with has' | rfl
    · rw [first _ has', first _ has']
    · rfl
  · rcases correlated with has' | rfl
    · unfold linkIds
      rw [first _ has', first _ has']
    · rfl

/-- An earlier step only counts the version up, if the event has an id. -/
theorem upcast_early {raw upcasted : RawEvent} {context : MissionEventDeserializationContext}
    {upcaster : MissionEventUpcaster}
    (early : upcaster = missionEventUpcasterV0ToV1 ∨ upcaster = missionEventUpcasterV1ToV2 fields)
    (identified : (raw.get? "event_id").isSome) (h : upcaster.upcast raw context = .ok upcasted) :
    upcasted = raw.set "schema_version" (.int upcaster.targetVersion) ∧
      ∀ context' : MissionEventDeserializationContext, context'.missionId = context.missionId →
        upcaster.upcast raw context' = .ok upcasted := by
  rcases early with rfl | rfl
  · obtain rfl := Except.ok.inj h
    exact ⟨rfl, fun _ _ => rfl⟩
  · simp only [missionEventUpcasterV1ToV2] at h ⊢
    split at h
    · cases h
    rename_i missionId owner
    split at h
    · rename_i sequence counted
      split at h
      · cases h
      rename_i positive
      rw [Dict.get?_set_of_ne _ (by decide), if_pos identified] at h
      obtain rfl := Except.ok.inj h
      refine ⟨rfl, fun context' same => ?_⟩
      rw [same, owner]
      simp only [if_neg positive]
      rw [Dict.get?_set_of_ne _ (by decide), if_pos identified]
    · cases h

/-- The loop from an old version is the last step, on an event with the same ids
whatever the previous event is. -/
theorem upcastLoop_ok {raw current result : RawEvent} {context : MissionEventDeserializationContext}
    {steps : Nat} {version : Int}
    (rest : version + (steps + 1 : Nat) = currentMissionEventSchemaVersion)
    (identified : (current.get? "event_id").isSome)
    (h : upcastLoop fields raw context (steps + 1) version current = .ok result) :
    ∃ final : RawEvent,
      (∀ name ∈ ["event_id", "correlation_id", "causation_id"],
        final.get? name = current.get? name) ∧
      (missionEventUpcasterV2ToV3 fields).upcast final context = .ok result ∧
      ∀ context' : MissionEventDeserializationContext, context'.missionId = context.missionId →
        ∀ result', (missionEventUpcasterV2ToV3 fields).upcast final context' = .ok result' →
          upcastLoop fields raw context' (steps + 1) version current = .ok result' := by
  induction steps generalizing version current with
  | zero =>
      obtain rfl : version = 2 := by simp only [currentMissionEventSchemaVersion] at rest; omega
      have last : ∀ context' result',
          (missionEventUpcasterV2ToV3 fields).upcast current context' = .ok result' →
            upcastLoop fields raw context' (0 + 1) 2 current = .ok result' := by
        intro context' result' lifted
        obtain ⟨value, eventId, -, -, linked⟩ := upcastV2ToV3_ok lifted
        have version : result'.get? "schema_version" =
            some (.int currentMissionEventSchemaVersion) := by
          rw [linked context'] at lifted
          obtain rfl := Except.ok.inj lifted
          exact (linkIds_get? _ _ _).1
        rw [upcastLoop]
        have found : (defaultMissionEventUpcasters fields).find? (·.sourceVersion = 2) =
            some (missionEventUpcasterV2ToV3 fields) := rfl
        simp only [found, lifted]
        exact if_neg fun differs => differs version
      refine ⟨current, fun _ _ => rfl, ?_, fun context' _ => last context'⟩
      rw [upcastLoop] at h
      split at h
      · cases h
      rename_i upcaster found
      obtain rfl := Option.some.inj found
      split at h
      · cases h
      rename_i upcasted lifted
      split at h
      · cases h
      obtain rfl := Except.ok.inj h
      exact lifted
  | succ steps ih =>
      rw [upcastLoop] at h
      split at h
      · cases h
      rename_i upcaster found
      obtain ⟨early, target⟩ := early_upcaster rest found
      split at h
      · cases h
      rename_i upcasted lifted
      obtain ⟨rfl, again⟩ := upcast_early early identified lifted
      split at h
      · cases h
      rename_i kept
      have rest' : upcaster.targetVersion + (steps + 1 : Nat) =
          currentMissionEventSchemaVersion := by
        rw [target]
        simp only [currentMissionEventSchemaVersion] at rest ⊢
        omega
      obtain ⟨final, same, lifted', others⟩ :=
        ih rest' (by rwa [Dict.get?_set_of_ne _ (by decide)]) h
      refine ⟨final, fun name listed => ?_, lifted', fun context' owner result' linked => ?_⟩
      · rw [same name listed, Dict.get?_set_of_ne]
        simp only [List.mem_cons, List.not_mem_nil, or_false] at listed
        rcases listed with rfl | rfl | rfl <;> decide
      · rw [upcastLoop]
        simp only [found, again context' owner]
        rw [if_neg kept]
        exact others context' owner result' linked

/-- The event of an old version, with the ids that its context gives it. -/
theorem upcast_contexts {raw result : RawEvent} {context : MissionEventDeserializationContext}
    {version : Int} (extracted : extractSchemaVersion fields raw = .ok version) (old : version ≤ 2)
    (identified : (raw.get? "event_id").isSome)
    (h : upcastToCurrent fields raw context = .ok result) :
    ∃ final value eventId,
      (∀ name ∈ ["event_id", "correlation_id", "causation_id"],
        Dict.get? final name = raw.get? name) ∧
      raw.get? "event_id" = some value ∧ fields.uuidOf value = .ok eventId ∧
      ∀ context' : MissionEventDeserializationContext, context'.missionId = context.missionId →
        upcastToCurrent fields raw context' =
          .ok (linkIds final (context'.previousCorrelationId.getD eventId)
            context'.previousEventId) := by
  have supported : ¬ currentMissionEventSchemaVersion < version := by
    simp only [currentMissionEventSchemaVersion]
    omega
  have steps : (currentMissionEventSchemaVersion - version).toNat = (2 - version).toNat + 1 := by
    simp only [currentMissionEventSchemaVersion]
    omega
  have rest : version + ((2 - version).toNat + 1 : Nat) = currentMissionEventSchemaVersion := by
    simp only [currentMissionEventSchemaVersion]
    omega
  unfold upcastToCurrent at h ⊢
  simp only [extracted, if_neg supported, steps] at h ⊢
  split at h
  · cases h
  rename_i lifted looped
  obtain ⟨final, same, last, others⟩ := upcastLoop_ok rest identified looped
  obtain ⟨value, eventId, found, read, linked⟩ := upcastV2ToV3_ok last
  refine ⟨final, value, eventId, same, ?_, read, fun context' owner => ?_⟩
  · rw [← same "event_id" (by simp), found]
  · rw [others context' owner _ (linked context')]
    exact if_neg fun differs => differs (linkIds_get? _ _ _).1

/-- An event that the reader of the projection takes for what it is: it carries
the ids it would take from the event before it, unless there is none. -/
def ReadsAlone (fields : EventFields) (previous : Option ExecutionEvent) (raw : RawEvent) : Prop :=
  ∃ version, extractSchemaVersion fields raw = .ok version ∧
    if version ≤ 2 then
      ∀ earlier ∈ previous, (raw.get? "causation_id").isSome ∧
        ((raw.get? "correlation_id").isSome ∨
          ∃ value, raw.get? "event_id" = some value ∧
            fields.uuidOf value = .ok earlier.correlationId)
    else (raw.get? "correlation_id").isSome

/-- The ids of an event that was read from a linked one. -/
theorem ids_of_linked {newIds : UUID × UUID} {final : RawEvent} {correlationId : UUID}
    {causationId : Option UUID} {validated event : ExecutionEvent}
    (parsed : validateEvent fields newIds (linkIds final correlationId causationId) = .ok validated)
    (serialized : withSerializedPayload validated = .ok event) :
    (final.get? "correlation_id" = none → event.correlationId = correlationId) ∧
      (final.get? "causation_id" = none → event.causationId = causationId) := by
  obtain ⟨-, -, correlated, caused⟩ := linkIds_get? final correlationId causationId
  obtain ⟨-, readCorrelationId, readCausationId, -⟩ := validateEvent_ok fields parsed
  obtain ⟨correlation, causation, -⟩ := withSerializedPayload_ids serialized
  constructor
  · intro missing
    simp only [defaultField, correlated, missing, Option.getD_none, fields.parseUUID_str,
      Except.ok.injEq] at readCorrelationId
    rw [correlation, readCorrelationId]
  · intro missing
    simp only [defaultField, caused, missing, Option.getD_none, optionalField_uuid,
      Except.ok.injEq] at readCausationId
    rw [causation, readCausationId]

section
variable {raw : RawEvent} {event : ExecutionEvent} {previous : Option ExecutionEvent}
  {missionId : UUID} {newIds : UUID × UUID} {index : Nat}

theorem reads_alone_old {version : Int} (extracted : extractSchemaVersion fields raw = .ok version)
    (old : version ≤ 2) (identified : (raw.get? "event_id").isSome)
    (read : MissionEventSerializer.deserialize fields newIds raw ⟨some missionId, some index,
      previous.map (·.eventId), previous.map (·.correlationId)⟩ = .ok event) :
    (∀ newIds', MissionEventSerializer.deserialize fields newIds' raw
      ⟨some missionId, some 0, none, none⟩ = .ok event) ↔ ReadsAlone fields previous raw := by
  obtain ⟨currentRaw, validated, lifted, parsed, notNil, serialized⟩ := deserialize_ok fields read
  obtain ⟨final, value, eventId, same, found, readId, contexts⟩ :=
    upcast_contexts extracted old identified lifted
  rw [contexts _ rfl] at lifted
  obtain rfl := Except.ok.inj lifted
  have alone := contexts ⟨some missionId, some 0, none, none⟩ rfl
  have correlationKey := same "correlation_id" (by simp)
  have causationKey := same "causation_id" (by simp)
  obtain ⟨correlation, causation⟩ := ids_of_linked parsed serialized
  constructor
  · intro others
    refine ⟨version, extracted, ?_⟩
    rw [if_pos old]
    intro earlier before
    obtain rfl : previous = some earlier := before
    obtain ⟨_, validated', lifted', parsed', -, serialized'⟩ :=
      deserialize_ok fields (others newIds)
    rw [alone] at lifted'
    obtain rfl := Except.ok.inj lifted'
    obtain ⟨correlation', causation'⟩ := ids_of_linked parsed' serialized'
    constructor
    · by_contra missing
      have missing : final.get? "causation_id" = none := by
        rw [causationKey]
        simpa using missing
      have differs := (causation missing).symm.trans (causation' missing)
      cases differs
    · by_contra neither
      obtain ⟨missing, differs⟩ := not_or.mp neither
      have missing : final.get? "correlation_id" = none := by
        rw [correlationKey]
        simpa using missing
      refine differs ⟨value, found, ?_⟩
      rw [readId]
      exact congrArg Except.ok ((correlation' missing).symm.trans (correlation missing))
  · intro carries newIds'
    obtain ⟨version', extracted', carries⟩ := carries
    rw [extracted] at extracted'
    obtain rfl := Except.ok.inj extracted'
    rw [if_pos old] at carries
    have linked : linkIds final (Option.getD none eventId) none =
        linkIds final ((previous.map (·.correlationId)).getD eventId)
          (previous.map (·.eventId)) := by
      cases previous with
      | none => rfl
      | some earlier =>
          obtain ⟨caused, correlated⟩ := carries earlier rfl
          refine linkIds_congr ?_ (.inl (by rwa [causationKey]))
          rcases correlated with has | ⟨value', found', readId'⟩
          · exact .inl (by rwa [correlationKey])
          · rw [found] at found'
            obtain rfl := Option.some.inj found'
            rw [readId] at readId'
            exact .inr (Except.ok.inj readId')
    refine deserialize_of_current fields (alone.trans (congrArg Except.ok linked)) ?_ notNil
      serialized
    obtain ⟨-, identity, correlated, -⟩ := linkIds_get? final
      ((previous.map (·.correlationId)).getD eventId) (previous.map (·.eventId))
    rw [validateEvent_newIds fields newIds' newIds]
    · exact parsed
    · rwa [identity, same "event_id" (by simp)]
    · rw [correlated]
      rfl

/-- An event of the current version is read alike in every context, but for the
ids that are drawn for it. -/
theorem reads_alone_current
    (current : raw.get? "schema_version" = some (.int currentMissionEventSchemaVersion))
    (identified : (raw.get? "event_id").isSome)
    (read : MissionEventSerializer.deserialize fields newIds raw ⟨some missionId, some index,
      previous.map (·.eventId), previous.map (·.correlationId)⟩ = .ok event) :
    (∀ newIds', MissionEventSerializer.deserialize fields newIds' raw
      ⟨some missionId, some 0, none, none⟩ = .ok event) ↔ ReadsAlone fields previous raw := by
  have extracted : extractSchemaVersion fields raw = .ok currentMissionEventSchemaVersion := by
    simp only [extractSchemaVersion, current]
    rfl
  have lifts := fun context => upcastToCurrent_current fields context current
  obtain ⟨currentRaw, validated, lifted, parsed, notNil, serialized⟩ := deserialize_ok fields read
  rw [lifts] at lifted
  obtain rfl := Except.ok.inj lifted
  have newer : ¬ currentMissionEventSchemaVersion ≤ 2 := by decide
  constructor
  · intro others
    refine ⟨_, extracted, ?_⟩
    rw [if_neg newer]
    by_contra missing
    have missing : raw.get? "correlation_id" = none := by simpa using missing
    have drawn : ∀ correlationId : UUID, event.correlationId = correlationId := by
      intro correlationId
      obtain ⟨_, validated', lifted', parsed', -, serialized'⟩ :=
        deserialize_ok fields (others (correlationId, correlationId))
      rw [lifts] at lifted'
      obtain rfl := Except.ok.inj lifted'
      obtain ⟨-, readCorrelationId, -⟩ := validateEvent_ok fields parsed'
      simp only [defaultField, missing, Except.ok.injEq] at readCorrelationId
      rw [(withSerializedPayload_ids serialized').1, ← readCorrelationId]
    have differs := (drawn ⟨0⟩).symm.trans (drawn ⟨1⟩)
    cases differs
  · intro carries newIds'
    obtain ⟨version, extracted', carries⟩ := carries
    rw [extracted] at extracted'
    obtain rfl := Except.ok.inj extracted'
    rw [if_neg newer] at carries
    refine deserialize_of_current fields (lifts _) ?_ notNil serialized
    rw [validateEvent_newIds fields newIds' newIds identified carries]
    exact parsed

/-- Read alone, an event is the one in the log exactly when it carries its ids. -/
theorem reads_alone_iff (identified : (raw.get? "event_id").isSome)
    (read : MissionEventSerializer.deserialize fields newIds raw ⟨some missionId, some index,
      previous.map (·.eventId), previous.map (·.correlationId)⟩ = .ok event) :
    (∀ newIds', MissionEventSerializer.deserialize fields newIds' raw
      ⟨some missionId, some 0, none, none⟩ = .ok event) ↔ ReadsAlone fields previous raw := by
  obtain ⟨currentRaw, -, lifted, -⟩ := deserialize_ok fields read
  cases extracted : extractSchemaVersion fields raw with
  | error error =>
      simp only [upcastToCurrent, extracted] at lifted
      cases lifted
  | ok version =>
      by_cases old : version ≤ 2
      · exact reads_alone_old extracted old identified read
      · refine reads_alone_current ?_ identified read
        have supported : ¬ currentMissionEventSchemaVersion < version := fun newer => by
          simp only [upcastToCurrent, extracted, if_pos newer] at lifted
          cases lifted
        obtain rfl : version = currentMissionEventSchemaVersion := by
          simp only [currentMissionEventSchemaVersion] at supported ⊢
          omega
        unfold extractSchemaVersion at extracted
        split at extracted
        · cases extracted
        · rename_i found
          split at extracted
          · cases extracted
          · rw [found, Except.ok.inj extracted]
        · cases extracted

end
end
end PurchaseAgent
