import PurchaseAgent.Correctness.EventFields
import PurchaseAgent.Correctness.MissionRuns

/-!
The event log of a mission over any run of operations and reloads: it is
written and read back unchanged, it only grows, and each event is caused by the
one before it, also behind the events that an upcast of old versions identifies.
-/

namespace PurchaseAgent
open Collections Cooperative MissionEventSerializer

/-- An event of version 0 to 2 without explicit correlation and causation ids. -/
structure LegacyEvent (fields : EventFields) (raw : RawEvent) : Prop where
  version : ∃ version ≤ 2, extractSchemaVersion fields raw = .ok version
  correlationId : raw.get? "correlation_id" = none
  causationId : raw.get? "causation_id" = none

/-- The ids of the previous event, or of this one, as the upcast writes them. -/
def Linked (context : MissionEventDeserializationContext) (raw : RawEvent) : Prop :=
  (∃ eventId, raw.get? "correlation_id" =
      some (.str (context.previousCorrelationId.getD eventId).str)) ∧
    raw.get? "causation_id" = some (.ofText (context.previousEventId.map (·.str)))

section
variable {fields : EventFields}

theorem linked_upcastV2ToV3 {raw upcasted : RawEvent} {context : MissionEventDeserializationContext}
    (correlationId : raw.get? "correlation_id" = none)
    (causationId : raw.get? "causation_id" = none)
    (h : (missionEventUpcasterV2ToV3 fields).upcast raw context = .ok upcasted) :
    Linked context upcasted := by
  simp only [missionEventUpcasterV2ToV3] at h
  split at h
  · cases h
  split at h
  · cases h
  rename_i eventId _
  rw [Dict.get?_set_of_ne _ (by decide), correlationId] at h
  simp only [Option.isSome_none, Bool.false_eq_true, if_false] at h
  rw [Dict.get?_set_of_ne _ (by decide), Dict.get?_set_of_ne _ (by decide), causationId] at h
  simp only [Option.isSome_none, Bool.false_eq_true, if_false] at h
  obtain rfl := Except.ok.inj h
  refine ⟨⟨eventId, ?_⟩, Dict.get?_set_self _ _ _⟩
  rw [Dict.get?_set_of_ne _ (by decide), Dict.get?_set_self]

/-- The earlier steps set neither id. -/
theorem upcast_unlinked {raw upcasted : RawEvent} {context : MissionEventDeserializationContext}
    {upcaster : MissionEventUpcaster}
    (early : upcaster = missionEventUpcasterV0ToV1 ∨ upcaster = missionEventUpcasterV1ToV2 fields)
    (h : upcaster.upcast raw context = .ok upcasted) {name : String}
    (other : name = "correlation_id" ∨ name = "causation_id") :
    upcasted.get? name = raw.get? name := by
  have version : name ≠ "schema_version" := by
    rcases other with rfl | rfl <;> decide
  have eventId : name ≠ "event_id" := by
    rcases other with rfl | rfl <;> decide
  rcases early with rfl | rfl
  · obtain rfl := Except.ok.inj h
    exact Dict.get?_set_of_ne _ version _
  · simp only [missionEventUpcasterV1ToV2] at h
    split at h
    · cases h
    split at h
    · split at h
      · cases h
      split at h
      · obtain rfl := Except.ok.inj h
        exact Dict.get?_set_of_ne _ version _
      · obtain rfl := Except.ok.inj h
        rw [Dict.get?_set_of_ne _ eventId, Dict.get?_set_of_ne _ version]
    · cases h

/-- More than one step from the current version, an earlier one comes next. -/
theorem early_upcaster {version : Int} {steps : Nat} {upcaster : MissionEventUpcaster}
    (rest : version + (steps + 1 + 1 : Nat) = currentMissionEventSchemaVersion)
    (found : (defaultMissionEventUpcasters fields).find? (·.sourceVersion = version) =
      some upcaster) :
    (upcaster = missionEventUpcasterV0ToV1 ∨ upcaster = missionEventUpcasterV1ToV2 fields) ∧
      upcaster.targetVersion = version + 1 := by
  have source : upcaster.sourceVersion = version := by simpa using List.find?_some found
  have listed := List.mem_of_find?_eq_some found
  simp only [defaultMissionEventUpcasters, List.mem_cons, List.not_mem_nil, or_false] at listed
  have early : upcaster = missionEventUpcasterV0ToV1 ∨
      upcaster = missionEventUpcasterV1ToV2 fields := by
    rcases listed with first | second | rfl
    · exact .inl first
    · exact .inr second
    · have last : (2 : Int) = version := source
      simp only [currentMissionEventSchemaVersion] at rest
      omega
  refine ⟨early, ?_⟩
  rw [← source]
  rcases early with rfl | rfl <;> rfl

/-- The loop ends with the step from version 2, which links the event. -/
theorem upcastLoop_linked {raw current result : RawEvent}
    {context : MissionEventDeserializationContext} {steps : Nat} {version : Int}
    (rest : version + (steps + 1 : Nat) = currentMissionEventSchemaVersion)
    (correlationId : current.get? "correlation_id" = none)
    (causationId : current.get? "causation_id" = none)
    (h : upcastLoop fields raw context (steps + 1) version current = .ok result) :
    Linked context result := by
  induction steps generalizing version current with
  | zero =>
      obtain rfl : version = 2 := by simp only [currentMissionEventSchemaVersion] at rest; omega
      rw [upcastLoop] at h
      split at h
      · cases h
      rename_i upcaster found
      obtain rfl := Option.some.inj found
      split at h
      · cases h
      rename_i upcasted lifted
      split at h
      · cases h
      obtain rfl := Except.ok.inj h
      exact linked_upcastV2ToV3 correlationId causationId lifted
  | succ steps ih =>
      rw [upcastLoop] at h
      split at h
      · cases h
      rename_i upcaster found
      obtain ⟨early, target⟩ := early_upcaster rest found
      split at h
      · cases h
      rename_i upcasted lifted
      split at h
      · cases h
      refine ih ?_ ?_ ?_ h
      · rw [target]
        simp only [currentMissionEventSchemaVersion] at rest ⊢
        omega
      · rw [upcast_unlinked early lifted (.inl rfl), correlationId]
      · rw [upcast_unlinked early lifted (.inr rfl), causationId]

theorem upcastToCurrent_linked {raw result : RawEvent}
    {context : MissionEventDeserializationContext} (legacy : LegacyEvent fields raw)
    (h : upcastToCurrent fields raw context = .ok result) : Linked context result := by
  obtain ⟨version, le, extracted⟩ := legacy.version
  unfold upcastToCurrent at h
  rw [extracted] at h
  dsimp only at h
  split at h
  · cases h
  split at h
  · cases h
  rename_i lifted looped
  split at h
  · cases h
  obtain rfl := Except.ok.inj h
  have steps : (currentMissionEventSchemaVersion - version).toNat =
      (2 - version).toNat + 1 := by
    simp only [currentMissionEventSchemaVersion]
    omega
  rw [steps] at looped
  refine upcastLoop_linked ?_ legacy.correlationId legacy.causationId looped
  simp only [currentMissionEventSchemaVersion]
  omega

/-- A legacy event takes the ids of the one before it. -/
theorem deserialize_linked {newIds : UUID × UUID} {raw : RawEvent}
    {context : MissionEventDeserializationContext} {event : ExecutionEvent}
    (legacy : LegacyEvent fields raw)
    (h : MissionEventSerializer.deserialize fields newIds raw context = .ok event) :
    event.causationId = context.previousEventId ∧
      ∀ correlationId ∈ context.previousCorrelationId, event.correlationId = correlationId := by
  obtain ⟨currentRaw, validated, lifted, parsed, -, serialized⟩ := deserialize_ok fields h
  obtain ⟨⟨eventId, correlated⟩, caused⟩ := upcastToCurrent_linked legacy lifted
  obtain ⟨-, readCorrelationId, readCausationId, -⟩ := validateEvent_ok fields parsed
  obtain ⟨correlation, causation, -⟩ := withSerializedPayload_ids serialized
  simp only [defaultField, correlated, fields.parseUUID_str, Except.ok.injEq] at readCorrelationId
  simp only [defaultField, caused, optionalField_uuid, Except.ok.injEq] at readCausationId
  rw [correlation, causation, ← readCorrelationId, ← readCausationId]
  refine ⟨rfl, fun correlationId previous => ?_⟩
  rw [show context.previousCorrelationId = some correlationId from previous]
  rfl

/-- Every event links to the one before it, the first to a given one. -/
def ChainedFrom (previous : Option ExecutionEvent) : List ExecutionEvent → Prop
  | [] => True
  | event :: rest =>
    event.causationId = previous.map (·.eventId) ∧
      (∀ earlier ∈ previous, event.correlationId = earlier.correlationId) ∧
      ChainedFrom (some event) rest

theorem chained_restore {newIds : Nat → UUID × UUID} {missionId : Option UUID} {index : Nat}
    {previous : Option ExecutionEvent} {raws : List RawEvent} {events : List ExecutionEvent}
    (legacy : ∀ raw ∈ raws, LegacyEvent fields raw)
    (h : MissionJsonEventStore.restore fields newIds missionId index previous raws = .ok events) :
    ChainedFrom previous events := by
  induction raws generalizing index previous events with
  | nil =>
      obtain rfl := Except.ok.inj h
      trivial
  | cons raw rest ih =>
      obtain ⟨here, later⟩ := List.forall_mem_cons.mp legacy
      simp only [MissionJsonEventStore.restore] at h
      split at h
      · cases h
      rename_i event read
      obtain ⟨others, restored, rfl⟩ := exists_of_map_ok h
      obtain ⟨causation, correlation⟩ := deserialize_linked here read
      exact ⟨causation, fun earlier member => correlation _ (Option.mem_map_of_mem _ member),
        ih later restored⟩

theorem ChainedFrom.append {previous : Option ExecutionEvent} {log : List ExecutionEvent}
    {event : ExecutionEvent} (chained : ChainedFrom previous log)
    (causation : event.causationId = (log.getLast?.or previous).map (·.eventId))
    (correlation : ∀ earlier ∈ log.getLast?.or previous,
      event.correlationId = earlier.correlationId) : ChainedFrom previous (log ++ [event]) := by
  induction log generalizing previous with
  | nil => exact ⟨causation, correlation, trivial⟩
  | cons first rest ih =>
      obtain ⟨caused, correlated, chained⟩ := chained
      have final : (first :: rest).getLast?.or previous = rest.getLast?.or (some first) := by
        cases rest with
        | nil => rfl
        | cons second rest => simp [List.getLast?_cons]
      rw [final] at causation correlation
      exact ⟨caused, correlated, ih chained causation correlation⟩

theorem ChainedFrom.correlation {previous : ExecutionEvent} {log : List ExecutionEvent}
    (chained : ChainedFrom (some previous) log) :
    ∀ event ∈ log, event.correlationId = previous.correlationId := by
  induction log generalizing previous with
  | nil => simp
  | cons first rest ih =>
      obtain ⟨-, correlated, chained⟩ := chained
      have same := correlated previous rfl
      exact List.forall_mem_cons.mpr ⟨same, fun event member => (ih chained event member).trans same⟩

theorem ChainedFrom.causation {previous : Option ExecutionEvent} {log : List ExecutionEvent}
    (chained : ChainedFrom previous log) (index : Nat) (event : ExecutionEvent)
    (found : log[index]? = some event) :
    event.causationId =
      (if index = 0 then previous else log[index - 1]?).map (·.eventId) := by
  induction log generalizing previous index with
  | nil => cases found
  | cons first rest ih =>
      obtain ⟨caused, -, chained⟩ := chained
      cases index with
      | zero =>
          obtain rfl := Option.some.inj found
          exact caused
      | succ index =>
          have here := ih chained index found
          cases index with
          | zero => exact here
          | succ index => simpa using here

/-- Each event shares the correlation id and is caused by the event before it. -/
structure CausalChain (log : List ExecutionEvent) : Prop where
  unique : (log.map (·.eventId)).Nodup
  correlation : ∀ first ∈ log.head?, ∀ event ∈ log, event.correlationId = first.correlationId
  causation : ∀ (index : Nat) (event : ExecutionEvent), log[index]? = some event →
    event.causationId = (if index = 0 then none else log[index - 1]?).map (·.eventId)

theorem causalChain_of_chained {log : List ExecutionEvent} (unique : (log.map (·.eventId)).Nodup)
    (chained : ChainedFrom none log) : CausalChain log := by
  refine ⟨unique, fun first head => ?_, chained.causation⟩
  cases log with
  | nil => cases head
  | cons event rest =>
      obtain rfl := Option.some.inj head
      exact List.forall_mem_cons.mpr ⟨rfl, chained.2.2.correlation⟩

theorem chained_nextEvent {mission : Mission} (chained : ChainedFrom none mission.executionLog)
    (eventId : UUID) (timestamp : Time) (eventType message : String)
    (metadata : List (String × PyValue)) :
    ChainedFrom none (mission.executionLog ++
      [mission.nextEvent eventId timestamp eventType message metadata]) := by
  refine chained.append ?_ ?_
  · simp only [Mission.nextEvent, Option.or_none]
  · rw [Option.or_none]
    intro earlier final
    have final : mission.executionLog.getLast? = some earlier := final
    simp only [Mission.nextEvent, final]

/-- Where a run starts: with an empty log, or with stored events of old versions
that carry no ids of their chain. -/
inductive LegacyOrigin (fields : EventFields) (mission : Mission) : Prop
  | empty (log : mission.executionLog = []) (last : mission.lastEventSequence = 0)
  | loaded {raws : List RawEvent} {newIds : Nat → UUID × UUID}
      (json : ∀ raw ∈ raws, JsonMetadata raw) (legacy : ∀ raw ∈ raws, LegacyEvent fields raw)
      (restored : MissionJsonEventStore.deserialize fields newIds raws mission.lastEventSequence
        (some mission.id) = .ok mission.executionLog)

theorem LegacyOrigin.logged {mission : Mission} (origin : LegacyOrigin fields mission) :
    Logged mission ∧ ChainedFrom none mission.executionLog := by
  cases origin with
  | empty log last =>
      refine ⟨(Origin.empty log last : Origin fields mission).logged, ?_⟩
      rw [log]
      trivial
  | loaded json legacy restored =>
      obtain ⟨read, -⟩ := MissionJsonEventStore.deserialize_ok fields restored
      exact ⟨(Origin.loaded json restored).logged, chained_restore legacy read⟩

/-- What a run adds to the log: events of the next sequences, in the same chain. -/
structure Grows (before after : Mission) : Prop where
  logged : Logged after
  chained : ChainedFrom none after.executionLog
  added : ∃ added, after.executionLog = before.executionLog ++ added ∧
    added.map (·.sequence) = List.range' (before.lastEventSequence + 1) added.length ∧
    after.lastEventSequence = before.lastEventSequence + added.length

theorem Grows.step {start before after : Mission} (grown : Grows start before)
    (h : LogStep before after) : Grows start after := by
  have logged := grown.logged.step h
  obtain ⟨-, chained, added, log, sequences, last⟩ := grown
  cases h with
  | kept log' last' =>
      exact ⟨logged, log' ▸ chained, added, log'.trans log, sequences, last'.trans last⟩
  | recorded eventId timestamp eventType message metadata recordable fresh log' last' =>
      refine ⟨logged, log' ▸ chained_nextEvent chained _ _ _ _ _,
        added ++ [before.nextEvent eventId timestamp eventType message metadata], ?_, ?_, ?_⟩
      · rw [log', log, List.append_assoc]
      · rw [List.map_append, sequences, List.length_append, List.length_singleton,
          List.range'_concat]
        simp only [List.map_cons, List.map_nil, Mission.nextEvent, last]
        congr 2
        omega
      · rw [last', last, List.length_append, List.length_singleton, Nat.add_assoc]

theorem grows_run {registry : ProviderRegistry} {before after : Mission}
    (logged : Logged before) (chained : ChainedFrom none before.executionLog)
    (run : MissionRun fields registry before after) : Grows before after := by
  induction run with
  | refl => exact ⟨logged, chained, [], (List.append_nil _).symm, rfl, rfl⟩
  | tail _ step ih => exact ih.step (step.log ih.logged)

end

def legacyEvents : List RawEvent :=
  [[("sequence", .int 1), ("timestamp", .str "2026-08-01T00:00:00Z"),
      ("type", .str "mission_created"), ("message", .str "Mission created.")],
    [("schema_version", .int 2), ("event_id", .str "00000000-0000-0000-0000-00000000000b"),
      ("sequence", .int 2), ("timestamp", .str "2026-08-01T00:00:00Z"),
      ("type", .str "provider_selection_changed"),
      ("message", .str "Mission provider selection changed."),
      ("metadata", .dict
        [("previous_provider_id", .none), ("new_provider_id", .str " mock "),
          ("previous_selection_mode", .str "automatic"),
          ("new_selection_mode", .str "explicit")])]]

def legacyEventId : UUID := ⟨0x6e9c05bd3eda5b96892dca349c21e198⟩

/-- The version 5 id of the first of them. -/
def legacyEventFields : EventFields := .plain fun _ name =>
  if name = "mission-event:v1:00000000-0000-0000-0000-000000000007:1" then legacyEventId else ⟨1⟩

def legacyMission : Mission :=
  { Mission.new ⟨7⟩ "trip" [⟨9⟩] "mock_train"
      ⟨"Moscow", "Kazan", ⟨2026, 8, 1⟩, 1, none, none, none, none,
        TrainConstraints.single_pos⟩ with
    executionLog :=
      [⟨legacyEventId, legacyEventId, none, 1, 1785542400000000, "mission_created",
          "Mission created.", [], ExecutionEvent.first_pos⟩,
        ⟨⟨11⟩, legacyEventId, some legacyEventId, 2, 1785542400000000,
          "provider_selection_changed", "Mission provider selection changed.",
          [("previous_provider_id", .none), ("new_provider_id", .str "mock"),
            ("previous_selection_mode", .str "automatic"),
            ("new_selection_mode", .str "explicit")], ExecutionEvent.second_pos⟩]
    lastEventSequence := 2 }

theorem legacyMission_restored :
    MissionJsonEventStore.deserialize legacyEventFields (fun _ => (⟨1⟩, ⟨1⟩)) legacyEvents 2
      (some ⟨7⟩) = .ok legacyMission.executionLog := by
  decide +kernel

theorem legacyEvents_json : ∀ raw ∈ legacyEvents, JsonMetadata raw := by
  simp [legacyEvents, jsonMetadata_cons, JsonMetadata.nil]

theorem legacyEvents_legacy : ∀ raw ∈ legacyEvents, LegacyEvent legacyEventFields raw := by
  intro raw member
  simp only [legacyEvents, List.mem_cons, List.not_mem_nil, or_false] at member
  obtain rfl | rfl := member
  · exact ⟨⟨0, by decide, rfl⟩, rfl, rfl⟩
  · exact ⟨⟨2, by decide, rfl⟩, rfl, rfl⟩

def noProviders : ProviderRegistry := ⟨[], by simp, List.nodup_nil⟩

def legacyMissionPaused : Mission :=
  legacyMission.append (legacyMission.nextEvent ⟨1⟩ 0 "mission_paused" "Mission paused."
    [("previous_status", .str "created")])

theorem legacyMission_pauses :
    MissionStep legacyEventFields noProviders legacyMission legacyMissionPaused := by
  let env : Environment Unit := .withProviders fun _ _ _ => (.error .missionNotFoundError, ())
  let w : MemoryWorld Unit := initialWorld [legacyMission] legacyMission ()
  have mentioned : ((MissionCall.command (.pauseMission ⟨7⟩)).service inMemoryMissionRepository
      noProviders).run.Mentions (F := signature memory)
      (.recordEvent 0 0 "mission_paused" "Mission paused." [("previous_status", .str "created")]) :=
    .inr ⟨(some 0 : Option Ref), .inr ⟨legacyMission, .inr ⟨(.ok () : Except PyException Unit),
      .inr ⟨(0 : Time), .inl rfl⟩⟩⟩⟩
  exact MissionStep.performed (w := w) (r := 0) _ mentioned env 0
    (consistent_initialWorld [legacyMission] legacyMission () (by simp)) (by decide)

theorem legacyMission_origin : LegacyOrigin legacyEventFields legacyMission :=
  .loaded legacyEvents_json legacyEvents_legacy legacyMission_restored

/-- What the store reads from events of any versions, and the log of a mission
after any run, is written at the current version and read back as it was. -/
theorem event_store_round_trips (fields : EventFields) (registry : ProviderRegistry) :
    (∀ (missionId : Option UUID) (raws : List RawEvent) (last : Nat) (newIds : Nat → UUID × UUID)
      (events : List ExecutionEvent), (∀ raw ∈ raws, JsonMetadata raw) →
      MissionJsonEventStore.deserialize fields newIds raws last missionId = .ok events →
      RoundTrips fields missionId last events) ∧
    ∀ start mission : Mission, Origin fields start → MissionRun fields registry start mission →
      RoundTrips fields (some mission.id) mission.lastEventSequence mission.executionLog := by
  constructor
  · intro missionId raws last newIds events json restored
    obtain ⟨read, valid⟩ := MissionJsonEventStore.deserialize_ok fields restored
    exact roundTrips_of_storable (MissionJsonEventStore.storable_of_restore fields json read) valid
  · intro start mission origin run
    have logged := run.logged origin.logged
    exact roundTrips_of_storable logged.storable logged.validated

theorem event_store_round_trips_legacy :
    RoundTrips legacyEventFields (some ⟨7⟩) 2 legacyMission.executionLog ∧
      RoundTrips legacyEventFields (some legacyMissionPaused.id)
        legacyMissionPaused.lastEventSequence legacyMissionPaused.executionLog :=
  ⟨(event_store_round_trips legacyEventFields noProviders).1 _ _ _ _ _ legacyEvents_json
      legacyMission_restored,
    (event_store_round_trips legacyEventFields noProviders).2 legacyMission _
      (.loaded legacyEvents_json legacyMission_restored) (.single legacyMission_pauses)⟩

/-- Over any run the log is extended by the next sequences and stays one causal
chain, whether it started empty or with events of old versions. -/
theorem event_log_extends_and_chains {fields : EventFields} {registry : ProviderRegistry}
    {start before after : Mission} (origin : LegacyOrigin fields start)
    (run : MissionRun fields registry start before)
    (operation : MissionRun fields registry before after) :
    CausalChain after.executionLog ∧ ∃ added,
      after.executionLog = before.executionLog ++ added ∧
      added.map (·.sequence) = List.range' (before.lastEventSequence + 1) added.length ∧
      after.lastEventSequence = before.lastEventSequence + added.length := by
  obtain ⟨logged, chained⟩ := origin.logged
  have here := grows_run logged chained run
  have grown := grows_run here.logged here.chained operation
  exact ⟨causalChain_of_chained grown.logged.valid.unique grown.chained, grown.added⟩

theorem event_log_extends_and_chains_legacy :
    CausalChain legacyMissionPaused.executionLog ∧ ∃ added,
      legacyMissionPaused.executionLog = legacyMission.executionLog ++ added ∧
      added.map (·.sequence) = List.range' (legacyMission.lastEventSequence + 1) added.length ∧
      legacyMissionPaused.lastEventSequence = legacyMission.lastEventSequence + added.length :=
  event_log_extends_and_chains legacyMission_origin .refl (.single legacyMission_pauses)

end PurchaseAgent
