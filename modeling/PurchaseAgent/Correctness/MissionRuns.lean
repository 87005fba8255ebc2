import Mathlib.Logic.Relation
import PurchaseAgent.Correctness.Initial
import PurchaseAgent.Correctness.RecordedEvents

/-!
Runs of one mission: the operations that services and the repository perform on
its object, copies of it, and reloads from what the models store. Every step
leaves the log or adds the next event to it.
-/

namespace PurchaseAgent
open Cooperative InMemoryMissionRepository MissionEventSerializer

/-- The `execution_log` of `mission_to_model`. -/
def storedLog (fields : EventFields) (mission : Mission) : Except PyException (List RawEvent) :=
  match validateEventSequence mission.executionLog mission.lastEventSequence with
  | .error error => .error error.raised
  | .ok () => MissionJsonEventStore.serialize fields mission.executionLog

/-- One step of a mission. A reload may normalize the other fields. -/
inductive MissionStep (fields : EventFields) (registry : ProviderRegistry) :
    Mission → Mission → Prop
  | performed (call : MissionCall) {o : Op memory}
      (mentioned : (call.service inMemoryMissionRepository registry).run.Mentions
        (F := signature memory) o)
      {σ : Type} (env : Environment σ) (t : TaskId) {w : MemoryWorld σ} (consistent : Consistent w)
      {r : Ref} (allocated : r ≠ w.nextRef) :
      MissionStep fields registry (w.mission r) ((o.exec env t w).2.mission r)
  | copied (call : MissionCall) {r : Ref} {update : List Assignment}
      (mentioned : (call.service inMemoryMissionRepository registry).run.Mentions
        (F := signature memory) (.copy r update)) (mission : Mission) :
      MissionStep fields registry mission (update.foldl Mission.assign mission)
  | reloaded {before after : Mission} {raws : List RawEvent} {newIds : Nat → UUID × UUID}
      (stored : storedLog fields before = .ok raws)
      (restored : MissionJsonEventStore.deserialize fields newIds raws before.lastEventSequence
        (some before.id) = .ok after.executionLog)
      (last : after.lastEventSequence = before.lastEventSequence) :
      MissionStep fields registry before after

abbrev MissionRun (fields : EventFields) (registry : ProviderRegistry) :
    Mission → Mission → Prop :=
  Relation.ReflTransGen (MissionStep fields registry)

/-- The log stays, or `record_event` adds the next event to it. -/
inductive LogStep (before after : Mission) : Prop
  | kept (log : after.executionLog = before.executionLog)
      (last : after.lastEventSequence = before.lastEventSequence)
  | recorded (eventId : UUID) (timestamp : Time) (eventType message : String)
      (metadata : List (String × PyValue)) (recordable : Recordable eventType metadata)
      (fresh : before.FreshFor eventId)
      (log : after.executionLog = before.executionLog ++
        [before.nextEvent eventId timestamp eventType message metadata])
      (last : after.lastEventSequence = before.lastEventSequence + 1)

theorem LogStep.refl (mission : Mission) : LogStep mission mission := .kept rfl rfl

theorem logStep_assign (mission : Mission) (assignment : Assignment) :
    LogStep mission (mission.assign assignment) := by
  cases assignment <;> exact .kept rfl rfl

theorem assignments_log (update : List Assignment) (mission : Mission) :
    (update.foldl Mission.assign mission).executionLog = mission.executionLog ∧
      (update.foldl Mission.assign mission).lastEventSequence = mission.lastEventSequence := by
  induction update generalizing mission with
  | nil => exact ⟨rfl, rfl⟩
  | cons assignment rest ih =>
      obtain ⟨log, last⟩ := ih (mission.assign assignment)
      rw [List.foldl_cons, log, last]
      cases assignment <;> exact ⟨rfl, rfl⟩

/-- The event is recorded once the status has changed. -/
theorem logStep_recordEvent {before changed after : Mission} {eventId : UUID} {timestamp : Time}
    {eventType message : String} {metadata : List (String × PyValue)}
    (h : changed.recordEvent eventId timestamp eventType message metadata = .ok after)
    (log : changed.executionLog = before.executionLog)
    (last : changed.lastEventSequence = before.lastEventSequence)
    (recordable : Recordable eventType metadata) : LogStep before after := by
  obtain ⟨⟨notNil, unused⟩, rfl⟩ := Mission.recordEvent_ok h
  rw [log] at unused
  refine .recorded eventId timestamp eventType message metadata recordable ⟨notNil, unused⟩ ?_ ?_
  · simp only [Mission.append_executionLog, Mission.nextEvent, log, last]
  · simp only [Mission.append_lastEventSequence, Mission.nextEvent, last]

section
attribute [local simp] jsonMetadata_cons JsonMetadata.nil genericEventTypes

theorem expire_logs {σ : Type} (env : Environment σ) {w : MemoryWorld σ} {r : Ref}
    (stored : Stored w r) (currentTime : Time) (due : isExpired currentTime (w.mission r)) :
    Touches LogStep r w (expire env currentTime r w).2 := by
  simp only [expire, transition_expired due]
  split
  · exact ⟨rfl, fun other differs => by simp [differs], rfl, by simpa using .kept rfl rfl⟩
  · rename_i recorded ok
    have step : LogStep (w.mission r) recorded :=
      logStep_recordEvent ok rfl rfl ((recordable_generic (by simp)).mpr (by simp))
    obtain ⟨-, rfl⟩ := Mission.recordEvent_ok ok
    rw [store_of_stored (by simpa [Stored] using stored)]
    exact ⟨rfl, fun other differs => by simp [differs], rfl, by simpa using step⟩

theorem logStep_recovers {currentTime : Time} {before after : Mission}
    (h : Recovers currentTime before after) : LogStep before after := by
  obtain ⟨eventId, rfl⟩ := h
  simp only [MissionStateMachine.recoverStale]
  split
  · exact .refl _
  · rename_i recovered transitioned
    obtain ⟨-, rfl⟩ := MissionStateMachine.transition_ok transitioned
    split
    · exact .kept rfl rfl
    · rename_i after recorded
      exact logStep_recordEvent recorded rfl rfl
        ((recordable_generic (by simp)).mpr (by simp))

end

theorem logStep_sweeps {σ : Type} {edge : Mission → Mission → Prop} {selected : List Ref}
    {w w' : MemoryWorld σ} (h : Sweeps edge selected w w')
    (steps : ∀ before after, edge before after → LogStep before after) (r : Ref) :
    LogStep (w.mission r) (w'.mission r) := by
  rcases h.moved r with same | ⟨-, moved⟩
  · rw [same]
    exact .refl _
  · exact steps _ _ moved

theorem update_mission {σ : Type} (r : Ref) (w : MemoryWorld σ) (other : Ref) :
    (update r w).2.mission other = w.mission other := by
  unfold update
  split
  · rfl
  · rename_i synchronized
    obtain ⟨attempts, rfl⟩ := synchronizeAttempt_ok synchronized
    rfl

theorem logStep_memory {σ : Type} (env : Environment σ) (t : TaskId) {w : MemoryWorld σ}
    (consistent : Consistent w) (o : MemoryOp) (r : Ref) :
    LogStep (w.mission r) ((o.exec env t w).2.mission r) := by
  cases o with
  | create | get => exact .refl _
  | update stored =>
      change LogStep (w.mission r) ((update stored w).2.mission r)
      rw [update_mission]
      exact .refl _
  | claimDue currentTime limit =>
      obtain ⟨-, selected, -, sweeps⟩ := claimDue_returns consistent t currentTime limit
      refine logStep_sweeps sweeps ?_ r
      rintro before _ ⟨-, rfl⟩
      exact .kept rfl rfl
  | expireDue currentTime limit =>
      change LogStep (w.mission r) ((expireDue env currentTime limit w).2.mission r)
      unfold expireDue
      split
      · exact .refl _
      · exact logStep_sweeps (processSelected_sweeps consistent _ _ _ fun r w' stored due =>
          expire_logs env stored currentTime due) (fun _ _ moved => moved.2) r
  | recoverStaleProcessing currentTime claimTimeout limit =>
      obtain ⟨-, selected, -, sweeps⟩ :=
        recoverStaleProcessing_returns env consistent currentTime claimTimeout limit
      exact logStep_sweeps sweeps (fun _ _ moved => logStep_recovers moved.2) r

/-- One object changes. -/
theorem logStep_setMission {σ : Type} {w : MemoryWorld σ} {r : Ref} {mission : Mission}
    (step : LogStep (w.mission r) mission) (other : Ref) :
    LogStep (w.mission other) ((w.setMission r mission).mission other) := by
  rcases w.setMission_cases r mission other with ⟨rfl, same⟩ | same
  · rwa [same]
  · rw [same]
    exact .refl _

theorem logStep_setObject {σ : Type} {w : MemoryWorld σ} {r : Ref} (object : MissionObject)
    {other : Ref} (step : other = r → LogStep (w.mission other) object.mission) :
    LogStep (w.mission other) ((w.setObject r object).mission other) := by
  by_cases same : other = r
  · subst same
    simpa [World.mission, World.setObject] using step rfl
  · simpa [World.mission, World.setObject, same] using LogStep.refl _

theorem logStep_exec {σ : Type} (env : Environment σ) (t : TaskId) {w : MemoryWorld σ}
    (consistent : Consistent w) {o : Op memory} (records : o.Records) {r : Ref}
    (allocated : r ≠ w.nextRef) : LogStep (w.mission r) ((o.exec env t w).2.mission r) := by
  cases o with
  | read | utcNow | getIdentity | call | request | deliver =>
      exact .refl _
  | construct mission | copy copied update =>
      exact logStep_setObject _ fun same => absurd same allocated
  | assign assigned assignment => exact logStep_setMission (logStep_assign _ _) r
  | transition changed target options =>
      simp only [Op.exec]
      cases outcome : MissionStateMachine.transition (w.mission changed) target options with
      | error error => exact .refl _
      | ok mission =>
          obtain ⟨-, moved⟩ := MissionStateMachine.transition_ok outcome
          have step : LogStep (w.mission changed) mission := by
            rw [moved]
            exact .kept rfl rfl
          exact logStep_setMission step r
  | recordEvent recorded timestamp eventType message metadata =>
      simp only [Op.exec]
      cases outcome : (w.mission recorded).recordEvent (env.newEventId w.idsDrawn) timestamp
        eventType message metadata with
      | error error => exact .refl _
      | ok mission =>
          exact logStep_setMission (w := w.drawId) (logStep_recordEvent outcome rfl rfl records) r
  | repository o => exact logStep_memory env t consistent o r

/-- The ids of the next event are those of the final one. -/
theorem ValidEvents.nextEvent_sound {mission : Mission}
    (valid : ValidEvents 0 [] mission.executionLog) {eventId : UUID}
    (fresh : mission.FreshFor eventId) (timestamp : Time) (eventType message : String)
    (metadata : List (String × PyValue)) :
    (mission.nextEvent eventId timestamp eventType message metadata).Sound := by
  cases final : mission.executionLog.getLast? with
  | none =>
      refine ⟨fresh.1, ?_, ?_⟩ <;> simp only [Mission.nextEvent, final]
      · exact fresh.1
      · simp
  | some previous =>
      have member := List.mem_of_mem_getLast? final
      have sound := valid.sound previous member
      refine ⟨fresh.1, ?_, ?_⟩ <;> simp only [Mission.nextEvent, final]
      · exact sound.correlationId
      · simpa using ⟨sound.eventId, fresh.2 previous member⟩

/-- The log of a mission is one that the validators and the serializer keep. -/
structure Logged (mission : Mission) : Prop where
  valid : ValidEvents 0 [] mission.executionLog
  last : mission.lastEventSequence = lastSequence 0 mission.executionLog
  storable : ∀ event ∈ mission.executionLog, Storable event

namespace Logged
variable {mission : Mission} (logged : Logged mission)
include logged

theorem validated :
    validateEventSequence mission.executionLog mission.lastEventSequence = .ok () :=
  validateEventSequence_ok_iff.mpr ⟨logged.valid, logged.last⟩

theorem step {after : Mission} (h : LogStep mission after) : Logged after := by
  cases h with
  | kept log last => exact ⟨log ▸ logged.valid, by rw [last, log, logged.last], log ▸ logged.storable⟩
  | recorded eventId timestamp eventType message metadata recordable fresh log last =>
      have sound := logged.valid.nextEvent_sound fresh timestamp eventType message metadata
      have next : (mission.nextEvent eventId timestamp eventType message metadata).sequence =
          lastSequence 0 mission.executionLog + 1 := congrArg (· + 1) logged.last
      refine ⟨?_, ?_, ?_⟩
      · rw [log]
        exact logged.valid.append next fresh.2 sound
      · rw [log, last, lastSequence_append, next, logged.last]
      · rw [log]
        refine List.forall_mem_append.mpr ⟨logged.storable, fun event single => ?_⟩
        rw [List.mem_singleton.mp single]
        exact storable_of_recordable recordable fresh.1

/-- A reload brings back the same log. -/
theorem reload {fields : EventFields} {raws : List RawEvent} {newIds : Nat → UUID × UUID}
    {events : List ExecutionEvent} (stored : storedLog fields mission = .ok raws)
    (restored : MissionJsonEventStore.deserialize fields newIds raws mission.lastEventSequence
      (some mission.id) = .ok events) : events = mission.executionLog := by
  simp only [storedLog, logged.validated,
    MissionJsonEventStore.serialize_dumps fields logged.storable] at stored
  obtain rfl := Except.ok.inj stored
  rw [MissionJsonEventStore.deserialize_dumps fields newIds _ logged.storable
    logged.validated] at restored
  exact (Except.ok.inj restored).symm

end Logged

section
variable {fields : EventFields} {registry : ProviderRegistry}

/-- With a log that is kept, every step leaves it or adds the next event. -/
theorem MissionStep.log {before after : Mission} (h : MissionStep fields registry before after)
    (logged : Logged before) : LogStep before after := by
  cases h with
  | performed call mentioned env t consistent allocated =>
      exact logStep_exec env t consistent
        (Prog.ok_of_mentions _ (records_call registry call) mentioned) allocated
  | copied call mentioned =>
      obtain ⟨log, last⟩ := assignments_log _ before
      exact .kept log last
  | reloaded stored restored last => exact .kept (logged.reload stored restored) last

theorem MissionRun.logged {before after : Mission} (run : MissionRun fields registry before after)
    (logged : Logged before) : Logged after := by
  induction run with
  | refl => exact logged
  | tail _ step ih => exact ih.step (step.log ih)

/-- A mission that `to_domain` built or that was loaded from its stored events. -/
inductive Origin (fields : EventFields) (mission : Mission) : Prop
  | empty (log : mission.executionLog = []) (last : mission.lastEventSequence = 0)
  | loaded {raws : List RawEvent} {newIds : Nat → UUID × UUID}
      (json : ∀ raw ∈ raws, JsonMetadata raw)
      (restored : MissionJsonEventStore.deserialize fields newIds raws mission.lastEventSequence
        (some mission.id) = .ok mission.executionLog)

theorem Origin.logged {mission : Mission} (origin : Origin fields mission) : Logged mission := by
  cases origin with
  | empty log last => exact ⟨log ▸ .nil _ _, by rw [last, log]; rfl, by simp [log]⟩
  | loaded json restored =>
      obtain ⟨read, validated⟩ := MissionJsonEventStore.deserialize_ok fields restored
      obtain ⟨valid, last⟩ := validateEventSequence_ok_iff.mp validated
      exact ⟨valid, last, MissionJsonEventStore.storable_of_restore fields json read⟩

/-- Serialized events, all of the current version, that are read back as they were. -/
def RoundTrips (fields : EventFields) (missionId : Option UUID) (last : Nat)
    (events : List ExecutionEvent) : Prop :=
  ∃ raws, MissionJsonEventStore.serialize fields events = .ok raws ∧
    (∀ raw ∈ raws, raw.get? "schema_version" = some (.int currentMissionEventSchemaVersion)) ∧
    ∀ newIds, MissionJsonEventStore.deserialize fields newIds raws last missionId = .ok events

theorem roundTrips_of_storable {missionId : Option UUID} {last : Nat}
    {events : List ExecutionEvent} (storable : ∀ event ∈ events, Storable event)
    (valid : validateEventSequence events last = .ok ()) :
    RoundTrips fields missionId last events :=
  ⟨_, MissionJsonEventStore.serialize_dumps fields storable,
    MissionJsonEventStore.dumps_current fields,
    fun newIds => MissionJsonEventStore.deserialize_dumps fields newIds missionId storable valid⟩

end
end PurchaseAgent
