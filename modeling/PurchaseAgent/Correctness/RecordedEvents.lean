import PurchaseAgent.Correctness.EventStore
import PurchaseAgent.Services.Commands

/-!
The events the services record. Each has a type that the serializer knows, and
the metadata of a provider event is the dump of its payload model.
-/

namespace PurchaseAgent
open Cooperative Service MissionEventSerializer

/-- The calls of the services that change a mission. -/
inductive MissionCall where
  | command (command : Command)
  | setMissionProvider (missionId : UUID) (providerId : Option String)

def MissionCall.service {B : Backend} (repository : MissionRepository B)
    (registry : ProviderRegistry) : MissionCall → Service B Unit
  | .command given => given.service repository registry
  | .setMissionProvider missionId providerId =>
      Command.service.discard
        (PurchaseAgent.setMissionProvider repository registry missionId providerId)

/-- What the serializer writes and reads back as it is. -/
def Recordable (eventType : String) (metadata : List (String × PyValue)) : Prop :=
  match ProviderHistoryEventType.ofText eventType with
  | some known =>
    ∃ payload : ProviderHistoryPayload, payload.eventType = known ∧ metadata = payload.dump
  | none => eventType ∈ genericEventTypes ∧ JsonMetadata metadata

theorem ofText_generic : ∀ eventType ∈ genericEventTypes,
    ProviderHistoryEventType.ofText eventType = none := by
  decide

theorem recordable_generic {eventType : String} {metadata : List (String × PyValue)}
    (generic : genericEventTypes.elem eventType) :
    Recordable eventType metadata ↔ JsonMetadata metadata := by
  have listed := List.mem_of_elem_eq_true generic
  simp only [Recordable, ofText_generic eventType listed, listed, true_and]

theorem recordable_payload (payload : ProviderHistoryPayload) :
    Recordable payload.eventType.value payload.dump := by
  simp only [Recordable, ProviderHistoryEventType.ofText_value]
  exact ⟨payload, rfl, rfl⟩

theorem storable_of_recordable {event : ExecutionEvent}
    (recordable : Recordable event.type event.metadata) (notNil : event.eventId ≠ .nil) :
    Storable event := by
  unfold Recordable at recordable
  cases known : ProviderHistoryEventType.ofText event.type with
  | some eventType =>
      simp only [known] at recordable
      obtain ⟨payload, types, dumped⟩ := recordable
      have read : ProviderHistoryPayload.validate eventType event.metadata = .ok payload := by
        rw [dumped, ← types, payload.validate_dump]
      refine ⟨?_, dumped ▸ payload.dump_json, notNil⟩
      simp only [withSerializedPayload, known, read, Except.map, ← dumped]
  | none =>
      simp only [known] at recordable
      refine ⟨?_, recordable.2, notNil⟩
      simp only [withSerializedPayload, known, not_true_eq_false, recordable.1, if_false]

/-! The payloads of the resolver. -/

theorem selectionModeFor_eq (providerId : Option ProviderId) :
    selectionModeFor providerId = (ProviderSelectionMode.ofProviderId providerId).value := by
  cases providerId <;> rfl

/-- The payload of the event for a resolution. -/
theorem recordable_resolved {mission : Mission} {adapter : ProviderAdapter}
    {metadata : List (String × PyValue)}
    (h : providerResolvedPayload mission adapter = .ok metadata) :
    Recordable "provider_resolved" metadata := by
  unfold providerResolvedPayload at h
  dsimp only at h
  split at h
  · cases h
  rename_i named
  split at h
  · cases h
  rename_i resolves
  obtain rfl := Except.ok.inj h
  let resolved : ProviderId := ⟨strip adapter.providerId, strip_strip _, named⟩
  have selection : mission.providerId =
      if ProviderSelectionMode.ofProviderId mission.providerId = .automatic then none
      else some resolved := by
    cases chosen : mission.providerId with
    | none => rfl
    | some providerId =>
        simp only [chosen, Option.isSome_some, Option.map_some, ne_eq, Option.some.injEq, true_and,
          not_not] at resolves
        exact congrArg some (ProviderId.eq_of_text resolves)
  let snapshot : ProviderResolutionSnapshot :=
    ⟨.ofProviderId mission.providerId, mission.providerId, resolved, [resolved],
      mission.missionType, List.nodup_singleton _, List.mem_singleton_self _, selection⟩
  let payload : ProviderResolvedEventPayload :=
    ⟨resolved, mission.missionType, .ofProviderId mission.providerId, some snapshot, by
      intro context member
      obtain rfl := Option.some.inj member
      exact ⟨rfl, rfl, rfl⟩⟩
  have recordable := recordable_payload (.resolved payload)
  rw [selectionModeFor_eq]
  exact recordable

/-- An exception that `resolve` raises for the mission. -/
def ResolutionError (mission : Mission) : PyException → Prop
  | .unknownProviderError _ | .unsupportedMissionTypeError _ _ => mission.providerId.isSome
  | .ambiguousProviderError _ providerIds =>
      2 ≤ providerIds.length ∧ ∀ providerId ∈ providerIds, strip providerId ≠ ""
  | _ => True

theorem resolve_error {registry : ProviderRegistry} {mission : Mission} {error : PyException}
    (h : ProviderResolver.resolve registry mission = .error error) :
    ResolutionError mission error := by
  unfold ProviderResolver.resolve at h
  split at h
  · rename_i providerId selected
    have explicit : mission.providerId.isSome := by rw [selected]; rfl
    split at h
    · rename_i missing
      unfold ProviderRegistry.get at missing
      split at missing
      · cases missing
      · obtain rfl := Except.error.inj missing
        obtain rfl := Except.error.inj h
        exact explicit
    · split at h
      · obtain rfl := Except.error.inj h
        exact explicit
      · split at h
        · obtain rfl := Except.error.inj h
          trivial
        · cases h
  · dsimp only at h
    split at h
    · split at h <;> obtain rfl := Except.error.inj h <;> trivial
    · cases h
    · rename_i none one
      obtain rfl := Except.error.inj h
      refine ⟨?_, fun providerId member => ?_⟩
      · rw [List.length_map]
        generalize List.filter _ (registry.listSupporting mission.missionType) = supporting
          at none one ⊢
        cases supporting with
        | nil => exact absurd rfl none
        | cons first rest =>
            cases rest with
            | nil => exact absurd rfl (one first)
            | cons second rest => simp
      · obtain ⟨adapter, listed, rfl⟩ := List.mem_map.mp member
        exact registry.validIds adapter
          (List.mem_filter.mp (List.mem_filter.mp listed).1).1

theorem exists_normalized {providerIds : List String}
    (named : ∀ providerId ∈ providerIds, strip providerId ≠ "") :
    ∃ candidates : List ProviderId, candidates.map (·.text) = providerIds.map strip := by
  induction providerIds with
  | nil => exact ⟨[], rfl⟩
  | cons providerId rest ih =>
      obtain ⟨first, others⟩ := List.forall_mem_cons.mp named
      obtain ⟨candidates, texts⟩ := ih others
      exact ⟨⟨strip providerId, strip_strip _, first⟩ :: candidates,
        congrArg (strip providerId :: ·) texts⟩

theorem recordable_failure {mission : Mission} {metadata : List (String × PyValue)}
    (reason : ProviderResolutionFailureReason) (requested : Option ProviderId)
    (candidates : List ProviderId) (fits : reason.Fits requested candidates)
    (h : providerResolutionFailurePayload.payload mission reason.value (.ofProviderId requested)
      (candidates.map (·.text)) = .ok metadata) :
    Recordable "provider_resolution_failed" metadata := by
  unfold providerResolutionFailurePayload.payload at h
  split at h
  · rename_i unique
    obtain rfl := Except.ok.inj h
    have recordable := recordable_payload (.resolutionFailed
      ⟨reason, mission.missionType, requested, candidates, unique.of_map _, fits⟩)
    simpa [ProviderHistoryPayload.dump, ProviderHistoryPayload.eventType,
      ProviderHistoryEventType.value, ProviderResolutionFailedEventPayload.dump,
      ProviderId.dumpAll, PyValue.ofProviderId, Function.comp_def] using recordable
  · cases h

/-- The payload of the event for a failed resolution. -/
theorem recordable_resolutionFailed {mission : Mission} {error : PyException}
    {metadata : List (String × PyValue)} (raised : ResolutionError mission error)
    (h : providerResolutionFailurePayload mission error = .ok metadata) :
    Recordable "provider_resolution_failed" metadata := by
  cases error with
  | unknownProviderError _ =>
      exact recordable_failure .unknownProvider _ [] ⟨raised, rfl⟩ h
  | unsupportedMissionTypeError _ _ =>
      exact recordable_failure .unsupportedMissionType _ [] ⟨raised, rfl⟩ h
  | unsupportedExecutionModeError _ _ =>
      exact recordable_failure .unsupportedExecutionMode mission.providerId [] rfl h
  | noSupportingProviderError _ =>
      exact recordable_failure .noSupportingProvider none [] ⟨rfl, rfl⟩ h
  | ambiguousProviderError _ providerIds =>
      obtain ⟨several, named⟩ := raised
      obtain ⟨candidates, texts⟩ := exists_normalized named
      have lengths : candidates.length = providerIds.length := by
        simpa using congrArg List.length texts
      have built : providerResolutionFailurePayload.payload mission "ambiguous_provider"
          (.ofProviderId none) (candidates.map (·.text)) = .ok metadata := texts ▸ h
      exact recordable_failure .ambiguousProvider none candidates ⟨rfl, lengths ▸ several⟩ built
  | _ => cases h

/-- Only events the serializer keeps are recorded. -/
def Op.Records : Op memory → Prop
  | .recordEvent _ _ eventType _ metadata => Recordable eventType metadata
  | _ => True

/-- The service records such events and, when it returns, `post` holds. -/
def Service.Records {α : Type} (post : α → Prop) (p : Service memory α) : Prop :=
  p.run.Each (F := signature memory) (fun _ _ => True) Op.Records fun x => ∀ a, x = .ok a → post a

namespace Service
variable {α β : Type}

theorem records_mono {post post' : α → Prop} (h : ∀ a, post a → post' a) {p : Service memory α}
    (hp : Records post p) : Records post' p :=
  Prog.each_mono (fun _ hx a eq => h a (hx a eq)) p.run hp

@[simp] theorem records_pure (post : α → Prop) (a : α) :
    Records post (pure a : Service memory α) ↔ post a := by
  simp [Records]

@[simp] theorem records_throw (post : α → Prop) (e : PyException) :
    Records post (throw e : Service memory α) := by
  simp [Records]

@[simp] theorem records_bind (post : β → Prop) (p : Service memory α) (f : α → Service memory β) :
    Records post (p >>= f) ↔ Records (fun a => Records post (f a)) p := by
  refine (Prog.each_bind _ p.run _).trans ⟨Prog.each_mono ?_ p.run, Prog.each_mono ?_ p.run⟩
  · intro x h a returned
    obtain rfl := returned
    exact h
  · intro x h
    cases x with
    | error e => simp [ExceptT.bindCont]
    | ok a => exact h a rfl

@[simp] theorem records_map (post : β → Prop) (f : α → β) (p : Service memory α) :
    Records post (f <$> p) ↔ Records (fun a => post (f a)) p := by
  rw [map_eq_pure_bind, records_bind]
  simp only [records_pure]

@[simp] theorem records_ite (post : α → Prop) (c : Prop) [Decidable c] (p q : Service memory α) :
    Records post (if c then p else q) ↔ (c → Records post p) ∧ (¬ c → Records post q) := by
  split <;> simp_all

theorem records_attempt (post : Except PyException α → Prop) {p : Service memory α}
    (h : Records (fun a => post (.ok a)) p) (raised : ∀ e, post (.error e)) :
    Records post (attempt p) := by
  refine (Prog.each_bind _ p.run _).mpr (Prog.each_mono ?_ p.run h)
  intro x ok outcome returned
  obtain rfl := Except.ok.inj returned
  cases x with
  | error e => exact raised e
  | ok a => exact ok a rfl

theorem records_lift (o : Op memory) (post : o.Answer → Prop) :
    Records post (lift (Prog.perform (F := signature memory) o)) ↔
      o.Records ∧ ∀ answer, post answer :=
  ⟨fun h => ⟨h.1, fun answer => h.2 answer trivial answer rfl⟩,
    fun h => ⟨h.1, fun answer _ _ same => Except.ok.inj same ▸ h.2 answer⟩⟩

section Operations
variable (r : Ref)

@[simp] theorem records_read (post : Mission → Prop) :
    Records post (read r) ↔ ∀ mission, post mission :=
  (records_lift (.read r) post).trans (by simp [Op.Records])

@[simp] theorem records_assign (post : Unit → Prop) (assignment : Assignment) :
    Records post (assign r assignment) ↔ post () :=
  ⟨fun h => h.2 () trivial () rfl, fun h => ⟨trivial, fun _ _ _ _ => h⟩⟩

@[simp] theorem records_transition (post : Unit → Prop) (target : MissionStatus)
    (options : MissionStateMachine.Options) :
    Records post (transition r target options) ↔ post () :=
  ⟨fun h => h.2 (.ok ()) trivial () rfl, fun h => ⟨trivial, fun _ _ _ _ => h⟩⟩

@[simp] theorem records_utcNow (post : Time → Prop) :
    Records post utcNow ↔ ∀ time, post time :=
  (records_lift .utcNow post).trans (by simp [Op.Records])

@[simp] theorem records_copy (post : Ref → Prop) (update : List Assignment) :
    Records post (copy r update) ↔ ∀ r, post r :=
  (records_lift (.copy r update) post).trans (by simp [Op.Records])

theorem records_orUtcNow (post : Time → Prop) (time : Option Time) (h : ∀ time, post time) :
    Records post (orUtcNow time) := by
  cases time with
  | none => simpa [orUtcNow] using h
  | some time => simpa [orUtcNow] using h time

@[simp] theorem records_recordEvent (post : Unit → Prop) (timestamp : Time)
    (eventType message : String) (metadata : List (String × PyValue)) :
    Records post (recordEvent r timestamp eventType message metadata) ↔
      Recordable eventType metadata ∧ post () :=
  ⟨fun h => ⟨h.1, h.2 (.ok ()) trivial () rfl⟩, fun h => ⟨h.1, fun _ _ _ _ => h.2⟩⟩

@[simp] theorem records_addEvent (post : Unit → Prop) (eventType message : String)
    (metadata : List (String × PyValue)) :
    Records post (addEvent r eventType message metadata) ↔
      Recordable eventType metadata ∧ post () := by
  simp [addEvent]

theorem records_getIdentity (post : Option Identity → Prop) (id : UUID)
    (h : ∀ identity, post identity) : Records post (getIdentity id) :=
  ⟨trivial, fun _ _ identity _ => h identity⟩

@[simp] theorem records_fromExcept (post : α → Prop) (x : Except PyException α) :
    Records post (fromExcept x) ↔ ∀ a, x = .ok a → post a := Iff.rfl

theorem records_provider (call : ProviderCall) (post : call.Answer → Prop)
    (h : ∀ answer, post answer) : Records post (provider r call) :=
  ⟨trivial, fun _ _ => ⟨trivial, fun _ _ => ⟨trivial, fun _ _ answer _ => h answer⟩⟩⟩

@[simp] theorem records_get (post : Option Ref → Prop) (id : UUID) :
    Records post (inMemoryMissionRepository.get id) ↔ ∀ answer, post answer :=
  (records_lift (.repository (.get id)) post).trans (by simp [Op.Records])

@[simp] theorem records_update (post : Ref → Prop) :
    Records post (inMemoryMissionRepository.update r) ↔ ∀ r, post r :=
  ⟨fun h r => h.2 (.ok r) trivial r rfl, fun h => ⟨trivial, fun _ _ r _ => h r⟩⟩

theorem records_claimDue (post : List Ref → Prop) (currentTime : Time) (limit : Int)
    (h : ∀ rs, post rs) : Records post (inMemoryMissionRepository.claimDue currentTime limit) :=
  ⟨trivial, fun _ _ rs _ => h rs⟩

theorem records_expireDue (post : List Ref → Prop) (currentTime : Time) (limit : Int)
    (h : ∀ rs, post rs) : Records post (inMemoryMissionRepository.expireDue currentTime limit) :=
  ⟨trivial, fun _ _ rs _ => h rs⟩

theorem records_recoverStaleProcessing (post : List Ref → Prop) (currentTime : Time)
    (claimTimeout : TimeDelta) (limit : Int) (h : ∀ rs, post rs) :
    Records post
      (inMemoryMissionRepository.recoverStaleProcessing currentTime claimTimeout limit) :=
  ⟨trivial, fun _ _ rs _ => h rs⟩

end Operations
end Service

section Walk
variable (r : Ref)

attribute [local simp] jsonMetadata_cons JsonMetadata.nil recordable_generic genericEventTypes

/-- The service records only what the serializer keeps. -/
abbrev RecordsAll {α : Type} (p : Service memory α) : Prop := Records (fun _ => True) p

theorem recordsAll_bind {α β : Type} {p : Service memory α} {f : α → Service memory β}
    (hp : RecordsAll p) (hf : ∀ a, RecordsAll (f a)) : RecordsAll (p >>= f) :=
  (records_bind _ _ _).mpr (records_mono (fun a _ => hf a) hp)

theorem records_concludeMission (target : MissionStatus) {eventType message : String}
    {metadata : List (String × PyValue)} (recordable : Recordable eventType metadata) :
    RecordsAll
      (concludeMission inMemoryMissionRepository r target eventType message metadata) := by
  simp [concludeMission, recordable]

theorem records_failProviderOperation (providerId operation : String) (retryable : Bool) :
    RecordsAll
      (failProviderOperation inMemoryMissionRepository r providerId operation retryable) :=
  records_concludeMission r _ (by simp)

theorem records_callProvider {call : ProviderCall} {handler : Bool → Service memory Ref}
    {proceed : call.Answer → Service memory Ref} (handled : ∀ retryable, RecordsAll (handler retryable))
    (proceeds : ∀ answer, RecordsAll (proceed answer)) :
    RecordsAll (callProvider r call handler proceed) := by
  refine (records_bind _ _ _).mpr (records_attempt _ (records_provider r call _ proceeds) fun error => ?_)
  cases retryable : error.retryable? with
  | none => simp [retryable]
  | some retryable => simp [retryable, handled]

theorem records_expireMissionIfDue (currentTime : Time) :
    RecordsAll (expireMissionIfDue inMemoryMissionRepository r currentTime) := by
  simp only [expireMissionIfDue, records_bind, records_read]
  intro mission
  split <;> simp [expiredMetadata]

theorem records_completeMission :
    RecordsAll (completeMission inMemoryMissionRepository r) := by
  simp [completeMission, records_concludeMission]

theorem records_reservationMade (providerId : String) (result : ReservationResult)
    (reservationId : String) :
    RecordsAll
      (reservationMade inMemoryMissionRepository r providerId result reservationId) := by
  have confirmed : ∀ mission : Mission, RecordsAll (callProvider r
      (.confirmReservation providerId reservationId (confirmationIdempotencyKey mission))
      (failProviderOperation inMemoryMissionRepository r providerId "automatic_confirmation")
      fun confirmation =>
        if confirmation.success = false then
          concludeMission inMemoryMissionRepository r .failed "automatic_confirmation_failed"
            "Automatic reservation confirmation failed." [("provider_id", .str providerId)]
        else do
          addEvent r "automatic_confirmation_succeeded"
            "Automatic reservation confirmation succeeded." [("provider_id", .str providerId)]
          completeMission inMemoryMissionRepository r) := by
    intro mission
    refine records_callProvider r (records_failProviderOperation r _ _) fun confirmation => ?_
    simp [records_concludeMission, records_completeMission]
  simp [reservationMade, records_concludeMission, records_completeMission, confirmed]

theorem records_reserveBest (providerId : String) (best : ScoredOption) (mission : Mission) :
    RecordsAll (reserveBest inMemoryMissionRepository r providerId best mission) := by
  refine records_callProvider r (records_failProviderOperation r _ _) fun result => ?_
  split
  · exact records_concludeMission r _ (by simp)
  · simp
  · exact records_reservationMade r _ _ _

theorem records_bestSelected (providerId : String) (isProcessingRun : Bool) (best : ScoredOption) :
    RecordsAll (bestSelected inMemoryMissionRepository r providerId isProcessingRun best) := by
  simp [bestSelected, records_reserveBest, records_concludeMission]

theorem records_optionsFound (providerId : String) (isProcessingRun : Bool)
    (options : List ProviderOption) :
    RecordsAll (optionsFound inMemoryMissionRepository r providerId isProcessingRun options) := by
  simp only [optionsFound, records_bind, records_addEvent, records_read]
  refine ⟨by simp, fun mission => ?_⟩
  split
  · exact records_concludeMission r _ (by simp)
  · exact records_bestSelected r _ _ _

theorem records_getParticipants (ids : List UUID) : RecordsAll (getParticipants ids) := by
  induction ids with
  | nil => simp [getParticipants]
  | cons id rest ih =>
      refine (records_bind _ _ _).mpr (records_getIdentity _ _ fun identity => ?_)
      cases identity with
      | none => exact ih
      | some identity => exact recordsAll_bind ih fun _ => by simp

theorem records_participantsFound (providerId : String) (isProcessingRun : Bool)
    (identities : List Identity) :
    RecordsAll
      (participantsFound inMemoryMissionRepository r providerId isProcessingRun identities) := by
  have proceeds : RecordsAll (callProvider r (.searchOptions providerId identities)
      (failProviderOperation inMemoryMissionRepository r providerId "search")
      (optionsFound inMemoryMissionRepository r providerId isProcessingRun)) :=
    records_callProvider r (records_failProviderOperation r _ _)
      (records_optionsFound r providerId isProcessingRun)
  simp [participantsFound, records_concludeMission, proceeds]

theorem records_startMission (providerId : String) :
    RecordsAll (startMission inMemoryMissionRepository r providerId) := by
  have participants : ∀ ids isProcessingRun, RecordsAll (getParticipants ids >>=
      participantsFound inMemoryMissionRepository r providerId isProcessingRun) :=
    fun ids isProcessingRun => recordsAll_bind (records_getParticipants ids)
      (records_participantsFound r providerId isProcessingRun)
  simp only [records_bind] at participants
  simp [startMission, participants]

theorem records_providerResolved (adapter : ProviderAdapter) :
    RecordsAll (providerResolved inMemoryMissionRepository r adapter) := by
  simp only [providerResolved, records_bind, records_assign, records_read, records_fromExcept,
    records_addEvent, records_update]
  exact fun mission metadata built =>
    ⟨recordable_resolved built, fun _ => records_startMission r _⟩

theorem records_providerResolutionFailed {mission : Mission} {error : PyException}
    (raised : ResolutionError mission error) :
    RecordsAll (providerResolutionFailed inMemoryMissionRepository r mission error) := by
  simp only [providerResolutionFailed, records_bind, records_fromExcept, records_addEvent,
    records_update, records_throw]
  exact fun metadata built => ⟨recordable_resolutionFailed raised built, fun _ => trivial⟩

/-- A service that starts by loading a mission. -/
theorem records_load {missionId : UUID} {f : Option Ref → Service memory Ref}
    (missing : RecordsAll (f none)) (found : ∀ r, RecordsAll (f (some r))) :
    RecordsAll (inMemoryMissionRepository.get missionId >>= f) :=
  (records_bind _ _ _).mpr ((records_get _ _).mpr fun answer => by
    cases answer with
    | none => exact missing
    | some r => exact found r)

theorem records_runMission (registry : ProviderRegistry) (missionId : UUID)
    (options : RunOptions) :
    RecordsAll (runMission inMemoryMissionRepository registry missionId options) := by
  refine records_load (by simp) fun r => ?_
  simp only [records_bind, records_read, records_ite]
  refine fun mission => ⟨fun _ => by simp, fun _ => records_orUtcNow _ _ fun now => ?_⟩
  refine records_mono (fun expired _ => ?_) (records_expireMissionIfDue r now)
  refine ⟨fun _ => by simp, fun _ mission => ⟨fun _ => by simp, fun _ => ?_⟩⟩
  split
  · rename_i error raised
    exact records_providerResolutionFailed r (resolve_error raised)
  · exact records_providerResolved r _

theorem records_missionConfirmed :
    RecordsAll (missionConfirmed inMemoryMissionRepository r) := by
  simp [missionConfirmed]

theorem records_confirmMission (registry : ProviderRegistry) (missionId : UUID) :
    RecordsAll (confirmMission inMemoryMissionRepository registry missionId) := by
  refine records_load (by simp) fun r => ?_
  simp only [records_bind, records_read, records_ite]
  refine fun mission => ⟨fun _ => by simp, fun _ => ?_⟩
  split
  · simp
  · exact records_missionConfirmed r
  · split
    · simp
    · simp only [records_bind, records_addEvent]
      refine ⟨by simp, records_callProvider r (records_failProviderOperation r _ _)
        fun confirmation => ?_⟩
      simp [records_concludeMission, records_missionConfirmed]

theorem records_missionCancelled :
    RecordsAll (missionCancelled inMemoryMissionRepository r) :=
  records_concludeMission r _ (by simp)

theorem records_cancelProviderReservation (registry : ProviderRegistry) (mission : Mission) :
    RecordsAll (cancelProviderReservation inMemoryMissionRepository registry r mission) := by
  unfold cancelProviderReservation
  split
  · simp
  · exact records_missionCancelled r
  · split
    · simp
    · simp only [records_bind, records_addEvent]
      refine ⟨by simp, records_callProvider r
        (fun _ => recordsAll_bind (records_failProviderOperation r _ _ _) fun _ => by simp)
        fun cancellation => ?_⟩
      refine (records_ite _ _ _ _).mpr ⟨fun _ => ?_, fun _ => ?_⟩
      · exact recordsAll_bind (records_concludeMission r _ (by simp)) fun _ => by simp
      · simp [records_missionCancelled]

theorem records_cancelMission (registry : ProviderRegistry) (missionId : UUID) :
    RecordsAll (cancelMission inMemoryMissionRepository registry missionId) := by
  refine records_load (by simp) fun r => ?_
  simp [records_cancelProviderReservation, records_missionCancelled]

theorem records_pauseMission (missionId : UUID) :
    RecordsAll (pauseMission inMemoryMissionRepository missionId) :=
  records_load (by simp) fun r => by simp

theorem records_resumeMission (missionId : UUID) :
    RecordsAll (resumeMission inMemoryMissionRepository missionId) :=
  records_load (by simp) fun r => by simp

theorem records_scheduleMission (missionId : UUID) (scheduledAt currentTime : Option Time) :
    RecordsAll
      (scheduleMission inMemoryMissionRepository missionId scheduledAt currentTime) := by
  refine (records_bind _ _ _).mpr (records_orUtcNow _ _ fun now => ?_)
  refine records_load (by simp) fun r => ?_
  simp only [records_bind, records_read, records_ite]
  refine fun mission => ⟨fun _ => by simp, fun _ => ⟨fun _ => by simp, fun _ => ?_⟩⟩
  split
  · simp [unscheduleMission]
  · simp [scheduleMissionAt]

theorem records_retryMission (missionId : UUID) (options : RetryOptions) :
    RecordsAll (retryMission inMemoryMissionRepository missionId options) := by
  refine (records_bind _ _ _).mpr (records_orUtcNow _ _ fun now => ?_)
  refine (records_ite _ _ _ _).mpr ⟨fun _ => by simp, fun _ => ?_⟩
  refine records_load (by simp) fun r => ?_
  simp [resetForRetry, retryMetadata]

theorem records_scheduleAutomaticRetry (currentTime : Time) (policy : MissionRetryPolicy)
    (reason : String) :
    RecordsAll
      (scheduleAutomaticRetry inMemoryMissionRepository r currentTime policy reason) := by
  simp [scheduleAutomaticRetry, records_retryMission]

theorem records_markClaimedMissionFailed (message : String) :
    RecordsAll (markClaimedMissionFailed inMemoryMissionRepository r message) := by
  simp [markClaimedMissionFailed]

theorem records_recordTerminalFailure (currentTime : Time) :
    RecordsAll (recordTerminalFailure inMemoryMissionRepository r currentTime) := by
  simp [recordTerminalFailure]

theorem records_handleFailedRun (missionId : UUID) (currentTime : Time)
    (policy : MissionRetryPolicy) (result : DueMissionProcessingResult) (exc : PyException) :
    RecordsAll
      (handleFailedRun inMemoryMissionRepository r missionId currentTime policy result exc) := by
  refine recordsAll_bind (records_markClaimedMissionFailed r _) fun failed => ?_
  refine (records_ite _ _ _ _).mpr ⟨fun _ => ?_, fun _ => by simp⟩
  exact recordsAll_bind (records_scheduleAutomaticRetry _ _ _ _) fun _ => by simp

theorem records_handleFinishedRun (currentTime : Time) (policy : MissionRetryPolicy)
    (result : DueMissionProcessingResult) :
    RecordsAll
      (handleFinishedRun inMemoryMissionRepository r currentTime policy result) := by
  simp [handleFinishedRun, records_scheduleAutomaticRetry, records_recordTerminalFailure]

theorem records_processClaimedMission (registry : ProviderRegistry) (currentTime : Time)
    (policy : MissionRetryPolicy) (result : DueMissionProcessingResult) :
    RecordsAll
      (processClaimedMission inMemoryMissionRepository registry currentTime policy r result) := by
  simp only [processClaimedMission, records_bind, records_read]
  refine fun mission => records_attempt _
    (records_mono (fun updated _ => ?_) (records_runMission _ _ _)) fun exc => ?_
  · exact records_handleFinishedRun updated _ _ _
  · simp [records_handleFailedRun]

theorem records_processClaimedMissions (registry : ProviderRegistry) (currentTime : Time)
    (policy : MissionRetryPolicy) (rs : List Ref) (result : DueMissionProcessingResult) :
    RecordsAll
      (processClaimedMissions inMemoryMissionRepository registry currentTime policy rs result) := by
  induction rs generalizing result with
  | nil => simp [processClaimedMissions]
  | cons r rest ih => exact recordsAll_bind (records_processClaimedMission r _ _ _ _) ih

theorem records_missionIds (rs : List Ref) : RecordsAll (missionIds (B := memory) rs) := by
  induction rs with
  | nil => simp [missionIds]
  | cons r rest ih =>
      simp only [missionIds, records_bind, records_read]
      exact fun mission => records_mono (fun _ _ => by simp) ih

theorem records_expireDueMissions (currentTime : Time) (limit : Int) :
    RecordsAll (expireDueMissions inMemoryMissionRepository currentTime limit) := by
  simp [expireDueMissions, records_expireDue]

theorem records_processDueMissions (registry : ProviderRegistry) (currentTime : Time)
    (limit : Int) (policy : MissionRetryPolicy) :
    RecordsAll
      (processDueMissions inMemoryMissionRepository registry currentTime limit policy) :=
  recordsAll_bind (records_expireDueMissions _ _) fun expired =>
    recordsAll_bind (records_claimDue _ _ _ fun _ => trivial) fun claimed =>
      recordsAll_bind (records_missionIds expired) fun _ =>
        records_processClaimedMissions _ _ _ claimed _

theorem records_assignAll (assignments : List Assignment) :
    RecordsAll (assignAll (B := memory) r assignments) := by
  induction assignments with
  | nil => simp [assignAll]
  | cons assignment rest ih => simpa [assignAll] using ih

theorem json_applyChange {α : Type} [DecidableEq α] {fieldName : String} {existing : α}
    {value : Option α} {serialize : α → PyValue} {assignment : α → Assignment} {change : Change}
    (json : ∀ a, (serialize a).IsJson)
    (member : change ∈ applyChange fieldName existing value serialize assignment) :
    change.previous.IsJson ∧ change.current.IsJson := by
  unfold applyChange at member
  split at member
  · cases member
  · split at member
    · cases member
    · obtain rfl := List.mem_singleton.mp member
      exact ⟨json _, json _⟩

theorem json_changes {update : MissionUpdate} {mission : Mission} {change : Change}
    (member : change ∈ update.changes mission) :
    change.previous.IsJson ∧ change.current.IsJson := by
  simp only [MissionUpdate.changes, List.mem_append] at member
  obtain ((title | fallbackRules) | executionMode) | attempts := member
  · exact json_applyChange (fun _ => .str _) title
  · exact json_applyChange (fun rules => by simp [FallbackRules.dump]) fallbackRules
  · exact json_applyChange (fun _ => .str _) executionMode
  · exact json_applyChange (fun _ => .int _) attempts

theorem json_updatedMetadata (update : MissionUpdate) (mission : Mission) :
    JsonMetadata (updatedMetadata (update.changes mission)) := by
  simp only [updatedMetadata, jsonMetadata_cons, JsonMetadata.nil, and_true]
  refine ⟨by simp, ?_, ?_⟩ <;> simp only [PyValue.isJson_dict, List.forall_mem_map]
  · exact fun change member => (json_changes member).1
  · exact fun change member => (json_changes member).2

theorem records_updateMission (registry : ProviderRegistry) (missionId : UUID)
    (update : MissionUpdate) :
    RecordsAll (updateMission inMemoryMissionRepository registry missionId update) := by
  refine records_load (by simp) fun r => ?_
  simp only [records_bind, records_read, records_ite, records_fromExcept]
  refine fun mission => ⟨fun _ => by simp, fun _ => ⟨fun _ => by simp, fun _ checked _ => ?_⟩⟩
  refine records_mono (fun _ _ => ?_) (records_assignAll r _)
  simp [json_updatedMetadata]

theorem records_setMissionProvider (registry : ProviderRegistry) (missionId : UUID)
    (providerId : Option String) :
    RecordsAll (setMissionProvider inMemoryMissionRepository registry missionId providerId) := by
  refine records_load (by simp) fun r => ?_
  simp only [records_bind, records_read, records_ite, records_fromExcept, records_copy,
    records_addEvent, records_update, records_pure]
  refine fun mission => ⟨fun _ => by simp, fun _ normalized _ _ _ =>
    ⟨fun _ => trivial, fun changed r => ⟨?_, fun _ => trivial⟩⟩⟩
  have recordable := recordable_payload (.selectionChanged
    ⟨mission.providerId, normalized, _, _, Ne.symm changed, rfl, rfl⟩)
  rw [selectionModeFor_eq, selectionModeFor_eq]
  exact recordable

theorem records_call (registry : ProviderRegistry) (call : MissionCall) :
    RecordsAll (call.service inMemoryMissionRepository registry) := by
  have discard : ∀ {α : Type} {p : Service memory α}, RecordsAll p →
      RecordsAll (Command.service.discard p) := fun hp =>
    recordsAll_bind hp fun _ => by simp
  cases call with
  | command given =>
      cases given with
      | runMission => exact discard (records_runMission _ _ _)
      | confirmMission => exact discard (records_confirmMission _ _)
      | cancelMission => exact discard (records_cancelMission _ _)
      | pauseMission => exact discard (records_pauseMission _)
      | resumeMission => exact discard (records_resumeMission _)
      | scheduleMission => exact discard (records_scheduleMission _ _ _)
      | updateMission => exact discard (records_updateMission _ _ _)
      | retryMission => exact discard (records_retryMission _ _)
      | expireDue => exact discard (records_expireDueMissions _ _)
      | recoverStaleProcessing =>
          exact discard (records_recoverStaleProcessing _ _ _ _ fun _ => trivial)
      | processDueMissions => exact discard (records_processDueMissions _ _ _ _)
  | setMissionProvider => exact discard (records_setMissionProvider _ _ _)

end Walk
end PurchaseAgent
