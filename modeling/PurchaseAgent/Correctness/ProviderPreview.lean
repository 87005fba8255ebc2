import Mathlib.Data.List.Nodup
import PurchaseAgent.Correctness.RunProtocol
import PurchaseAgent.Services.ProviderResolutionPreview

/-!
The preview of a provider resolution beside the run it announces. They agree,
and the stored provider is found again, when the ids that may be resolved are
stripped; the registry accepts others as well.
-/

namespace PurchaseAgent

open Cooperative Cooperative.Discipline InMemoryMissionRepository

/-- The adapters that an automatic selection chooses from. -/
def ProviderResolver.supporting (registry : ProviderRegistry) (mission : Mission) :
    List ProviderAdapter :=
  (registry.listSupporting mission.missionType).filter
    (·.supportsExecutionMode mission.missionType mission.executionMode)

/-- What the resolver can return or raise, and when. -/
inductive ProviderResolver.Resolution (registry : ProviderRegistry) (mission : Mission) :
    Except PyException ProviderAdapter → Prop
  | explicit (providerId : ProviderId) (selected : mission.providerId = some providerId)
      (adapter : ProviderAdapter) (found : registry.get providerId.text = .ok adapter) :
      Resolution registry mission (.ok adapter)
  | unknown (explicit : mission.providerId.isSome) (providerId : String) :
      Resolution registry mission (.error (.unknownProviderError providerId))
  | unsupportedType (explicit : mission.providerId.isSome) (providerId : String)
      (missionType : MissionType) :
      Resolution registry mission (.error (.unsupportedMissionTypeError providerId missionType))
  | unsupportedMode (executionMode : MissionExecutionMode) (providerId : Option String)
      (unsupported : mission.providerId = none → supporting registry mission = []) :
      Resolution registry mission
        (.error (.unsupportedExecutionModeError executionMode providerId))
  | only (automatic : mission.providerId = none) (adapter : ProviderAdapter)
      (single : supporting registry mission = [adapter]) :
      Resolution registry mission (.ok adapter)
  | unsupported (automatic : mission.providerId = none) (missionType : MissionType)
      (empty : supporting registry mission = []) :
      Resolution registry mission (.error (.noSupportingProviderError missionType))
  | several (automatic : mission.providerId = none) (missionType : MissionType)
      (several : 2 ≤ (supporting registry mission).length) :
      Resolution registry mission (.error (.ambiguousProviderError missionType
        ((supporting registry mission).map (·.providerId))))

open ProviderResolver (supporting Resolution)

theorem ProviderResolver.resolution (registry : ProviderRegistry) (mission : Mission) :
    Resolution registry mission (resolve registry mission) := by
  unfold resolve
  split
  · rename_i providerId selected
    have explicit : mission.providerId.isSome := by rw [selected]; rfl
    have unsupported : mission.providerId = none → supporting registry mission = [] := by
      intro automatic
      simp [automatic] at selected
    cases found : registry.get providerId.text with
    | error error =>
        unfold ProviderRegistry.get at found
        split at found
        · cases found
        · obtain rfl := Except.error.inj found
          exact .unknown explicit _
    | ok adapter =>
        dsimp only
        split
        · exact .unsupportedType explicit _ _
        · split
          · exact .unsupportedMode _ _ unsupported
          · exact .explicit providerId selected adapter found
  · rename_i automatic
    dsimp only
    split
    · rename_i empty
      split
      · exact .unsupported automatic _ empty
      · exact .unsupportedMode _ _ fun _ => empty
    · rename_i adapter single
      exact .only automatic adapter single
    · rename_i none one
      refine .several automatic _ ?_
      change supporting registry mission = [] → False at none
      change ∀ adapter, supporting registry mission = [adapter] → False at one
      cases listed : supporting registry mission with
      | nil => exact absurd listed none
      | cons first rest =>
          cases rest with
          | nil => exact absurd listed (one first)
          | cons second rest => simp

theorem ProviderRegistry.get_of_mem {registry : ProviderRegistry} {adapter : ProviderAdapter}
    (member : adapter ∈ registry.adapters) : registry.get adapter.providerId = .ok adapter := by
  unfold get
  split
  · rename_i other found
    have same : other.providerId = adapter.providerId := by simpa using List.find?_some found
    exact congrArg _ (List.inj_on_of_nodup_map registry.uniqueIds
      (List.mem_of_find?_eq_some found) member same)
  · rename_i missing
    have differs := List.find?_eq_none.mp missing adapter member
    simp at differs

/-- The id is its own normalization. -/
def ProviderAdapter.Normalized (adapter : ProviderAdapter) : Prop :=
  strip adapter.providerId = adapter.providerId

theorem ProviderResolver.mem_supporting {registry : ProviderRegistry} {mission : Mission}
    {adapter : ProviderAdapter} :
    adapter ∈ supporting registry mission ↔ adapter ∈ registry.adapters ∧
      adapter.supportsExecutionMode mission.missionType mission.executionMode = true := by
  simp only [supporting, ProviderRegistry.listSupporting, List.mem_filter]
  constructor
  · intro member
    exact ⟨member.1.1, member.2⟩
  · intro member
    refine ⟨⟨member.1, ?_⟩, member.2⟩
    have supports := member.2
    unfold ProviderAdapter.supportsExecutionMode at supports
    split at supports
    · exact supports
    · obtain ⟨capability, listed, holds⟩ := List.any_eq_true.mp supports
      exact List.any_eq_true.mpr
        ⟨capability, listed, decide_eq_true (of_decide_eq_true holds).1⟩

/-- How a resolution went. -/
inductive ResolutionOutcome where
  | resolved (providerId : String)
  | failed (reason : ProviderResolutionFailureReason) (candidateProviderIds : List String)

/-- The preview announces the outcome. -/
def ProviderResolutionPreview.Shows (preview : ProviderResolutionPreview) :
    ResolutionOutcome → Prop
  | .resolved providerId =>
      preview.outcome = .resolved ∧ preview.resolvedProviderId = some providerId
  | .failed reason candidates =>
      preview.outcome ≠ .resolved ∧ preview.failureReason = some reason ∧
        preview.candidateProviderIds = candidates

/-- A run that resolved the mission `before`, and left `after`, had the outcome. -/
def RunShows (registry : ProviderRegistry) (before after : Mission)
    (result : Except PyException Ref) : ResolutionOutcome → Prop
  | .resolved providerId =>
      after.resolvedProviderId = some providerId ∧
        ∃ event ∈ after.executionLog.drop before.executionLog.length,
          event.type = "provider_resolved" ∧
            event.metadata.lookup "provider_id" = some (.str providerId)
  | .failed reason candidates =>
      (∃ error, ProviderResolver.resolve registry before = .error error ∧
        result = .error error) ∧
        ∃ metadata, LastEvent after "provider_resolution_failed" metadata ∧
          metadata.lookup "reason" = some (.str reason.value) ∧
          metadata.lookup "candidate_provider_ids" = some (.list (candidates.map .str))

/-- The adapter that the stored provider of a mission names, once it is reloaded. -/
def FoundAgain (registry : ProviderRegistry) (mission : Mission) (adapter : ProviderAdapter) :
    Prop :=
  ∃ providerId, normalizeProviderId mission.resolvedProviderId = .ok (some providerId) ∧
    registry.get providerId.text = .ok adapter

/-- `run_mission` gets as far as the resolver. -/
structure ComesToResolve (options : RunOptions) (now : Time) (mission : Mission) : Prop where
  startable : mission.status ∈ startableStatuses options.allowProcessing
  unexpired : ∀ expiresAt ∈ mission.expiresAt,
    mission.status ∈ expirableStatuses → now < expiresAt
  due : ¬ (mission.status = .waiting ∧ isScheduledForFuture mission now)

/-- The reason and the candidates that a failure of the resolver is reported with. -/
def resolutionFailure : PyException →
    Option (ProviderResolutionFailureReason × List String)
  | .unknownProviderError _ => some (.unknownProvider, [])
  | .unsupportedMissionTypeError _ _ => some (.unsupportedMissionType, [])
  | .unsupportedExecutionModeError _ _ => some (.unsupportedExecutionMode, [])
  | .noSupportingProviderError _ => some (.noSupportingProvider, [])
  | .ambiguousProviderError _ providerIds => some (.ambiguousProvider, providerIds)
  | _ => none

theorem failurePayload_eq (mission : Mission) {error : PyException}
    {reason : ProviderResolutionFailureReason} {candidates : List String}
    (h : resolutionFailure error = some (reason, candidates)) :
    ∃ requested, providerResolutionFailurePayload mission error =
      providerResolutionFailurePayload.payload mission reason.value requested
        (candidates.map strip) := by
  cases error with
  | unknownProviderError | unsupportedMissionTypeError | unsupportedExecutionModeError
  | noSupportingProviderError | ambiguousProviderError =>
      cases h
      exact ⟨_, rfl⟩
  | _ => cases h

/-- The candidates of a failure, read from its payload. -/
theorem failurePayload_candidates {reason missionType : String} {requested : PyValue}
    {candidates shown : List String}
    (told : List.lookup "candidate_provider_ids" [("reason", PyValue.str reason),
      ("mission_type", .str missionType), ("requested_provider_id", requested),
      ("candidate_provider_ids", .list (candidates.map .str))] =
        some (.list (shown.map .str))) : candidates = shown := by
  change some (PyValue.list (candidates.map .str)) = _ at told
  have texts := PyValue.list.inj (Option.some.inj told)
  exact List.map_injective_iff.mpr (fun _ _ => PyValue.str.inj) texts

section
variable {registry : ProviderRegistry} {mission : Mission}

/-- A failure of the resolver is previewed, with the candidates it found. -/
theorem preview_of_failure {error : PyException}
    (h : Resolution registry mission (.error error)) :
    ∃ reason candidates preview, resolutionFailure error = some (reason, candidates) ∧
      PreviewMissionProviderResolution.preview mission (.error error) = .ok preview ∧
      preview.Shows (.failed reason candidates) ∧
      (candidates = [] ∨ mission.providerId = none) ∧
      (mission.providerId = none →
        candidates = (supporting registry mission).map (·.providerId)) := by
  generalize result : Except.error error = raised at h
  cases h with
  | explicit | only => cases result
  | unknown explicit | unsupportedType explicit =>
      cases result
      refine ⟨_, _, _, rfl, ProviderResolutionPreview.create_ok ?_, ⟨by simp, rfl, rfl⟩, .inl rfl,
        fun automatic => by simp [automatic] at explicit⟩
      simpa [ProviderResolutionPreviewFields.validateOutcome, Option.isSome_iff_ne_none,
        ProviderResolutionPreviewFields.validateFailure, ProviderResolutionPreviewOutcome.value,
        ProviderResolutionFailureReason.value] using explicit
  | unsupportedMode _ _ unsupported =>
      cases result
      refine ⟨_, _, _, rfl, ProviderResolutionPreview.create_ok ?_, ⟨by simp, rfl, rfl⟩, .inl rfl,
        fun automatic => by rw [unsupported automatic]; rfl⟩
      simp [ProviderResolutionPreviewFields.validateOutcome,
        ProviderResolutionPreviewFields.validateFailure, ProviderResolutionPreviewOutcome.value,
        ProviderResolutionFailureReason.value]
  | unsupported automatic _ empty =>
      cases result
      refine ⟨_, _, _, rfl, ProviderResolutionPreview.create_ok ?_, ⟨by simp, rfl, rfl⟩, .inl rfl,
        fun _ => by rw [empty]; rfl⟩
      simp [ProviderResolutionPreviewFields.validateOutcome, automatic,
        ProviderResolutionPreviewFields.validateFailure, ProviderResolutionPreviewOutcome.value,
        ProviderResolutionFailureReason.value]
  | several automatic missionType several =>
      cases result
      refine ⟨_, _, _, rfl, ProviderResolutionPreview.create_ok ?_, ⟨by simp, rfl, rfl⟩,
        .inr automatic, fun _ => rfl⟩
      have two : 2 ≤ (supporting registry mission).length := several
      simp [ProviderResolutionPreviewFields.validateOutcome, automatic,
        ProviderResolutionPreviewFields.validateFailure, ProviderResolutionPreviewOutcome.value,
        ProviderResolutionFailureReason.value]
      omega

theorem preview_of_resolved (mission : Mission) (adapter : ProviderAdapter) :
    ∃ preview, PreviewMissionProviderResolution.preview mission (.ok adapter) = .ok preview ∧
      preview.Shows (.resolved adapter.providerId) :=
  ⟨_, ProviderResolutionPreview.create_ok
    (by simp [ProviderResolutionPreviewFields.validateOutcome]), rfl, rfl⟩

theorem ProviderResolutionPreview.Shows.unique {preview : ProviderResolutionPreview}
    {left right : ResolutionOutcome} (h : preview.Shows left) (k : preview.Shows right) :
    left = right := by
  cases left with
  | resolved providerId =>
      cases right with
      | resolved => exact congrArg _ (Option.some.inj (h.2.symm.trans k.2))
      | failed => exact absurd h.1 k.1
  | failed reason candidates =>
      cases right with
      | resolved => exact absurd k.1 h.1
      | failed =>
          obtain rfl := Option.some.inj (h.2.1.symm.trans k.2.1)
          exact congrArg _ (h.2.2.symm.trans k.2.2)

/-- The adapters that can be resolved have ids that are their own normalizations. -/
def NormalizedChoices (registry : ProviderRegistry) (mission : Mission) : Prop :=
  mission.providerId = none → ∀ adapter ∈ registry.adapters,
    adapter.supportsExecutionMode mission.missionType mission.executionMode = true →
      adapter.Normalized

theorem normalizedChoices_iff :
    NormalizedChoices registry mission ↔ (mission.providerId = none →
      ∀ adapter ∈ supporting registry mission, adapter.Normalized) := by
  simp only [NormalizedChoices, ProviderResolver.mem_supporting, and_imp]

end

section
variable {m : Mission} {providerId : String} {s s' : Stage} {outcome : Outcome}

@[simp] theorem Stage.enter_resolvedProviderId (s : Stage) (isProcessingRun : Bool)
    (status : MissionStatus) :
    (s.enter isProcessingRun status).resolvedProviderId = s.resolvedProviderId := by
  cases isProcessingRun <;> rfl

theorem Reserved.keepsProvider {result : ReservationResult} {reservationId : String}
    (h : Reserved m providerId result reservationId s s' outcome) :
    s'.resolvedProviderId = s.resolvedProviderId := by
  cases h <;> rfl

theorem Chosen.keepsProvider {isProcessingRun : Bool} {option : ProviderOption}
    (h : Chosen m providerId isProcessingRun option s s' outcome) :
    s'.resolvedProviderId = s.resolvedProviderId := by
  cases h with
  | reserved _ _ _ _ course =>
      rw [course.keepsProvider]
      simp [Stage.assign, Stage.exchanged]
  | _ => simp [Stage.assign, Stage.exchanged, Stage.withStatus]

theorem Searched.keepsProvider {isProcessingRun : Bool}
    (h : Searched m providerId isProcessingRun s s' outcome) :
    s'.resolvedProviderId = s.resolvedProviderId := by
  cases h with
  | found _ _ _ _ course =>
      rw [course.keepsProvider]
      simp [Stage.exchanged]
  | _ => simp [Stage.exchanged, Stage.withStatus]

variable {σ : Type} {env : Environment σ}

/-- What follows the resolution leaves the resolved provider as it is. -/
theorem Started.keepsProvider {isProcessingRun : Bool}
    (h : Started m providerId env isProcessingRun s s' outcome) :
    s'.resolvedProviderId = s.resolvedProviderId := by
  cases h with
  | identityRaised => simp
  | searched course => simp [course.keepsProvider]

end

section
variable {σ : Type} {env : Environment σ} {t : TaskId} {r : Ref} {w : MemoryWorld σ}

theorem safe_both {α : Type} {Q R : α → MemoryWorld σ → Prop} {p : Prog (signature memory) α}
    (h : (alone env).Safe t Q p w) (k : (alone env).Safe t R p w) :
    (alone env).Safe t (fun a w' => Q a w' ∧ R a w') p w :=
  (safe_alone _ _ _).mpr ⟨(safe_alone _ _ _).mp h, (safe_alone _ _ _).mp k⟩

/-- The event is the next one of the log. -/
theorem safe_addEvent_log (eventType message : String) (metadata : List (String × PyValue)) :
    (alone env).Safe t
      (fun result w' => result = .ok () →
        ∃ event, (w'.mission r).executionLog = (w.mission r).executionLog ++ [event] ∧
          event.type = eventType ∧ event.metadata = metadata)
      (Service.addEvent r eventType message metadata).run w := by
  refine (safe_run_bind _ _ _ _).mpr ((Service.safe_utcNow (B := memory) w _).mpr ⟨trivial, ?_⟩)
  refine (Service.safe_recordEvent (B := memory) _ r _ _ _ _ _).mpr
    ⟨fun mission ok => ⟨trivial, fun _ => ?_⟩, fun error raised => ⟨trivial, fun ok => ?_⟩⟩
  · obtain ⟨-, rfl⟩ := Mission.recordEvent_ok ok
    refine ⟨(w.mission r).nextEvent (env.newEventId w.idsDrawn) (env.utcNow w.clockReads) eventType
      message metadata, ?_, rfl, rfl⟩
    rw [World.mission_setMission]
    rfl
  · cases ok

/-- Nothing happens to a mission that is not due to expire. -/
theorem safe_unexpired {now : Time} (unexpired : ∀ expiresAt ∈ (w.mission r).expiresAt,
      (w.mission r).status ∈ expirableStatuses → now < expiresAt) :
    (alone env).Safe t (Returning fun expired w' => expired = false ∧ w' = w)
      (expireMissionIfDue inMemoryMissionRepository r now).run w := by
  refine Reaches.read_then ?_
  cases expiry : (w.mission r).expiresAt with
  | none => exact ⟨rfl, rfl⟩
  | some expiresAt =>
      dsimp only
      split
      · exact ⟨rfl, rfl⟩
      · rename_i due
        rw [not_or, not_not] at due
        exact absurd (unexpired expiresAt (by simp [expiry]) due.1) due.2

variable {Q : Except PyException Ref → MemoryWorld σ → Prop}

/-- A run that comes to the resolver. -/
theorem safe_runMission_resolved (wellFormed : WellFormed env w) (stored : Stored w r)
    (registry : ProviderRegistry) {options : RunOptions}
    (comes : ComesToResolve options (options.currentTime.getD (env.utcNow w.clockReads))
      (w.mission r))
    (failed : ∀ error, ProviderResolver.resolve registry (w.mission r) = .error error →
      ∀ w', WellFormed env w' → Stored w' r → w'.mission r = w.mission r →
        (alone env).Safe t Q
          (providerResolutionFailed inMemoryMissionRepository r (w.mission r) error).run w')
    (resolved : ∀ adapter, ProviderResolver.resolve registry (w.mission r) = .ok adapter →
      ∀ w', WellFormed env w' → Stored w' r → w'.mission r = w.mission r →
        (alone env).Safe t Q (providerResolved inMemoryMissionRepository r adapter).run w') :
    (alone env).Safe t Q
      (runMission inMemoryMissionRepository registry (w.mission r).id options).run w := by
  have h := reaches_initial wellFormed t stored
  refine safe_then h.get ?_
  rintro _ w ⟨rfl, rfl⟩
  refine Reaches.read_then ?_
  rw [if_neg (not_not.mpr comes.startable)]
  have timed : (alone env).Safe t
      (Returning fun now w' => now = options.currentTime.getD (env.utcNow w.clockReads) ∧
        WellFormed env w' ∧ Stored w' r ∧ w'.mission r = w.mission r)
      (Service.orUtcNow options.currentTime).run w := by
    cases options.currentTime with
    | some time => exact ⟨rfl, wellFormed, stored, rfl⟩
    | none =>
        refine (Service.safe_utcNow (B := memory) w _).mpr ⟨trivial, rfl, ?_, stored, rfl⟩
        have ticked : Evolves env w { w with clockReads := w.clockReads + 1 } :=
          evolves_of_extends wellFormed rfl le_rfl (fun _ => .refl _ _ _) (.same rfl)
        exact ticked.wellFormed
  refine safe_then timed ?_
  rintro _ w' ⟨rfl, wellFormed', stored', same⟩
  refine safe_then (safe_unexpired (same ▸ comes.unexpired)) ?_
  rintro _ _ ⟨rfl, rfl⟩
  refine Reaches.read_then ?_
  rw [same, if_neg comes.due]
  cases resolution : ProviderResolver.resolve registry (w.mission r) with
  | error error => exact failed error resolution _ wellFormed' stored' same
  | ok adapter => exact resolved adapter resolution _ wellFormed' stored' same

/-- A run whose provider is not resolved. -/
theorem safe_failed (wellFormed : WellFormed env w) (stored : Stored w r) (mission : Mission)
    (error : PyException) :
    (alone env).Safe t
      (fun x w' =>
        (∀ error', providerResolutionFailurePayload mission error = .error error' →
          x = .error error') ∧
        ∀ metadata, providerResolutionFailurePayload mission error = .ok metadata →
          x = .error error ∧ LastEvent (w'.mission r) "provider_resolution_failed" metadata)
      (providerResolutionFailed inMemoryMissionRepository r mission error).run w := by
  unfold providerResolutionFailed
  cases payload : providerResolutionFailurePayload mission error with
  | error error' =>
      refine ⟨?_, ?_⟩
      · rintro _ ⟨⟩
        rfl
      · rintro _ ⟨⟩
  | ok metadata =>
      refine Reaches.fromExcept_then rfl ?_
      refine safe_then ((reaches_initial wellFormed t stored).addEvent _ _ _) fun _ _ recorded => ?_
      refine safe_then (recorded.1.update recorded.2.log) fun _ w' kept => ?_
      refine ⟨?_, ?_⟩
      · rintro _ ⟨⟩
      · rintro _ ⟨⟩
        exact ⟨rfl, kept.2.2 ▸ recorded.2⟩

/-- A run whose provider is resolved. -/
theorem safe_resolved (wellFormed : WellFormed env w) (stored : Stored w r)
    {registry : ProviderRegistry} {adapter : ProviderAdapter}
    (startable : (w.mission r).status ∈ startableStatuses true)
    (resolved : ProviderResolver.resolve registry (w.mission r) = .ok adapter) :
    (alone env).Safe t
      (fun _ w' => (w'.mission r).resolvedProviderId = some adapter.providerId ∧
        ∃ event ∈ (w'.mission r).executionLog.drop (w.mission r).executionLog.length,
          event.type = "provider_resolved" ∧
            event.metadata.lookup "provider_id" = some (.str (strip adapter.providerId)))
      (providerResolved inMemoryMissionRepository r adapter).run w := by
  obtain ⟨metadata, payload⟩ := providerResolvedPayload_of_resolve resolved
  have named : metadata.lookup "provider_id" = some (.str (strip adapter.providerId)) := by
    unfold providerResolvedPayload at payload
    dsimp only at payload
    split at payload
    · cases payload
    · split at payload
      · cases payload
      · obtain rfl := Except.ok.inj payload
        rfl
  have h := reaches_initial wellFormed t stored
  refine safe_then (P := fun _ w' => Reaches env t r w
    ((Stage.initial (w.mission r)).assign (.resolvedProviderId (some adapter.providerId))) w' ∧
      (w'.mission r).executionLog = (w.mission r).executionLog ∧
      providerResolvedPayload (w'.mission r) adapter = .ok metadata) ?_ fun _ w₁ assigned => ?_
  · refine (Service.safe_assign (B := memory) w r _ _).mpr ⟨trivial, ?_, ?_⟩
    · exact ((Service.safe_assign (B := memory) w r _ _).mp (h.assign _ rfl)).2
    · rw [World.mission_setMission]
      exact ⟨rfl, payload⟩
  obtain ⟨reached, log, payload⟩ := assigned
  refine Reaches.read_then (Reaches.fromExcept_then payload ?_)
  refine safe_seq (safe_both (reached.addEvent _ _ _) (safe_addEvent_log _ _ _)) ?_ ?_
  · rintro _ w₂ ⟨recorded, appended⟩
    obtain ⟨event, appended, type, dumped⟩ := appended rfl
    refine safe_then (recorded.1.update recorded.2.log) ?_
    rintro _ w₃ ⟨-, reached, same⟩
    have begun := reaches_initial reached.wellFormed t reached.stored
    have status : (Stage.initial (w₃.mission r)).status ∈ startableStatuses true := by
      rw [Stage.initial, reached.status]
      exact startable
    refine safe_mono ?_ _ _ (begun.startMission status adapter.providerId)
    rintro x w' ⟨s, outcome, course, ended, -⟩
    constructor
    · rw [ended.resolvedProviderId, course.keepsProvider, Stage.initial, reached.resolvedProviderId]
      rfl
    · obtain ⟨rest, grown⟩ := ended.evolves.logs r
      rw [same, appended, log] at grown
      refine ⟨event, ?_, type, dumped ▸ named⟩
      rw [← grown, List.append_assoc, List.drop_left]
      exact List.mem_append_left _ (List.mem_singleton_self _)
  · rintro error w' ⟨raised, -⟩
    exact raised.elim

/-- The preview of a stored mission. -/
theorem safe_preview (wellFormed : WellFormed env w) (stored : Stored w r)
    (registry : ProviderRegistry) :
    (alone env).Safe t
      (fun x _ => x = PreviewMissionProviderResolution.preview (w.mission r)
        (ProviderResolver.resolve registry (w.mission r)))
      (PreviewMissionProviderResolution.execute inMemoryMissionRepository registry
        (w.mission r).id).run w := by
  refine safe_then (reaches_initial wellFormed t stored).get ?_
  rintro _ w ⟨rfl, rfl⟩
  exact Reaches.read_then rfl

/-- The preview and the run, each by itself, agree, and the stored provider is
found again. -/
structure PreviewAgrees (env : Environment σ) (t : TaskId) (registry : ProviderRegistry)
    (options : RunOptions) (w : MemoryWorld σ) (r : Ref) : Prop where
  outcome : ∃ preview outcome,
    ((PreviewMissionProviderResolution.execute inMemoryMissionRepository registry
      (w.mission r).id).run.eval (machine memory env) t w).1 = .ok preview ∧
    preview.Shows outcome ∧
    RunShows registry (w.mission r)
      (((runMission inMemoryMissionRepository registry (w.mission r).id options).run.eval
        (machine memory env) t w).2.mission r)
      ((runMission inMemoryMissionRepository registry (w.mission r).id options).run.eval
        (machine memory env) t w).1 outcome
  found : ∀ adapter, ProviderResolver.resolve registry (w.mission r) = .ok adapter →
    FoundAgain registry
      (((runMission inMemoryMissionRepository registry (w.mission r).id options).run.eval
        (machine memory env) t w).2.mission r) adapter

theorem map_strip_iff {adapters : List ProviderAdapter} :
    (adapters.map (·.providerId)).map strip = adapters.map (·.providerId) ↔
      ∀ adapter ∈ adapters, adapter.Normalized := by
  rw [List.map_map, List.map_inj_left]
  rfl

theorem ProviderResolver.supporting_nodup (registry : ProviderRegistry) (mission : Mission) :
    ((supporting registry mission).map (·.providerId)).Nodup :=
  registry.uniqueIds.sublist
    ((List.filter_sublist.trans List.filter_sublist).map _)

theorem normalizeProviderId_some {value : String} (named : strip value ≠ "") :
    normalizeProviderId (some value) = .ok (some ⟨strip value, strip_strip value, named⟩) :=
  dif_neg named

/-- How a run ends whose provider is not resolved. -/
theorem run_failed (wellFormed : WellFormed env w) (stored : Stored w r)
    {registry : ProviderRegistry} {options : RunOptions}
    (comes : ComesToResolve options (options.currentTime.getD (env.utcNow w.clockReads))
      (w.mission r)) {error : PyException}
    (raised : ProviderResolver.resolve registry (w.mission r) = .error error) :
    (∀ error', providerResolutionFailurePayload (w.mission r) error = .error error' →
      ((runMission inMemoryMissionRepository registry (w.mission r).id options).run.eval
        (machine memory env) t w).1 = .error error') ∧
    ∀ metadata, providerResolutionFailurePayload (w.mission r) error = .ok metadata →
      ((runMission inMemoryMissionRepository registry (w.mission r).id options).run.eval
        (machine memory env) t w).1 = .error error ∧
      LastEvent (((runMission inMemoryMissionRepository registry (w.mission r).id options).run.eval
        (machine memory env) t w).2.mission r) "provider_resolution_failed" metadata := by
  refine (safe_alone (fun x w' =>
    (∀ error', providerResolutionFailurePayload (w.mission r) error = .error error' →
      x = .error error') ∧
    ∀ metadata, providerResolutionFailurePayload (w.mission r) error = .ok metadata →
      x = .error error ∧ LastEvent (w'.mission r) "provider_resolution_failed" metadata) _ _).mp
    (safe_runMission_resolved wellFormed stored registry comes ?_ ?_)
  · intro other failed w' wellFormed' stored' same
    obtain rfl := Except.error.inj (raised.symm.trans failed)
    exact safe_failed wellFormed' stored' _ error
  · intro adapter resolved
    cases raised.symm.trans resolved

/-- How a run ends whose provider is resolved. -/
theorem run_resolved (wellFormed : WellFormed env w) (stored : Stored w r)
    {registry : ProviderRegistry} {options : RunOptions}
    (comes : ComesToResolve options (options.currentTime.getD (env.utcNow w.clockReads))
      (w.mission r)) {adapter : ProviderAdapter}
    (resolved : ProviderResolver.resolve registry (w.mission r) = .ok adapter) :
    (((runMission inMemoryMissionRepository registry (w.mission r).id options).run.eval
        (machine memory env) t w).2.mission r).resolvedProviderId = some adapter.providerId ∧
      ∃ event ∈ (((runMission inMemoryMissionRepository registry (w.mission r).id options).run.eval
        (machine memory env) t w).2.mission r).executionLog.drop (w.mission r).executionLog.length,
          event.type = "provider_resolved" ∧
            event.metadata.lookup "provider_id" = some (.str (strip adapter.providerId)) := by
  have startable : (w.mission r).status ∈ startableStatuses true := by
    have startable := comes.startable
    unfold startableStatuses at startable ⊢
    split at startable
    · exact startable
    · exact List.mem_append_left [_] startable
  refine (safe_alone (fun _ w' => (w'.mission r).resolvedProviderId = some adapter.providerId ∧
    ∃ event ∈ (w'.mission r).executionLog.drop (w.mission r).executionLog.length,
      event.type = "provider_resolved" ∧
        event.metadata.lookup "provider_id" = some (.str (strip adapter.providerId))) _ _).mp
    (safe_runMission_resolved wellFormed stored registry comes ?_ ?_)
  · intro error raised
    cases raised.symm.trans resolved
  · intro other chosen w' wellFormed' stored' same
    obtain rfl := Except.ok.inj (resolved.symm.trans chosen)
    rw [← same]
    exact safe_resolved wellFormed' stored' (same ▸ startable) (same ▸ resolved)

section
variable {registry : ProviderRegistry} {options : RunOptions}

theorem foundAgain_iff {mission : Mission} {adapter : ProviderAdapter}
    (member : adapter ∈ registry.adapters)
    (resolved : mission.resolvedProviderId = some adapter.providerId) :
    FoundAgain registry mission adapter ↔ adapter.Normalized := by
  have named := registry.validIds adapter member
  unfold FoundAgain
  rw [resolved, normalizeProviderId_some named]
  constructor
  · rintro ⟨providerId, normalized, found⟩
    obtain rfl := Option.some.inj (Except.ok.inj normalized)
    exact (ProviderRegistry.get_ok found).2.symm
  · intro normalized
    refine ⟨_, rfl, ?_⟩
    change registry.get (strip adapter.providerId) = _
    rw [normalized]
    exact registry.get_of_mem member

/-- Where they agree, an adapter that could be chosen has a normalized id. -/
theorem PreviewAgrees.normalized (agrees : PreviewAgrees env t registry options w r)
    (wellFormed : WellFormed env w) (stored : Stored w r)
    (comes : ComesToResolve options (options.currentTime.getD (env.utcNow w.clockReads))
      (w.mission r)) : NormalizedChoices registry (w.mission r) := by
  rw [normalizedChoices_iff]
  intro automatic
  have resolution := ProviderResolver.resolution registry (w.mission r)
  cases result : ProviderResolver.resolve registry (w.mission r) with
  | ok adapter =>
      have own : adapter.Normalized :=
        (foundAgain_iff (ProviderResolver.resolve_ok result).1
          (run_resolved wellFormed stored comes result).1).mp (agrees.found adapter result)
      rw [result] at resolution
      generalize chosen : Except.ok adapter = outcome at resolution
      cases resolution with
      | explicit providerId selected => simp [automatic] at selected
      | only _ other single =>
          cases chosen
          rw [single]
          exact List.forall_mem_singleton.mpr own
      | _ => cases chosen
  | error error =>
      rw [result] at resolution
      obtain ⟨reason, candidates, expected, failure, previewed, shown, -, listed⟩ :=
        preview_of_failure resolution
      obtain ⟨preview, outcome, executed, shows, runs⟩ := agrees.outcome
      obtain ⟨payloadRaises, payloadKept⟩ := run_failed (t := t) wellFormed stored comes result
      have same := (safe_alone _ _ _).mp (safe_preview (t := t) wellFormed stored registry)
      rw [executed, result, previewed] at same
      obtain rfl := Except.ok.inj same
      obtain rfl := shown.unique shows
      obtain ⟨⟨other, raised, ended⟩, metadata, last, -, told⟩ := runs
      obtain rfl := Except.error.inj (result.symm.trans raised)
      have normalized : candidates.map strip = candidates := by
        obtain ⟨requested, payload⟩ := failurePayload_eq (w.mission r) failure
        unfold providerResolutionFailurePayload.payload at payload
        split at payload
        · obtain ⟨-, event, final, -, dumped⟩ := payloadKept _ payload
          obtain ⟨event', final', -, dumped'⟩ := last
          obtain rfl := Option.some.inj (final.symm.trans final')
          obtain rfl := dumped.symm.trans dumped'
          exact failurePayload_candidates told
        · have different := (payloadRaises _ payload).symm.trans ended
          obtain rfl := Except.error.inj different
          cases failure
      rw [listed automatic] at normalized
      exact map_strip_iff.mp normalized

/-- Where such an adapter has a normalized id, they agree. -/
theorem previewAgrees_of_normalized (normalized : NormalizedChoices registry (w.mission r))
    (wellFormed : WellFormed env w) (stored : Stored w r)
    (comes : ComesToResolve options (options.currentTime.getD (env.utcNow w.clockReads))
      (w.mission r)) : PreviewAgrees env t registry options w r := by
  rw [normalizedChoices_iff] at normalized
  have resolution := ProviderResolver.resolution registry (w.mission r)
  have executed := (safe_alone _ _ _).mp (safe_preview (t := t) wellFormed stored registry)
  cases result : ProviderResolver.resolve registry (w.mission r) with
  | ok adapter =>
      obtain ⟨member, selected⟩ := ProviderResolver.resolve_ok result
      have own : adapter.Normalized := by
        rw [result] at resolution
        generalize chosen : Except.ok adapter = outcome at resolution
        cases resolution with
        | explicit providerId named =>
            have text := selected providerId named
            unfold ProviderAdapter.Normalized
            rw [text, providerId.normalized]
        | only automatic other single =>
            cases chosen
            exact normalized automatic adapter (single ▸ List.mem_singleton_self adapter)
        | _ => cases chosen
      obtain ⟨preview, previewed, shows⟩ := preview_of_resolved (w.mission r) adapter
      have ran := run_resolved (t := t) wellFormed stored comes result
      rw [result, previewed] at executed
      refine ⟨⟨preview, _, executed, shows, ran.1, ?_⟩, fun other chosen => ?_⟩
      · have tells := ran.2
        rwa [own] at tells
      · obtain rfl := Except.ok.inj (result.symm.trans chosen)
        exact (foundAgain_iff member ran.1).mpr own
  | error error =>
      rw [result] at resolution
      obtain ⟨reason, candidates, preview, failure, previewed, shows, empty, listed⟩ :=
        preview_of_failure resolution
      have own : candidates.map strip = candidates := by
        rcases empty with rfl | automatic
        · rfl
        · rw [listed automatic]
          exact map_strip_iff.mpr (normalized automatic)
      have unique : candidates.Nodup := by
        rcases empty with rfl | automatic
        · exact List.nodup_nil
        · rw [listed automatic]
          exact ProviderResolver.supporting_nodup registry _
      obtain ⟨requested, payload⟩ := failurePayload_eq (w.mission r) failure
      rw [own] at payload
      rw [result, previewed] at executed
      obtain ⟨ended, last⟩ := (run_failed (t := t) wellFormed stored comes result).2 _
        (payload.trans (if_pos unique))
      refine ⟨⟨preview, _, executed, shows, ⟨error, result, ended⟩, _, last, rfl, rfl⟩, ?_⟩
      intro adapter chosen
      cases result.symm.trans chosen

end

theorem preview_agrees_iff (registry : ProviderRegistry) (options : RunOptions)
    (wellFormed : WellFormed env w) (stored : Stored w r)
    (comes : ComesToResolve options (options.currentTime.getD (env.utcNow w.clockReads))
      (w.mission r)) :
    PreviewAgrees env t registry options w r ↔ NormalizedChoices registry (w.mission r) :=
  ⟨fun agrees => agrees.normalized wellFormed stored comes,
    fun normalized => previewAgrees_of_normalized normalized wellFormed stored comes⟩

end

def paddedRegistry : ProviderRegistry :=
  ⟨[⟨" mock ", [⟨.trainTicket, true⟩]⟩], by decide, by decide⟩

namespace Sample

def previewWorld : MemoryWorld Unit := initialWorld [mission] mission ()

def previewEnvironment : Environment Unit := .withProviders (accepting [])

theorem previewWorld_wellFormed : WellFormed previewEnvironment previewWorld :=
  wellFormed_start (consistent_initialWorld [mission] mission () (by decide))
    (fun r _ => fresh_initialWorld () (by decide) r) rfl

theorem mission_comesToResolve : ComesToResolve {} (0 : Time) mission :=
  ⟨by decide, by simp [mission, Mission.new], by decide⟩

end Sample

/-- The automatic selection resolves an adapter that a reload no longer finds. -/
theorem padded_provider_lost :
    ¬ PreviewAgrees Sample.previewEnvironment 0 paddedRegistry {} Sample.previewWorld 0 := by
  intro agrees
  have normalized := agrees.normalized Sample.previewWorld_wellFormed rfl
    Sample.mission_comesToResolve rfl ⟨" mock ", [⟨.trainTicket, true⟩]⟩
      (List.mem_singleton_self _) rfl
  exact absurd normalized (by unfold ProviderAdapter.Normalized; decide)

theorem preview_agrees_iff_sample :
    PreviewAgrees Sample.previewEnvironment 0 Sample.registry {} Sample.previewWorld 0 ↔
      NormalizedChoices Sample.registry (Sample.previewWorld.mission 0) :=
  preview_agrees_iff Sample.registry {} Sample.previewWorld_wellFormed rfl
    Sample.mission_comesToResolve

end PurchaseAgent
