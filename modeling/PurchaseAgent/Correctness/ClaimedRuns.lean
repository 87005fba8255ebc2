import PurchaseAgent.Correctness.ClaimOwnership

/-!
Batches under the workers' discipline. From a mission it owns a run of the engine
reaches only states in which it owns the mission still or has concluded it, so
the provider is called for owned missions only; the handlers of a run change the
mission while they own it or while it is not processing.
-/

namespace PurchaseAgent

open Cooperative Cooperative.Discipline InMemoryMissionRepository Service

variable {σ : Type} {env : Environment σ} {t : TaskId} {rest : List Ref} {r : Ref} {hold : Hold}
  {w : MemoryWorld σ}

variable (env) in
/-- A run that returns has concluded its mission, one that raises still owns it. -/
def Ran (t : TaskId) (rest : List Ref) (r : Ref) : Except PyException Ref → MemoryWorld σ → Prop
  | .ok r', w => Batch env t rest w ∧ Stored w r'
  | .error _, w => At env t rest r .owned w

theorem ran_of_returning {p : Service memory Ref}
    (h : (claims env).Safe t (Returning fun r' w' => Batch env t rest w' ∧ Stored w' r') p.run w) :
    (claims env).Safe t (Ran env t rest r) p.run w := by
  refine safe_mono ?_ p.run w h
  rintro (e | r') w' returned
  · exact returned.elim
  · exact returned

/-! The engine, from a mission owned by the task. -/

namespace At
variable (h : At env t rest r .owned w)
include h

theorem conclude {target : MissionStatus}
    (allowed : target ∈ MissionStateMachine.allowedTransitions .processing)
    (eventType message : String) (metadata : List (String × PyValue)) :
    (claims env).Safe t (Returning fun r' w' => Batch env t rest w' ∧ Stored w' r')
      (concludeMission inMemoryMissionRepository r target eventType message metadata).run w :=
  safe_then (h.transition allowed) fun _ _ concluded =>
    safe_then (concluded.addEvent _ _ _) fun _ _ recorded =>
      recorded.1.toBatch.update recorded.1.stored recorded.2

theorem concluded {target : MissionStatus}
    (allowed : target ∈ MissionStateMachine.allowedTransitions .processing)
    (eventType message : String) (metadata : List (String × PyValue)) :
    (claims env).Safe t (Ran env t rest r)
      (concludeMission inMemoryMissionRepository r target eventType message metadata).run w :=
  ran_of_returning (h.conclude allowed eventType message metadata)

/-- The call, the provider's action and its answer find the mission owned. -/
theorem provider (call : ProviderCall) :
    (claims env).Safe t (fun _ => At env t rest r .owned) (Service.provider r call).run w := by
  have quiet : ∀ (event : Event), event.isClaim = false → ∀ w : MemoryWorld σ,
      WellFormed env w → Evolves env w (w.log t event) := fun event notClaim w wf =>
    evolves_of_extends wf rfl le_rfl (fun _ => .refl _ _ _) ⟨[(t, event)], rfl, by simpa using notClaim⟩
  have entered := quiet (.called (w.mission r).id call) rfl w h.wellFormed
  refine (safe_provider (B := memory) w r call _).mpr ⟨fun _ => ⟨entered, fun _ => .inl rfl, ?_⟩, ?_⟩
  · rintro r' c (same | same) <;> cases same
    exact h.held
  intro w₁ rely₁
  have h₁ := (h.kept entered (fun _ _ => rfl) rfl rfl).suspended rely₁
  have acted : Evolves env w₁ (w₁.act env t r call) :=
    evolves_of_extends h₁.wellFormed rfl le_rfl (fun _ => .refl _ _ _) ⟨[_], rfl, by simp [Event.isClaim]⟩
  refine ⟨fun _ => ⟨acted, fun _ => .inl rfl, ?_⟩, fun w₂ rely₂ => ⟨?_, ?_⟩⟩
  · rintro r' c (same | same) <;> cases same
    exact h₁.held
  · exact guarantee_of_same .refl (fun _ => rfl) (by simp)
  · exact (h₁.kept acted (fun _ _ => rfl) rfl rfl).suspended rely₂

theorem callProvider (call : ProviderCall) {handler : Bool → Service memory Ref}
    {proceed : call.Answer → Service memory Ref}
    (handled : ∀ retryable w', At env t rest r .owned w' →
      (claims env).Safe t (Ran env t rest r) (handler retryable).run w')
    (proceeds : ∀ answer w', At env t rest r .owned w' →
      (claims env).Safe t (Ran env t rest r) (proceed answer).run w') :
    (claims env).Safe t (Ran env t rest r)
      (PurchaseAgent.callProvider r call handler proceed).run w := by
  refine safe_then (P := fun _ => At env t rest r .owned)
    ((safe_attempt (B := memory) w _ _).mpr (h.provider call)) ?_
  rintro (error | answer) w' answered
  · cases retryable : error.retryable? with
    | some flag => simpa only [retryable] using handled flag w' answered
    | none =>
        simp only [retryable]
        exact answered
  · exact proceeds answer w' answered

theorem failProviderOperation (providerId operation : String) (retryable : Bool) :
    (claims env).Safe t (Ran env t rest r)
      (PurchaseAgent.failProviderOperation inMemoryMissionRepository r providerId operation
        retryable).run w :=
  h.concluded (by decide) _ _ _

theorem completeMission :
    (claims env).Safe t (Ran env t rest r)
      (PurchaseAgent.completeMission inMemoryMissionRepository r).run w :=
  read_then (h.concluded (by decide) _ _ _)

theorem reservationMade (providerId : String) (result : ReservationResult)
    (reservationId : String) :
    (claims env).Safe t (Ran env t rest r)
      (PurchaseAgent.reservationMade inMemoryMissionRepository r providerId result
        reservationId).run w := by
  refine safe_then (h.assign _ (by simp)) fun _ _ h => ?_
  refine safe_then (h.addEvent _ _ _) fun _ w' h => ?_
  replace h := h.1
  refine read_then ?_
  split
  · exact h.concluded (by decide) _ _ _
  · split
    · refine safe_then (h.addEvent _ _ _) fun _ _ h => h.1.callProvider _
        (fun _ _ h => h.failProviderOperation _ _ _) fun confirmation w' h => ?_
      split
      · exact h.concluded (by decide) _ _ _
      · exact safe_then (h.addEvent _ _ _) fun _ _ h => h.1.completeMission
    · exact h.completeMission

theorem reserveBest (providerId : String) (best : ScoredOption) (mission : Mission) :
    (claims env).Safe t (Ran env t rest r)
      (PurchaseAgent.reserveBest inMemoryMissionRepository r providerId best mission).run w := by
  refine h.callProvider _ (fun _ _ h => h.failProviderOperation _ _ _) fun result w' h => ?_
  split
  · exact h.concluded (by decide) _ _ _
  · exact h
  · exact h.reservationMade _ _ _

theorem bestSelected (providerId : String) (best : ScoredOption) :
    (claims env).Safe t (Ran env t rest r)
      (PurchaseAgent.bestSelected inMemoryMissionRepository r providerId true best).run w := by
  refine safe_then (h.assign _ (by simp)) fun _ _ h => ?_
  refine safe_then (h.addEvent _ _ _) fun _ w' h => ?_
  replace h := h.1
  refine read_then ?_
  split
  · exact h.concluded (by decide) _ _ _
  · exact safe_then (h.addEvent _ _ _) fun _ _ h => h.1.reserveBest _ _ _

theorem optionsFound (providerId : String) (options : List ProviderOption) :
    (claims env).Safe t (Ran env t rest r)
      (PurchaseAgent.optionsFound inMemoryMissionRepository r providerId true options).run w := by
  refine safe_then (h.addEvent _ _ _) fun _ w' h => read_then ?_
  split
  · exact h.1.concluded (by decide) _ _ _
  · exact h.1.bestSelected _ _

theorem getParticipants (ids : List UUID) :
    (claims env).Safe t (fun _ => At env t rest r .owned) (PurchaseAgent.getParticipants ids).run
      w := by
  induction ids generalizing w with
  | nil => exact h
  | cons id ids ih =>
      refine safe_seq (R := fun _ => At env t rest r .owned) ?_ ?_ fun _ _ h => h
      · refine (safe_getIdentity (B := memory) w _ id).mpr fun w' rely => ⟨?_, h.suspended rely⟩
        exact guarantee_of_same .refl (fun _ => rfl) (by simp)
      · rintro (_ | identity) w' h
        · exact ih h
        · exact safe_seq (ih h) (fun _ _ h => h) fun _ _ h => h

theorem participantsFound (providerId : String) (identities : List Identity) :
    (claims env).Safe t (Ran env t rest r)
      (PurchaseAgent.participantsFound inMemoryMissionRepository r providerId true
        identities).run w := by
  refine read_then ?_
  split
  · exact h.concluded (by decide) _ _ _
  · refine safe_then (h.addEvent _ _ _) fun _ _ h => safe_then (h.1.addEvent _ _ _) fun _ _ h => ?_
    exact h.1.callProvider _ (fun _ _ h => h.failProviderOperation _ _ _) fun options _ h =>
      h.optionsFound _ options

theorem startMission (providerId : String) :
    (claims env).Safe t (Ran env t rest r)
      (PurchaseAgent.startMission inMemoryMissionRepository r providerId).run w := by
  refine read_then ?_
  simp only [h.held.2.1, decide_true, Bool.true_eq_false, if_false]
  exact safe_seq (h.getParticipants _) (fun identities _ h => h.participantsFound _ identities)
    fun _ _ h => h

theorem providerResolved (adapter : ProviderAdapter) :
    (claims env).Safe t (Ran env t rest r)
      (PurchaseAgent.providerResolved inMemoryMissionRepository r adapter).run w := by
  refine safe_then (h.assign _ (by simp)) fun _ w' h => read_then ?_
  refine safe_seq (R := fun _ => At env t rest r .owned) ?_ ?_ fun _ _ h => h
  · exact (safe_fromExcept (B := memory) w' _ _).mpr h
  · intro metadata _ h
    refine safe_then (h.addEvent _ _ _) fun _ _ h => ?_
    exact safe_then (h.1.update h.2) fun _ _ h => h.startMission _

theorem providerResolutionFailed (mission : Mission) (error : PyException) :
    (claims env).Safe t (Ran env t rest r)
      (PurchaseAgent.providerResolutionFailed inMemoryMissionRepository r mission error).run
        w := by
  refine safe_seq (R := fun _ => At env t rest r .owned) ?_ ?_ fun _ _ h => h
  · exact (safe_fromExcept (B := memory) w _ _).mpr h
  · intro metadata _ h
    refine safe_then (h.addEvent _ _ _) fun _ _ h => ?_
    exact safe_then (h.1.update h.2) fun _ _ h => h

/-- A processing mission does not expire. -/
theorem expireMissionIfDue (currentTime : Time) :
    (claims env).Safe t (Returning fun expired w' => expired = false ∧ At env t rest r .owned w')
      (PurchaseAgent.expireMissionIfDue inMemoryMissionRepository r currentTime).run w := by
  refine read_then ?_
  split
  · exact ⟨rfl, h⟩
  · have processing : (w.mission r).status ∉ expirableStatuses := by
      rw [h.held.2.1]
      decide
    rw [if_pos (.inl processing)]
    exact ⟨rfl, h⟩

theorem runMission (registry : ProviderRegistry) (currentTime : Time) :
    (claims env).Safe t (Ran env t rest r)
      (PurchaseAgent.runMission inMemoryMissionRepository registry (w.mission r).id
        { currentTime := some currentTime, allowProcessing := true }).run w := by
  refine (safe_run_bind _ _ _ _).mpr ((safe_get w _ _).mpr fun w' rely => ?_)
  refine ⟨guarantee_of_same .refl (fun _ => rfl) (by simp), ?_⟩
  obtain ⟨stored, id⟩ := (rely h.wellFormed).1.stored h.stored
  have h := h.suspended rely
  have found : w'.repository.missions.get? (w.mission r).id = some r := id ▸ stored
  rw [found]
  refine read_then ?_
  have startable : (w'.mission r).status ∈ startableStatuses true := by
    rw [h.held.2.1]
    decide
  simp only [startable, not_true_eq_false, if_false]
  refine safe_then (P := fun _ => At env t rest r .owned) h fun now w₁ h => ?_
  refine safe_then (h.expireMissionIfDue now) ?_
  rintro _ w₂ ⟨rfl, h⟩
  refine read_then ?_
  have notWaiting : ¬ ((w₂.mission r).status = .waiting ∧
      isScheduledForFuture (w₂.mission r) now = true) := by
    rw [h.held.2.1]
    simp
  simp only [if_false, notWaiting]
  split
  · exact h.providerResolutionFailed _ _
  · exact h.providerResolved _

/-- The handler of a run that raised finds the mission still owned. -/
theorem markClaimedMissionFailed (message : String) :
    (claims env).Safe t (Returning fun r' w' => Batch env t rest w' ∧ Stored w' r')
      (PurchaseAgent.markClaimedMissionFailed inMemoryMissionRepository r message).run w := by
  refine read_then ?_
  refine (safe_run_bind _ _ _ _).mpr ((safe_get w _ _).mpr fun w' rely => ?_)
  refine ⟨guarantee_of_same .refl (fun _ => rfl) (by simp), ?_⟩
  obtain ⟨stored, id⟩ := (rely h.wellFormed).1.stored h.stored
  have h := h.suspended rely
  have found : w'.repository.missions.get? (w.mission r).id = some r := id ▸ stored
  rw [found]
  have evolves : Evolves env w' (w'.setMission r ((w'.mission r).assign (.status .failed))) :=
    evolves_setMission h.wellFormed (extends_assign _ _ _)
  refine (safe_run_bind _ _ _ _).mpr ((safe_assign (B := memory) w' r _ _).mpr
    ⟨h.guarantee evolves (fun other differs => by simp [differs]) (by simp), ?_⟩)
  have free : At env t rest r .free (w'.setMission r ((w'.mission r).assign (.status .failed))) :=
    h.changed evolves (fun other differs => by simp [differs]) (by simp [Hold.On, Mission.assign])
  refine safe_then (free.assign _ (by simp)) fun _ _ h => ?_
  refine safe_then (h.addEvent _ _ _) fun _ _ h => ?_
  exact h.1.toBatch.update h.1.stored h.2

end At

/-! Retries and handlers, with missions that are not processing. -/

namespace At
variable (h : At env t rest r .free w)
include h

theorem leave {target : MissionStatus} (notProcessing : target ≠ .processing)
    (options : MissionStateMachine.Options) :
    (claims env).Safe t (fun _ => At env t rest r .free)
      (Service.transition r target options).run w := by
  refine (safe_transition (B := memory) w r _ _ _).mpr ⟨fun mission ok => ?_, fun error _ => ?_⟩
  · obtain ⟨-, rfl⟩ := MissionStateMachine.transition_ok ok
    have evolves : Evolves env w (w.setMission r ((w.mission r).withStatus target
        (if (w.mission r).status = .waiting ∧ target = .processing then options.currentTime
        else none))) := evolves_setMission h.wellFormed ⟨rfl, rfl, .inl rfl⟩
    refine ⟨h.guarantee evolves (fun other differs => by simp [differs]) (by simp), ?_⟩
    exact h.changed evolves (fun other differs => by simp [differs])
      (by simpa [Hold.On] using notProcessing)
  · exact ⟨guarantee_of_same .refl (fun _ => rfl) (by simp), h⟩

theorem recorded (timestamp : Time) (eventType message : String)
    (metadata : List (String × PyValue)) :
    (claims env).Safe t (Returning fun r' w' => Batch env t rest w' ∧ Stored w' r')
      (do
        Service.recordEvent r timestamp eventType message metadata
        inMemoryMissionRepository.update r : Service memory Ref).run w :=
  safe_then (h.recordEvent _ _ _ _) fun _ _ h => h.1.toBatch.update h.1.stored h.2

theorem resetForRetry (mission : Mission) (now retryAt : Time) (options : RetryOptions) :
    (claims env).Safe t (fun _ => Batch env t rest)
      (PurchaseAgent.resetForRetry inMemoryMissionRepository r mission now retryAt options).run
        w := by
  refine safe_seq (h.leave (by simp) _) (fun _ _ h => ?_) fun _ _ h => h.toBatch
  refine safe_then (h.assign _ (by simp)) fun _ _ h => ?_
  refine safe_then (h.assign _ (by simp)) fun _ _ h => ?_
  refine safe_then (h.assign _ (by simp)) fun _ _ h => ?_
  refine safe_then (h.assign _ (by simp)) fun _ _ h => ?_
  refine safe_mono ?_ _ _ (h.recorded now _ _ _)
  rintro (_ | _) _ returned
  · exact returned.elim
  · exact returned.1

end At

namespace Batch
variable (h : Batch env t rest w)
include h

theorem orUtcNow (time : Option Time) :
    (claims env).Safe t (fun _ => Batch env t rest) (Service.orUtcNow time).run w := by
  cases time with
  | some time => exact h
  | none =>
      have read : Evolves env w { w with clockReads := w.clockReads + 1 } :=
        evolves_of_extends h.wellFormed rfl le_rfl (fun _ => .refl _ _ _) (.same rfl)
      refine (safe_utcNow (B := memory) w _).mpr ⟨?_, h.evolves read fun _ _ => rfl⟩
      exact guarantee_of_same (fun _ => read) (fun _ => rfl) (by simp)

/-- Looking up a mission finds a stored one. -/
theorem get (id : UUID) :
    (claims env).Safe t
      (Returning fun found w' => Batch env t rest w' ∧ ∀ r ∈ found, Stored w' r)
      (inMemoryMissionRepository.get id).run w := by
  refine (safe_get w _ _).mpr fun w' rely => ⟨?_, h.suspended rely, fun r found => ?_⟩
  · exact guarantee_of_same .refl (fun _ => rfl) (by simp)
  · exact ((rely h.wellFormed).1.wellFormed.consistent.stored_of_get? found).1

/-- A retry changes a mission that is failed when it is loaded. -/
theorem retryMission (missionId : UUID) (options : RetryOptions) :
    (claims env).Safe t (fun _ => Batch env t rest)
      (PurchaseAgent.retryMission inMemoryMissionRepository missionId options).run w := by
  refine safe_seq (h.orUtcNow _) (fun now w' h => ?_) fun _ _ h => h
  dsimp only
  split
  · exact h
  · refine safe_then (h.get missionId) ?_
    rintro (_ | r) w' ⟨h, stored⟩
    · exact h
    · refine read_then ?_
      split
      · exact h
      · rename_i failed
        split
        · exact h
        · refine (h.at_free (stored r rfl) ?_).resetForRetry _ _ _ _
          rw [not_not.mp failed]
          simp

theorem scheduleAutomaticRetry (r : Ref) (currentTime : Time) (policy : MissionRetryPolicy)
    (reason : String) :
    (claims env).Safe t (fun _ => Batch env t rest)
      (PurchaseAgent.scheduleAutomaticRetry inMemoryMissionRepository r currentTime policy
        reason).run w := by
  refine read_then ?_
  refine safe_seq (R := fun _ => Batch env t rest) ?_ (fun _ _ h => h.retryMission _ _)
    fun _ _ h => h
  exact (safe_fromExcept (B := memory) w _ _).mpr h

theorem handleFinishedRun (stored : Stored w r) (currentTime : Time) (policy : MissionRetryPolicy)
    (result : DueMissionProcessingResult) :
    (claims env).Safe t (fun _ => Batch env t rest)
      (PurchaseAgent.handleFinishedRun inMemoryMissionRepository r currentTime policy
        result).run w := by
  refine read_then ?_
  split
  · exact h
  · split
    · rename_i failed
      split
      · exact safe_seq (h.scheduleAutomaticRetry _ _ _ _) (fun _ _ h => h) fun _ _ h => h
      · refine safe_then (read_then ((h.at_free stored ?_).recorded _ _ _ _)) fun _ _ h => h.1
        rw [failed]
        simp
    · exact h

end Batch

theorem At.handleFailedRun (h : At env t rest r .owned w) (missionId : UUID) (currentTime : Time)
    (policy : MissionRetryPolicy) (result : DueMissionProcessingResult) (exc : PyException) :
    (claims env).Safe t (fun _ => Batch env t rest)
      (PurchaseAgent.handleFailedRun inMemoryMissionRepository r missionId currentTime policy result
        exc).run w := by
  refine safe_then (h.markClaimedMissionFailed _) fun failed _ h => ?_
  dsimp only
  split
  · exact safe_seq (h.1.scheduleAutomaticRetry _ _ _ _) (fun _ _ h => h) fun _ _ h => h
  · exact h.1

theorem At.processClaimedMission (h : At env t rest r .owned w) (registry : ProviderRegistry)
    (currentTime : Time) (policy : MissionRetryPolicy) (result : DueMissionProcessingResult) :
    (claims env).Safe t (fun _ => Batch env t rest)
      (PurchaseAgent.processClaimedMission inMemoryMissionRepository registry currentTime policy r
        result).run w := by
  refine read_then ?_
  refine safe_then (P := Ran env t rest r)
    ((safe_attempt (B := memory) w _ _).mpr (h.runMission registry currentTime)) ?_
  rintro (exc | updated) w' ran
  · dsimp only
    split
    · exact At.toBatch ran
    · exact At.handleFailedRun ran _ _ _ _ _
  · exact Batch.handleFinishedRun ran.1 ran.2 _ _ _

/-- The loop over the claimed missions. -/
theorem safe_processClaimedMissions (registry : ProviderRegistry) (currentTime : Time)
    (policy : MissionRetryPolicy) (claimed : List Ref) (result : DueMissionProcessingResult)
    (nodup : claimed.Nodup) (h : Batch env t claimed w) :
    (claims env).Safe t (fun _ _ => True)
      (processClaimedMissions inMemoryMissionRepository registry currentTime policy claimed
        result).run w := by
  induction claimed generalizing w result with
  | nil => trivial
  | cons r rest ih =>
      obtain ⟨fresh, nodup⟩ := List.nodup_cons.mp nodup
      obtain ⟨owned, queued⟩ := List.forall_mem_cons.mp h.queued
      have start : At env t rest r .owned w := ⟨⟨h.wellFormed, queued⟩, owned.1, owned, fresh⟩
      exact safe_seq (start.processClaimedMission registry currentTime policy result)
        (fun _ _ h => ih _ nodup h) fun _ _ _ => trivial

/-! The repository methods that work on many missions. -/

namespace Batch
variable (h : Batch env t rest w)
include h

/-- A method that changes no mission that is processing, recoveries apart. -/
theorem method {o : MemoryOp} (uses : Op.Uses w.Known (fun _ => True) (.repository o))
    (objects : ∀ r, (o.exec env t w).2.mission r = w.mission r ∨
      (w.mission r).status ≠ .processing ∨ Recovered (.repository o) (w.mission r)) :
    Evolves env w (o.exec env t w).2 ∧
      (claims env).guarantee t (.repository o) w (o.exec env t w).2 := by
  have evolves := evolves_memory h.wellFormed t o uses
  refine ⟨evolves, fun _ => ⟨evolves, fun r => ?_, fun r c same => ?_⟩⟩
  · rcases objects r with same | free | recovered
    · exact .inl same
    · exact .inr (.inl free)
    · exact .inr (.inr (.inr recovered))
  · rcases same with same | same <;> cases same

theorem expireDue (currentTime : Time) (limit : Int) :
    (claims env).Safe t (fun _ => Batch env t [])
      (inMemoryMissionRepository.expireDue currentTime limit).run w := by
  refine (safe_expireDue w _ _ _).mpr fun w' rely => ?_
  have h := h.suspended rely
  obtain ⟨-, selected, -, swept⟩ :=
    expireDue_returns env h.wellFormed.consistent currentTime limit
  obtain ⟨evolves, guarantee⟩ := h.method (o := .expireDue currentTime limit) trivial fun r => by
    rcases swept.moved r with same | ⟨-, expired, -⟩
    · exact .inl same
    · refine .inr (.inl fun processing => ?_)
      have status := (of_decide_eq_true expired).1
      rw [processing] at status
      revert status
      decide
  exact ⟨guarantee, evolves.wellFormed, by simp⟩

theorem recoverStaleProcessing (currentTime : Time) (claimTimeout : TimeDelta) (limit : Int) :
    (claims env).Safe t (fun _ _ => True)
      (inMemoryMissionRepository.recoverStaleProcessing currentTime claimTimeout limit).run w := by
  refine (safe_recoverStaleProcessing w _ _ _ _).mpr fun w' rely => ?_
  have h := h.suspended rely
  obtain ⟨-, selected, -, swept⟩ := recoverStaleProcessing_returns env h.wellFormed.consistent
    currentTime claimTimeout limit
  obtain ⟨-, guarantee⟩ := h.method
    (o := .recoverStaleProcessing currentTime claimTimeout limit) trivial fun r => by
    rcases swept.moved r with same | ⟨-, stale, -⟩
    · exact .inl same
    · exact .inr (.inr ⟨currentTime, claimTimeout, limit, rfl, stale⟩)
  exact ⟨guarantee, trivial⟩

/-- What a batch claims it owns. -/
theorem claimDue (currentTime : Time) (limit : Int) :
    (claims env).Safe t (fun x w' => ∀ rs, x = .ok rs → rs.Nodup ∧ Batch env t rs w')
      (inMemoryMissionRepository.claimDue currentTime limit).run w := by
  refine (safe_claimDue w _ _ _).mpr fun w' rely => ?_
  have h := h.suspended rely
  have returns := claimDue_returns h.wellFormed.consistent t currentTime limit
  obtain ⟨stored, selected, -, swept⟩ := returns
  obtain ⟨evolves, guarantee⟩ := h.method (o := .claimDue currentTime limit) trivial fun r => by
    rcases swept.moved r with same | ⟨-, due, -⟩
    · exact .inl same
    · refine .inr (.inl fun processing => ?_)
      have waiting := (of_decide_eq_true due).1
      rw [processing] at waiting
      cases waiting
  refine ⟨guarantee, fun rs ok => ?_⟩
  obtain ⟨nodup, stored⟩ := stored rs ok
  obtain ⟨claimed, logged⟩ := claimDue_claims h.wellFormed.consistent t currentTime limit rs ok
  refine ⟨nodup, evolves.wellFormed, fun r member => ⟨(evolves.stored (stored r member)).1, ?_⟩⟩
  rw [(claimed r member).2]
  refine ⟨rfl, ?_⟩
  rw [logged]
  exact List.mem_append_right _ (List.mem_map_of_mem member)

end Batch

theorem safe_missionIds (rs : List Ref) (h : Batch env t rest w) :
    (claims env).Safe t (fun _ => Batch env t rest) (missionIds rs).run w := by
  induction rs generalizing w with
  | nil => exact h
  | cons r rs ih => exact read_then (safe_seq (ih h) (fun _ _ h => h) fun _ _ h => h)

theorem safe_processDueMissions (h : WellFormed env w) (registry : ProviderRegistry)
    (currentTime : Time) (limit : Int) (policy : MissionRetryPolicy) :
    (claims env).Safe t (fun _ _ => True)
      (processDueMissions inMemoryMissionRepository registry currentTime limit policy).run w := by
  have start : Batch env t [] w := ⟨h, by simp⟩
  refine safe_seq (R := fun _ => Batch env t []) ?_ (fun expired w' h => ?_) fun _ _ _ => trivial
  · unfold expireDueMissions
    split
    · exact start
    · exact start.expireDue currentTime limit
  · refine safe_seq (h.claimDue currentTime limit) (fun claimed w' claims => ?_)
      fun _ _ _ => trivial
    obtain ⟨nodup, h⟩ := claims claimed rfl
    exact safe_seq (safe_missionIds expired h)
      (fun ids w' h => safe_processClaimedMissions registry currentTime policy claimed _ nodup h)
      fun _ _ _ => trivial

/-- The calls of workers: batches, recovery, expiration and retries. -/
def Command.isWorker : Command → Bool
  | .processDueMissions _ _ _ | .recoverStaleProcessing _ _ _ | .expireDue _ _
  | .retryMission _ _ => true
  | _ => false

theorem safe_worker (h : WellFormed env w) (registry : ProviderRegistry) {command : Command}
    (worker : command.isWorker = true) :
    (claims env).Safe t (fun _ _ => True)
      (command.service inMemoryMissionRepository registry).run w := by
  have start : Batch env t [] w := ⟨h, by simp⟩
  cases command with
  | processDueMissions currentTime limit policy =>
      exact safe_seq (safe_processDueMissions h registry currentTime limit policy)
        (fun _ _ _ => trivial) fun _ _ _ => trivial
  | recoverStaleProcessing currentTime claimTimeout limit =>
      exact safe_seq (start.recoverStaleProcessing currentTime claimTimeout limit)
        (fun _ _ _ => trivial) fun _ _ _ => trivial
  | expireDue currentTime limit =>
      refine safe_seq (R := fun _ _ => True) ?_ (fun _ _ _ => trivial) fun _ _ _ => trivial
      unfold expireDueMissions
      split
      · trivial
      · exact safe_mono (fun _ _ _ => trivial) _ _ (start.expireDue currentTime limit)
  | retryMission missionId options =>
      exact safe_seq (start.retryMission missionId options) (fun _ _ _ => trivial)
        fun _ _ _ => trivial
  | _ => cases worker

end PurchaseAgent
