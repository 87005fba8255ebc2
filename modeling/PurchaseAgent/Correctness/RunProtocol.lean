import PurchaseAgent.Correctness.Alone

/-!
What one run of a mission amounts to. `Started` lists the courses a run can take
once its provider is resolved: which calls it makes, what it makes of their
answers, and how it ends. The engine, running alone, takes one of these courses.
-/

namespace PurchaseAgent

open Cooperative Cooperative.Discipline InMemoryMissionRepository

variable {σ : Type}

/-- How a run ends: with an exception, or with a last event. -/
inductive Outcome where
  | raised (error : PyException)
  | concluded (eventType : String) (metadata : List (String × PyValue))

/-- A claimed mission stays `processing`, any other takes the phases of a run. -/
def phase (isProcessingRun : Bool) (status : MissionStatus) : MissionStatus :=
  if isProcessingRun then .processing else status

def Stage.enter (s : Stage) (isProcessingRun : Bool) (status : MissionStatus) : Stage :=
  if isProcessingRun then s else s.withStatus status

def operationFailed (providerId operation : String) (retryable : Bool) : Outcome :=
  .concluded "provider_operation_failed" [("provider_id", .str providerId),
    ("operation", .str operation), ("retryable", .bool retryable)]

section Courses
variable (m : Mission) (providerId : String)

def confirmation (reservationId : String) (answer : Except PyException ConfirmationResult) :
    Exchange :=
  ⟨.confirmReservation providerId reservationId (confirmationIdempotencyKey m), answer⟩

def reservation (option : ProviderOption) (answer : Except PyException ReservationResult) :
    Exchange :=
  ⟨.reserveOption providerId option (reservationIdempotencyKey m), answer⟩

def search (identities : List Identity) (answer : Except PyException (List ProviderOption)) :
    Exchange :=
  ⟨.searchOptions providerId identities, answer⟩

def missionCompleted : Outcome :=
  .concluded "mission_completed" [("execution_mode", .str m.executionMode.value)]

/-- From the reservation on; the stage has its id. -/
inductive Reserved (result : ReservationResult) (reservationId : String) (s : Stage) :
    Stage → Outcome → Prop
  | awaiting (mode : m.executionMode = .requireConfirmation) :
      Reserved result reservationId s (s.withStatus .requiresConfirmation)
        (.concluded "waiting_for_user_confirmation"
          [("execution_mode", .str m.executionMode.value),
            ("provider_requires_confirmation", .bool result.requiresConfirmation)])
  | completed (mode : m.executionMode ≠ .requireConfirmation)
      (direct : result.requiresConfirmation = false) :
      Reserved result reservationId s (s.withStatus .completed) (missionCompleted m)
  | confirmRaised (error : PyException) (unknown : error.retryable? = none) :
      Reserved result reservationId s
        (s.exchanged (confirmation m providerId reservationId (.error error))) (.raised error)
  | confirmFailed (error : PyException) (retryable : Bool)
      (known : error.retryable? = some retryable) :
      Reserved result reservationId s
        ((s.exchanged (confirmation m providerId reservationId (.error error))).withStatus .failed)
        (operationFailed providerId "automatic_confirmation" retryable)
  | confirmRefused (answer : ConfirmationResult) (refused : answer.success = false) :
      Reserved result reservationId s
        ((s.exchanged (confirmation m providerId reservationId (.ok answer))).withStatus .failed)
        (.concluded "automatic_confirmation_failed" [("provider_id", .str providerId)])
  | confirmed (answer : ConfirmationResult) (accepted : answer.success = true) :
      Reserved result reservationId s
        ((s.exchanged (confirmation m providerId reservationId (.ok answer))).withStatus
          .completed) (missionCompleted m)

/-- From the selected option on. -/
inductive Chosen (isProcessingRun : Bool) (option : ProviderOption) (s : Stage) :
    Stage → Outcome → Prop
  | searchOnly (mode : m.executionMode = .searchOnly) :
      Chosen isProcessingRun option s
        (((s.enter isProcessingRun .optionFound).assign (.bestOption (some option))).withStatus
          .completed)
        (.concluded "mission_search_completed" [("execution_mode", .str m.executionMode.value)])
  | reserveRaised (error : PyException) (unknown : error.retryable? = none) :
      Chosen isProcessingRun option s
        ((((s.enter isProcessingRun .optionFound).assign (.bestOption (some option))).enter
          isProcessingRun .reserving).exchanged (reservation m providerId option (.error error)))
        (.raised error)
  | reserveFailed (error : PyException) (retryable : Bool)
      (known : error.retryable? = some retryable) :
      Chosen isProcessingRun option s
        (((((s.enter isProcessingRun .optionFound).assign (.bestOption (some option))).enter
          isProcessingRun .reserving).exchanged
            (reservation m providerId option (.error error))).withStatus .failed)
        (operationFailed providerId "reservation" retryable)
  | refused (result : ReservationResult) (refused : result.success = false) :
      Chosen isProcessingRun option s
        (((((s.enter isProcessingRun .optionFound).assign (.bestOption (some option))).enter
          isProcessingRun .reserving).exchanged
            (reservation m providerId option (.ok result))).withStatus .failed)
        (.concluded "reservation_failed" [("provider_id", .str providerId)])
  | reserved (mode : m.executionMode ≠ .searchOnly) (result : ReservationResult)
      (reservationId : String)
      (made : result.reservationId = some reservationId) {s' : Stage} {outcome : Outcome}
      (course : Reserved m providerId result reservationId
        (((((s.enter isProcessingRun .optionFound).assign (.bestOption (some option))).enter
          isProcessingRun .reserving).exchanged
            (reservation m providerId option (.ok result))).assign
              (.reservationId (some reservationId))) s' outcome) :
      Chosen isProcessingRun option s s' outcome

/-- From the participants on. -/
inductive Searched (isProcessingRun : Bool) (s : Stage) : Stage → Outcome → Prop
  | participantMissing :
      Searched isProcessingRun s (s.withStatus .failed) (.concluded "participant_missing" [])
  | searchRaised (identities : List Identity) (error : PyException)
      (unknown : error.retryable? = none) :
      Searched isProcessingRun s ((s.enter isProcessingRun .searching).exchanged
        (search providerId identities (.error error))) (.raised error)
  | searchFailed (identities : List Identity) (error : PyException) (retryable : Bool)
      (known : error.retryable? = some retryable) :
      Searched isProcessingRun s (((s.enter isProcessingRun .searching).exchanged
        (search providerId identities (.error error))).withStatus .failed)
        (operationFailed providerId "search" retryable)
  | nothingFound (identities : List Identity) (options : List ProviderOption)
      (none : selectBest options m = none) :
      Searched isProcessingRun s (((s.enter isProcessingRun .searching).exchanged
        (search providerId identities (.ok options))).withStatus .failed)
        (.concluded "no_valid_option_found" [])
  | found (identities : List Identity) (options : List ProviderOption) (best : ScoredOption)
      (selected : selectBest options m = some best) {s' : Stage} {outcome : Outcome}
      (course : Chosen m providerId isProcessingRun best.option
        ((s.enter isProcessingRun .searching).exchanged
          (search providerId identities (.ok options))) s' outcome) :
      Searched isProcessingRun s s' outcome

/-- Once the provider is resolved. -/
inductive Started (env : Environment σ) (isProcessingRun : Bool) (s : Stage) :
    Stage → Outcome → Prop
  | identityRaised (error : PyException) (id : UUID) (outside : σ)
      (raised : env.identity id outside = .error error) :
      Started env isProcessingRun s (s.enter isProcessingRun .running) (.raised error)
  | searched {s' : Stage} {outcome : Outcome}
      (course : Searched m providerId isProcessingRun (s.enter isProcessingRun .running) s'
        outcome) :
      Started env isProcessingRun s s' outcome

/-- A whole run of the mission. -/
inductive WholeRun (env : Environment σ) (registry : ProviderRegistry) (allowProcessing : Bool) :
    Stage → Outcome → Prop
  | refused (error : PyException)
      (idle : m.status = .processing → allowProcessing = false) :
      WholeRun env registry allowProcessing (.initial m) (.raised error)
  | expired (error : PyException) (expirable : m.status ∈ expirableStatuses) :
      WholeRun env registry allowProcessing ((Stage.initial m).withStatus .expired) (.raised error)
  | unresolved (error : PyException) (exception : error.isException = true)
      (unretried : ∀ policy : MissionRetryPolicy, policy.shouldRetryException error = false) :
      WholeRun env registry allowProcessing (.initial m) (.raised error)
  | started (startable : m.status ∈ startableStatuses allowProcessing) (adapter : ProviderAdapter)
      (resolved : ProviderResolver.resolve registry m = .ok adapter) {s' : Stage}
      {outcome : Outcome}
      (course : Started m adapter.providerId env (decide (m.status = .processing))
        ((Stage.initial m).assign (.resolvedProviderId (some adapter.providerId))) s' outcome) :
      WholeRun env registry allowProcessing s' outcome

end Courses

/-- The result of a run and the last event it leaves, as its outcome says. -/
def Outcome.Ends (r : Ref) : Outcome → Except PyException Ref → MemoryWorld σ → Prop
  | .raised error, x, _ => x = .error error
  | .concluded eventType metadata, x, w => x = .ok r ∧ LastEvent (w.mission r) eventType metadata

/-- The run, started in `w₀`, has taken one of the courses. -/
def Took (env : Environment σ) (t : TaskId) (r : Ref) (w₀ : MemoryWorld σ)
    (Course : Stage → Outcome → Prop) (x : Except PyException Ref) (w : MemoryWorld σ) : Prop :=
  ∃ s outcome, Course s outcome ∧ Reaches env t r w₀ s w ∧ outcome.Ends r x w

variable {env : Environment σ} {t : TaskId} {r : Ref} {w₀ w : MemoryWorld σ} {s : Stage}

theorem Took.mono {Course Course' : Stage → Outcome → Prop} {x : Except PyException Ref}
    (sub : ∀ s outcome, Course s outcome → Course' s outcome)
    (h : Took env t r w₀ Course x w) : Took env t r w₀ Course' x w := by
  obtain ⟨s, outcome, course, rest⟩ := h
  exact ⟨s, outcome, sub s outcome course, rest⟩

/-- Sub-courses of a part of the engine. -/
theorem safe_took {Course Course' : Stage → Outcome → Prop} {p : Service memory Ref}
    (sub : ∀ s outcome, Course s outcome → Course' s outcome)
    (h : (alone env).Safe t (Took env t r w₀ Course) p.run w) :
    (alone env).Safe t (Took env t r w₀ Course') p.run w :=
  safe_mono (fun _ _ took => took.mono sub) p.run w h

namespace Reaches

theorem phases (isProcessingRun : Bool) (h : Reaches env t r w₀ s w) {before after : MissionStatus}
    (stands : s.status = phase isProcessingRun before)
    (allowed : after ∈ MissionStateMachine.allowedTransitions before)
    (notClaim : after ≠ .processing) {α : Type} {Q : Except PyException α → MemoryWorld σ → Prop}
    {rest : Unit → Service memory α}
    (goesOn : ∀ u w', Reaches env t r w₀ (s.enter isProcessingRun after) w' →
      (s.enter isProcessingRun after).status = phase isProcessingRun after →
      (alone env).Safe t Q (rest u).run w') :
    (alone env).Safe t Q
      (if isProcessingRun = false then Service.transition r after >>= rest else rest ()).run w := by
  cases isProcessingRun with
  | false =>
      refine safe_then (h.transition ?_ (.inr notClaim)) fun u w' h => goesOn u w' h rfl
      rw [stands]
      exact allowed
  | true => exact goesOn () w h stands

theorem conclude (h : Reaches env t r w₀ s w) {target : MissionStatus}
    (allowed : target ∈ MissionStateMachine.allowedTransitions s.status)
    (notClaim : target ≠ .processing) (eventType message : String)
    (metadata : List (String × PyValue)) :
    (alone env).Safe t
      (Took env t r w₀ fun s' outcome => s' = s.withStatus target ∧
        outcome = .concluded eventType metadata)
      (concludeMission inMemoryMissionRepository r target eventType message metadata).run w := by
  refine safe_then (h.transition allowed (.inr notClaim)) fun _ _ h => ?_
  refine safe_then (h.addEvent eventType message metadata) fun _ w' recorded => ?_
  obtain ⟨h, last⟩ := recorded
  refine safe_mono ?_ _ _ (h.update last.log)
  rintro (_ | r') w'' stored
  · exact stored.elim
  · obtain ⟨rfl, h, same⟩ := stored
    exact ⟨_, _, ⟨rfl, rfl⟩, h, rfl, by rw [same]; exact last⟩

theorem concludes (h : Reaches env t r w₀ s w) {Course : Stage → Outcome → Prop}
    {target : MissionStatus}
    (allowed : target ∈ MissionStateMachine.allowedTransitions s.status)
    (notClaim : target ≠ .processing) {eventType : String} (message : String)
    {metadata : List (String × PyValue)}
    (course : Course (s.withStatus target) (.concluded eventType metadata)) :
    (alone env).Safe t (Took env t r w₀ Course)
      (concludeMission inMemoryMissionRepository r target eventType message metadata).run w := by
  refine safe_took ?_ (h.conclude allowed notClaim eventType message metadata)
  rintro _ _ ⟨rfl, rfl⟩
  exact course

theorem callProvider (h : Reaches env t r w₀ s w) {call : ProviderCall}
    {handler : Bool → Service memory Ref} {proceed : call.Answer → Service memory Ref}
    {Q : Except PyException Ref → MemoryWorld σ → Prop}
    (raised : ∀ error w', error.retryable? = none →
      Reaches env t r w₀ (s.exchanged ⟨call, .error error⟩) w' → Q (.error error) w')
    (handled : ∀ error retryable w', error.retryable? = some retryable →
      Reaches env t r w₀ (s.exchanged ⟨call, .error error⟩) w' →
      (alone env).Safe t Q (handler retryable).run w')
    (proceeds : ∀ answer w', Reaches env t r w₀ (s.exchanged ⟨call, .ok answer⟩) w' →
      (alone env).Safe t Q (proceed answer).run w') :
    (alone env).Safe t Q (PurchaseAgent.callProvider r call handler proceed).run w := by
  refine safe_then (P := fun x w' => Reaches env t r w₀ (s.exchanged ⟨call, x⟩) w')
    ((Service.safe_attempt (B := memory) w _ _).mpr (h.provider call)) ?_
  rintro (error | answer) w' h
  · cases known : error.retryable? with
    | some retryable => simpa only [known] using handled error retryable w' known h
    | none =>
        simp only [known]
        exact raised error w' known h
  · exact proceeds answer w' h

theorem executionMode (h : Reaches env t r w₀ s w) :
    (w.mission r).executionMode = (w₀.mission r).executionMode := h.plan.executionMode

theorem confirmationIdempotencyKey_eq (h : Reaches env t r w₀ s w) :
    confirmationIdempotencyKey (w.mission r) = confirmationIdempotencyKey (w₀.mission r) := by
  simp only [confirmationIdempotencyKey, h.plan.id]

theorem reservationIdempotencyKey_eq (h : Reaches env t r w₀ s w) :
    reservationIdempotencyKey (w.mission r) = reservationIdempotencyKey (w₀.mission r) := by
  simp only [reservationIdempotencyKey, h.plan.id]

theorem completeMission (h : Reaches env t r w₀ s w) {Course : Stage → Outcome → Prop}
    (allowed : .completed ∈ MissionStateMachine.allowedTransitions s.status)
    (course : Course (s.withStatus .completed) (missionCompleted (w₀.mission r))) :
    (alone env).Safe t (Took env t r w₀ Course)
      (PurchaseAgent.completeMission inMemoryMissionRepository r).run w := by
  refine read_then ?_
  rw [h.executionMode]
  exact h.concludes allowed (by simp) _ course

theorem reservationMade (isProcessingRun : Bool) (h : Reaches env t r w₀ s w)
    (stands : s.status = phase isProcessingRun .reserving) (providerId : String)
    (result : ReservationResult) (reservationId : String) :
    (alone env).Safe t
      (Took env t r w₀ (Reserved (w₀.mission r) providerId result reservationId
        (s.assign (.reservationId (some reservationId)))))
      (PurchaseAgent.reservationMade inMemoryMissionRepository r providerId result
        reservationId).run w := by
  have allowed : ∀ target ∈ [MissionStatus.requiresConfirmation, .completed, .failed],
      target ∈ MissionStateMachine.allowedTransitions s.status := fun target member => by
    rw [stands]
    revert target
    cases isProcessingRun <;> decide
  refine safe_then (h.assign _ rfl) fun _ _ h => safe_then (h.addEvent _ _ _) fun _ w' h => ?_
  replace h := h.1
  refine read_then ?_
  rw [h.executionMode, h.confirmationIdempotencyKey_eq]
  split
  · exact h.concludes (allowed _ (by simp)) (by simp) _ (.awaiting ‹_›)
  · rename_i mode
    split
    · refine safe_then (h.addEvent _ _ _) fun _ _ h => h.1.callProvider ?_ ?_ ?_
      · exact fun error w' unknown h => ⟨_, _, .confirmRaised error unknown, h, rfl⟩
      · exact fun error retryable w' known h =>
          h.concludes (allowed _ (by simp)) (by simp) _ (.confirmFailed error retryable known)
      · intro answer w' h
        split
        · exact h.concludes (allowed _ (by simp)) (by simp) _ (.confirmRefused answer ‹_›)
        · rename_i accepted
          refine safe_then (h.addEvent _ _ _) fun _ _ h => ?_
          exact h.1.completeMission (allowed _ (by simp))
            (.confirmed answer (by simpa using accepted))
    · rename_i direct
      exact h.completeMission (allowed _ (by simp)) (.completed mode (by simpa using direct))

theorem reserveBest (isProcessingRun : Bool) (h : Reaches env t r w₀ s w)
    (stands : s.status = phase isProcessingRun .reserving) (providerId : String)
    (best : ScoredOption) (mission : Mission)
    (key : reservationIdempotencyKey mission = reservationIdempotencyKey (w₀.mission r))
    {Course : Stage → Outcome → Prop}
    (raised : ∀ error, error.retryable? = none →
      Course (s.exchanged (reservation (w₀.mission r) providerId best.option (.error error)))
        (.raised error))
    (failed : ∀ error retryable, error.retryable? = some retryable →
      Course ((s.exchanged (reservation (w₀.mission r) providerId best.option
        (.error error))).withStatus .failed) (operationFailed providerId "reservation" retryable))
    (refused : ∀ result : ReservationResult, result.success = false →
      Course ((s.exchanged (reservation (w₀.mission r) providerId best.option
        (.ok result))).withStatus .failed)
        (.concluded "reservation_failed" [("provider_id", .str providerId)]))
    (reserved : ∀ (result : ReservationResult) reservationId s' outcome,
      result.reservationId = some reservationId →
      Reserved (w₀.mission r) providerId result reservationId
        ((s.exchanged (reservation (w₀.mission r) providerId best.option (.ok result))).assign
          (.reservationId (some reservationId))) s' outcome → Course s' outcome) :
    (alone env).Safe t (Took env t r w₀ Course)
      (PurchaseAgent.reserveBest inMemoryMissionRepository r providerId best mission).run w := by
  have allowed : .failed ∈ MissionStateMachine.allowedTransitions s.status := by
    rw [stands]
    cases isProcessingRun <;> decide
  unfold PurchaseAgent.reserveBest
  rw [key]
  refine h.callProvider ?_ ?_ ?_
  · exact fun error w' unknown h => ⟨_, _, raised error unknown, h, rfl⟩
  · exact fun error retryable w' known h =>
      h.concludes allowed (by simp) _ (failed error retryable known)
  · intro result w' h
    split
    · rename_i unsuccessful
      exact h.concludes allowed (by simp) _ (refused result unsuccessful)
    · rename_i success missing
      obtain ⟨reservationId, made⟩ := result.exists_id success
      cases missing.symm.trans made
    · rename_i reservationId _ made
      refine safe_took ?_ (h.reservationMade isProcessingRun stands providerId result reservationId)
      exact fun s' outcome => reserved result reservationId s' outcome made

theorem bestSelected (isProcessingRun : Bool) (h : Reaches env t r w₀ s w)
    (stands : s.status = phase isProcessingRun .searching) (providerId : String)
    (best : ScoredOption) :
    (alone env).Safe t
      (Took env t r w₀ (Chosen (w₀.mission r) providerId isProcessingRun best.option s))
      (PurchaseAgent.bestSelected inMemoryMissionRepository r providerId isProcessingRun
        best).run w := by
  unfold PurchaseAgent.bestSelected
  refine h.phases isProcessingRun stands (by decide) (by simp) fun _ _ h stands => ?_
  refine safe_then (h.assign _ rfl) fun _ _ h => safe_then (h.addEvent _ _ _) fun _ w' h => ?_
  replace h := h.1
  refine read_then ?_
  rw [h.executionMode]
  split
  · refine h.concludes ?_ (by simp) _ (.searchOnly ‹_›)
    change _ ∈ MissionStateMachine.allowedTransitions (s.enter isProcessingRun .optionFound).status
    rw [stands]
    cases isProcessingRun <;> decide
  · rename_i mode
    have key := h.reservationIdempotencyKey_eq
    refine h.phases isProcessingRun stands (by decide) (by simp) fun _ _ h stands => ?_
    refine safe_then (h.addEvent _ _ _) fun _ _ h => ?_
    refine h.1.reserveBest isProcessingRun stands providerId best _ key ?_ ?_ ?_ ?_
    · exact fun error unknown => .reserveRaised error unknown
    · exact fun error retryable known => .reserveFailed error retryable known
    · exact fun result refused => .refused result refused
    · exact fun result reservationId s' outcome made course =>
        .reserved mode result reservationId made course

theorem optionsFound (isProcessingRun : Bool) (h : Reaches env t r w₀ s w)
    (stands : s.status = phase isProcessingRun .searching) (providerId : String)
    (options : List ProviderOption) {Course : Stage → Outcome → Prop}
    (nothing : selectBest options (w₀.mission r) = none →
      Course (s.withStatus .failed) (.concluded "no_valid_option_found" []))
    (found : ∀ best s' outcome, selectBest options (w₀.mission r) = some best →
      Chosen (w₀.mission r) providerId isProcessingRun best.option s s' outcome →
      Course s' outcome) :
    (alone env).Safe t (Took env t r w₀ Course)
      (PurchaseAgent.optionsFound inMemoryMissionRepository r providerId isProcessingRun
        options).run w := by
  refine safe_then (h.addEvent _ _ _) fun _ w' h => ?_
  replace h := h.1
  refine read_then ?_
  rw [selectBest_of_same_rules h.plan.constraints h.plan.fallbackRules]
  split
  · refine h.concludes ?_ (by simp) _ (nothing ‹_›)
    rw [stands]
    cases isProcessingRun <;> decide
  · rename_i best selected
    exact safe_took (fun s' outcome => found best s' outcome selected)
      (h.bestSelected isProcessingRun stands providerId best)

theorem participantsFound (isProcessingRun : Bool) (h : Reaches env t r w₀ s w)
    (stands : s.status = phase isProcessingRun .running) (providerId : String)
    (identities : List Identity) :
    (alone env).Safe t (Took env t r w₀ (Searched (w₀.mission r) providerId isProcessingRun s))
      (PurchaseAgent.participantsFound inMemoryMissionRepository r providerId isProcessingRun
        identities).run w := by
  have allowed : ∀ status ∈ [MissionStatus.running, .searching],
      .failed ∈ MissionStateMachine.allowedTransitions (phase isProcessingRun status) := by
    cases isProcessingRun <;> decide
  refine read_then ?_
  split
  · refine h.concludes ?_ (by simp) _ .participantMissing
    rw [stands]
    exact allowed _ (by simp)
  · refine safe_then (h.addEvent _ _ _) fun _ _ h => ?_
    refine h.1.phases isProcessingRun stands (by decide) (by simp) fun _ _ h stands => ?_
    refine safe_then (h.addEvent _ _ _) fun _ _ h => h.1.callProvider ?_ ?_ ?_
    · exact fun error w' unknown h => ⟨_, _, .searchRaised identities error unknown, h, rfl⟩
    · refine fun error retryable w' known h =>
        h.concludes ?_ (by simp) _ (.searchFailed identities error retryable known)
      change _ ∈ MissionStateMachine.allowedTransitions (s.enter isProcessingRun .searching).status
      rw [stands]
      exact allowed _ (by simp)
    · exact fun options w' h => h.optionsFound isProcessingRun stands providerId options
        (.nothingFound identities options)
        fun best s' outcome selected => .found identities options best selected

theorem getParticipants (h : Reaches env t r w₀ s w) (ids : List UUID) :
    (alone env).Safe t (fun x w' => Reaches env t r w₀ s w' ∧
        ∀ error, x = .error error → ∃ id outside, env.identity id outside = .error error)
      (PurchaseAgent.getParticipants ids).run w := by
  induction ids with
  | nil => exact ⟨h, nofun⟩
  | cons id ids ih =>
      refine safe_seq (R := fun x w' => w' = w ∧ x = env.identity id w.outside) ?_ ?_ ?_
      · refine (Service.safe_getIdentity (B := memory) w _ id).mpr ?_
        rintro _ rfl
        exact ⟨trivial, rfl, rfl⟩
      · rintro (_ | identity) _ ⟨rfl, -⟩
        · exact ih
        · exact safe_seq ih (fun _ _ h => ⟨h.1, nofun⟩) fun _ _ h => h
      · rintro error _ ⟨rfl, raised⟩
        exact ⟨h, by rintro _ ⟨⟩; exact ⟨id, _, raised.symm⟩⟩

/-- The participants and what follows, from a status a run starts from. -/
theorem startMission (h : Reaches env t r w₀ s w)
    (startable : s.status ∈ startableStatuses true) (providerId : String) :
    (alone env).Safe t
      (Took env t r w₀ (Started (w₀.mission r) providerId env
        (decide (s.status = MissionStatus.processing)) s))
      (PurchaseAgent.startMission inMemoryMissionRepository r providerId).run w := by
  refine read_then ?_
  rw [h.status]
  have runs : ∀ isProcessingRun, ∀ w', Reaches env t r w₀ (s.enter isProcessingRun .running) w' →
      (s.enter isProcessingRun .running).status = phase isProcessingRun .running →
      (alone env).Safe t
        (Took env t r w₀ (Started (w₀.mission r) providerId env isProcessingRun s))
        (do
          let identities ← PurchaseAgent.getParticipants (w.mission r).participantIds
          PurchaseAgent.participantsFound inMemoryMissionRepository r providerId
            isProcessingRun identities : Service memory Ref).run w' := by
    intro isProcessingRun w' h stands
    refine safe_seq (h.getParticipants _) (fun identities w' h => ?_) ?_
    · exact safe_took (fun _ _ => .searched)
        (h.1.participantsFound _ stands providerId identities)
    · rintro error w' ⟨h, raised⟩
      obtain ⟨id, outside, raised⟩ := raised error rfl
      exact ⟨_, _, .identityRaised error id outside raised, h, rfl⟩
  by_cases processing : s.status = .processing
  · have stands : s.status = phase true .waiting := processing
    simp only [processing, decide_true]
    exact h.phases true stands (by decide) (by simp) fun _ => runs true
  · have stands : s.status = phase false s.status := rfl
    simp only [processing, decide_false]
    refine h.phases false stands ?_ (by simp) fun _ => runs false
    revert startable processing
    cases s.status <;> decide

theorem providerResolved {adapter : ProviderAdapter} {registry : ProviderRegistry}
    (h : Reaches env t r w₀ s w) (startable : s.status ∈ startableStatuses true)
    (resolved : ProviderResolver.resolve registry (w.mission r) = .ok adapter) :
    (alone env).Safe t
      (Took env t r w₀ (Started (w₀.mission r) adapter.providerId env
        (decide (s.status = MissionStatus.processing))
        (s.assign (.resolvedProviderId (some adapter.providerId)))))
      (PurchaseAgent.providerResolved inMemoryMissionRepository r adapter).run w := by
  obtain ⟨metadata, payload⟩ := providerResolvedPayload_of_resolve resolved
  refine safe_then (P := fun _ w' => Reaches env t r w₀
    (s.assign (.resolvedProviderId (some adapter.providerId))) w' ∧
      providerResolvedPayload (w'.mission r) adapter = .ok metadata) ?_ fun _ w' assigned => ?_
  · refine (Service.safe_assign (B := memory) w r _ _).mpr ⟨trivial, ?_, ?_⟩
    · exact ((Service.safe_assign (B := memory) w r _ _).mp (h.assign _ rfl)).2
    · rw [World.mission_setMission]
      exact payload
  refine read_then (fromExcept_then assigned.2 ?_)
  refine safe_then (assigned.1.addEvent _ _ _) fun _ _ recorded => ?_
  refine safe_then (recorded.1.update recorded.2.log) fun _ _ stored => ?_
  exact stored.2.1.startMission startable adapter.providerId

theorem expireMissionIfDue (h : Reaches env t r w₀ s w) (currentTime : Time) :
    (alone env).Safe t
      (Returning fun expired w' =>
        (expired = true → s.status ∈ expirableStatuses ∧
          Reaches env t r w₀ (s.withStatus .expired) w') ∧
        (expired = false → Reaches env t r w₀ s w'))
      (PurchaseAgent.expireMissionIfDue inMemoryMissionRepository r currentTime).run w := by
  refine read_then ?_
  split
  · exact ⟨nofun, fun _ => h⟩
  · split
    · exact ⟨nofun, fun _ => h⟩
    · rename_i due
      have expirable : s.status ∈ expirableStatuses := by
        rw [← h.status]
        exact Decidable.of_not_not (not_or.mp due).1
      have allowed : .expired ∈ MissionStateMachine.allowedTransitions s.status := by
        revert expirable
        cases s.status <;> decide
      refine safe_then (h.transition allowed (.inr (by simp))) fun _ _ h => ?_
      refine safe_then (h.recordEvent _ _ _ _) fun _ _ recorded => ?_
      refine safe_then (recorded.1.update recorded.2.log) fun _ _ stored => ?_
      exact ⟨fun _ => ⟨expirable, stored.2.1⟩, nofun⟩

end Reaches

/-- No failure of the resolver is retried. -/
theorem unretried_of_resolve {registry : ProviderRegistry} {mission : Mission}
    {error : PyException} (h : ProviderResolver.resolve registry mission = .error error) :
    error.isException = true ∧
      ∀ policy : MissionRetryPolicy, policy.shouldRetryException error = false := by
  unfold ProviderResolver.resolve at h
  split at h
  · split at h
    · rename_i unknown
      cases h
      unfold ProviderRegistry.get at unknown
      split at unknown
      · cases unknown
      · cases unknown
        exact ⟨rfl, fun _ => rfl⟩
    · split at h
      · cases h
        exact ⟨rfl, fun _ => rfl⟩
      · split at h
        · cases h
          exact ⟨rfl, fun _ => rfl⟩
        · cases h
  · dsimp only at h
    split at h
    · split at h <;> cases h <;> exact ⟨rfl, fun _ => rfl⟩
    · cases h
    · cases h
      exact ⟨rfl, fun _ => rfl⟩

theorem unretried_of_payload {mission : Mission} {error error' : PyException}
    (resolution : error.isException = true ∧
      ∀ policy : MissionRetryPolicy, policy.shouldRetryException error = false)
    (h : providerResolutionFailurePayload mission error = .error error') :
    error'.isException = true ∧
      ∀ policy : MissionRetryPolicy, policy.shouldRetryException error' = false := by
  unfold providerResolutionFailurePayload at h
  split at h
  case h_6 => cases h; exact resolution
  all_goals
    unfold providerResolutionFailurePayload.payload at h
    split at h
    · cases h
    · cases h
      exact ⟨rfl, fun _ => rfl⟩

theorem Reaches.providerResolutionFailed (h : Reaches env t r w₀ s w) (mission : Mission)
    {error : PyException}
    (unretried : error.isException = true ∧
      ∀ policy : MissionRetryPolicy, policy.shouldRetryException error = false)
    {Course : Stage → Outcome → Prop}
    (course : ∀ error : PyException, (error.isException = true ∧
      ∀ policy : MissionRetryPolicy, policy.shouldRetryException error = false) →
      Course s (.raised error)) :
    (alone env).Safe t (Took env t r w₀ Course)
      (PurchaseAgent.providerResolutionFailed inMemoryMissionRepository r mission error).run w := by
  unfold PurchaseAgent.providerResolutionFailed
  cases payload : providerResolutionFailurePayload mission error with
  | error error' => exact ⟨_, _, course error' (unretried_of_payload unretried payload), h, rfl⟩
  | ok metadata =>
      refine fromExcept_then rfl ?_
      refine safe_then (h.addEvent _ _ _) fun _ _ recorded => ?_
      refine safe_then (recorded.1.update recorded.2.log) fun _ _ stored => ?_
      exact ⟨_, _, course error unretried, stored.2.1, rfl⟩

theorem runMission_wholeRun (wellFormed : WellFormed env w) (stored : Stored w r) (t : TaskId)
    (registry : ProviderRegistry) (options : RunOptions) :
    (alone env).Safe t
      (Took env t r w (WholeRun (w.mission r) env registry options.allowProcessing))
      (runMission inMemoryMissionRepository registry (w.mission r).id options).run w := by
  have h := reaches_initial wellFormed t stored
  refine safe_then h.get ?_
  rintro _ w ⟨rfl, rfl⟩
  refine Reaches.read_then ?_
  split
  · rename_i refused
    refine ⟨_, _, .refused _ fun processing => ?_, h, rfl⟩
    by_contra allowed
    rw [Bool.not_eq_false] at allowed
    exact refused (by rw [processing, allowed]; decide)
  · rename_i startable
    rw [not_not] at startable
    refine safe_then (h.orUtcNow _) fun now _ timed => ?_
    refine safe_then (timed.1.expireMissionIfDue now) ?_
    rintro (_ | _) w' ⟨expired, running⟩
    · replace h := running rfl
      refine Reaches.read_then ?_
      rw [h.status]
      split
      · rename_i future
        refine ⟨_, _, .refused _ fun processing => ?_, h, rfl⟩
        exact absurd (processing.symm.trans future.1) (by simp)
      · have same : ProviderResolver.resolve registry (w'.mission r) =
            ProviderResolver.resolve registry (w.mission r) :=
          ProviderResolver.resolve_of_same h.plan.missionType h.plan.executionMode
            h.plan.providerId
        rw [same]
        cases resolved : ProviderResolver.resolve registry (w.mission r) with
        | error error =>
            exact h.providerResolutionFailed _ (unretried_of_resolve resolved)
              fun error unretried => .unresolved error unretried.1 unretried.2
        | ok adapter =>
            refine safe_took (fun s' outcome => .started startable adapter resolved) ?_
            refine h.providerResolved ?_ (same.trans resolved)
            unfold startableStatuses at startable ⊢
            split at startable
            · exact startable
            · exact List.mem_append_left [_] startable
    · obtain ⟨expirable, h⟩ := expired rfl
      exact ⟨_, _, .expired _ expirable, h, rfl⟩

end PurchaseAgent
