import PurchaseAgent.Domain.Mission

/-!
The transition table of mission statuses and the guarded operations over it.
`Legal` is the relation the table and its two exceptional edges span: recovery
may take `processing` back to `waiting`, a retry may take `failed` there.
-/

namespace PurchaseAgent

namespace MissionStateMachine

def allowedTransitions : MissionStatus → List MissionStatus
  | .created => [.waiting, .paused, .running, .cancelled, .expired]
  | .waiting => [.created, .paused, .processing, .running, .cancelled, .expired]
  | .paused => [.created, .waiting, .cancelled, .expired]
  | .processing => [.requiresConfirmation, .completed, .failed]
  | .running => [.searching, .failed]
  | .searching => [.optionFound, .failed]
  | .optionFound => [.reserving, .completed, .failed]
  | .reserving => [.requiresConfirmation, .completed, .failed]
  | .requiresConfirmation => [.completed, .failed, .cancelled]
  | .completed => []
  | .failed => []
  | .cancelled => []
  | .expired => []

def canTransition (current target : MissionStatus) (recovery retry : Bool) : Bool :=
  if current = .processing ∧ target = .waiting then recovery
  else if current = .failed ∧ target = .waiting then retry
  else target ∈ allowedTransitions current

/-- The keyword arguments of `transition`. -/
structure Options where
  currentTime : Option Time := none
  recovery : Bool := false
  retry : Bool := false
deriving DecidableEq, Repr

def transition (mission : Mission) (target : MissionStatus) (options : Options := {}) :
    Except PyException Mission :=
  let current := mission.status
  if canTransition current target options.recovery options.retry = false then
    .error (.invalidMissionTransitionError
      s!"Invalid mission status transition: {current.value} -> {target.value}")
  else if ((current = .waiting ∧ target = .processing) ∨ options.recovery ∨ options.retry) ∧
      options.currentTime = none then
    .error (.invalidMissionTransitionError
      "current_time is required for processing transition")
  else
    .ok (mission.withStatus target
      (if current = .waiting ∧ target = .processing then options.currentTime else none))

/-- The edges of the table and the two exceptional ones. -/
def Legal (current target : MissionStatus) : Prop :=
  target ∈ allowedTransitions current ∨
    (current = .processing ∧ target = .waiting) ∨ (current = .failed ∧ target = .waiting)

instance (current target : MissionStatus) : Decidable (Legal current target) :=
  inferInstanceAs (Decidable (_ ∨ _ ∨ _))

theorem transition_ok {mission after : Mission} {target : MissionStatus} {options : Options}
    (h : transition mission target options = .ok after) :
    canTransition mission.status target options.recovery options.retry = true ∧
      after = mission.withStatus target
        (if mission.status = .waiting ∧ target = .processing then options.currentTime
        else none) := by
  simp only [transition] at h
  split at h
  · cases h
  · rename_i allowed
    split at h
    · cases h
    · exact ⟨by simpa using allowed, (Except.ok.inj h).symm⟩

theorem legal_of_canTransition {current target : MissionStatus} {recovery retry : Bool}
    (h : canTransition current target recovery retry = true) : Legal current target := by
  unfold canTransition at h
  split at h
  · exact .inr (.inl ‹_›)
  · split at h
    · exact .inr (.inr ‹_›)
    · exact .inl (by simpa using h)

theorem transition_legal {mission after : Mission} {target : MissionStatus} {options : Options}
    (h : transition mission target options = .ok after) : Legal mission.status after.status := by
  obtain ⟨allowed, rfl⟩ := transition_ok h
  exact legal_of_canTransition allowed

/-- Outside of recovery and retry, and except for a claim, the transition is
decided by the table alone and leaves the mission unclaimed. -/
theorem transition_of_allowed (mission : Mission) {target : MissionStatus}
    (allowed : target ∈ allowedTransitions mission.status)
    (notClaim : mission.status ≠ .waiting ∨ target ≠ .processing) :
    transition mission target = .ok (mission.withStatus target none) := by
  have can : canTransition mission.status target false false = true := by
    unfold canTransition
    split
    · rename_i h; rw [h.1, h.2] at allowed; exact absurd allowed (by decide)
    · split
      · rename_i h; rw [h.1, h.2] at allowed; exact absurd allowed (by decide)
      · simpa using allowed
  have plain : ¬ (mission.status = .waiting ∧ target = .processing) := by
    rintro ⟨waiting, processing⟩
    rcases notClaim with h | h
    · exact h waiting
    · exact h processing
  simp [transition, can, plain]

def recoveryTarget (mission : Mission) : MissionStatus :=
  if mission.hasExhaustedAttempts then .failed else .waiting

def recoveryMessage : MissionStatus → String
  | .failed => "Mission failed after a stale claim because execution attempts are exhausted."
  | _ => "Mission recovered after a stale claim."

/-- `recover_stale`: the outcome and the mission as it leaves it. -/
def recoverStale (mission : Mission) (eventId : UUID) (currentTime : Time) :
    Except PyException Unit × Mission :=
  let target := recoveryTarget mission
  match transition mission target { currentTime := some currentTime, recovery := true } with
  | .error error => (.error error, mission)
  | .ok recovered =>
    match recovered.recordEvent eventId currentTime "claim_recovered" (recoveryMessage target)
      [("previous_claimed_at", .ofTime mission.claimedAt),
        ("attempts_exhausted", .bool (target = .failed))] with
    | .error error => (.error error, recovered)
    | .ok after => (.ok (), after)

/-- Whatever the outcome, the status has taken a legal edge or stayed. -/
theorem recoverStale_legal (mission : Mission) (eventId : UUID) (currentTime : Time) :
    (recoverStale mission eventId currentTime).2.status = mission.status ∨
      Legal mission.status (recoverStale mission eventId currentTime).2.status := by
  simp only [recoverStale]
  split
  · exact .inl rfl
  · rename_i recovered transitioned
    have legal := transition_legal transitioned
    split
    · exact .inr legal
    · rename_i after recorded
      obtain ⟨-, rfl⟩ := Mission.recordEvent_ok recorded
      exact .inr legal

theorem recoverStale_ok {mission : Mission} {eventId : UUID} {currentTime : Time}
    (h : (recoverStale mission eventId currentTime).1 = .ok ()) :
    ∃ event, mission.FreshFor eventId ∧ event.type = "claim_recovered" ∧
      event.eventId = eventId ∧ event.sequence = mission.lastEventSequence + 1 ∧
      (recoverStale mission eventId currentTime).2 =
        (mission.withStatus (recoveryTarget mission) none).append event := by
  simp only [recoverStale] at h ⊢
  split at h
  · cases h
  · rename_i recovered transitioned
    obtain ⟨-, rfl⟩ := transition_ok transitioned
    split at h
    · cases h
    · rename_i after recorded
      obtain ⟨fresh, rfl⟩ := Mission.recordEvent_ok recorded
      have unclaimed : ¬ (mission.status = .waiting ∧ recoveryTarget mission = .processing) := by
        unfold recoveryTarget
        split <;> simp
      dsimp only
      rw [if_neg unclaimed]
      exact ⟨_, fresh, rfl, rfl, rfl, rfl⟩

end MissionStateMachine
end PurchaseAgent
