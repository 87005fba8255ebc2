import PurchaseAgent.Correctness.RunProtocol

/-!
The other commands on one mission, running alone: what each of them exchanges
with the provider and what it leaves behind.
-/

namespace PurchaseAgent

open Cooperative Cooperative.Discipline InMemoryMissionRepository

variable {σ : Type} {env : Environment σ} {t : TaskId} {r : Ref} {w₀ w : MemoryWorld σ} {s : Stage}

/-- What a retry makes of a mission. -/
def Stage.retried (s : Stage) : Stage :=
  { s with
    status := .waiting
    resolvedProviderId := none
    reservationId := none
    bestOption := none }

/-- The outcome of a retry: the failed mission waits again, or nothing happened. -/
def Retried (env : Environment σ) (t : TaskId) (r : Ref) (w₀ : MemoryWorld σ) (s : Stage)
    (options : RetryOptions) : Except PyException Ref → MemoryWorld σ → Prop
  | .ok r', w => r' = r ∧ s.status = .failed ∧
      (w₀.mission r).hasExhaustedAttempts = false ∧ Reaches env t r w₀ s.retried w ∧
      ∃ mission retryAt, mission.resolvedProviderId = s.resolvedProviderId ∧
        mission.reservationId = s.reservationId ∧
        LastEvent (w.mission r) "mission_retry_scheduled"
          (retryMetadata mission retryAt options.trigger options.reason)
  | .error _, w => Reaches env t r w₀ s w ∧
      (s.status ≠ .failed ∨ (w₀.mission r).hasExhaustedAttempts = true ∨
        ∃ now, (∀ time ∈ options.currentTime, now = time) ∧ options.retryAt.getD now < now)

namespace Reaches

theorem resetForRetry (h : Reaches env t r w₀ s w) (failed : s.status = .failed) (mission : Mission)
    (now retryAt : Time) (options : RetryOptions) :
    (alone env).Safe t
      (Returning fun r' w' => r' = r ∧ Reaches env t r w₀ s.retried w' ∧
        LastEvent (w'.mission r) "mission_retry_scheduled"
          (retryMetadata mission retryAt options.trigger options.reason))
      (PurchaseAgent.resetForRetry inMemoryMissionRepository r mission now retryAt
        options).run w := by
  have moved : MissionStateMachine.transition (w.mission r) .waiting
      { currentTime := some now, retry := true } = .ok ((w.mission r).withStatus .waiting none) := by
    simp [MissionStateMachine.transition, MissionStateMachine.canTransition, h.status, failed]
  refine safe_then (h.moved moved) fun _ _ h => ?_
  refine safe_then (h.assign _ rfl) fun _ _ h => safe_then (h.assign _ rfl) fun _ _ h => ?_
  refine safe_then (h.assign _ rfl) fun _ _ h => safe_then (h.assign _ rfl) fun _ _ h => ?_
  refine safe_then (h.recordEvent _ _ _ _) fun _ w' recorded => ?_
  obtain ⟨h, last⟩ := recorded
  refine safe_mono ?_ _ _ (h.update last.log)
  rintro (_ | r') w'' stored
  · exact stored.elim
  · obtain ⟨rfl, h, same⟩ := stored
    exact ⟨rfl, h, by rw [same]; exact last⟩

theorem retryMission (h : Reaches env t r w₀ s w) (options : RetryOptions) :
    (alone env).Safe t (Retried env t r w₀ s options)
      (PurchaseAgent.retryMission inMemoryMissionRepository (w₀.mission r).id options).run w := by
  refine safe_then (h.orUtcNow options.currentTime) ?_
  rintro now w ⟨h, current⟩
  dsimp only
  split
  · rename_i past
    exact ⟨h, .inr (.inr ⟨now, current, past⟩)⟩
  · refine safe_then h.get ?_
    rintro _ w ⟨rfl, rfl⟩
    refine read_then ?_
    rw [h.status, h.plan.hasExhaustedAttempts]
    split
    · rename_i status
      exact ⟨h, .inl status⟩
    · rename_i failed
      rw [not_not] at failed
      split
      · rename_i exhausted
        exact ⟨h, .inr (.inl exhausted)⟩
      · rename_i left
        refine safe_mono ?_ _ _ (h.resetForRetry failed _ now _ options)
        rintro (_ | r') w' retried
        · exact retried.elim
        · obtain ⟨rfl, h', last⟩ := retried
          exact ⟨rfl, failed, by simpa using left, h', _, _, h.resolvedProviderId, h.reservationId,
            last⟩

end Reaches
end PurchaseAgent
