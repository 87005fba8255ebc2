import PurchaseAgent.Correctness.ClaimedRuns

/-!
Provider calls of batches. As long as recovery only takes back claims whose
batch has ended, every interleaving of workers calls the provider for a mission
on behalf of the batch whose claim of it is the live one, and of no other.
-/

namespace PurchaseAgent

open Cooperative InMemoryMissionRepository

variable {σ : Type}

/-- The mission is stored and processing under an attempt that this task and no
other claimed. -/
def LiveClaim (w : MemoryWorld σ) (t : TaskId) (r : Ref) : Prop :=
  Stored w r ∧ (w.mission r).status = .processing ∧
    ∀ t', (t', Event.claimed (w.mission r).id (w.mission r).executionAttempts) ∈ w.trace ↔ t' = t

variable (env : Environment σ)

/-- Whoever calls a provider, or has the provider act, holds the live claim. -/
def CallsWithLiveClaim (c : CommandConfig σ) (t : TaskId) : Prop :=
  ∀ r call, c.Performs (machine memory env) t (.call r call) ∨
    c.Performs (machine memory env) t (.request r call) → LiveClaim c.shared t r

/-- A recovery takes back no claim of a task that has not ended and goes on. -/
def RecoversEndedClaims (c : CommandConfig σ) (t : TaskId) (later : List TaskId) : Prop :=
  ∀ o, c.Performs (machine memory env) t o → ∀ r t', Recovered o (c.shared.mission r) →
    ((machine memory env).exec t o c.shared).2.mission r ≠ c.shared.mission r →
      Owned c.shared t' r → (c.tasks t').finished = true ∨ t' ∉ later

variable {env}

theorem liveClaim_of_owned {w : MemoryWorld σ} (h : WellFormed env w) {t : TaskId} {r : Ref}
    (own : Owned w t r) : LiveClaim w t r := by
  obtain ⟨stored, processing, claimed⟩ := own
  refine ⟨stored, processing, fun t' => ⟨fun claimed' => h.unique t' t _ _ claimed' claimed, ?_⟩⟩
  rintro rfl
  exact claimed

theorem not_liveClaim {w : MemoryWorld σ} {t t' : TaskId} {r : Ref} (differs : t' ≠ t)
    (claimed : (t', (w.mission r).id, (w.mission r).executionAttempts) ∈ claimsMade w.trace) :
    ¬ LiveClaim w t r :=
  fun live => differs ((live.2.2 t').mp (mem_claimsMade.mp claimed))

/-- An operation of one worker leaves alone what the running others own. -/
theorem respects_claims {Q : TaskId → Except PyException Unit → MemoryWorld σ → Prop}
    (always : ∀ t x w, Q t x w) {c : CommandConfig σ} {t : TaskId} {later : List TaskId}
    {o : Op memory} (wf : WellFormed env c.shared) (recovers : RecoversEndedClaims env c t later)
    (performs : c.Performs (machine memory env) t o)
    (guarantee : (claims env).guarantee t o c.shared ((machine memory env).exec t o c.shared).2) :
    (claims env).Respects Q (· ∈ later) c t ((machine memory env).exec t o c.shared).2 := by
  refine fun other differs goesOn => ⟨fun unfinished _ => ?_, fun a _ _ => always other a _⟩
  obtain ⟨evolves, acts⟩ := guarantee wf
  refine ⟨evolves, fun r own => ?_⟩
  rcases acts.objects r with same | free | mine | recovered
  · exact same
  · exact absurd own.2.1 free
  · exact absurd (own.exclusive wf mine) differs
  · by_contra taken
    rcases recovers o performs r other recovered taken own with ended | gone
    · rw [unfinished] at ended
      cases ended
    · exact gone goesOn

/-- In every interleaving of workers in which recovery takes back ended claims
only, provider calls are made by the holder of the live claim. -/
theorem provider_calls_have_live_claim (env : Environment σ) (registry : ProviderRegistry)
    (commands : TaskId → Command) (workers : ∀ t, (commands t).isWorker = true)
    (w : MemoryWorld σ) (consistent : Consistent w)
    (fresh : ∀ r, Stored w r → FreshFrom env w.idsDrawn (w.mission r)) (trace : w.trace = [])
    (sched : List TaskId)
    (recovers : (startCommands registry commands w).AlongRest (machine memory env)
      (RecoversEndedClaims env) sched) :
    (startCommands registry commands w).Along (machine memory env) (CallsWithLiveClaim env)
      sched := by
  have wf := wellFormed_start consistent fresh trace
  have pool : (claims env).Pool (fun _ _ _ => True) (· ∈ sched)
      (startCommands registry commands w) := by
    refine fun t _ => ⟨fun _ _ => trivial, fun running => ?_, fun _ _ w' rely => ?_⟩
    · cases running
    · exact safe_worker (rely wf).1.wellFormed registry (workers t)
  obtain ⟨-, along⟩ := Discipline.Pool.along (P := RecoversEndedClaims env) (I := WellFormed env)
    (fun t o s s' wf guarantee => (guarantee wf).1.wellFormed)
    (fun c t later o _ wf recovers performs guarantee =>
      respects_claims (fun _ _ _ => trivial) wf recovers performs guarantee) sched pool wf recovers
  refine Config.along_mono _ (fun c t ⟨wf, guarantees⟩ r call performs => ?_) _ _ along
  rcases performs with performs | performs
  · exact liveClaim_of_owned wf ((guarantees _ performs wf).2.calls r call (.inl rfl))
  · exact liveClaim_of_owned wf ((guarantees _ performs wf).2.calls r call (.inr rfl))

/-! A batch that goes on with a mission that another batch has claimed anew. -/

namespace ReclaimedMission

def environment : Environment Unit := .withProviders (Sample.accepting [Sample.option ⟨1⟩ 100])

def commands : TaskId → Command
  | 0 => .processDueMissions 1 100 defaultMissionRetryPolicy
  | 1 => .recoverStaleProcessing 1000 1 100
  | _ => .processDueMissions 2000 100 defaultMissionRetryPolicy

def start : CommandConfig Unit := Sample.start commands ()

/-- The first batch waits for its search, the second claims the recovered mission
and reserves, and the first goes on. -/
def schedule : List TaskId :=
  List.replicate 21 0 ++ [1] ++ List.replicate 32 2 ++ List.replicate 10 0

theorem pending_reserve :
    ((start.run (machine memory environment) schedule).pending (machine memory environment) 0).bind
      Op.entered = some (0, .reserveOption "mock_train" (Sample.option ⟨1⟩ 100)
        (reservationIdempotencyKey Sample.mission)) := by
  decide +kernel

theorem performs_reserve :
    (start.run (machine memory environment) schedule).Performs (machine memory environment) 0
      (.call 0 (.reserveOption "mock_train" (Sample.option ⟨1⟩ 100)
        (reservationIdempotencyKey Sample.mission))) :=
  performs_call pending_reserve

theorem workers (t : TaskId) : (commands t).isWorker = true := by
  match t with
  | 0 | 1 | _ + 2 => rfl

theorem reclaimed :
    (2, ((start.run (machine memory environment) schedule).shared.mission 0).id,
      ((start.run (machine memory environment) schedule).shared.mission 0).executionAttempts) ∈
        claimsMade (start.run (machine memory environment) schedule).shared.trace := by
  decide +kernel

end ReclaimedMission

/-- A batch reserves for a mission whose live claim is another batch's. -/
theorem reserve_with_recovered_claim :
    (∀ t, (ReclaimedMission.commands t).isWorker = true) ∧
      ¬ ReclaimedMission.start.Along (machine memory ReclaimedMission.environment)
        (CallsWithLiveClaim ReclaimedMission.environment) (ReclaimedMission.schedule ++ [0]) := by
  refine ⟨ReclaimedMission.workers, ?_⟩
  rw [Config.along_append]
  rintro ⟨-, live, -⟩
  exact not_liveClaim (by decide) ReclaimedMission.reclaimed
    (live 0 _ (.inl ReclaimedMission.performs_reserve))

namespace ReclaimedMission

/-- The first batch stops while it waits for its search; then its claim is taken
back and the second batch does the work. -/
def stoppedSchedule : List TaskId :=
  List.replicate 21 0 ++ [1] ++ List.replicate 60 2

/-- A recovery finds only claims of tasks that do not go on. -/
def RecoversStopped (c : CommandConfig Unit) (t : TaskId) (later : List TaskId) : Prop :=
  (c.pending (machine memory environment) t).any Op.isRecovery = true →
    ∀ claim ∈ claimsMade c.shared.trace, claim.1 ∉ later

instance (c : CommandConfig Unit) (t : TaskId) (later : List TaskId) :
    Decidable (RecoversStopped c t later) :=
  inferInstanceAs (Decidable (_ → _))

theorem recoversEndedClaims_stopped :
    start.AlongRest (machine memory environment) (RecoversEndedClaims environment)
      stoppedSchedule := by
  have stopped : start.AlongRest (machine memory environment) RecoversStopped stoppedSchedule := by
    decide +kernel
  refine Config.alongRest_mono _ (fun c t later recovers o performs r t' recovered _ own => ?_) _ _
    stopped
  obtain ⟨currentTime, claimTimeout, limit, rfl, -⟩ := recovered
  refine .inr (recovers ?_ _ (mem_claimsMade.mpr own.2.2))
  rw [Config.pending_of_performs _ performs]
  rfl

end ReclaimedMission

/-- The first batch stops for good, its mission is recovered and reserved once. -/
theorem provider_calls_have_live_claim_stopped :
    ReclaimedMission.start.Along (machine memory ReclaimedMission.environment)
      (CallsWithLiveClaim ReclaimedMission.environment) ReclaimedMission.stoppedSchedule :=
  provider_calls_have_live_claim ReclaimedMission.environment Sample.registry
    ReclaimedMission.commands ReclaimedMission.workers _
    (consistent_initialWorld [Sample.mission] Sample.mission () (by decide))
    (fun r _ => fresh_initialWorld () (by decide) r) rfl _
    ReclaimedMission.recoversEndedClaims_stopped

end PurchaseAgent
