import PurchaseAgent.Correctness.CommandProtocol

/-!
Batches without a concurrent writer. A turn of the batch ends in one of its three
lists unless a provider's answer asks for a retry that cannot be scheduled: then
the exception of the retry leaves the batch.
-/

namespace PurchaseAgent

open Cooperative Cooperative.Discipline InMemoryMissionRepository

variable {σ : Type}

/-! What asks for a retry. -/

/-- An answer that makes the batch schedule a retry of the mission. -/
def Exchange.asksRetry (policy : MissionRetryPolicy) (mission : Mission) : Exchange → Bool
  | ⟨_, .error error⟩ =>
      policy.shouldRetryException error ||
        (error.retryable? = some true && !mission.hasExhaustedAttempts)
  | ⟨.searchOptions _ _, .ok options⟩ =>
      (selectBest options mission).isNone && !mission.hasExhaustedAttempts
  | ⟨_, .ok _⟩ => false

/-- An outcome that makes the batch schedule a retry. -/
def Outcome.asksRetry (policy : MissionRetryPolicy) (mission : Mission) : Outcome → Bool
  | .raised error => policy.shouldRetryException error
  | .concluded eventType metadata =>
      !mission.hasExhaustedAttempts && (eventType = "no_valid_option_found" ||
        (eventType = "provider_operation_failed" &&
          metadata.lookup "retryable" = some (.bool true)))

/-- The retry an answer asks for can be scheduled. -/
def Exchange.Schedulable (policy : MissionRetryPolicy) (currentTime : Time) (mission : Mission)
    (exchange : Exchange) : Prop :=
  exchange.asksRetry policy mission = true → mission.hasExhaustedAttempts = false ∧
    ∃ retryAt, automaticRetryAt policy mission currentTime = .ok retryAt

theorem Exchange.schedulable {policy : MissionRetryPolicy} {currentTime retryAt : Time}
    {mission : Mission} (left : mission.hasExhaustedAttempts = false)
    (scheduled : automaticRetryAt policy mission currentTime = .ok retryAt) (exchange : Exchange) :
    exchange.Schedulable policy currentTime mission :=
  fun _ => ⟨left, retryAt, scheduled⟩

section Courses
variable {env : Environment σ} {m : Mission} {providerId : String} {isProcessingRun : Bool}
  {s s' : Stage} {outcome : Outcome} (policy : MissionRetryPolicy)

theorem shouldRetryException_of_retryable {error : PyException} {retryable : Bool}
    (known : error.retryable? = some retryable) : policy.shouldRetryException error = false := by
  cases error <;> first | rfl | cases known

@[simp] theorem operationFailed_asksRetry (operation : String) (retryable : Bool) :
    (operationFailed providerId operation retryable).asksRetry policy m =
      (retryable && !m.hasExhaustedAttempts) := by
  cases retryable <;>
    simp [operationFailed, Outcome.asksRetry, List.lookup_cons]

/-- The exchanges of the stage, and whether one of them asks for a retry. -/
def Stage.asksRetry (policy : MissionRetryPolicy) (mission : Mission) (s : Stage) : Bool :=
  s.exchanges.any (·.asksRetry policy mission)

@[simp] theorem asksRetry_initial : (Stage.initial m).asksRetry policy m = false := rfl

@[simp] theorem asksRetry_exchanged (exchange : Exchange) :
    (s.exchanged exchange).asksRetry policy m =
      (s.asksRetry policy m || exchange.asksRetry policy m) := by
  simp [Stage.asksRetry, Stage.exchanged]

@[simp] theorem asksRetry_withStatus (status : MissionStatus) :
    (s.withStatus status).asksRetry policy m = s.asksRetry policy m := rfl

@[simp] theorem asksRetry_assign (assignment : Assignment) :
    (s.assign assignment).asksRetry policy m = s.asksRetry policy m := by
  cases assignment <;> rfl

@[simp] theorem asksRetry_enter (status : MissionStatus) :
    (s.enter isProcessingRun status).asksRetry policy m = s.asksRetry policy m := by
  cases isProcessingRun <;> rfl

theorem exchange_asksRetry_error {call : ProviderCall} {error : PyException} :
    Exchange.asksRetry policy m ⟨call, .error error⟩ = (policy.shouldRetryException error ||
      (error.retryable? = some true && !m.hasExhaustedAttempts)) := by
  cases call <;> rfl

/-- The failure of a call asks for a retry as its answer does. -/
theorem asksRetry_known {call : ProviderCall} {error : PyException} {retryable : Bool}
    (known : error.retryable? = some retryable) :
    Exchange.asksRetry policy m ⟨call, .error error⟩ = (retryable && !m.hasExhaustedAttempts) := by
  rw [exchange_asksRetry_error, shouldRetryException_of_retryable policy known, known]
  simp

theorem asksRetry_unknown {call : ProviderCall} {error : PyException}
    (unknown : error.retryable? = none) :
    Exchange.asksRetry policy m ⟨call, .error error⟩ = policy.shouldRetryException error := by
  rw [exchange_asksRetry_error, unknown]
  simp

theorem Reserved.asksRetry {result : ReservationResult} {reservationId : String}
    (h : Reserved m providerId result reservationId s s' outcome) :
    s'.asksRetry policy m = (s.asksRetry policy m || outcome.asksRetry policy m) := by
  cases h with
  | awaiting => simp [Outcome.asksRetry]
  | completed => simp [Outcome.asksRetry, missionCompleted]
  | confirmRaised error unknown =>
      simp [confirmation, asksRetry_unknown policy unknown, Outcome.asksRetry]
  | confirmFailed error retryable known => simp [confirmation, asksRetry_known policy known]
  | confirmRefused => simp [confirmation, Exchange.asksRetry, Outcome.asksRetry]
  | confirmed =>
      simp [confirmation, Exchange.asksRetry, Outcome.asksRetry, missionCompleted]

theorem Chosen.asksRetry {option : ProviderOption}
    (h : Chosen m providerId isProcessingRun option s s' outcome) :
    s'.asksRetry policy m = (s.asksRetry policy m || outcome.asksRetry policy m) := by
  cases h with
  | searchOnly => simp [Outcome.asksRetry]
  | reserveRaised error unknown =>
      simp [reservation, asksRetry_unknown policy unknown, Outcome.asksRetry]
  | reserveFailed error retryable known => simp [reservation, asksRetry_known policy known]
  | refused => simp [reservation, Exchange.asksRetry, Outcome.asksRetry]
  | reserved mode result reservationId made course =>
      rw [course.asksRetry]
      simp [reservation, Exchange.asksRetry]

theorem Searched.asksRetry (h : Searched m providerId isProcessingRun s s' outcome) :
    s'.asksRetry policy m = (s.asksRetry policy m || outcome.asksRetry policy m) := by
  cases h with
  | participantMissing => simp [Outcome.asksRetry]
  | searchRaised identities error unknown =>
      simp [search, asksRetry_unknown policy unknown, Outcome.asksRetry]
  | searchFailed identities error retryable known => simp [search, asksRetry_known policy known]
  | nothingFound identities options none =>
      simp [search, Exchange.asksRetry, Outcome.asksRetry, none]
  | found identities options best selected course =>
      rw [course.asksRetry]
      simp [search, Exchange.asksRetry, selected]

/-- A run asks for a retry exactly when one of the provider's answers does. -/
theorem WholeRun.asksRetry {registry : ProviderRegistry} {allowProcessing : Bool}
    (processing : m.status = .processing) (allowed : allowProcessing = true)
    (identities : ∀ id outside error, env.identity id outside ≠ .error error)
    (h : WholeRun m env registry allowProcessing s outcome) :
    s.asksRetry policy m = outcome.asksRetry policy m := by
  cases h with
  | refused error idle => cases (idle processing).symm.trans allowed
  | expired error expirable => rw [processing] at expirable; simp [expirableStatuses] at expirable
  | unresolved error exception unretried => simp [Outcome.asksRetry, unretried]
  | started startable adapter resolved course =>
      cases course with
      | identityRaised error id outside raised => exact absurd raised (identities _ _ _)
      | searched course =>
          rw [course.asksRetry]
          simp

/-- A concluded run has failed, or it ended well and asks for nothing. -/
def Outcome.Settles (m : Mission) (s : Stage) : Outcome → Prop
  | .raised error => ∃ exchange ∈ s.exchanges, exchange.answer = .error error
  | outcome@(.concluded _ _) => s.status = .failed ∨
      s.status ∈ [.requiresConfirmation, .completed] ∧ ∀ policy, outcome.asksRetry policy m = false

theorem Reserved.settles {result : ReservationResult} {reservationId : String}
    (h : Reserved m providerId result reservationId s s' outcome) : outcome.Settles m s' := by
  cases h with
  | awaiting => exact .inr ⟨by simp [Stage.withStatus], fun policy => by simp [Outcome.asksRetry]⟩
  | completed => exact .inr ⟨by simp [Stage.withStatus], fun policy => by simp [Outcome.asksRetry]⟩
  | confirmRaised error unknown => exact ⟨_, List.mem_append_right _ List.mem_cons_self, rfl⟩
  | confirmFailed error retryable known => exact .inl rfl
  | confirmRefused => exact .inl rfl
  | confirmed => exact .inr ⟨by simp [Stage.withStatus], fun policy => by simp [Outcome.asksRetry]⟩

theorem Chosen.settles {option : ProviderOption}
    (h : Chosen m providerId isProcessingRun option s s' outcome) : outcome.Settles m s' := by
  cases h with
  | searchOnly => exact .inr ⟨by simp [Stage.withStatus], fun policy => by simp [Outcome.asksRetry]⟩
  | reserveRaised error unknown => exact ⟨_, List.mem_append_right _ List.mem_cons_self, rfl⟩
  | reserveFailed error retryable known => exact .inl rfl
  | refused => exact .inl rfl
  | reserved mode result reservationId made course => exact course.settles

theorem Searched.settles (h : Searched m providerId isProcessingRun s s' outcome) :
    outcome.Settles m s' := by
  cases h with
  | participantMissing => exact .inl rfl
  | searchRaised identities error unknown =>
      exact ⟨_, List.mem_append_right _ List.mem_cons_self, rfl⟩
  | searchFailed identities error retryable known => exact .inl rfl
  | nothingFound identities options none => exact .inl rfl
  | found identities options best selected course => exact course.settles

theorem LastEvent.shouldRetryMission {mission mission' : Mission} {eventType : String}
    {metadata : List (String × PyValue)} (h : LastEvent mission eventType metadata)
    (attempts : mission.hasExhaustedAttempts = mission'.hasExhaustedAttempts) :
    policy.shouldRetryMission mission =
      (Outcome.concluded eventType metadata).asksRetry policy mission' := by
  obtain ⟨event, last, rfl, rfl⟩ := h
  unfold MissionRetryPolicy.shouldRetryMission Outcome.asksRetry ExecutionEvent.get
  rw [last, attempts]
  cases mission'.hasExhaustedAttempts
  · by_cases nothing : event.type = "no_valid_option_found" <;> simp [nothing]
  · rfl

end Courses

/-! The handlers of the batch. -/

namespace Reaches
variable {env : Environment σ} {t : TaskId} {r : Ref} {w₀ w : MemoryWorld σ} {s : Stage}

theorem markClaimedMissionFailed (h : Reaches env t r w₀ s w) (message : String) :
    (alone env).Safe t
      (Returning fun r' w' => r' = r ∧ Reaches env t r w₀ (s.withStatus .failed) w')
      (PurchaseAgent.markClaimedMissionFailed inMemoryMissionRepository r message).run w := by
  refine read_then ?_
  rw [h.plan.id]
  refine safe_then h.get ?_
  rintro _ w ⟨rfl, rfl⟩
  refine safe_then (h.assign _ rfl) fun _ _ h => safe_then (h.assign _ rfl) fun _ _ h => ?_
  refine safe_then (h.addEvent _ _ _) fun _ _ recorded => ?_
  refine safe_mono ?_ _ _ (recorded.1.update recorded.2.log)
  rintro (_ | r') w' stored
  · exact stored.elim
  · exact ⟨stored.1, stored.2.1⟩

theorem recordTerminalFailure (h : Reaches env t r w₀ s w) (currentTime : Time) :
    (alone env).Safe t (Returning fun _ => Reaches env t r w₀ s)
      (PurchaseAgent.recordTerminalFailure inMemoryMissionRepository r currentTime).run w := by
  refine read_then ?_
  refine safe_then (h.recordEvent _ _ _ _) fun _ _ recorded => ?_
  refine safe_mono ?_ _ _ (recorded.1.update recorded.2.log)
  rintro (_ | r') w' stored
  · exact stored.elim
  · exact stored.2.1

/-- The retry of a failed mission is scheduled if it can be, and raises if not. -/
theorem scheduleAutomaticRetry (h : Reaches env t r w₀ s w) (failed : s.status = .failed)
    (currentTime : Time) (policy : MissionRetryPolicy) (reason : String)
    (unexpired : (w₀.mission r).expiresAt.all (currentTime < ·)) :
    (alone env).Safe t (fun x w' =>
        ((∃ r', x = .ok r') ∧ Reaches env t r w₀ s.retried w' ∧
          (w₀.mission r).hasExhaustedAttempts = false ∧
          ∃ retryAt, automaticRetryAt policy (w₀.mission r) currentTime = .ok retryAt) ∨
        ((∃ error, x = .error error) ∧ Reaches env t r w₀ s w' ∧
          ((w₀.mission r).hasExhaustedAttempts = true ∨
            ∀ retryAt, automaticRetryAt policy (w₀.mission r) currentTime ≠ .ok retryAt)))
      (PurchaseAgent.scheduleAutomaticRetry inMemoryMissionRepository r currentTime policy
        reason).run w := by
  have same : automaticRetryAt policy (w.mission r) currentTime =
      automaticRetryAt policy (w₀.mission r) currentTime := by
    unfold automaticRetryAt
    rw [h.plan.executionAttempts, h.plan.expiresAt]
  refine read_then ?_
  rw [same, h.plan.id]
  cases scheduled : automaticRetryAt policy (w₀.mission r) currentTime with
  | error error => exact .inr ⟨⟨error, rfl⟩, h, .inr nofun⟩
  | ok retryAt =>
      refine fromExcept_then rfl (safe_mono ?_ _ _ (h.retryMission _))
      rintro (error | r') w' retried
      · obtain ⟨h, status | exhausted | ⟨now, current, past⟩⟩ := retried
        · exact absurd failed status
        · exact .inr ⟨⟨error, rfl⟩, h, .inl exhausted⟩
        · obtain rfl := current currentTime rfl
          exact absurd past (Int.not_lt.mpr (le_automaticRetryAt unexpired scheduled))
      · obtain ⟨-, -, left, h, -⟩ := retried
        exact .inl ⟨⟨r', rfl⟩, h, left, retryAt, rfl⟩

end Reaches

/-- The ids in the three lists of the result. -/
def DueMissionProcessingResult.settledIds (result : DueMissionProcessingResult) : List UUID :=
  result.succeededMissionIds ++ result.failedMissionIds ++ result.retryScheduledMissionIds

theorem settledIds_succeeded (result : DueMissionProcessingResult) (id : UUID) :
    (result.succeeded id).settledIds.Perm (id :: result.settledIds) := by
  simp only [DueMissionProcessingResult.settledIds, DueMissionProcessingResult.succeeded,
    List.append_assoc]
  exact List.perm_middle

theorem settledIds_failed (result : DueMissionProcessingResult) (id : UUID) :
    (result.failed id).settledIds.Perm (id :: result.settledIds) := by
  simp only [DueMissionProcessingResult.settledIds, DueMissionProcessingResult.failed]
  rw [← List.append_assoc, List.append_assoc _ [id]]
  exact List.perm_middle

theorem settledIds_retryScheduled (result : DueMissionProcessingResult) (id : UUID) :
    (result.retryScheduled id).settledIds.Perm (id :: result.settledIds) := by
  simp only [DueMissionProcessingResult.settledIds, DueMissionProcessingResult.retryScheduled]
  rw [← List.append_assoc]
  exact List.perm_append_singleton id _

section Batch
variable {env : Environment σ} {t : TaskId} {r : Ref} {w₀ w : MemoryWorld σ} {s : Stage}
  {policy : MissionRetryPolicy} {currentTime : Time}

/-- How a turn of the batch ends: the mission is in one of the lists and every
retry could be scheduled, or one could not and the turn raised. -/
def Turned (policy : MissionRetryPolicy) (currentTime : Time) (mission : Mission)
    (result : DueMissionProcessingResult) (s : Stage) :
    Except PyException DueMissionProcessingResult → Prop
  | .ok result' => result'.settledIds.Perm (mission.id :: result.settledIds) ∧
      s.status ≠ .processing ∧ ∀ exchange ∈ s.exchanges,
        exchange.Schedulable policy currentTime mission
  | .error _ => ∃ exchange ∈ s.exchanges, ¬ exchange.Schedulable policy currentTime mission

theorem schedulable_of_calm {mission : Mission} (calm : s.asksRetry policy mission = false) :
    ∀ exchange ∈ s.exchanges, exchange.Schedulable policy currentTime mission := by
  intro exchange member asks
  exact absurd asks (List.any_eq_false.mp calm exchange member)

theorem not_schedulable {mission : Mission} (asks : s.asksRetry policy mission = true)
    (refused : mission.hasExhaustedAttempts = true ∨
      ∀ retryAt, automaticRetryAt policy mission currentTime ≠ .ok retryAt) :
    ∃ exchange ∈ s.exchanges, ¬ exchange.Schedulable policy currentTime mission := by
  obtain ⟨exchange, member, asks⟩ := List.any_eq_true.mp asks
  refine ⟨exchange, member, fun schedulable => ?_⟩
  obtain ⟨left, retryAt, scheduled⟩ := schedulable asks
  rcases refused with exhausted | never
  · cases left.symm.trans exhausted
  · exact never retryAt scheduled

/-- The part of a turn that schedules a retry. -/
theorem scheduleRetry_turned (h : Reaches env t r w₀ s w) (failed : s.status = .failed)
    (asks : s.asksRetry policy (w₀.mission r) = true)
    (unexpired : (w₀.mission r).expiresAt.all (currentTime < ·)) (reason : String)
    {result result' : DueMissionProcessingResult}
    (adds : result'.settledIds.Perm ((w₀.mission r).id :: result.settledIds)) :
    (alone env).Safe t
      (fun x w' => ∃ s, Reaches env t r w₀ s w' ∧
        Turned policy currentTime (w₀.mission r) result s x)
      (do
        let _ ← scheduleAutomaticRetry inMemoryMissionRepository r currentTime policy reason
        pure result' : Service memory DueMissionProcessingResult).run w := by
  refine safe_seq (h.scheduleAutomaticRetry failed currentTime policy reason unexpired) ?_ ?_
  · rintro r' w' (⟨-, h, left, retryAt, scheduled⟩ | ⟨⟨error, raised⟩, -⟩)
    · exact ⟨_, h, adds, by simp [Stage.retried], fun exchange _ =>
        exchange.schedulable left scheduled⟩
    · cases raised
  · rintro error w' (⟨⟨_, returned⟩, -⟩ | ⟨-, h, refused⟩)
    · cases returned
    · exact ⟨s, h, not_schedulable asks refused⟩

theorem handleFinishedRun_turned (h : Reaches env t r w₀ s w) {eventType : String}
    {metadata : List (String × PyValue)} (last : LastEvent (w.mission r) eventType metadata)
    (settles : (Outcome.concluded eventType metadata).Settles (w₀.mission r) s)
    (asks : s.asksRetry policy (w₀.mission r) =
      (Outcome.concluded eventType metadata).asksRetry policy (w₀.mission r))
    (unexpired : (w₀.mission r).expiresAt.all (currentTime < ·))
    (result : DueMissionProcessingResult) :
    (alone env).Safe t
      (fun x w' => ∃ s, Reaches env t r w₀ s w' ∧
        Turned policy currentTime (w₀.mission r) result s x)
      (handleFinishedRun inMemoryMissionRepository r currentTime policy result).run w := by
  refine Reaches.read_then ?_
  rw [h.status, h.plan.id, last.shouldRetryMission policy h.plan.hasExhaustedAttempts, ← asks]
  rcases settles with failed | ⟨well, calm⟩
  · rw [if_neg (by rw [failed]; decide), if_pos failed]
    split
    · rename_i retries
      exact scheduleRetry_turned h failed retries unexpired _ (settledIds_retryScheduled _ _)
    · rename_i calm
      refine safe_then (h.recordTerminalFailure currentTime) fun _ w' h => ?_
      exact ⟨s, h, settledIds_failed _ _, by simp [failed],
        schedulable_of_calm (by simpa using calm)⟩
  · rw [if_pos well]
    refine ⟨s, h, settledIds_succeeded _ _, ?_, schedulable_of_calm (asks.trans (calm policy))⟩
    rintro processing
    simp [processing] at well

theorem handleFailedRun_turned (h : Reaches env t r w₀ s w) {error : PyException}
    (asks : s.asksRetry policy (w₀.mission r) = policy.shouldRetryException error)
    (unexpired : (w₀.mission r).expiresAt.all (currentTime < ·))
    (result : DueMissionProcessingResult) :
    (alone env).Safe t
      (fun x w' => ∃ s, Reaches env t r w₀ s w' ∧
        Turned policy currentTime (w₀.mission r) result s x)
      (handleFailedRun inMemoryMissionRepository r (w₀.mission r).id currentTime policy result
        error).run w := by
  refine safe_then (h.markClaimedMissionFailed error.str) ?_
  rintro _ w' ⟨rfl, h⟩
  dsimp only
  split
  · rename_i retries
    exact scheduleRetry_turned h rfl (asks.trans retries) unexpired _
      (settledIds_retryScheduled (result.withError _ _) _)
  · rename_i calm
    exact ⟨_, h, settledIds_failed (result.withError _ _) _, by simp [Stage.withStatus],
      schedulable_of_calm (asks.trans (by simpa using calm))⟩

theorem processClaimedMission_turned (wellFormed : WellFormed env w) (stored : Stored w r)
    (processing : (w.mission r).status = .processing)
    (unexpired : (w.mission r).expiresAt.all (currentTime < ·))
    (identities : ∀ id outside error, env.identity id outside ≠ .error error)
    (exceptions : ∀ call mission outside error,
      (env.handle call mission outside).1 = .error error → error.isException = true)
    (registry : ProviderRegistry) (result : DueMissionProcessingResult) :
    (alone env).Safe t
      (fun x w' => ∃ s, Reaches env t r w s w' ∧
        Turned policy currentTime (w.mission r) result s x)
      (processClaimedMission inMemoryMissionRepository registry currentTime policy r
        result).run w := by
  refine Reaches.read_then ?_
  refine safe_then (P := Took env t r w
    (WholeRun (w.mission r) env registry true)) ((Service.safe_attempt (B := memory) w _ _).mpr
      (runMission_wholeRun wellFormed stored t registry
        { currentTime := some currentTime, allowProcessing := true })) ?_
  rintro x w' ⟨s, outcome, course, h, ends⟩
  have asks := course.asksRetry policy processing rfl identities
  cases outcome with
  | raised error =>
      obtain rfl : x = .error error := ends
      have exception : error.isException = true := by
        cases course with
        | refused error idle => exact absurd (idle processing) (by simp)
        | expired error expirable =>
            rw [processing] at expirable
            simp [expirableStatuses] at expirable
        | unresolved error exception unretried => exact exception
        | started startable adapter resolved course =>
            cases course with
            | identityRaised error id outside raised => exact absurd raised (identities _ _ _)
            | searched course =>
                obtain ⟨exchange, member, answer⟩ := course.settles
                obtain ⟨mission, outside, handled⟩ := h.answered exchange member
                exact exceptions _ _ _ _ (handled.trans answer)
      simp only [exception, Bool.true_eq_false, if_false]
      exact handleFailedRun_turned h asks unexpired result
  | concluded eventType metadata =>
      obtain ⟨rfl, last⟩ := ends
      refine handleFinishedRun_turned h last ?_ asks unexpired result
      cases course with
      | started startable adapter resolved course =>
          cases course with
          | searched course => exact course.settles

/-- The answers of a batch, each with the mission it was given for. -/
abbrev Answered := List (Ref × Exchange)

def Answered.events (t : TaskId) (w : MemoryWorld σ) (answered : Answered) :
    List (TaskId × Event) :=
  answered.flatMap fun a => a.2.events t (w.mission a.1).id

/-- The turns of a batch over `rs`, from `w` to `w'`. -/
structure Batched (env : Environment σ) (t : TaskId) (rs : List Ref) (w : MemoryWorld σ)
    (answered : Answered) (w' : MemoryWorld σ) : Prop where
  evolves : Evolves env w w'
  others : ∀ other ∉ rs, w'.mission other = w.mission other
  trace : w'.trace = w.trace ++ answered.events t w
  members : ∀ a ∈ answered, a.1 ∈ rs

/-- How the turns end. -/
def Isolated (policy : MissionRetryPolicy) (currentTime : Time) (rs : List Ref)
    (w : MemoryWorld σ) (result : DueMissionProcessingResult) (answered : Answered)
    (w' : MemoryWorld σ) : Except PyException DueMissionProcessingResult → Prop
  | .ok result' =>
      result'.settledIds.Perm (rs.map (fun r => (w.mission r).id) ++ result.settledIds) ∧
      (∀ r ∈ rs, (w'.mission r).status ≠ .processing) ∧
      ∀ a ∈ answered, a.2.Schedulable policy currentTime (w.mission a.1)
  | .error _ => ∃ a ∈ answered, ¬ a.2.Schedulable policy currentTime (w.mission a.1)

theorem Answered.events_of_unchanged {w w' : MemoryWorld σ} {answered : Answered}
    (unchanged : ∀ a ∈ answered, w'.mission a.1 = w.mission a.1) :
    answered.events t w' = answered.events t w := by
  unfold Answered.events
  rw [List.flatMap_def, List.flatMap_def]
  congr 1
  exact List.map_congr_left fun a member => by rw [unchanged a member]

theorem Batched.widen {rs rs' : List Ref} {w w' : MemoryWorld σ} {answered : Answered}
    (h : Batched env t rs w answered w') (sub : rs ⊆ rs') : Batched env t rs' w answered w' where
  evolves := h.evolves
  others other fresh := h.others other fun member => fresh (sub member)
  trace := h.trace
  members a member := sub (h.members a member)

theorem Batched.append {rs rs' : List Ref} {w w' w'' : MemoryWorld σ} {answered answered' : Answered}
    (h : Batched env t rs w answered w') (k : Batched env t rs' w' answered' w'')
    (unchanged : ∀ r ∈ rs', w'.mission r = w.mission r) :
    Batched env t (rs ++ rs') w (answered ++ answered') w'' where
  evolves := h.evolves.trans k.evolves
  others other fresh := by
    rw [List.mem_append, not_or] at fresh
    rw [k.others other fresh.2, h.others other fresh.1]
  trace := by
    rw [k.trace, h.trace, Answered.events_of_unchanged fun a member =>
      unchanged a.1 (k.members a member), List.append_assoc]
    simp [Answered.events]
  members a member := by
    rw [List.mem_append] at member ⊢
    exact member.imp (h.members a) (k.members a)

theorem batched_turn (h : Reaches env t r w s w₀) :
    Batched env t [r] w (s.exchanges.map (r, ·)) w₀ where
  evolves := h.evolves
  others other fresh := h.others other fun same => fresh (same ▸ List.mem_cons_self)
  trace := by
    rw [h.trace, Answered.events, List.flatMap_map]
  members a member := by
    obtain ⟨exchange, -, rfl⟩ := List.mem_map.mp member
    exact List.mem_cons_self

/-- A turn that returned and the turns after it. -/
theorem isolated_cons {rest : List Ref} {w w' w'' : MemoryWorld σ} {answered : Answered}
    {result result' : DueMissionProcessingResult}
    {x : Except PyException DueMissionProcessingResult}
    (unchanged : ∀ other ∈ rest, w'.mission other = w.mission other)
    (settled : (w''.mission r).status ≠ .processing)
    (adds : result'.settledIds.Perm ((w.mission r).id :: result.settledIds))
    (schedulable : ∀ exchange ∈ s.exchanges,
      exchange.Schedulable policy currentTime (w.mission r))
    (members : ∀ a ∈ answered, a.1 ∈ rest)
    (isolated : Isolated policy currentTime rest w' result' answered w'' x) :
    Isolated policy currentTime (r :: rest) w result (s.exchanges.map (r, ·) ++ answered) w'' x := by
  cases x with
  | error error =>
      obtain ⟨a, member, refused⟩ := isolated
      refine ⟨a, List.mem_append_right _ member, ?_⟩
      rwa [← unchanged a.1 (members a member)]
  | ok result'' =>
      obtain ⟨partition, others, later⟩ := isolated
      refine ⟨?_, List.forall_mem_cons.mpr ⟨settled, others⟩, fun a member => ?_⟩
      · have ids : rest.map (fun r => (w'.mission r).id) = rest.map fun r => (w.mission r).id :=
          List.map_congr_left fun other member => by rw [unchanged other member]
        rw [ids] at partition
        exact (partition.trans (adds.append_left _)).trans List.perm_middle
      · rcases List.mem_append.mp member with member | member
        · obtain ⟨exchange, made, rfl⟩ := List.mem_map.mp member
          exact schedulable exchange made
        · rw [← unchanged a.1 (members a member)]
          exact later a member

theorem processClaimedMissions_isolated
    (identities : ∀ id outside error, env.identity id outside ≠ .error error)
    (exceptions : ∀ call mission outside error,
      (env.handle call mission outside).1 = .error error → error.isException = true)
    (registry : ProviderRegistry) (rs : List Ref) (w : MemoryWorld σ)
    (result : DueMissionProcessingResult) (wellFormed : WellFormed env w) (nodup : rs.Nodup)
    (claimed : ∀ r ∈ rs, Stored w r ∧ (w.mission r).status = .processing ∧
      (w.mission r).expiresAt.all (currentTime < ·)) :
    (alone env).Safe t
      (fun x w' => ∃ answered, Batched env t rs w answered w' ∧
        Isolated policy currentTime rs w result answered w' x)
      (processClaimedMissions inMemoryMissionRepository registry currentTime policy rs
        result).run w := by
  induction rs generalizing w result with
  | nil =>
      refine ⟨[], ⟨.refl wellFormed, fun _ _ => rfl, ?_, by simp⟩, ?_, by simp, by simp⟩
      · simp [Answered.events]
      · exact .refl _
  | cons r rest ih =>
      obtain ⟨fresh, nodup⟩ := List.nodup_cons.mp nodup
      obtain ⟨⟨stored, processing, unexpired⟩, later⟩ := List.forall_mem_cons.mp claimed
      refine safe_seq (processClaimedMission_turned wellFormed stored processing unexpired
        identities exceptions registry result) ?_ ?_
      · rintro result' w' ⟨s, h, adds, settled, schedulable⟩
        have unchanged : ∀ other ∈ rest, w'.mission other = w.mission other := fun other member =>
          h.others other fun same => fresh (same ▸ member)
        have still : ∀ other ∈ rest, Stored w' other ∧ (w'.mission other).status = .processing ∧
            (w'.mission other).expiresAt.all (currentTime < ·) := fun other member =>
          ⟨(h.evolves.stored (later other member).1).1,
            unchanged other member ▸ (later other member).2⟩
        refine safe_mono ?_ _ _ (ih w' result' h.wellFormed nodup still)
        rintro x w'' ⟨answered, batched, isolated⟩
        have first := (batched_turn h).append batched unchanged
        refine ⟨_, first, isolated_cons unchanged ?_ adds schedulable batched.members isolated⟩
        rw [batched.others r fresh, h.status]
        exact settled
      · rintro error w' ⟨s, h, exchange, member, refused⟩
        exact ⟨_, (batched_turn h).widen (by simp), (r, exchange), List.mem_map_of_mem member,
          refused⟩

theorem missionIds_reads (rs : List Ref) (w : MemoryWorld σ) :
    (alone env).Safe t (Returning fun _ w' => w' = w) (missionIds rs : Service memory _).run w := by
  induction rs with
  | nil => rfl
  | cons r rest ih => exact Reaches.read_then (safe_then ih fun _ _ same => same)

/-- The missions `rs` have been claimed. -/
structure Claims (t : TaskId) (currentTime : Time) (rs : List Ref) (w w' : MemoryWorld σ) :
    Prop where
  missions : w'.repository.missions = w.repository.missions
  nodup : rs.Nodup
  stored : ∀ r ∈ rs, Stored w r
  claimed : ∀ r ∈ rs, w'.mission r = claimedMission currentTime (w.mission r)
  trace : w'.trace = w.trace ++ rs.map (claimedEvent t w)

theorem expireDueMissions_alone (wellFormed : WellFormed env w) {limit : Int}
    (positive : 0 < limit) :
    (alone env).Safe t
      (Returning fun _ w' => Evolves env w w' ∧ w'.trace = w.trace ∧
        ∀ r, w'.mission r = w.mission r ∨ (w'.mission r).status = .expired)
      (expireDueMissions inMemoryMissionRepository currentTime limit).run w := by
  unfold expireDueMissions
  rw [if_neg (by omega)]
  refine (safe_expireDue w _ _ _).mpr ?_
  rintro w rfl
  obtain ⟨⟨expired, returned⟩, trace⟩ := expireDue_alone wellFormed currentTime positive
  obtain ⟨-, selected, -, swept⟩ := expireDue_returns env wellFormed.consistent currentTime limit
  have evolves : Evolves env w (expireDue env currentTime limit w).2 :=
    evolves_memory wellFormed t (.expireDue currentTime limit) trivial
  rw [returned]
  refine ⟨trivial, evolves, trace, fun r => (swept.moved r).imp_right ?_⟩
  rintro ⟨-, -, -, stopped | ⟨event, -, recorded⟩⟩
  · rw [stopped]
    rfl
  · rw [recorded]
    rfl

theorem claimDue_alone (wellFormed : WellFormed env w) {limit : Int} (positive : 0 < limit) :
    (alone env).Safe t
      (Returning fun rs w' => Evolves env w w' ∧ Claims t currentTime rs w w' ∧
        ∀ r ∈ rs, isDue currentTime (w.mission r))
      (inMemoryMissionRepository.claimDue currentTime limit).run w := by
  refine (safe_claimDue w _ _ _).mpr ?_
  rintro w rfl
  obtain ⟨rs, ok⟩ := claimDue_ok t currentTime positive w
  obtain ⟨claimed, trace⟩ := claimDue_claims wellFormed.consistent t currentTime limit rs ok
  have evolves : Evolves env w (claimDue t currentTime limit w).2 :=
    evolves_memory wellFormed t (.claimDue currentTime limit) trivial
  obtain ⟨nodup, stored⟩ :=
    (claimDue_returns wellFormed.consistent t currentTime limit).stored rs ok
  rw [ok]
  exact ⟨trivial, evolves, ⟨evolves.missions, nodup, stored,
    fun r member => (claimed r member).2, trace⟩, fun r member => (claimed r member).1⟩

theorem processDueMissions_isolated (wellFormed : WellFormed env w)
    (identities : ∀ id outside error, env.identity id outside ≠ .error error)
    (exceptions : ∀ call mission outside error,
      (env.handle call mission outside).1 = .error error → error.isException = true)
    (registry : ProviderRegistry) {limit : Int} (positive : 0 < limit) :
    (alone env).Safe t
      (fun x w' => ∃ rs w₁ answered result, Claims t currentTime rs w w₁ ∧
        Batched env t rs w₁ answered w' ∧ result.settledIds = [] ∧
        Isolated policy currentTime rs w₁ result answered w' x)
      (processDueMissions inMemoryMissionRepository registry currentTime limit policy).run w := by
  refine safe_then (expireDueMissions_alone wellFormed positive) ?_
  rintro expired w₁ ⟨evolves, trace, swept⟩
  refine safe_then (claimDue_alone evolves.wellFormed positive) ?_
  rintro rs w₂ ⟨claiming, claims, due⟩
  refine safe_then (missionIds_reads expired w₂) ?_
  rintro ids w₂ rfl
  have waiting : ∀ r ∈ rs, w₁.mission r = w.mission r := fun r member =>
    (swept r).resolve_right fun expired => by
      have waiting := (of_decide_eq_true (due r member)).1
      rw [expired] at waiting
      cases waiting
  have claims : Claims t currentTime rs w w₂ := by
    refine ⟨claims.missions.trans evolves.missions, claims.nodup, fun r member => ?_,
      fun r member => ?_, ?_⟩
    · have stored := claims.stored r member
      rwa [Stored, waiting r member, evolves.missions] at stored
    · rw [claims.claimed r member, waiting r member]
    · rw [claims.trace, trace, List.map_congr_left fun r member => ?_]
      simp only [claimedEvent, waiting r member]
  refine safe_mono ?_ _ _ (processClaimedMissions_isolated identities exceptions registry rs w₂
    ⟨rs.length, ids, [], [], [], []⟩ claiming.wellFormed claims.nodup fun r member => ?_)
  · rintro x w' ⟨answered, batched, isolated⟩
    exact ⟨rs, w₂, answered, _, claims, batched, rfl, isolated⟩
  · refine ⟨(claiming.stored ((evolves.stored (claims.stored r member)).1)).1, ?_⟩
    rw [claims.claimed r member]
    refine ⟨rfl, ?_⟩
    have unexpired := (of_decide_eq_true (due r member)).2.2.1
    rwa [waiting r member] at unexpired

/-- What a batch adds to the trace. -/
def newEvents (w w' : MemoryWorld σ) : List (TaskId × Event) := w'.trace.drop w.trace.length

def claimedIds (w w' : MemoryWorld σ) : List UUID := (claimsMade (newEvents w w')).map (·.2.1)

/-- Every retry that an answer to the batch asks for can be scheduled: the claimed
mission has an attempt left, and the time of the retry can be computed. -/
def RetriesSchedulable (policy : MissionRetryPolicy) (currentTime : Time) (w w' : MemoryWorld σ) :
    Prop :=
  ∀ t id call answer, (t, Event.answered id call answer) ∈ newEvents w w' →
    ∀ r, w.repository.missions.get? id = some r →
      Exchange.Schedulable policy currentTime (claimedMission currentTime (w.mission r))
        ⟨call, answer⟩

section Trace
variable {rs : List Ref} {w₁ w' : MemoryWorld σ} {answered : Answered}

theorem Answered.mem_events {event : TaskId × Event} :
    event ∈ answered.events t w ↔ ∃ a ∈ answered,
      event = (t, .called (w.mission a.1).id a.2.call) ∨
        event = (t, .answered (w.mission a.1).id a.2.call a.2.answer) := by
  simp [Answered.events, Exchange.events]

theorem claimsMade_events : claimsMade (answered.events t w) = [] := by
  refine List.eq_nil_iff_forall_not_mem.mpr ?_
  rintro ⟨t', id, n⟩ member
  obtain ⟨a, -, same | same⟩ := Answered.mem_events.mp (mem_claimsMade.mp member) <;> cases same

theorem newEvents_of_batch (claims : Claims t currentTime rs w w₁)
    (batched : Batched env t rs w₁ answered w') :
    newEvents w w' = rs.map (claimedEvent t w) ++ answered.events t w₁ := by
  rw [newEvents, batched.trace, claims.trace, List.append_assoc, List.drop_left]

theorem claimedIds_of_batch (claims : Claims t currentTime rs w w₁)
    (batched : Batched env t rs w₁ answered w') :
    claimedIds w w' = rs.map fun r => (w.mission r).id := by
  have made : claimsMade (newEvents w w') =
      rs.map fun r => (t, (w.mission r).id, (w.mission r).executionAttempts + 1) := by
    rw [newEvents_of_batch claims batched, claimsMade, List.filterMap_append, List.filterMap_map]
    have none : claimsMade (answered.events t w₁) = [] := claimsMade_events
    rw [claimsMade] at none
    rw [none, List.append_nil]
    change List.filterMap (some ∘ fun r =>
      (t, (w.mission r).id, (w.mission r).executionAttempts + 1)) rs = _
    rw [List.filterMap_eq_map]
  rw [claimedIds, made, List.map_map]
  rfl

/-- The answers among the new events are those of the turns. -/
theorem retriesSchedulable_of_batch {policy : MissionRetryPolicy}
    (claims : Claims t currentTime rs w w₁) (batched : Batched env t rs w₁ answered w') :
    RetriesSchedulable policy currentTime w w' ↔
      ∀ a ∈ answered, a.2.Schedulable policy currentTime (w₁.mission a.1) := by
  have ids : ∀ a ∈ answered, (w₁.mission a.1).id = (w.mission a.1).id := fun a member => by
    rw [claims.claimed a.1 (batched.members a member)]
    rfl
  unfold RetriesSchedulable
  rw [newEvents_of_batch claims batched]
  constructor
  · intro schedulable a member
    have made := batched.members a member
    rw [claims.claimed a.1 made]
    refine schedulable t (w₁.mission a.1).id a.2.call a.2.answer ?_ a.1 ?_
    · exact List.mem_append_right _ (Answered.mem_events.mpr ⟨a, member, .inr rfl⟩)
    · rw [ids a member]
      exact claims.stored a.1 made
  · intro schedulable t' id call answer member r found
    rcases List.mem_append.mp member with claim | answer
    · obtain ⟨_, -, same⟩ := List.mem_map.mp claim
      cases same
    · obtain ⟨a, given, same | same⟩ := Answered.mem_events.mp answer
      · cases same
      · cases same
        rw [ids a given] at found
        have made := batched.members a given
        obtain rfl := Option.some.inj ((claims.stored a.1 made).symm.trans found)
        rw [← claims.claimed a.1 made]
        exact schedulable a given

end Trace

/-- The batch returns, has concluded every mission it claimed and put its id in
exactly one of the lists. -/
def IsolatesFailures (w : MemoryWorld σ) :
    Except PyException DueMissionProcessingResult × MemoryWorld σ → Prop
  | (.ok result, w') =>
      (∀ id ∈ claimedIds w w', ∃ r, w'.repository.missions.get? id = some r ∧
        (w'.mission r).status ≠ .processing) ∧
      (claimedIds w w').Nodup ∧ result.settledIds.Perm (claimedIds w w')
  | (.error _, _) => False

/-- Running alone, a batch keeps its failures to itself exactly when every retry
that is asked of it can be scheduled. -/
theorem batch_isolates_failures_iff (env : Environment σ) (registry : ProviderRegistry)
    (policy : MissionRetryPolicy) (t : TaskId) (currentTime : Time) (limit : Int)
    (w : MemoryWorld σ) (wellFormed : WellFormed env w) (positive : 0 < limit)
    (identities : ∀ id outside error, env.identity id outside ≠ .error error)
    (exceptions : ∀ call mission outside error,
      (env.handle call mission outside).1 = .error error → error.isException = true) :
    let batch := processDueMissions inMemoryMissionRepository registry currentTime limit policy
    IsolatesFailures w (batch.run.eval (machine memory env) t w) ↔
      RetriesSchedulable policy currentTime w (batch.run.eval (machine memory env) t w).2 := by
  refine (safe_alone (fun x w' =>
    IsolatesFailures w (x, w') ↔ RetriesSchedulable policy currentTime w w') _ w).mp ?_
  refine safe_mono ?_ _ _ (processDueMissions_isolated wellFormed identities exceptions registry
    positive)
  rintro x w' ⟨rs, w₁, answered, result, claims, batched, fresh, isolated⟩
  rw [retriesSchedulable_of_batch claims batched]
  cases x with
  | error error =>
      obtain ⟨a, member, refused⟩ := isolated
      exact ⟨False.elim, fun schedulable => refused (schedulable a member)⟩
  | ok result' =>
      obtain ⟨partition, settled, schedulable⟩ := isolated
      have ids : rs.map (fun r => (w₁.mission r).id) = rs.map fun r => (w.mission r).id :=
        List.map_congr_left fun r member => by rw [claims.claimed r member]; rfl
      refine iff_of_true ⟨?_, ?_, ?_⟩ schedulable
      · rw [claimedIds_of_batch claims batched]
        intro id claimed
        obtain ⟨r, member, rfl⟩ := List.mem_map.mp claimed
        refine ⟨r, ?_, settled r member⟩
        rw [batched.evolves.missions, claims.missions]
        exact claims.stored r member
      · rw [claimedIds_of_batch claims batched]
        refine (List.nodup_map_iff_inj_on claims.nodup).mpr fun r member r' member' same => ?_
        have stored := claims.stored r member
        rw [Stored, same] at stored
        exact Option.some.inj (stored.symm.trans (claims.stored r' member'))
      · rwa [fresh, List.append_nil, ids, ← claimedIds_of_batch claims batched] at partition

end Batch

/-! A connection that breaks in the last attempt. -/

namespace LastAttempt

def mission : Mission := { Sample.mission with maxExecutionAttempts := 1 }

/-- The search of the provider raises `error`. -/
def failing (error : PyException) :
    (call : ProviderCall) → Mission → Unit → Except PyException call.Answer × Unit
  | .searchOptions .., _, s => (.error error, s)
  | call, m, s => Sample.accepting [] call m s

def environment (error : PyException) : Environment Unit := .withProviders (failing error)

def world : MemoryWorld Unit := initialWorld [mission] mission ()

def batch : Service memory DueMissionProcessingResult :=
  processDueMissions inMemoryMissionRepository Sample.registry 1 100 defaultMissionRetryPolicy

theorem wellFormed_world (env : Environment Unit) : WellFormed env world :=
  wellFormed_start (consistent_initialWorld [mission] mission () (by decide))
    (fun r _ => fresh_initialWorld () (by decide) r) rfl

theorem identities (error : PyException) (id : UUID) (outside : Unit) (raised : PyException) :
    (environment error).identity id outside ≠ .error raised := by
  simp [environment, Environment.withProviders]

theorem exceptions {error : PyException} (exception : error.isException = true)
    (call : ProviderCall) (m : Mission) (outside : Unit) (raised : PyException)
    (h : ((environment error).handle call m outside).1 = .error raised) :
    raised.isException = true := by
  cases call <;> cases h
  exact exception

theorem raises :
    (batch.run.eval (machine memory (environment (.connectionError "ConnectionError" "reset"))) 0
      world).1.isOk = false := by
  decide +kernel

end LastAttempt

theorem not_isolatesFailures (w : MemoryWorld σ)
    {ended : Except PyException DueMissionProcessingResult × MemoryWorld σ}
    (raised : ended.1.isOk = false) : ¬ IsolatesFailures w ended := by
  obtain ⟨x, w'⟩ := ended
  cases x with
  | ok result => cases raised
  | error error => exact id

/-- The connection breaks in the last attempt, and the refusal of another attempt
leaves the batch. -/
theorem broken_connection_escapes :
    ¬ ∀ (σ : Type) (env : Environment σ) (registry : ProviderRegistry)
      (policy : MissionRetryPolicy) (t : TaskId) (currentTime : Time) (limit : Int)
      (w : MemoryWorld σ), WellFormed env w → 0 < limit →
      (∀ id outside error, env.identity id outside ≠ .error error) →
      (∀ call mission outside error,
        (env.handle call mission outside).1 = .error error → error.isException = true) →
      IsolatesFailures w ((processDueMissions inMemoryMissionRepository registry currentTime limit
        policy).run.eval (machine memory env) t w) := by
  intro claim
  have isolated := claim Unit (LastAttempt.environment (.connectionError "ConnectionError" "reset"))
    Sample.registry defaultMissionRetryPolicy 0 1 100 LastAttempt.world
    (LastAttempt.wellFormed_world _) (by decide) (LastAttempt.identities _)
    (LastAttempt.exceptions rfl)
  exact not_isolatesFailures LastAttempt.world LastAttempt.raises isolated

/-- The same attempt with a retryable failure of the provider's operation. -/
theorem batch_isolates_failures_iff_retryable :
    IsolatesFailures LastAttempt.world (LastAttempt.batch.run.eval (machine memory
      (LastAttempt.environment (.providerOperationError "mock_train" "search" true))) 0
        LastAttempt.world) ↔
      RetriesSchedulable defaultMissionRetryPolicy 1 LastAttempt.world
        (LastAttempt.batch.run.eval (machine memory (LastAttempt.environment
          (.providerOperationError "mock_train" "search" true))) 0 LastAttempt.world).2 :=
  batch_isolates_failures_iff _ Sample.registry defaultMissionRetryPolicy 0 1 100
    LastAttempt.world (LastAttempt.wellFormed_world _) (by decide) (LastAttempt.identities _)
    (LastAttempt.exceptions rfl)

end PurchaseAgent
