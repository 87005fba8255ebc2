import PurchaseAgent.Correctness.RunProtocol

/-!
Runs against providers that keep their contract: they answer, or raise a
`ProviderOperationError`. Such a run never stops halfway. Either it is refused
before anything is asked of a provider, or it ends in a status in which somebody
can go on, and what it ends in is what the provider has answered.
-/

namespace PurchaseAgent

open Cooperative Cooperative.Discipline InMemoryMissionRepository

variable {σ : Type}

inductive ProviderOperation where
  | search
  | reservation
  | confirmation
  | cancellation
deriving DecidableEq, Repr

def ProviderCall.operation : ProviderCall → ProviderOperation
  | .searchOptions .. => .search
  | .reserveOption .. => .reservation
  | .confirmReservation .. => .confirmation
  | .cancelReservation .. => .cancellation

/-- The operations of a conversation with a provider, in its order. -/
def operations (exchanges : List Exchange) : List ProviderOperation :=
  exchanges.map (·.call.operation)

/-- The provider has made the reservation. -/
def Makes (exchanges : List Exchange) (result : ReservationResult) (reservationId : String) :
    Prop :=
  result.reservationId = some reservationId ∧
    ∃ providerId option key, ⟨.reserveOption providerId option key, .ok result⟩ ∈ exchanges

/-- The provider has confirmed the reservation. -/
def Confirms (exchanges : List Exchange) (reservationId : String) : Prop :=
  ∃ providerId key answer, answer.success = true ∧
    ⟨.confirmReservation providerId reservationId key, .ok answer⟩ ∈ exchanges

/-- How a run of `m` leaves its mission, after the exchanges: the status, and the
reservation that the mission has then. -/
inductive Settled (m : Mission) (exchanges : List Exchange) (reservationId : Option String) :
    MissionStatus → Prop
  | failed (order : operations exchanges <+: [.search, .reservation, .confirmation])
      (kept : reservationId = m.reservationId ∨
        ∃ result id, reservationId = some id ∧ Makes exchanges result id) :
      Settled m exchanges reservationId .failed
  | searched (mode : m.executionMode = .searchOnly) (order : operations exchanges = [.search]) :
      Settled m exchanges reservationId .completed
  | awaiting (mode : m.executionMode = .requireConfirmation)
      (order : operations exchanges = [.search, .reservation]) (result : ReservationResult)
      (id : String) (kept : reservationId = some id) (made : Makes exchanges result id) :
      Settled m exchanges reservationId .requiresConfirmation
  | completed (mode : m.executionMode = .autoPurchase)
      (order : operations exchanges = [.search, .reservation]) (result : ReservationResult)
      (id : String) (kept : reservationId = some id) (made : Makes exchanges result id)
      (direct : result.requiresConfirmation = false) :
      Settled m exchanges reservationId .completed
  | confirmed (mode : m.executionMode ≠ .searchOnly)
      (order : operations exchanges = [.search, .reservation, .confirmation])
      (result : ReservationResult) (id : String) (kept : reservationId = some id)
      (made : Makes exchanges result id) (agreed : Confirms exchanges id) :
      Settled m exchanges reservationId .completed

/-- An answer that keeps the contract. -/
def Exchange.Kept (exchange : Exchange) : Prop :=
  ∀ error, exchange.answer = .error error → error.retryable? ≠ none

def Outcome.isConcluded : Outcome → Bool
  | .raised _ => false
  | .concluded _ _ => true

/-- The run has been concluded and has settled its mission. -/
def Stage.Settles (m : Mission) (s : Stage) (outcome : Outcome) : Prop :=
  outcome.isConcluded = true ∧ Settled m s.exchanges s.reservationId s.status

section Courses
variable {m : Mission} {providerId : String} {isProcessingRun : Bool} {s s' : Stage}
  {outcome : Outcome}

theorem autoPurchase_of_other {mode : MissionExecutionMode} (search : mode ≠ .searchOnly)
    (confirm : mode ≠ .requireConfirmation) : mode = .autoPurchase := by
  cases mode with
  | searchOnly => exact absurd rfl search
  | requireConfirmation => exact absurd rfl confirm
  | autoPurchase => rfl

theorem Stage.enter_exchanges (s : Stage) (isProcessingRun : Bool) (status : MissionStatus) :
    (s.enter isProcessingRun status).exchanges = s.exchanges := by
  cases isProcessingRun <;> rfl

theorem Stage.enter_reservationId (s : Stage) (isProcessingRun : Bool) (status : MissionStatus) :
    (s.enter isProcessingRun status).reservationId = s.reservationId := by
  cases isProcessingRun <;> rfl

theorem Stage.assign_exchanges (s : Stage) (assignment : Assignment) :
    (s.assign assignment).exchanges = s.exchanges := by
  cases assignment <;> rfl

theorem Settled.failed_of_order {exchanges : List Exchange} {reservationId : Option String}
    {order : List ProviderOperation} (same : operations exchanges = order)
    (start : order <+: [.search, .reservation, .confirmation])
    (kept : reservationId = m.reservationId ∨
      ∃ result id, reservationId = some id ∧ Makes exchanges result id) :
    Settled m exchanges reservationId .failed :=
  .failed (same ▸ start) kept

/-- A last answer that breaks the contract. -/
theorem not_kept {exchanges : List Exchange} {exchange : Exchange} {error : PyException}
    (kept : ∀ e ∈ exchanges ++ [exchange], e.Kept) (raised : exchange.answer = .error error)
    (unknown : error.retryable? = none) : False :=
  kept exchange (List.mem_append_right _ List.mem_cons_self) error raised unknown

theorem Reserved.settles_kept {result : ReservationResult} {reservationId : String}
    (mode : m.executionMode ≠ .searchOnly) (made : Makes s.exchanges result reservationId)
    (order : operations s.exchanges = [.search, .reservation])
    (id : s.reservationId = some reservationId)
    (h : Reserved m providerId result reservationId s s' outcome)
    (kept : ∀ exchange ∈ s'.exchanges, exchange.Kept) : s'.Settles m outcome := by
  have extended : ∀ exchange : Exchange, exchange.call.operation = .confirmation →
      operations (s.exchanges ++ [exchange]) = [.search, .reservation, .confirmation] := by
    intro exchange last
    rw [operations, List.map_append, ← operations, order, List.map_singleton, last]
    rfl
  have still : ∀ exchange : Exchange, Makes (s.exchanges ++ [exchange]) result reservationId := by
    intro exchange
    obtain ⟨named, providerId, option, key, member⟩ := made
    exact ⟨named, providerId, option, key, List.mem_append_left _ member⟩
  cases h with
  | awaiting mode => exact ⟨rfl, .awaiting mode order result reservationId id made⟩
  | completed confirm direct =>
      exact ⟨rfl, .completed (autoPurchase_of_other mode confirm) order result reservationId id
        made direct⟩
  | confirmRaised error unknown => exact (not_kept kept rfl unknown).elim
  | confirmFailed error retryable known =>
      exact ⟨rfl, .failed_of_order (extended _ rfl) (by decide)
        (.inr ⟨result, reservationId, id, still _⟩)⟩
  | confirmRefused answer refused =>
      exact ⟨rfl, .failed_of_order (extended _ rfl) (by decide)
        (.inr ⟨result, reservationId, id, still _⟩)⟩
  | confirmed answer accepted =>
      exact ⟨rfl, .confirmed mode (extended _ rfl) result reservationId id (still _)
        ⟨providerId, _, answer, accepted, List.mem_append_right _ List.mem_cons_self⟩⟩

theorem Chosen.settles_kept {option : ProviderOption}
    (order : operations s.exchanges = [.search]) (unreserved : s.reservationId = m.reservationId)
    (h : Chosen m providerId isProcessingRun option s s' outcome)
    (kept : ∀ exchange ∈ s'.exchanges, exchange.Kept) : s'.Settles m outcome := by
  have reserved : ∀ exchange : Exchange, exchange.call.operation = .reservation →
      operations ((((s.enter isProcessingRun .optionFound).assign
        (.bestOption (some option))).enter isProcessingRun .reserving).exchanged
          exchange).exchanges = [.search, .reservation] := by
    intro exchange last
    rw [Stage.exchanged, Stage.enter_exchanges, Stage.assign_exchanges, Stage.enter_exchanges,
      operations, List.map_append, ← operations, order, List.map_singleton, last]
    rfl
  have same : (((s.enter isProcessingRun .optionFound).assign (.bestOption (some option))).enter
      isProcessingRun .reserving).reservationId = m.reservationId :=
    (Stage.enter_reservationId _ _ _).trans ((Stage.enter_reservationId s _ _).trans unreserved)
  cases h with
  | searchOnly mode =>
      refine ⟨rfl, .searched mode ?_⟩
      rw [Stage.withStatus, Stage.assign_exchanges, Stage.enter_exchanges, order]
  | reserveRaised error unknown => exact (not_kept kept rfl unknown).elim
  | reserveFailed error retryable known =>
      exact ⟨rfl, .failed_of_order (reserved _ rfl) ⟨[.confirmation], rfl⟩ (.inl same)⟩
  | refused result refused =>
      exact ⟨rfl, .failed_of_order (reserved _ rfl) ⟨[.confirmation], rfl⟩ (.inl same)⟩
  | reserved mode result reservationId made course =>
      refine course.settles_kept mode ⟨made, providerId, option, _,
        List.mem_append_right _ List.mem_cons_self⟩ ?_ rfl kept
      rw [Stage.assign_exchanges]
      exact reserved _ rfl

theorem Searched.settles_kept (start : s.exchanges = [])
    (unreserved : s.reservationId = m.reservationId)
    (h : Searched m providerId isProcessingRun s s' outcome)
    (kept : ∀ exchange ∈ s'.exchanges, exchange.Kept) : s'.Settles m outcome := by
  have searched : ∀ exchange : Exchange,
      ((s.enter isProcessingRun .searching).exchanged exchange).exchanges = [exchange] := by
    intro exchange
    rw [Stage.exchanged, Stage.enter_exchanges, start]
    rfl
  have same : (s.enter isProcessingRun .searching).reservationId = m.reservationId :=
    (Stage.enter_reservationId s _ _).trans unreserved
  cases h with
  | participantMissing =>
      exact ⟨rfl, .failed_of_order (congrArg operations start) (by decide) (.inl unreserved)⟩
  | searchRaised identities error unknown => exact (not_kept kept rfl unknown).elim
  | searchFailed identities error retryable known =>
      exact ⟨rfl, .failed_of_order (congrArg operations (searched _))
        ⟨[.reservation, .confirmation], rfl⟩ (.inl same)⟩
  | nothingFound identities options none =>
      exact ⟨rfl, .failed_of_order (congrArg operations (searched _))
        ⟨[.reservation, .confirmation], rfl⟩ (.inl same)⟩
  | found identities options best selected course =>
      refine course.settles_kept (congrArg operations (searched _)) ?_ kept
      exact same

/-- A run that is refused, or expires its mission, has asked nothing of a provider. -/
def Stage.Rejects (m : Mission) (s : Stage) (outcome : Outcome) : Prop :=
  outcome.isConcluded = false ∧ s.exchanges = [] ∧ s.reservationId = m.reservationId ∧
    (s.status = m.status ∨ m.status ∈ expirableStatuses ∧ s.status = .expired)

theorem WholeRun.settles_kept {env : Environment σ} {registry : ProviderRegistry}
    {allowProcessing : Bool} (identities : ∀ id outside error, env.identity id outside ≠ .error error)
    (h : WholeRun m env registry allowProcessing s' outcome)
    (kept : ∀ exchange ∈ s'.exchanges, exchange.Kept) :
    s'.Rejects m outcome ∨ s'.Settles m outcome := by
  cases h with
  | refused error idle => exact .inl ⟨rfl, rfl, rfl, .inl rfl⟩
  | expired error expirable => exact .inl ⟨rfl, rfl, rfl, .inr ⟨expirable, rfl⟩⟩
  | unresolved error exception unretried => exact .inl ⟨rfl, rfl, rfl, .inl rfl⟩
  | started startable adapter resolved course =>
      cases course with
      | identityRaised error id outside raised => exact absurd raised (identities _ _ _)
      | searched course =>
          refine .inr (course.settles_kept ?_ (Stage.enter_reservationId _ _ _) kept)
          rw [Stage.enter_exchanges]
          rfl

end Courses

/-- How a run of the mission at `r`, started in `w₀`, has ended. -/
inductive RunEnds (t : TaskId) (r : Ref) (w₀ : MemoryWorld σ) :
    Except PyException Ref → MemoryWorld σ → Prop
  | rejected (error : PyException) (w : MemoryWorld σ) (silent : w.trace = w₀.trace)
      (kept : (w.mission r).reservationId = (w₀.mission r).reservationId)
      (status : (w.mission r).status = (w₀.mission r).status ∨
        (w₀.mission r).status ∈ expirableStatuses ∧ (w.mission r).status = .expired) :
      RunEnds t r w₀ (.error error) w
  | settled (exchanges : List Exchange) (w : MemoryWorld σ)
      (trace : w.trace = w₀.trace ++ exchanges.flatMap (·.events t (w₀.mission r).id))
      (settled : Settled (w₀.mission r) exchanges (w.mission r).reservationId
        (w.mission r).status) :
      RunEnds t r w₀ (.ok r) w

/-- A run on its own, with providers that keep their contract, is rejected with
nothing asked, or is settled with what the provider has answered. No mission is
left running, searching or reserving, or claimed by a run that is over. -/
theorem run_settles (env : Environment σ) (registry : ProviderRegistry) (options : RunOptions)
    (t : TaskId) (r : Ref) (w : MemoryWorld σ) (wellFormed : WellFormed env w)
    (stored : Stored w r) (identities : ∀ id outside error, env.identity id outside ≠ .error error)
    (contract : ∀ call mission outside error,
      (env.handle call mission outside).1 = .error error → error.retryable? ≠ none) :
    RunEnds t r w
      ((runMission inMemoryMissionRepository registry (w.mission r).id options).run.eval
        (machine memory env) t w).1
      ((runMission inMemoryMissionRepository registry (w.mission r).id options).run.eval
        (machine memory env) t w).2 := by
  obtain ⟨s, outcome, course, reaches, ends⟩ := (safe_alone _ _ _).mp
    (runMission_wholeRun wellFormed stored t registry options)
  have kept : ∀ exchange ∈ s.exchanges, exchange.Kept := by
    intro exchange member error raised
    obtain ⟨mission, outside, handled⟩ := reaches.answered exchange member
    exact contract _ mission outside error (handled.trans raised)
  revert reaches ends
  generalize (runMission inMemoryMissionRepository registry (w.mission r).id options).run.eval
    (machine memory env) t w = done
  intro reaches ends
  obtain ⟨x, w'⟩ := done
  rcases course.settles_kept identities kept with ⟨raised, silent, same, status⟩ |
    ⟨concluded, settled⟩
  · cases outcome with
    | concluded => cases raised
    | raised error =>
        obtain rfl : x = .error error := ends
        refine .rejected error w' ?_ ?_ ?_
        · simpa [silent] using reaches.trace
        · rw [reaches.reservationId, same]
        · rwa [reaches.status]
  · cases outcome with
    | raised => cases concluded
    | concluded eventType metadata =>
        obtain rfl : x = .ok r := ends.1
        refine .settled s.exchanges w' reaches.trace ?_
        rwa [reaches.reservationId, reaches.status]

theorem accepting_contract (options : List ProviderOption) (call : ProviderCall)
    (mission : Mission) (outside : Unit) (error : PyException)
    (raised : ((Environment.withProviders (Sample.accepting options)).handle call mission
      outside).1 = .error error) : error.retryable? ≠ none := by
  cases call <;> cases raised

/-- A run of a mission against a provider that accepts everything. -/
theorem run_settles_sample :
    RunEnds 0 0 (initialWorld [Sample.mission] Sample.mission ())
      ((runMission inMemoryMissionRepository Sample.registry ⟨7⟩
        { currentTime := some 1 }).run.eval
          (machine memory (.withProviders (Sample.accepting [Sample.option ⟨1⟩ 100]))) 0
          (initialWorld [Sample.mission] Sample.mission ())).1
      ((runMission inMemoryMissionRepository Sample.registry ⟨7⟩
        { currentTime := some 1 }).run.eval
          (machine memory (.withProviders (Sample.accepting [Sample.option ⟨1⟩ 100]))) 0
          (initialWorld [Sample.mission] Sample.mission ())).2 :=
  run_settles (.withProviders (Sample.accepting [Sample.option ⟨1⟩ 100])) Sample.registry
    { currentTime := some 1 } 0 0 (initialWorld [Sample.mission] Sample.mission ())
    (wellFormed_start (consistent_initialWorld [Sample.mission] Sample.mission () (by decide))
      (fun r _ => by cases r <;> exact fun event none => absurd none List.not_mem_nil) rfl)
    rfl (by intro id outside error raised; cases raised)
    (accepting_contract [Sample.option ⟨1⟩ 100])

end PurchaseAgent
