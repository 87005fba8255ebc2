import PurchaseAgent.Correctness.DeliveryProtocol

/-!
How often a message is claimed for delivery: the limit holds unless a claim that
was the last one allowed is recovered, because recovery makes the message
available again without looking at its attempts.
-/

namespace PurchaseAgent

open Cooperative Collections SqlAlchemyNotificationOutboxRepository

variable {σ : Type} {env : OutboxEnvironment σ} {w : OutboxWorld σ} {t : TaskId} {id : UUID}

/-- The number of claims of a message so far, after one more event. -/
def countClaim (id : UUID) (claims : Nat) : OutboxEvent → Nat
  | .claimed message => if message.id = id then claims + 1 else claims
  | .requeued messageId => if messageId = id then 0 else claims
  | .answered _ _ => claims

/-- How often a message has been claimed since it was last requeued. -/
def OutboxWorld.claims (w : OutboxWorld σ) (id : UUID) : Nat :=
  (w.trace.map (·.2)).foldl (countClaim id) 0

theorem claims_exec (o : OutboxOp) :
    (exec env t o w).2.claims id = (logged env w o).foldl (countClaim id) (w.claims id) := by
  unfold OutboxWorld.claims
  rw [exec_logged, List.map_append, List.foldl_append, List.map_map]
  exact congrArg (List.foldl _ _) (List.map_id _)

/-- Claims of distinct messages count once each. -/
theorem foldl_claimed (id : UUID) {messages : List NotificationOutboxMessage}
    (distinct : (messages.map (·.id)).Nodup) (claims : Nat) :
    (messages.map OutboxEvent.claimed).foldl (countClaim id) claims =
      if id ∈ messages.map (·.id) then claims + 1 else claims := by
  induction messages generalizing claims with
  | nil => rfl
  | cons message rest ih =>
      obtain ⟨fresh, distinct⟩ := List.nodup_cons.mp distinct
      rw [List.map_cons, List.foldl_cons, ih distinct]
      by_cases same : message.id = id
      · subst same
        simp [countClaim, fresh]
      · simp [countClaim, same, Ne.symm same]

/-- What an operation does to a row and to the number of claims of its message. -/
inductive ClaimStep (w : OutboxWorld σ) (env : OutboxEnvironment σ) (id : UUID) :
    Nat → Option NotificationOutboxMessage → Prop
  | kept (row : Option NotificationOutboxMessage)
      (same : ∀ new, row = some new → ∃ old, w.rows.get? id = some old ∧
        old.deliveryAttempts = new.deliveryAttempts) : ClaimStep w env id (w.claims id) row
  | added (content : NotificationContent) (fresh : id = env.newId w.idsDrawn) :
      ClaimStep w env id (w.claims id) (some (content.message id))
  | claimed (currentTime : Time) (row : NotificationOutboxMessage)
      (found : w.rows.get? id = some row) (pending : row.status = .pending) :
      ClaimStep w env id (w.claims id + 1) (some (row.claimed currentTime))
  | requeued (currentTime : Time) (row : NotificationOutboxMessage) :
      ClaimStep w env id 0 (some (row.requeued currentTime))

/-- Operations that neither add a message nor change its number of claims. -/
def countsNothing : OutboxOp → Bool
  | .claimPending _ _ | .requeueFailed _ _ | .add _ => false
  | .markDelivered _ _ | .recoverStaleClaims _ _ _ | .markDeliveryFailed _ _ _ _ _
  | .pruneDeliveredBefore _ _ _ | .deliver _ => true

theorem claimStep_of_rowStep {o : OutboxOp} {row : Option NotificationOutboxMessage}
    (step : RowStep id o (w.rows.get? id) row) (plain : countsNothing o = true) :
    ClaimStep w env id (w.claims id) row := by
  refine .kept row fun new eq => ?_
  subst eq
  cases before : w.rows.get? id with
  | none =>
      rw [before] at step
      cases step with
      | added content => cases plain
  | some old =>
      rw [before] at step
      refine ⟨old, rfl, ?_⟩
      cases step with
      | kept => rfl
      | claimed currentTime limit => cases plain
      | delivered => rfl
      | recovered => rfl
      | attemptFailed => rfl
      | requeued currentTime => cases plain

/-- Every operation moves a row and its number of claims by a step. -/
theorem exec_claims (h : w.WellFormed env) (o : OutboxOp) :
    ClaimStep w env id ((exec env t o w).2.claims id) ((exec env t o w).2.rows.get? id) := by
  have step := exec_row (t := t) h o id
  rw [claims_exec]
  cases o with
  | claimPending currentTime limit =>
      simp only [exec, claimPending, validateLimit, logged]
      by_cases small : limit < 1
      · simp only [small, if_true]
        exact .kept _ fun new found => ⟨new, found, rfl⟩
      · simp only [small, if_false]
        have distinct : (((selectPending (env.view w.statements) currentTime limit w.rows).map
            (·.claimed currentTime)).map (·.id)).Nodup := by
          rw [List.map_map]
          exact selected_nodup h
        have counted := foldl_claimed id distinct (w.claims id)
        rw [List.map_map, List.map_map] at counted
        show ClaimStep w env id (((selectPending _ _ _ _).map (OutboxEvent.claimed ∘
          (·.claimed currentTime))).foldl _ _) ((updateRows w.rows _ _).get? id)
        rw [counted, get?_updateRows]
        by_cases member : id ∈ (selectPending (env.view w.statements) currentTime limit w.rows).map
          (·.id)
        · have claims : id ∈ (selectPending (env.view w.statements) currentTime limit w.rows).map
            ((·.id) ∘ (·.claimed currentTime)) := member
          rw [if_pos claims]
          simp only [if_pos member]
          obtain ⟨row, selected, rfl⟩ := List.mem_map.mp member
          obtain ⟨found, available⟩ := get?_of_selected h selected
          rw [found]
          exact .claimed currentTime row found (of_decide_eq_true available).1
        · have spared : id ∉ (selectPending (env.view w.statements) currentTime limit w.rows).map
            ((·.id) ∘ (·.claimed currentTime)) := member
          rw [if_neg spared]
          simp only [if_neg member, Option.map_id']
          exact .kept _ fun new found => ⟨new, found, rfl⟩
  | requeueFailed messageId currentTime =>
      simp only [exec, requeueFailed, logged]
      cases found : w.rows.get? messageId with
      | none => exact .kept _ fun new found => ⟨new, found, rfl⟩
      | some row =>
          by_cases failed : row.status = .failed
          · simp only [Option.any_some, failed, decide_true, if_true, ne_eq, not_true_eq_false,
              if_false]
            by_cases same : messageId = id
            · subst same
              show ClaimStep w env messageId (if messageId = messageId then 0 else _)
                ((w.rows.set messageId _).get? messageId)
              rw [if_pos rfl, Dict.get?_set_self]
              exact .requeued currentTime row
            · show ClaimStep w env id (if messageId = id then 0 else w.claims id)
                ((w.rows.set messageId _).get? id)
              rw [if_neg same, Dict.get?_set_of_ne _ (Ne.symm same)]
              exact .kept _ fun new found => ⟨new, found, rfl⟩
          · simp only [Option.any_some, failed, decide_false, Bool.false_eq_true, if_false, ne_eq,
              not_false_eq_true, if_true]
            exact .kept _ fun new found => ⟨new, found, rfl⟩
  | add content =>
      show ClaimStep w env id (w.claims id) ((w.rows.set (env.newId w.idsDrawn) _).get? id)
      by_cases fresh : id = env.newId w.idsDrawn
      · subst fresh
        rw [Dict.get?_set_self]
        exact .added content rfl
      · rw [Dict.get?_set_of_ne _ fresh]
        exact .kept _ fun new found => ⟨new, found, rfl⟩
  | markDelivered messageId deliveredAt => exact claimStep_of_rowStep step rfl
  | recoverStaleClaims currentTime claimTimeout limit => exact claimStep_of_rowStep step rfl
  | markDeliveryFailed messageId failedAt retryAt error maxAttempts =>
      exact claimStep_of_rowStep step rfl
  | pruneDeliveredBefore cutoff limit dryRun => exact claimStep_of_rowStep step rfl
  | deliver message => exact claimStep_of_rowStep step rfl

/-- What bounds the claims of every message. -/
structure ClaimsBounded (env : OutboxEnvironment σ) (maxAttempts : Int) (w : OutboxWorld σ) :
    Prop where
  counted : ∀ id row, w.rows.get? id = some row → w.claims id = row.deliveryAttempts
  bounded : ∀ id, (w.claims id : Int) ≤ maxAttempts
  /-- What can be claimed may be claimed once more. -/
  available : ∀ id row, w.rows.get? id = some row → row.status = .pending →
    row.exhausted maxAttempts = false
  fresh : ∀ n, w.idsDrawn ≤ n → w.claims (env.newId n) = 0
  /-- No call is made under a claim beyond the limit. -/
  claimed : ∀ t message, (t, OutboxEvent.claimed message) ∈ w.trace →
    (message.deliveryAttempts : Int) ≤ maxAttempts
  answered : ∀ t message answer, (t, OutboxEvent.answered message answer) ∈ w.trace →
    (message.deliveryAttempts : Int) ≤ maxAttempts

/-- Recovery finds no claim that was the last one allowed. -/
def RecoversBelow (env : OutboxEnvironment σ) (maxAttempts : Int) (w : OutboxWorld σ) :
    OutboxOp → Prop
  | .recoverStaleClaims currentTime claimTimeout limit => ∀ staleBefore,
    Time.add currentTime (-claimTimeout) = .ok staleBefore →
    ∀ row ∈ selectStale (env.view w.statements) staleBefore limit w.rows,
      row.exhausted maxAttempts = false
  | _ => True

instance (env : OutboxEnvironment σ) (maxAttempts : Int) (w : OutboxWorld σ) (o : OutboxOp) :
    Decidable (RecoversBelow env maxAttempts w o) :=
  match o with
  | .recoverStaleClaims currentTime claimTimeout limit =>
    match time : Time.add currentTime (-claimTimeout) with
    | .error _ => isTrue fun _ same => nomatch time.symm.trans same
    | .ok staleBefore =>
      decidable_of_iff (∀ row ∈ selectStale (env.view w.statements) staleBefore limit w.rows,
        row.exhausted maxAttempts = false)
        ⟨fun h _ same => Except.ok.inj (time.symm.trans same) ▸ h, fun h => h staleBefore time⟩
  | .claimPending _ _ | .markDelivered _ _ | .markDeliveryFailed _ _ _ _ _ | .requeueFailed _ _
  | .pruneDeliveredBefore _ _ _ | .add _ | .deliver _ => isTrue trivial

section Runs
variable {maxAttempts : Int} {works : TaskId → DeliveryWork} {o : OutboxOp}

theorem exhausted_eq_false {row : NotificationOutboxMessage} :
    row.exhausted maxAttempts = false ↔ (row.deliveryAttempts : Int) < maxAttempts := by
  unfold NotificationOutboxMessage.exhausted
  rw [decide_eq_false_iff_not, not_le]

/-- A row that a recovery makes available was selected. -/
theorem recovered_selected (h : w.WellFormed env) {currentTime : Time} {claimTimeout : TimeDelta}
    {limit : Int} {old new : NotificationOutboxMessage} (found : w.rows.get? id = some old)
    (processing : old.status = .processing) (pending : new.status = .pending)
    (moved : (recoverStaleClaims env w currentTime claimTimeout limit).2.rows.get? id = some new) :
    ∃ staleBefore, Time.add currentTime (-claimTimeout) = .ok staleBefore ∧
      old ∈ selectStale (env.view w.statements) staleBefore limit w.rows := by
  have still : w.rows.get? id ≠ some new := by
    intro same
    rw [Option.some.inj (found.symm.trans same), pending] at processing
    cases processing
  unfold recoverStaleClaims at moved
  split at moved
  · exact absurd moved still
  · split at moved
    · exact absurd moved still
    · split at moved
      · exact absurd moved still
      · rename_i staleBefore time
        refine ⟨staleBefore, time, ?_⟩
        dsimp only [OutboxWorld.execute] at moved
        rw [get?_updateRows] at moved
        split at moved
        · rename_i member
          obtain ⟨row, selected, rfl⟩ := List.mem_map.mp member
          obtain ⟨stored, -⟩ := get?_of_selected h selected
          rwa [← Option.some.inj (stored.symm.trans found)]
        · rw [Option.map_id'] at moved
          exact absurd moved still

namespace ClaimsBounded

/-- A message that is claimed once more stays within the limit. -/
theorem claimed_le (bounded : ClaimsBounded env maxAttempts w) {row : NotificationOutboxMessage}
    (found : w.rows.get? id = some row) (pending : row.status = .pending) :
    ((w.claims id + 1 : Nat) : Int) ≤ maxAttempts := by
  have less := exhausted_eq_false.mp (bounded.available id row found pending)
  rw [bounded.counted id row found]
  omega

/-- The rows that can be claimed after an operation. -/
theorem available_exec (bounded : ClaimsBounded env maxAttempts w) (h : w.WellFormed env)
    (positive : 1 ≤ maxAttempts) (limits : (works t).maxAttempts ≤ maxAttempts)
    (licensed : Licensed works t o w) (below : RecoversBelow env maxAttempts w o)
    {row : NotificationOutboxMessage} (found : (exec env t o w).2.rows.get? id = some row)
    (pending : row.status = .pending) : row.exhausted maxAttempts = false := by
  have none : (0 : Int) < maxAttempts := by omega
  have step := exec_row (t := t) h o id
  rw [found] at step
  cases before : w.rows.get? id with
  | none =>
      rw [before] at step
      cases step with
      | added content => exact exhausted_eq_false.mpr none
  | some old =>
      rw [before] at step
      cases step with
      | kept => exact bounded.available id _ before pending
      | claimed => cases pending
      | delivered => cases pending
      | recovered currentTime claimTimeout limit _ processing =>
          obtain ⟨staleBefore, time, selected⟩ := recovered_selected h before processing pending
            found
          exact below staleBefore time old selected
      | attemptFailed failedAt retryAt error limit _ processing =>
          obtain ⟨message, failure, answered, -, asked⟩ := licensed
          have within : limit ≤ maxAttempts := by
            rw [asked]
            split
            · exact limits
            · exact bounded.answered t message _ (trace_of_last answered)
          cases exhausted : old.exhausted limit with
          | true =>
              simp only [NotificationOutboxMessage.attemptFailed, exhausted, if_true] at pending
              cases pending
          | false =>
              have less := exhausted_eq_false.mp exhausted
              exact exhausted_eq_false.mpr (lt_of_lt_of_le less within)
      | requeued => exact exhausted_eq_false.mpr none

/-- The calls and claims that an operation logs. -/
theorem logged_le (bounded : ClaimsBounded env maxAttempts w) (h : w.WellFormed env)
    (licensed : Licensed works t o w) {event : OutboxEvent} (new : event ∈ logged env w o) :
    (∀ message, event = .claimed message → (message.deliveryAttempts : Int) ≤ maxAttempts) ∧
      ∀ message answer, event = .answered message answer →
        (message.deliveryAttempts : Int) ≤ maxAttempts := by
  cases o with
  | claimPending currentTime limit =>
      simp only [logged] at new
      split at new
      · cases new
      · obtain ⟨row, selected, rfl⟩ := List.mem_map.mp new
        obtain ⟨found, available⟩ := get?_of_selected h selected
        have within := bounded.claimed_le found (of_decide_eq_true available).1
        rw [bounded.counted _ row found] at within
        refine ⟨fun message same => ?_, fun message answer same => ?_⟩
        · cases same
          exact within
        · cases same
  | requeueFailed messageId currentTime =>
      simp only [logged] at new
      split at new
      · obtain rfl := List.mem_singleton.mp new
        refine ⟨fun message same => ?_, fun message answer same => ?_⟩
        · cases same
        · cases same
      · cases new
  | deliver message =>
      obtain rfl := List.mem_singleton.mp new
      refine ⟨fun called same => ?_, fun called answer same => ?_⟩
      · cases same
      · cases same
        exact bounded.claimed t message (OutboxWorld.mem_own.mp licensed)
  | markDelivered => cases new
  | recoverStaleClaims => cases new
  | markDeliveryFailed => cases new
  | pruneDeliveredBefore => cases new
  | add => cases new

/-- A licensed operation keeps the bound, if it recovers no last claim. -/
theorem exec (bounded : ClaimsBounded env maxAttempts w) (h : w.WellFormed env)
    (positive : 1 ≤ maxAttempts) (limits : (works t).maxAttempts ≤ maxAttempts)
    (licensed : Licensed works t o w) (below : RecoversBelow env maxAttempts w o) :
    ClaimsBounded env maxAttempts (SqlAlchemyNotificationOutboxRepository.exec env t o w).2 := by
  have step : ∀ id, ClaimStep w env id
      ((SqlAlchemyNotificationOutboxRepository.exec env t o w).2.claims id)
      ((SqlAlchemyNotificationOutboxRepository.exec env t o w).2.rows.get? id) :=
    fun _ => exec_claims h o
  refine ⟨fun id row found => ?_, fun id => ?_, fun id row found pending => ?_, fun n later => ?_,
    fun t' message member => ?_, fun t' message answer member => ?_⟩
  · have step := step id
    rw [found] at step
    generalize claims : (SqlAlchemyNotificationOutboxRepository.exec env t o w).2.claims id = after
      at step
    cases step with
    | kept _ same =>
        obtain ⟨old, before, attempts⟩ := same row rfl
        exact (bounded.counted id old before).trans attempts
    | added content fresh =>
        subst fresh
        exact bounded.fresh _ le_rfl
    | claimed currentTime old before => exact congrArg (· + 1) (bounded.counted id old before)
    | requeued => rfl
  · have step := step id
    generalize (SqlAlchemyNotificationOutboxRepository.exec env t o w).2.claims id = after
      at step ⊢
    generalize (SqlAlchemyNotificationOutboxRepository.exec env t o w).2.rows.get? id = row at step
    cases step with
    | kept => exact bounded.bounded id
    | added => exact bounded.bounded id
    | claimed currentTime old before pending => exact bounded.claimed_le before pending
    | requeued => exact le_trans Int.one_nonneg positive
  · exact bounded.available_exec h positive limits licensed below found pending
  · have drawn : w.idsDrawn ≤ n := le_trans (exec_idsDrawn env t o w) later
    have step := step (env.newId n)
    generalize (SqlAlchemyNotificationOutboxRepository.exec env t o w).2.claims (env.newId n) =
      after at step ⊢
    generalize (SqlAlchemyNotificationOutboxRepository.exec env t o w).2.rows.get? (env.newId n) =
      row at step
    cases step with
    | kept => exact bounded.fresh n drawn
    | added => exact bounded.fresh n drawn
    | claimed currentTime old before => cases (h.fresh n drawn).symm.trans before
    | requeued => rfl
  · rw [exec_logged] at member
    rcases List.mem_append.mp member with old | new
    · exact bounded.claimed t' message old
    · obtain ⟨event, new, same⟩ := List.mem_map.mp new
      cases same
      exact (bounded.logged_le h licensed new).1 message rfl
  · rw [exec_logged] at member
    rcases List.mem_append.mp member with old | new
    · exact bounded.answered t' message answer old
    · obtain ⟨event, new, same⟩ := List.mem_map.mp new
      cases same
      exact (bounded.logged_le h licensed new).2 message answer rfl

end ClaimsBounded

/-- Every recovery that a run performs finds only claims below the limit. -/
def RecoveriesBelow (env : OutboxEnvironment σ) (maxAttempts : Int) (c : OutboxConfig σ)
    (t : TaskId) : Prop :=
  ∀ o, c.Performs (outboxMachine env) t o → RecoversBelow env maxAttempts c.shared o

instance (env : OutboxEnvironment σ) (maxAttempts : Int) (c : OutboxConfig σ) (t : TaskId) :
    Decidable (RecoveriesBelow env maxAttempts c t) :=
  Config.decidablePerforms (outboxMachine env) c t (RecoversBelow env maxAttempts c.shared)

/-- Dispatchers with a common limit, interleaved with recoveries and crashing
anywhere, claim no message more often than the limit between two requeues, as
long as no claim that was the last one allowed is recovered. -/
theorem claims_within_limit (env : OutboxEnvironment σ) (works : TaskId → DeliveryWork)
    (outside : σ) (maxAttempts : Int) (positive : 1 ≤ maxAttempts)
    (limits : ∀ t, (works t).maxAttempts ≤ maxAttempts) (sched : List TaskId)
    (below : (startDelivery works outside).Along (outboxMachine env)
      (RecoveriesBelow env maxAttempts) sched) (id : UUID) :
    (((startDelivery works outside).run (outboxMachine env) sched).shared.claims id : Int) ≤
      maxAttempts := by
  have none : ClaimsBounded env maxAttempts (startDelivery works outside).shared := by
    refine ⟨(fun _ _ found => nomatch found), fun _ => ?_, (fun _ _ found => nomatch found),
      fun _ _ => rfl, (fun _ _ member => nomatch member), fun _ _ _ member => nomatch member⟩
    exact le_trans Int.one_nonneg positive
  refine (Config.run_induct (outboxMachine env) (I := fun c : OutboxConfig σ =>
    ClaimsBounded env maxAttempts c.shared) (fun c t bounded h => ?_) _ sched none
    (Config.along_and (outboxMachine env) _ sched (licensed_along env works outside sched)
      below)).bounded id
  rcases c.step_shared (outboxMachine env) t with same | ⟨o, performs, same⟩
  · rwa [same]
  · rw [same]
    exact bounded.exec h.1.1 positive (limits t) (h.1.2 o performs) (h.2 o performs)

end Runs

/-! A dispatcher that crashes after its claim, a recovery, and another dispatcher. -/

namespace CrashedDispatch

def environment : OutboxEnvironment Unit where
  deliver _ s := (.ok (), s)
  view _ := ⟨fun _ => false, fun _ => 0⟩
  newId n := ⟨n + 1⟩
  newId_injective := UUID.count_injective

def content : NotificationContent := ⟨⟨7⟩, ⟨8⟩, "mission_completed", 0, [], [⟨9⟩]⟩

def works (maxAttempts : Int) : TaskId → DeliveryWork
  | 0 => .add content
  | 1 => .dispatch 1 { maxAttempts := maxAttempts }
  | 2 => .recoverStaleClaims 100 1 100
  | _ => .dispatch 100 { maxAttempts := maxAttempts }

/-- The second dispatcher claims what the first one had claimed. -/
def schedule : List TaskId := [0, 1, 2, 3]

end CrashedDispatch

/-- With two attempts the recovered claim was not the last one. -/
theorem claims_within_limit_recovered :
    (((startDelivery (CrashedDispatch.works 2) ()).run (outboxMachine CrashedDispatch.environment)
      CrashedDispatch.schedule).shared.claims ⟨1⟩ : Int) ≤ 2 := by
  refine claims_within_limit CrashedDispatch.environment (CrashedDispatch.works 2) () 2 (by decide)
    (fun t => ?_) CrashedDispatch.schedule (by decide +kernel) ⟨1⟩
  match t with
  | 0 => decide
  | 1 => decide
  | 2 => decide
  | n + 3 => exact le_rfl

/-- With one attempt it was, and the message is claimed a second time. -/
theorem claimed_beyond_limit :
    ¬ ∀ (env : OutboxEnvironment Unit) (works : TaskId → DeliveryWork) (maxAttempts : Int),
      1 ≤ maxAttempts → (∀ t, (works t).maxAttempts ≤ maxAttempts) →
      ∀ (sched : List TaskId) (id : UUID),
        (((startDelivery works ()).run (outboxMachine env) sched).shared.claims id : Int) ≤
          maxAttempts := by
  intro claim
  have twice : ((startDelivery (CrashedDispatch.works 1) ()).run
      (outboxMachine CrashedDispatch.environment) CrashedDispatch.schedule).shared.claims ⟨1⟩ = 2 := by
    decide +kernel
  have once := claim CrashedDispatch.environment (CrashedDispatch.works 1) 1 le_rfl (fun t => ?_)
    CrashedDispatch.schedule ⟨1⟩
  · rw [twice] at once
    exact absurd once (by decide)
  · match t with
    | 0 => decide
    | 1 => decide
    | 2 => decide
    | n + 3 => exact le_rfl

end PurchaseAgent
