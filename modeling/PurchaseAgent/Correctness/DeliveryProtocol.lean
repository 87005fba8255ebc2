import PurchaseAgent.Correctness.OutboxRows

/-!
The delivery protocol of the outbox: any number of dispatchers, recoveries,
requeues and prunes, interleaved in any way. What a dispatcher acknowledges is
what became of a call of its own, but another dispatcher may have the message by
then.
-/

namespace PurchaseAgent

open Cooperative Collections SqlAlchemyNotificationOutboxRepository

variable {σ : Type} {env : OutboxEnvironment σ} {w : OutboxWorld σ} {t : TaskId}

/-- Calls on the outbox. -/
inductive DeliveryWork where
  | dispatch (currentTime : Time) (options : DispatchOptions)
  | workerCycle (currentTime : Time) (claimTimeout : TimeDelta) (options : DispatchOptions)
  | recoverStaleClaims (currentTime : Time) (claimTimeout : TimeDelta) (limit : Int)
  | requeueFailed (messageId : UUID) (currentTime : Time)
  | pruneDeliveredBefore (cutoff : Time) (limit : Int) (dryRun : Bool)
  | add (content : NotificationContent)

namespace DeliveryWork

def run : DeliveryWork → OutboxTask Unit
  | .dispatch currentTime options => do
    let _ ← dispatchPendingNotifications currentTime options
    pure ()
  | .workerCycle currentTime claimTimeout options => do
    let _ ← processNotificationWorkerCycle currentTime claimTimeout options
    pure ()
  | .recoverStaleClaims currentTime claimTimeout limit => do
    let _ ← OutboxTask.perform (.recoverStaleClaims currentTime claimTimeout limit)
    pure ()
  | .requeueFailed messageId currentTime => do
    let _ ← OutboxTask.perform (.requeueFailed messageId currentTime)
    pure ()
  | .pruneDeliveredBefore cutoff limit dryRun => do
    let _ ← OutboxTask.perform (.pruneDeliveredBefore cutoff limit dryRun)
    pure ()
  | .add content => OutboxTask.perform (.add content)

/-- The limit of a dispatcher. -/
def maxAttempts : DeliveryWork → Int
  | .dispatch _ options | .workerCycle _ _ options => options.maxAttempts
  | .recoverStaleClaims _ _ _ | .requeueFailed _ _ | .pruneDeliveredBefore _ _ _ | .add _ => 0

end DeliveryWork

abbrev OutboxConfig (σ : Type) := Config outboxSignature (OutboxWorld σ) (Except PyException Unit)

/-- Any calls on an empty outbox. -/
def startDelivery (works : TaskId → DeliveryWork) (outside : σ) : OutboxConfig σ where
  shared := ⟨[], outside, 0, 0, []⟩
  tasks t := (works t).run.run
  running := none

namespace OutboxWorld

/-- The events of one task, oldest first. -/
def own (w : OutboxWorld σ) (t : TaskId) : List OutboxEvent :=
  w.trace.filterMap fun entry => if entry.1 = t then some entry.2 else none

theorem mem_own {event : OutboxEvent} : event ∈ w.own t ↔ (t, event) ∈ w.trace := by
  unfold own
  rw [List.mem_filterMap]
  constructor
  · rintro ⟨⟨t', event'⟩, member, same⟩
    split at same
    · rename_i eq
      cases eq
      cases same
      exact member
    · cases same
  · exact fun member => ⟨_, member, if_pos rfl⟩

theorem own_log_self (events : List OutboxEvent) : (w.log t events).own t = w.own t ++ events := by
  have all : (events.map (t, ·)).filterMap
      (fun entry : TaskId × OutboxEvent => if entry.1 = t then some entry.2 else none) = events := by
    rw [List.filterMap_map]
    exact (List.filterMap_congr fun event _ => if_pos rfl).trans List.filterMap_some
  unfold own log
  rw [List.filterMap_append, all]

theorem own_log_of_ne {other : TaskId} (differs : other ≠ t) (events : List OutboxEvent) :
    (w.log t events).own other = w.own other := by
  have nothing : (events.map (t, ·)).filterMap
      (fun entry : TaskId × OutboxEvent => if entry.1 = other then some entry.2 else none) = [] := by
    rw [List.filterMap_map]
    exact List.filterMap_eq_nil_iff.mpr fun event _ => if_neg (Ne.symm differs)
  unfold own log
  rw [List.filterMap_append, nothing, List.append_nil]

end OutboxWorld

/-- The events of an operation. -/
def logged (env : OutboxEnvironment σ) (w : OutboxWorld σ) : OutboxOp → List OutboxEvent
  | .claimPending currentTime limit =>
    if limit < 1 then []
    else (selectPending (env.view w.statements) currentTime limit w.rows).map fun row =>
      .claimed (row.claimed currentTime)
  | .requeueFailed messageId _ =>
    if (w.rows.get? messageId).any (·.status = .failed) then [.requeued messageId] else []
  | .deliver message => [.answered message (env.deliver message w.outside).1]
  | .markDelivered _ _ | .recoverStaleClaims _ _ _ | .markDeliveryFailed _ _ _ _ _
  | .pruneDeliveredBefore _ _ _ | .add _ => []

/-- The task that performs an operation logs its events. -/
theorem exec_logged (env : OutboxEnvironment σ) (t : TaskId) (o : OutboxOp) (w : OutboxWorld σ) :
    (exec env t o w).2.trace = w.trace ++ (logged env w o).map (t, ·) := by
  have nothing : w.trace = w.trace ++ [].map (t, ·) := (List.append_nil _).symm
  cases o with
  | claimPending currentTime limit =>
      simp only [exec, claimPending, validateLimit, logged]
      split
      · rename_i invalid
        split at invalid
        · rename_i small
          rw [if_pos small]
          exact nothing
        · cases invalid
      · rename_i valid
        split at valid
        · cases valid
        · rename_i large
          rw [if_neg large]
          simp only [OutboxWorld.log, OutboxWorld.execute, List.map_map]
          rfl
  | markDelivered messageId deliveredAt =>
      simp only [exec, markDelivered]
      split
      · exact nothing
      · split <;> exact nothing
  | recoverStaleClaims currentTime claimTimeout limit =>
      simp only [exec, recoverStaleClaims]
      split
      · exact nothing
      · split
        · exact nothing
        · split <;> exact nothing
  | markDeliveryFailed messageId failedAt retryAt error maxAttempts =>
      simp only [exec, markDeliveryFailed]
      split
      · exact nothing
      · split
        · exact nothing
        · split
          · exact nothing
          · split <;> exact nothing
  | requeueFailed messageId currentTime =>
      simp only [exec, requeueFailed, logged]
      split
      · rename_i absent
        rw [absent]
        exact nothing
      · rename_i row found
        split
        · rename_i other
          rw [found, Option.any_some, decide_eq_false other]
          exact nothing
        · rename_i failed
          rw [found, Option.any_some, decide_eq_true (not_not.mp failed)]
          rfl
  | pruneDeliveredBefore cutoff limit dryRun =>
      simp only [exec, pruneDeliveredBefore]
      split
      · exact nothing
      · split <;> exact nothing
  | add content => exact nothing
  | deliver message => rfl

/-- Every operation appends events of the task that performs it. -/
theorem exec_trace (env : OutboxEnvironment σ) (t : TaskId) (o : OutboxOp) (w : OutboxWorld σ) :
    ∃ events : List OutboxEvent,
      (exec env t o w).2.trace = w.trace ++ events.map (t, ·) :=
  ⟨_, exec_logged env t o w⟩

theorem exec_own_of_ne {other : TaskId} (differs : other ≠ t) (o : OutboxOp) :
    (exec env t o w).2.own other = w.own other := by
  obtain ⟨events, grown⟩ := exec_trace env t o w
  have same : (exec env t o w).2.own other = (w.log t events).own other := by
    unfold OutboxWorld.own OutboxWorld.log
    rw [grown]
  rw [same]
  exact OutboxWorld.own_log_of_ne differs events

/-- What a task may do: deliver what it has claimed, and acknowledge what became
of the call it has just made. -/
def Licensed (works : TaskId → DeliveryWork) (t : TaskId) : OutboxOp → OutboxWorld σ → Prop
  | .deliver message, w => .claimed message ∈ w.own t
  | .markDelivered messageId _, w => ∃ message,
      (w.own t).getLast? = some (.answered message (.ok ())) ∧ message.id = messageId
  | .markDeliveryFailed messageId _ _ _ maxAttempts, w => ∃ message failure,
      (w.own t).getLast? = some (.answered message (.error failure)) ∧ message.id = messageId ∧
        maxAttempts =
          if failure.retryable then (works t).maxAttempts else message.deliveryAttempts
  | .claimPending _ _, _ | .recoverStaleClaims _ _ _, _ | .requeueFailed _ _, _
  | .pruneDeliveredBefore _ _ _, _ | .add _, _ => True

/-- Tasks depend on what they have done themselves. -/
def outboxDiscipline (env : OutboxEnvironment σ) (works : TaskId → DeliveryWork) :
    Discipline (outboxMachine env) where
  rely t w w' := w'.own t = w.own t
  guarantee t o w w' := Licensed works t o w ∧ ∀ other, other ≠ t → w'.own other = w.own other
  rely_refl _ _ := rfl
  rely_trans _ _ _ _ first second := second.trans first

/-! The coroutines keep to it. -/

section Program
variable {works : TaskId → DeliveryWork} {α β : Type} {Q : Except PyException β → OutboxWorld σ → Prop}

/-- The weakest precondition of a coroutine over the outbox. -/
def OutboxTask.Safe (env : OutboxEnvironment σ) (works : TaskId → DeliveryWork) (t : TaskId)
    (x : OutboxTask α) (Q : Except PyException α → OutboxWorld σ → Prop) (w : OutboxWorld σ) : Prop :=
  (outboxDiscipline env works).Safe t Q x.run w

namespace OutboxTask

/-- An operation, wherever the others have led. -/
theorem safe_perform {o : OutboxOp} {f : o.Answer → OutboxTask β}
    (step : ∀ w', w'.own t = w.own t → Licensed works t o w' ∧
      Safe env works t (f (exec env t o w').1) Q (exec env t o w').2) :
    Safe env works t (perform o >>= f) Q w := by
  intro w' arrives _
  obtain ⟨licensed, later⟩ := step w' arrives
  exact ⟨⟨licensed, fun other differs => exec_own_of_ne differs o⟩, later⟩

theorem safe_fromExcept {result : Except PyException α} {f : α → OutboxTask β}
    (ok : ∀ a, result = .ok a → Safe env works t (f a) Q w)
    (error : ∀ e, result = .error e → Q (.error e) w) :
    Safe env works t (fromExcept result >>= f) Q w := by
  cases result with
  | ok a => exact ok a rfl
  | error e => exact error e rfl

theorem safe_seq {x : OutboxTask α} {f : α → OutboxTask β}
    {A : Except PyException α → OutboxWorld σ → Prop} (first : Safe env works t x A w)
    (ok : ∀ a w', A (.ok a) w' → Safe env works t (f a) Q w')
    (error : ∀ e w', A (.error e) w' → Q (.error e) w') : Safe env works t (x >>= f) Q w :=
  Discipline.safe_seq first ok error

end OutboxTask

open OutboxTask

/-- The messages in a list are claims of the task. -/
def Claimed (w : OutboxWorld σ) (t : TaskId) (messages : List NotificationOutboxMessage) : Prop :=
  ∀ message ∈ messages, .claimed message ∈ w.own t

theorem Claimed.grown {w' : OutboxWorld σ} {messages : List NotificationOutboxMessage}
    (h : Claimed w t messages) (grown : ∃ events, w'.own t = w.own t ++ events) :
    Claimed w' t messages := by
  intro message member
  obtain ⟨events, grown⟩ := grown
  rw [grown]
  exact List.mem_append_left _ (h message member)

/-- Claims are kept. -/
theorem Claimed.exec {w' : OutboxWorld σ} {messages : List NotificationOutboxMessage} {o : OutboxOp}
    (h : Claimed w t messages) (same : w'.own t = w.own t) :
    Claimed (SqlAlchemyNotificationOutboxRepository.exec env t o w').2 t messages := by
  refine h.grown ?_
  obtain ⟨events, grown⟩ := exec_trace env t o w'
  refine ⟨events, ?_⟩
  rw [← same, ← OutboxWorld.own_log_self]
  unfold OutboxWorld.own OutboxWorld.log
  rw [grown]

theorem Claimed.suspended {w' : OutboxWorld σ} {messages : List NotificationOutboxMessage}
    (h : Claimed w t messages) (same : w'.own t = w.own t) : Claimed w' t messages :=
  h.grown ⟨[], by rw [same, List.append_nil]⟩

theorem claimed_claimPending {w' : OutboxWorld σ} {currentTime : Time} {limit : Int}
    {messages : List NotificationOutboxMessage}
    (answer : (exec env t (.claimPending currentTime limit) w').1 = .ok messages) :
    Claimed (exec env t (.claimPending currentTime limit) w').2 t messages := by
  intro message member
  simp only [exec, claimPending] at answer ⊢
  split at answer
  · cases answer
  · cases answer
    rw [OutboxWorld.own_log_self]
    exact List.mem_append_right _ (List.mem_map_of_mem member)

/-- The handler records the failure of the call before. -/
theorem safe_recordDeliveryFailure {currentTime : Time} {options : DispatchOptions}
    {message : NotificationOutboxMessage} {failure : DeliveryFailure}
    {messages : List NotificationOutboxMessage} (own : (works t).maxAttempts = options.maxAttempts)
    (failed : (w.own t).getLast? = some (.answered message (.error failure)))
    (claimed : Claimed w t messages) :
    Safe env works t (recordDeliveryFailure currentTime options message failure)
      (fun _ w' => Claimed w' t messages) w := by
  unfold recordDeliveryFailure
  refine safe_fromExcept (fun retryAt _ => safe_perform fun w' same => ⟨?_, ?_⟩) fun _ _ => claimed
  · exact ⟨message, failure, same ▸ failed, rfl, by rw [own]⟩
  · exact safe_fromExcept (fun _ _ => claimed.exec same) fun _ _ => claimed.exec same

theorem safe_deliverMessages {currentTime : Time} {options : DispatchOptions}
    (own : (works t).maxAttempts = options.maxAttempts)
    (messages : List NotificationOutboxMessage) (result : NotificationDispatchResult)
    (claimed : Claimed w t messages) :
    Safe env works t (deliverMessages currentTime options messages result) (fun _ _ => True) w := by
  induction messages generalizing w result with
  | nil => trivial
  | cons message rest ih =>
      have later : Claimed w t rest := fun m member => claimed m (List.mem_cons_of_mem _ member)
      refine safe_perform fun w₁ same => ⟨claimed.suspended same message List.mem_cons_self, ?_⟩
      have answered : ((exec env t (.deliver message) w₁).2.own t).getLast? =
          some (.answered message (exec env t (.deliver message) w₁).1) := by
        show ((OutboxWorld.log { w₁ with outside := (env.deliver message w₁.outside).2 } t
          [.answered message (env.deliver message w₁.outside).1]).own t).getLast? = _
        rw [OutboxWorld.own_log_self, List.getLast?_append]
        rfl
      have later' : Claimed (exec env t (.deliver message) w₁).2 t rest := later.exec same
      cases answer : (exec env t (.deliver message) w₁).1 with
      | ok delivered =>
          rw [answer] at answered
          refine safe_perform fun w₂ same₂ => ⟨⟨message, same₂ ▸ answered, rfl⟩, ?_⟩
          exact ih _ (later'.exec same₂)
      | error failure =>
          rw [answer] at answered
          dsimp only
          split
          · trivial
          · exact safe_seq (safe_recordDeliveryFailure own answered later')
              (fun _ _ claimed' => ih _ claimed') fun _ _ _ => trivial

theorem safe_dispatchPendingNotifications {currentTime : Time} {options : DispatchOptions}
    (own : (works t).maxAttempts = options.maxAttempts) :
    Safe env works t (dispatchPendingNotifications currentTime options) (fun _ _ => True) w := by
  unfold dispatchPendingNotifications
  split
  · trivial
  · split
    · trivial
    · split
      · trivial
      · refine safe_perform fun w₁ same => ⟨trivial, ?_⟩
        refine safe_fromExcept (fun messages answer => ?_) fun _ _ => trivial
        exact safe_deliverMessages own messages _ (claimed_claimPending answer)

theorem safe_deliveryWork : Safe env works t (works t).run (fun _ _ => True) w := by
  cases own : works t with
  | dispatch currentTime options =>
      have safe : Safe env works t (dispatchPendingNotifications currentTime options)
          (fun _ _ => True) w := safe_dispatchPendingNotifications (by rw [own]; rfl)
      exact safe_seq safe (fun _ _ _ => trivial) fun _ _ _ => trivial
  | workerCycle currentTime claimTimeout options =>
      have dispatch : ∀ w', Safe env works t (dispatchPendingNotifications currentTime options)
          (fun _ _ => True) w' := fun _ => safe_dispatchPendingNotifications (by rw [own]; rfl)
      have cycle : Safe env works t
          (processNotificationWorkerCycle currentTime claimTimeout options) (fun _ _ => True) w := by
        refine safe_perform fun w₁ same => ⟨trivial, safe_fromExcept (fun recovered _ => ?_) ?_⟩
        · exact safe_seq (dispatch _) (fun _ _ _ => trivial) fun _ _ _ => trivial
        · exact fun _ _ => trivial
      exact safe_seq cycle (fun _ _ _ => trivial) fun _ _ _ => trivial
  | recoverStaleClaims currentTime claimTimeout limit =>
      exact safe_perform fun _ _ => ⟨trivial, trivial⟩
  | requeueFailed messageId currentTime => exact safe_perform fun _ _ => ⟨trivial, trivial⟩
  | pruneDeliveredBefore cutoff limit dryRun => exact safe_perform fun _ _ => ⟨trivial, trivial⟩
  | add content => exact fun _ _ _ => ⟨⟨trivial, fun _ differs => exec_own_of_ne differs _⟩, trivial⟩

end Program

/-- Along every run each operation is licensed, on well-formed rows. -/
theorem licensed_along (env : OutboxEnvironment σ) (works : TaskId → DeliveryWork) (outside : σ)
    (sched : List TaskId) :
    (startDelivery works outside).Along (outboxMachine env) (fun c t => c.shared.WellFormed env ∧
      ∀ o, c.Performs (outboxMachine env) t o → Licensed works t o c.shared) sched := by
  have pool : (outboxDiscipline env works).Pool (fun _ _ _ => True) (fun _ => True)
      (startDelivery works outside) := by
    refine fun t _ => ⟨fun _ _ => trivial, fun runs => ?_, fun _ _ w' _ => safe_deliveryWork⟩
    cases runs
  have wellFormed : (startDelivery works outside).shared.WellFormed env :=
    ⟨.nil, (fun _ member => nomatch member), fun _ _ => rfl⟩
  obtain ⟨-, -, along⟩ := Discipline.Pool.always (I := fun _ => True) (fun _ _ _ _ _ _ => trivial)
    (fun c t o _ _ keeps other differs _ => by
      obtain ⟨-, others⟩ := keeps
      exact ⟨fun _ => others other differs, fun _ _ _ => trivial⟩) sched pool trivial
  refine Config.along_induct (outboxMachine env) (I := fun c : OutboxConfig σ =>
    c.shared.WellFormed env) (fun c t h _ => ?_) (fun c t h licensed => ⟨h, fun o performs =>
      (licensed.2 o performs).1⟩) _ sched wellFormed along
  rcases c.step_shared (outboxMachine env) t with same | ⟨o, -, same⟩
  · rwa [same]
  · rw [same]
    exact exec_wellFormed h o

/-- Some call for the message returned normally. -/
def Returned (w : OutboxWorld σ) (id : UUID) : Prop :=
  ∃ t message, (t, OutboxEvent.answered message (.ok ())) ∈ w.trace ∧ message.id = id

/-- Some call for the message raised an error that is not retryable, or raised
with attempts at or above the limit of its dispatcher. The attempts are those of
the claim the call was made under, or those given. -/
def Raised (works : TaskId → DeliveryWork) (w : OutboxWorld σ) (id : UUID)
    (attempts : NotificationOutboxMessage → Nat) : Prop :=
  ∃ t message failure, (t, OutboxEvent.answered message (.error failure)) ∈ w.trace ∧
    message.id = id ∧ (failure.retryable = false ∨ (works t).maxAttempts ≤ attempts message)

/-- What the state of a row tells about the calls for its message. -/
structure RowSound (works : TaskId → DeliveryWork) (w : OutboxWorld σ) (id : UUID)
    (row : NotificationOutboxMessage) : Prop where
  delivered : row.status = .delivered → Returned w id
  failed : row.status = .failed → Raised works w id fun _ => row.deliveryAttempts
  claimedAt : row.claimedAt.isSome ↔ row.status = .processing
  deliveredAt : row.deliveredAt.isSome ↔ row.status = .delivered

section Rows
variable {works : TaskId → DeliveryWork} {id : UUID} {o : OutboxOp}

theorem mem_trace_exec {entry : TaskId × OutboxEvent} (h : entry ∈ w.trace) (o : OutboxOp) :
    entry ∈ (exec env t o w).2.trace := by
  obtain ⟨events, grown⟩ := exec_trace env t o w
  rw [grown]
  exact List.mem_append_left _ h

theorem Returned.exec (h : Returned w id) (o : OutboxOp) :
    Returned (SqlAlchemyNotificationOutboxRepository.exec env t o w).2 id := by
  obtain ⟨t', message, answered, same⟩ := h
  exact ⟨t', message, mem_trace_exec answered o, same⟩

theorem Raised.exec {attempts : NotificationOutboxMessage → Nat} (h : Raised works w id attempts)
    (o : OutboxOp) :
    Raised works (SqlAlchemyNotificationOutboxRepository.exec env t o w).2 id attempts := by
  obtain ⟨t', message, failure, answered, same, raised⟩ := h
  exact ⟨t', message, failure, mem_trace_exec answered o, same, raised⟩

/-- The last event of a task is in the trace. -/
theorem trace_of_last {event : OutboxEvent} (h : (w.own t).getLast? = some event) :
    (t, event) ∈ w.trace := OutboxWorld.mem_own.mp (List.mem_of_getLast? h)

theorem rowSound_of_pending {row : NotificationOutboxMessage} (pending : row.status = .pending)
    (claimedAt : row.claimedAt = none) (deliveredAt : row.deliveredAt = none) :
    RowSound works w id row where
  delivered same := by cases pending.symm.trans same
  failed same := by cases pending.symm.trans same
  claimedAt := by simp [pending, claimedAt]
  deliveredAt := by simp [pending, deliveredAt]

/-- Only delivered rows have a delivery time. -/
theorem RowSound.deliveredAt_eq_none {row : NotificationOutboxMessage}
    (h : RowSound works w id row) (differs : row.status ≠ .delivered) : row.deliveredAt = none := by
  cases time : row.deliveredAt with
  | none => rfl
  | some deliveredAt => exact absurd (h.deliveredAt.mp (by rw [time]; rfl)) differs

/-- A licensed operation leaves sound rows sound. -/
theorem RowSound.exec (h : w.WellFormed env) (licensed : Licensed works t o w)
    (sound : ∀ row, w.rows.get? id = some row → RowSound works w id row)
    {row : NotificationOutboxMessage}
    (found : (exec env t o w).2.rows.get? id = some row) :
    RowSound works (SqlAlchemyNotificationOutboxRepository.exec env t o w).2 id row := by
  have step := exec_row (t := t) h o id
  rw [found] at step
  cases before : w.rows.get? id with
  | none =>
      rw [before] at step
      cases step with
      | added content => exact rowSound_of_pending rfl rfl rfl
  | some old =>
      have sound := sound old before
      rw [before] at step
      cases step with
      | kept =>
          exact ⟨fun same => (sound.delivered same).exec o, fun same => (sound.failed same).exec o,
            sound.claimedAt, sound.deliveredAt⟩
      | claimed currentTime limit row pending =>
          have none := sound.deliveredAt_eq_none (by rw [pending]; decide)
          refine ⟨fun same => ?_, fun same => ?_, ?_, ?_⟩
          · cases same
          · cases same
          · simp [NotificationOutboxMessage.claimed]
          · simp [NotificationOutboxMessage.claimed, none]
      | delivered deliveredAt row processing =>
          obtain ⟨message, answered, same⟩ := licensed
          refine ⟨fun _ => Returned.exec ⟨t, message, trace_of_last answered, same⟩ _,
            fun same => ?_, ?_, ?_⟩
          · cases same
          · simp [NotificationOutboxMessage.delivered]
          · simp [NotificationOutboxMessage.delivered]
      | recovered currentTime claimTimeout limit row processing =>
          exact rowSound_of_pending rfl rfl
            (sound.deliveredAt_eq_none (by rw [processing]; decide))
      | attemptFailed failedAt retryAt error maxAttempts row processing =>
          have none := sound.deliveredAt_eq_none (by rw [processing]; decide)
          obtain ⟨message, failure, answered, same, limit⟩ := licensed
          cases exhausted : old.exhausted maxAttempts with
          | false =>
              refine rowSound_of_pending ?_ rfl none
              simp only [NotificationOutboxMessage.attemptFailed, exhausted, Bool.false_eq_true,
                if_false]
          | true =>
              have status : (old.attemptFailed retryAt error maxAttempts).status = .failed := by
                simp only [NotificationOutboxMessage.attemptFailed, exhausted, if_true]
              refine ⟨fun delivered => ?_, fun _ => Raised.exec
                ⟨t, message, failure, trace_of_last answered, same, ?_⟩ _, ?_, ?_⟩
              · cases status.symm.trans delivered
              · cases retryable : failure.retryable with
                | false => exact .inl rfl
                | true =>
                    rw [retryable, if_pos rfl] at limit
                    exact .inr (limit ▸ of_decide_eq_true exhausted)
              · rw [status]
                simp [NotificationOutboxMessage.attemptFailed]
              · rw [status]
                simp [NotificationOutboxMessage.attemptFailed, none]
      | requeued currentTime row failed => exact rowSound_of_pending rfl rfl rfl

end Rows

/-- Where a dispatcher takes a failure for one to be retried, the row that it
acknowledges has not reached the limit either: no other dispatcher has claimed
the message up to the limit since. -/
def JudgesAlike (env : OutboxEnvironment σ) (c : OutboxConfig σ) (t : TaskId) : Prop :=
  ∀ messageId failedAt retryAt error maxAttempts,
    c.Performs (outboxMachine env) t
      (.markDeliveryFailed messageId failedAt retryAt error maxAttempts) →
    ∀ message failure, (c.shared.own t).getLast? = some (.answered message (.error failure)) →
      failure.retryable = true → message.exhausted maxAttempts = false →
    ∀ row, c.shared.rows.get? messageId = some row → row.status = .processing →
      row.exhausted maxAttempts = false

/-- Only rows of delivered messages are removed. -/
def RemovesDelivered (env : OutboxEnvironment σ) (c : OutboxConfig σ) (t : TaskId) : Prop :=
  ∀ id row, c.shared.rows.get? id = some row →
    (c.step (outboxMachine env) t).shared.rows.get? id = none →
      row.status = .delivered ∧ Returned c.shared id

section Judges
variable {env : OutboxEnvironment σ} {c : OutboxConfig σ} {t : TaskId}

/-- Whether a failure is judged alike, as a computation. -/
def judges (env : OutboxEnvironment σ) (c : OutboxConfig σ) (t : TaskId) : Bool :=
  match c.pending (outboxMachine env) t, (c.shared.own t).getLast? with
  | some (.markDeliveryFailed messageId _ _ _ maxAttempts), some (.answered message _) =>
    message.exhausted maxAttempts ||
      (c.shared.rows.get? messageId).all fun row => !row.exhausted maxAttempts
  | _, _ => true

theorem judgesAlike_of_judges (alike : judges env c t = true) : JudgesAlike env c t := by
  intro messageId failedAt retryAt error maxAttempts performs message failure answered _ below row
    found _
  have pending := Config.pending_of_performs (outboxMachine env) performs
  simpa [judges, pending, answered, below, found] using alike

end Judges

section Runs
variable {works : TaskId → DeliveryWork} {outside : σ}

/-- Failed rows tell that some call raised at the limit of its own claim. -/
def FailuresJustified (works : TaskId → DeliveryWork) (w : OutboxWorld σ) : Prop :=
  ∀ id row, w.rows.get? id = some row → row.status = .failed →
    Raised works w id (·.deliveryAttempts)

theorem FailuresJustified.exec {c : OutboxConfig σ} {o : OutboxOp}
    (justified : FailuresJustified works c.shared) (h : c.shared.WellFormed env)
    (licensed : Licensed works t o c.shared) (performs : c.Performs (outboxMachine env) t o)
    (alike : JudgesAlike env c t) :
    FailuresJustified works (exec env t o c.shared).2 := by
  intro id row found failed
  have step := exec_row (t := t) h o id
  rw [found] at step
  cases before : c.shared.rows.get? id with
  | none =>
      rw [before] at step
      cases step with
      | added content => cases failed
  | some old =>
      have justified := justified id old before
      rw [before] at step
      cases step with
      | kept => exact (justified failed).exec o
      | claimed currentTime limit row pending => cases failed
      | delivered deliveredAt row processing => cases failed
      | recovered currentTime claimTimeout limit row processing => cases failed
      | requeued currentTime row failed => cases failed
      | attemptFailed failedAt retryAt error maxAttempts row processing =>
          obtain ⟨message, failure, answered, same, limit⟩ := licensed
          refine Raised.exec ⟨t, message, failure, trace_of_last answered, same, ?_⟩ _
          cases retryable : failure.retryable with
          | false => exact .inl rfl
          | true =>
              refine .inr ?_
              rw [retryable, if_pos rfl] at limit
              by_contra below
              have open' : message.exhausted maxAttempts = false := by
                rw [limit]
                exact decide_eq_false below
              have judged := alike _ _ _ _ _ performs message failure answered retryable open' old
                before processing
              simp only [NotificationOutboxMessage.attemptFailed, judged, Bool.false_eq_true,
                if_false] at failed
              cases failed

/-- All rows are sound. -/
def RowsSound (works : TaskId → DeliveryWork) (w : OutboxWorld σ) : Prop :=
  ∀ id row, w.rows.get? id = some row → RowSound works w id row

/-- For every interleaving of calls on the outbox: a message is delivered only if
a call for it returned, is removed only if it was delivered, and is failed only
if a call for it raised an error that is not retryable or raised with attempts
at the limit. The attempts are those of the row, and those the call was made
with as long as no failure is acknowledged for another dispatcher's claim. -/
theorem delivery_protocol_safe (env : OutboxEnvironment σ) (works : TaskId → DeliveryWork)
    (outside : σ) (sched : List TaskId) :
    let start := startDelivery works outside
    let w := (start.run (outboxMachine env) sched).shared
    RowsSound works w ∧
      start.Along (outboxMachine env) (RemovesDelivered env) sched ∧
      (start.Along (outboxMachine env) (JudgesAlike env) sched → FailuresJustified works w) := by
  intro start w
  have licensed := licensed_along env works outside sched
  have nothing : ∀ (id : UUID) row, start.shared.rows.get? id ≠ some row := fun _ _ found =>
    nomatch found
  have keep : ∀ (c : OutboxConfig σ) t, RowsSound works c.shared → (c.shared.WellFormed env ∧
      ∀ o, c.Performs (outboxMachine env) t o → Licensed works t o c.shared) →
        RowsSound works (c.step (outboxMachine env) t).shared := by
    rintro c t sound ⟨wellFormed, licensed⟩ id row found
    rcases c.step_shared (outboxMachine env) t with same | ⟨o, performs, same⟩
    · rw [same] at found ⊢
      exact sound id row found
    · rw [same] at found ⊢
      exact RowSound.exec wellFormed (licensed o performs) (sound id) found
  have sound : RowsSound works start.shared := fun id row found => absurd found (nothing id row)
  refine ⟨Config.run_induct (outboxMachine env) keep start sched sound licensed,
    Config.along_induct (outboxMachine env) keep ?_ start sched sound licensed, fun alike => ?_⟩
  · rintro c t sound ⟨wellFormed, -⟩ id row found removed
    rcases c.step_shared (outboxMachine env) t with same | ⟨o, performs, same⟩
    · rw [same, found] at removed
      cases removed
    · have step := exec_row (t := t) wellFormed o id
      rw [same] at removed
      change (exec env t o c.shared).2.rows.get? id = none at removed
      rw [found, removed] at step
      cases step with
      | pruned cutoff limit row delivered =>
          exact ⟨delivered, (sound id row found).delivered delivered⟩
  · refine Config.run_induct (outboxMachine env) (I := fun c : OutboxConfig σ =>
      FailuresJustified works c.shared) (fun c t justified h => ?_) start sched
      (fun id row found => absurd found (nothing id row))
      (Config.along_and (outboxMachine env) start sched licensed alike)
    rcases c.step_shared (outboxMachine env) t with same | ⟨o, performs, same⟩
    · rwa [same]
    · rw [same]
      exact justified.exec h.1.1 (h.1.2 o performs) performs h.2

end Runs

/-! A message whose delivery fails as often as it may. -/

namespace RepeatedFailure

/-- Receivers are unreachable. -/
def environment : OutboxEnvironment Unit where
  deliver _ s := (.error (.exception (.timeoutError "unreachable")), s)
  view _ := ⟨fun _ => false, fun _ => 0⟩
  newId n := ⟨n + 1⟩
  newId_injective := UUID.count_injective

def content : NotificationContent := ⟨⟨7⟩, ⟨8⟩, "mission_completed", 0, [], [⟨9⟩]⟩

def works : TaskId → DeliveryWork
  | 0 => .add content
  | 1 => .dispatch 1 { maxAttempts := 2 }
  | _ => .dispatch (seconds 1000) { maxAttempts := 2 }

def schedule : List TaskId := [0, 1, 1, 1, 2, 2, 2]

theorem failed : (((startDelivery works ()).run (outboxMachine environment)
    schedule).shared.rows.get? ⟨1⟩).map (·.status) = some .failed := by decide +kernel

theorem alike :
    (startDelivery works ()).Along (outboxMachine environment) (JudgesAlike environment)
      schedule := by
  refine ⟨?_, ?_, ?_, ?_, ?_, ?_, ?_, trivial⟩
  all_goals exact judgesAlike_of_judges (by decide +kernel)

end RepeatedFailure

/-- The second of two dispatches leaves the message failed, after as many attempts. -/
theorem delivery_protocol_safe_repeated :
    FailuresJustified RepeatedFailure.works ((startDelivery RepeatedFailure.works ()).run
      (outboxMachine RepeatedFailure.environment) RepeatedFailure.schedule).shared :=
  (delivery_protocol_safe RepeatedFailure.environment RepeatedFailure.works ()
    RepeatedFailure.schedule).2.2 RepeatedFailure.alike

/-! A failure is acknowledged after another dispatcher has claimed the message
for the last attempt. -/

namespace LateFailure

open RepeatedFailure (environment content)

def works : TaskId → DeliveryWork
  | 0 => .add content
  | 1 => .dispatch 1 { maxAttempts := 2 }
  | 2 => .recoverStaleClaims 100 1 100
  | _ => .dispatch 100 { maxAttempts := 2 }

/-- The first dispatcher claims the message and its call raises; the claim is
recovered and taken by the second one before the failure is recorded. -/
def schedule : List TaskId := [0, 1, 1, 2, 3, 1]

theorem failed : (((startDelivery works ()).run (outboxMachine environment)
    schedule).shared.rows.get? ⟨1⟩).map (·.status) = some .failed := by decide +kernel

/-- The dispatchers of the calls that raised, the attempts of their claims, and
whether they would retry. -/
def raised (w : OutboxWorld Unit) : List (TaskId × Nat × Bool) :=
  w.trace.filterMap fun entry =>
    match entry.2 with
    | .answered message (.error failure) =>
      some (entry.1, message.deliveryAttempts, failure.retryable)
    | _ => none

theorem raised_schedule : raised ((startDelivery works ()).run (outboxMachine environment)
    schedule).shared = [(1, 1, true)] := by decide +kernel

end LateFailure

/-- The only call that raised was the first of two attempts. -/
theorem failed_before_limit :
    ¬ ∀ (env : OutboxEnvironment Unit) (works : TaskId → DeliveryWork) (sched : List TaskId),
      FailuresJustified works ((startDelivery works ()).run (outboxMachine env) sched).shared := by
  intro claim
  obtain ⟨row, found, failed⟩ := Option.map_eq_some_iff.mp LateFailure.failed
  obtain ⟨t, message, failure, answered, -, justified⟩ := claim RepeatedFailure.environment
    LateFailure.works LateFailure.schedule ⟨1⟩ row found failed
  have member : (t, message.deliveryAttempts, failure.retryable) ∈ LateFailure.raised
      ((startDelivery LateFailure.works ()).run (outboxMachine RepeatedFailure.environment)
        LateFailure.schedule).shared := List.mem_filterMap.mpr ⟨_, answered, rfl⟩
  rw [LateFailure.raised_schedule, List.mem_singleton] at member
  obtain ⟨rfl, attempts, retryable⟩ : t = 1 ∧ message.deliveryAttempts = 1 ∧
      failure.retryable = true := by simpa using member
  dsimp only at justified
  rw [attempts, retryable] at justified
  rcases justified with impossible | reached
  · cases impossible
  · exact absurd reached (by decide)

end PurchaseAgent
