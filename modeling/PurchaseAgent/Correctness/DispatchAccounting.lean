import PurchaseAgent.Correctness.OutboxRows

/-!
A dispatch with no other user of the outbox. Each claimed message is settled by
the answer of its own delivery, so the loop is a fold over the answers, and its
counters count the rows it leaves behind.
-/

namespace PurchaseAgent

open Cooperative Collections SqlAlchemyNotificationOutboxRepository

variable {σ : Type}

/-- What the dispatch checks of its arguments. -/
structure DispatchOptions.Valid (options : DispatchOptions) : Prop where
  limit : 1 ≤ options.limit
  retryDelay : 0 < options.retryDelay
  maxRetryDelay : options.retryDelay ≤ options.maxRetryDelay
  maxAttempts : 1 ≤ options.maxAttempts

theorem exponentialRetryDelayLoop_pos {maxDelay delay : TimeDelta} (maximum : 0 < maxDelay)
    (positive : 0 < delay) (n : Nat) : 0 < exponentialRetryDelayLoop maxDelay delay n := by
  induction n generalizing delay with
  | zero => exact lt_min positive maximum
  | succ n ih =>
      simp only [exponentialRetryDelayLoop]
      split
      · exact maximum
      · apply ih
        show (0 : Int) < delay * 2
        have : (0 : Int) < delay := positive
        omega

namespace Dispatch
variable (currentTime : Time) (options : DispatchOptions)

/-- The delay before the next attempt: what the receiver asks for, or the backoff. -/
def requestedRetryDelay (message : NotificationOutboxMessage) (failure : DeliveryFailure) :
    TimeDelta :=
  failure.retryDelay.getD
    (exponentialRetryDelay options.retryDelay options.maxRetryDelay message.deliveryAttempts)

/-- A failure the dispatch is meant for: an `Exception`, whose delay is not negative if it has one
and leads to a time there is. -/
structure Admissible (message : NotificationOutboxMessage) (failure : DeliveryFailure) : Prop where
  caught : failure.uncaught = none
  retryDelay : ∀ delay ∈ failure.retryDelay, 0 ≤ delay
  representable : Time.add currentTime (requestedRetryDelay options message failure) =
    .ok (currentTime + requestedRetryDelay options message failure)

/-- The answers to the messages, in the order of the loop. -/
def answers (env : OutboxEnvironment σ) :
    List NotificationOutboxMessage → σ →
      List (NotificationOutboxMessage × Except DeliveryFailure Unit)
  | [], _ => []
  | message :: rest, outside =>
    (message, (env.deliver message outside).1) ::
      answers env rest (env.deliver message outside).2

theorem answers_messages (env : OutboxEnvironment σ) (messages : List NotificationOutboxMessage)
    (outside : σ) : (answers env messages outside).map (·.1) = messages := by
  induction messages generalizing outside with
  | nil => rfl
  | cons message rest ih => simp only [answers, List.map_cons, ih]

/-- The failure ends the attempts at the message. -/
def Permanent (message : NotificationOutboxMessage) (failure : DeliveryFailure) : Prop :=
  failure.retryable = false ∨ options.maxAttempts ≤ message.deliveryAttempts

/-- The row that an answered message becomes. -/
def settle (message : NotificationOutboxMessage) :
    Except DeliveryFailure Unit → NotificationOutboxMessage
  | .ok () => message.delivered currentTime
  | .error failure =>
    message.attemptFailed (currentTime + requestedRetryDelay options message failure) failure.str
      (if failure.retryable then options.maxAttempts else message.deliveryAttempts)

/-- The counters after an answer. -/
def tally (result : NotificationDispatchResult) (message : NotificationOutboxMessage) :
    Except DeliveryFailure Unit → NotificationDispatchResult
  | .ok () => { result with deliveredCount := result.deliveredCount + 1 }
  | .error failure =>
    result.countFailure (!failure.retryable || message.exhausted options.maxAttempts)

/-- The counters after the answers of a whole loop. -/
def tallies (result : NotificationDispatchResult)
    (entries : List (NotificationOutboxMessage × Except DeliveryFailure Unit)) :
    NotificationDispatchResult :=
  entries.foldl (fun result entry => tally options result entry.1 entry.2) result

variable {currentTime options}

theorem retryDelay_nonneg (valid : options.Valid) {message : NotificationOutboxMessage}
    {failure : DeliveryFailure} (admissible : Admissible currentTime options message failure) :
    0 ≤ requestedRetryDelay options message failure := by
  unfold requestedRetryDelay
  cases asked : failure.retryDelay with
  | some delay => exact admissible.retryDelay delay asked
  | none =>
      have maximum : 0 < options.maxRetryDelay :=
        lt_of_lt_of_le valid.retryDelay valid.maxRetryDelay
      exact le_of_lt (exponentialRetryDelayLoop_pos maximum valid.retryDelay _)

/-- The repository decides from the stored row as the dispatch does from its copy. -/
theorem settle_failed {message : NotificationOutboxMessage} {failure : DeliveryFailure} :
    (settle currentTime options message (.error failure)).status =
      if !failure.retryable || message.exhausted options.maxAttempts then .failed
      else .pending := by
  cases retry : failure.retryable with
  | true => simp [settle, NotificationOutboxMessage.attemptFailed, retry]
  | false =>
      simp [settle, NotificationOutboxMessage.attemptFailed, NotificationOutboxMessage.exhausted,
        retry]

theorem permanent_iff {message : NotificationOutboxMessage} {failure : DeliveryFailure} :
    (!failure.retryable || message.exhausted options.maxAttempts) = true ↔
      Permanent options message failure := by
  simp [Permanent, NotificationOutboxMessage.exhausted]

section Loop
variable (env : OutboxEnvironment σ) (t : TaskId)

/-- The message lies in the table as it was claimed. -/
structure Held (w : OutboxWorld σ) (message : NotificationOutboxMessage) : Prop where
  stored : w.rows.get? message.id = some message
  processing : message.status = .processing
  attempted : 1 ≤ message.deliveryAttempts

theorem eval_perform (o : OutboxOp) (w : OutboxWorld σ) :
    (OutboxTask.perform o).run.eval (outboxMachine env) t w =
      (.ok (exec env t o w).1, (exec env t o w).2) := rfl

/-- The handler records the failure and does not raise. -/
theorem eval_recordDeliveryFailure (valid : options.Valid) {w : OutboxWorld σ}
    {message : NotificationOutboxMessage} (held : Held w message) {failure : DeliveryFailure}
    (admissible : Admissible currentTime options message failure) :
    (recordDeliveryFailure currentTime options message failure).run.eval (outboxMachine env) t w =
      (.ok (!failure.retryable || message.exhausted options.maxAttempts),
        w.execute (w.rows.set message.id
          (settle currentTime options message (.error failure)))) := by
  have delay := retryDelay_nonneg valid admissible
  have later : ¬ currentTime + requestedRetryDelay options message failure < currentTime := by
    exact not_lt.mpr (Int.le_add_of_nonneg_right delay)
  have attempts : ¬ (if failure.retryable then options.maxAttempts
      else (message.deliveryAttempts : Int)) < 1 := by
    have := valid.maxAttempts
    have := held.attempted
    split
    · omega
    · omega
  have recorded : exec env t (.markDeliveryFailed message.id currentTime
      (currentTime + requestedRetryDelay options message failure) failure.str
      (if failure.retryable then options.maxAttempts else message.deliveryAttempts)) w =
      (.ok (), w.execute (w.rows.set message.id
        (settle currentTime options message (.error failure)))) := by
    simp only [exec, markDeliveryFailed, if_neg later, if_neg attempts, held.stored,
      held.processing, ne_eq, not_true_eq_false, if_false]
    rfl
  have sum : (Time.add currentTime (requestedRetryDelay options message failure)).mapError
      PyException.overflowError = .ok (currentTime + requestedRetryDelay options message failure) := by
    rw [admissible.representable]
    rfl
  unfold requestedRetryDelay at sum recorded
  unfold recordDeliveryFailure
  simp only [sum]
  rw [eval_seq]
  show proceed _ (Except.ok _, w) = _
  simp only [proceed]
  rw [eval_seq, eval_perform, recorded]
  rfl

/-- One round of the loop. -/
theorem deliver_step (valid : options.Valid) {w : OutboxWorld σ}
    {message : NotificationOutboxMessage} (held : Held w message)
    (admissible : ∀ failure, (env.deliver message w.outside).1 = .error failure →
      Admissible currentTime options message failure)
    (rest : List NotificationOutboxMessage) (result : NotificationDispatchResult) :
    ∃ w' : OutboxWorld σ,
      w'.rows = w.rows.set message.id
        (settle currentTime options message (env.deliver message w.outside).1) ∧
      w'.outside = (env.deliver message w.outside).2 ∧
      (deliverMessages currentTime options (message :: rest) result).run.eval
          (outboxMachine env) t w =
        (deliverMessages currentTime options rest
          (tally options result message (env.deliver message w.outside).1)).run.eval
          (outboxMachine env) t w' := by
  have answered : (exec env t (.deliver message) w).1 = (env.deliver message w.outside).1 := rfl
  have kept : Held (exec env t (.deliver message) w).2 message :=
    ⟨held.stored, held.processing, held.attempted⟩
  rw [deliverMessages, eval_seq, eval_perform, answered]
  cases answer : (env.deliver message w.outside).1 with
  | ok delivered =>
      have marked : (markDelivered (exec env t (.deliver message) w).2 message.id currentTime).2 =
          (exec env t (.deliver message) w).2.execute (w.rows.set message.id
            (message.delivered currentTime)) := by
        simp only [markDelivered, kept.stored, kept.processing, if_true]
        rfl
      refine ⟨_, ?_, ?_, rfl⟩
      · exact congrArg OutboxWorld.rows marked
      · exact congrArg OutboxWorld.outside marked
  | error failure =>
      have allowed := admissible failure answer
      simp only [proceed, allowed.caught]
      rw [eval_seq, eval_recordDeliveryFailure env t valid kept allowed]
      exact ⟨_, rfl, rfl, rfl⟩

/-- The whole loop. -/
theorem deliver_run (valid : options.Valid) (messages : List NotificationOutboxMessage)
    (ids : (messages.map (·.id)).Nodup) (w : OutboxWorld σ)
    (held : ∀ message ∈ messages, Held w message)
    (admissible : ∀ entry ∈ answers env messages w.outside, ∀ failure,
      entry.2 = .error failure → Admissible currentTime options entry.1 failure)
    (result : NotificationDispatchResult) :
    ∃ w' : OutboxWorld σ,
      (deliverMessages currentTime options messages result).run.eval (outboxMachine env) t w =
        (.ok (tallies options result (answers env messages w.outside)), w') ∧
      (∀ id ∉ messages.map (·.id), w'.rows.get? id = w.rows.get? id) ∧
      ∀ entry ∈ answers env messages w.outside,
        w'.rows.get? entry.1.id = some (settle currentTime options entry.1 entry.2) := by
  induction messages generalizing w result with
  | nil =>
      refine ⟨w, rfl, fun _ _ => rfl, ?_⟩
      intro entry impossible
      cases impossible
  | cons message rest ih =>
      obtain ⟨fresh, distinct⟩ := List.nodup_cons.mp ids
      obtain ⟨first, others⟩ := List.forall_mem_cons.mp held
      obtain ⟨allowed, later⟩ := List.forall_mem_cons.mp admissible
      obtain ⟨w₁, rows, outside, step⟩ := deliver_step env t valid first allowed rest result
      have kept : ∀ other ∈ rest, Held w₁ other := by
        intro other member
        have apart : other.id ≠ message.id := by
          intro same
          exact fresh (List.mem_map.mpr ⟨other, member, same⟩)
        refine ⟨?_, (others other member).processing, (others other member).attempted⟩
        rw [rows, Dict.get?_set_of_ne _ apart]
        exact (others other member).stored
      obtain ⟨w', ran, frame, settled⟩ :=
        ih distinct w₁ kept (outside ▸ later) (tally options result message _)
      refine ⟨w', ?_, ?_, ?_⟩
      · rw [step, ran, outside]
        rfl
      · intro id absent
        rw [List.map_cons, List.mem_cons, not_or] at absent
        obtain ⟨apart, elsewhere⟩ := absent
        rw [frame id elsewhere, rows, Dict.get?_set_of_ne _ apart]
      · refine List.forall_mem_cons.mpr ⟨?_, ?_⟩
        · rw [frame _ fresh, rows, Dict.get?_set_self]
        · rw [← outside]
          exact settled

end Loop
/-- The counter of the messages that end with a status. -/
def countOf (result : NotificationDispatchResult) : NotificationOutboxStatus → Nat
  | .delivered => result.deliveredCount
  | .pending => result.retryScheduledCount
  | .failed => result.permanentlyFailedCount
  | .processing => 0

theorem tally_countOf (currentTime : Time) (result : NotificationDispatchResult)
    (message : NotificationOutboxMessage) (answer : Except DeliveryFailure Unit)
    (status : NotificationOutboxStatus) :
    countOf (tally options result message answer) status = countOf result status +
      if (settle currentTime options message answer).status = status then 1 else 0 := by
  cases answer with
  | ok delivered => cases status <;> rfl
  | error failure =>
      rw [settle_failed]
      cases exhausted : !failure.retryable || message.exhausted options.maxAttempts with
      | true => cases status <;> simp [tally, NotificationDispatchResult.countFailure, countOf, exhausted]
      | false => cases status <;> simp [tally, NotificationDispatchResult.countFailure, countOf, exhausted]

theorem tally_claimedCount (result : NotificationDispatchResult)
    (message : NotificationOutboxMessage) (answer : Except DeliveryFailure Unit) :
    (tally options result message answer).claimedCount = result.claimedCount := by
  cases answer with
  | ok delivered => rfl
  | error failure =>
      simp only [tally, NotificationDispatchResult.countFailure]
      split
      · rfl
      · rfl

theorem fold_claimedCount (entries : List (NotificationOutboxMessage × Except DeliveryFailure Unit))
    (result : NotificationDispatchResult) :
    (tallies options result entries).claimedCount = result.claimedCount := by
  induction entries generalizing result with
  | nil => rfl
  | cons entry rest ih => exact (ih _).trans (tally_claimedCount _ _ _)

theorem fold_countOf (currentTime : Time)
    (entries : List (NotificationOutboxMessage × Except DeliveryFailure Unit))
    (result : NotificationDispatchResult) (status : NotificationOutboxStatus) :
    countOf (tallies options result entries) status =
      countOf result status +
        entries.countP fun entry => (settle currentTime options entry.1 entry.2).status = status := by
  induction entries generalizing result with
  | nil => rfl
  | cons entry rest ih =>
      refine (ih (tally options result entry.1 entry.2)).trans ?_
      rw [tally_countOf currentTime, List.countP_cons]
      simp only [decide_eq_true_eq]
      omega

/-- An answered message has one of three statuses. -/
theorem settle_status (currentTime : Time) (options : DispatchOptions)
    (message : NotificationOutboxMessage) (answer : Except DeliveryFailure Unit) :
    (settle currentTime options message answer).status = .delivered ∨
      (settle currentTime options message answer).status = .pending ∨
      (settle currentTime options message answer).status = .failed := by
  cases answer with
  | ok delivered => exact .inl rfl
  | error failure =>
      rw [settle_failed]
      split
      · exact .inr (.inr rfl)
      · exact .inr (.inl rfl)

theorem countP_statuses (currentTime : Time) (options : DispatchOptions)
    (entries : List (NotificationOutboxMessage × Except DeliveryFailure Unit)) :
    (entries.countP fun entry => (settle currentTime options entry.1 entry.2).status = .delivered) +
        (entries.countP fun entry => (settle currentTime options entry.1 entry.2).status = .pending) +
        (entries.countP fun entry => (settle currentTime options entry.1 entry.2).status = .failed) =
      entries.length := by
  induction entries with
  | nil => rfl
  | cons entry rest ih =>
      simp only [List.countP_cons, List.length_cons, decide_eq_true_eq]
      obtain status | status | status := settle_status currentTime options entry.1 entry.2
      all_goals
        simp only [status, if_true, reduceCtorEq, if_false]
        omega

/-- How a row shows what became of a claimed message that got the answer. -/
structure Settled (currentTime : Time) (options : DispatchOptions)
    (message : NotificationOutboxMessage) (answer : Except DeliveryFailure Unit)
    (row : NotificationOutboxMessage) : Prop where
  ended : row.status = .delivered ∨ row.status = .pending ∧ currentTime ≤ row.availableAt ∨
    row.status = .failed
  delivered : row.status = .delivered ↔ answer = .ok ()
  failed : row.status = .failed ↔
    ∃ failure, answer = .error failure ∧ Permanent options message failure

theorem settled_settle (valid : options.Valid) {message : NotificationOutboxMessage}
    {answer : Except DeliveryFailure Unit}
    (admissible : ∀ failure, answer = .error failure →
      Admissible currentTime options message failure) :
    Settled currentTime options message answer (settle currentTime options message answer) := by
  cases answer with
  | ok delivered =>
      refine ⟨.inl rfl, ⟨fun _ => rfl, fun _ => rfl⟩, ?_⟩
      simp [settle, NotificationOutboxMessage.delivered]
  | error failure =>
      have delay := retryDelay_nonneg valid (admissible failure rfl)
      have later : currentTime ≤ (settle currentTime options message (.error failure)).availableAt :=
        Int.le_add_of_nonneg_right delay
      have permanent : (!failure.retryable || message.exhausted options.maxAttempts) = true ↔
          Permanent options message failure := permanent_iff
      constructor
      · rw [settle_failed]
        split
        · exact .inr (.inr rfl)
        · exact .inr (.inl ⟨rfl, later⟩)
      · rw [settle_failed]
        split <;> simp
      · rw [settle_failed]
        split
        · rename_i exhausted
          simp [permanent.mp exhausted]
        · rename_i repeated
          simp only [reduceCtorEq, Except.error.injEq, exists_eq_left', false_iff]
          exact fun given => repeated (permanent.mpr given)

/-- The messages that `claim_pending` returns. -/
def claimedMessages (env : OutboxEnvironment σ) (w : OutboxWorld σ) (currentTime : Time)
    (options : DispatchOptions) : List NotificationOutboxMessage :=
  (selectPending (env.view w.statements) currentTime options.limit w.rows).map
    (·.claimed currentTime)

/-- How many of the messages end with the status. -/
def endedCount (w : OutboxWorld σ) (messages : List NotificationOutboxMessage)
    (status : NotificationOutboxStatus) : Nat :=
  messages.countP fun message => (w.rows.get? message.id).any (·.status = status)

/-- What the result of a dispatch says about the rows before and after it. -/
structure Accounted (env : OutboxEnvironment σ) (currentTime : Time) (options : DispatchOptions)
    (w w' : OutboxWorld σ) (result : NotificationDispatchResult) : Prop where
  claimed : result.claimedCount = (claimedMessages env w currentTime options).length
  settled : ∀ entry ∈ answers env (claimedMessages env w currentTime options) w.outside,
    ∃ row, w'.rows.get? entry.1.id = some row ∧
      Settled currentTime options entry.1 entry.2 row
  delivered : result.deliveredCount =
    endedCount w' (claimedMessages env w currentTime options) .delivered
  retryScheduled : result.retryScheduledCount =
    endedCount w' (claimedMessages env w currentTime options) .pending
  permanentlyFailed : result.permanentlyFailedCount =
    endedCount w' (claimedMessages env w currentTime options) .failed
  total : result.deliveredCount + result.retryScheduledCount + result.permanentlyFailedCount =
    result.claimedCount

section Claim
variable {env : OutboxEnvironment σ} {w : OutboxWorld σ}

theorem claimedMessages_ids (env : OutboxEnvironment σ) (w : OutboxWorld σ) (currentTime : Time)
    (options : DispatchOptions) :
    (claimedMessages env w currentTime options).map (·.id) =
      (selectPending (env.view w.statements) currentTime options.limit w.rows).map (·.id) := by
  unfold claimedMessages
  rw [List.map_map]
  rfl

/-- The claimed messages lie in the table as they were returned. -/
theorem held_claimed (h : w.WellFormed env) (t : TaskId) (currentTime : Time)
    (valid : options.Valid) :
    (exec env t (.claimPending currentTime options.limit) w).1 =
        .ok (claimedMessages env w currentTime options) ∧
      (exec env t (.claimPending currentTime options.limit) w).2.outside = w.outside ∧
      ∀ message ∈ claimedMessages env w currentTime options,
        Held (exec env t (.claimPending currentTime options.limit) w).2 message := by
  have limit : validateLimit options.limit = .ok () := by
    have := valid.limit
    exact if_neg (by omega)
  simp only [exec, claimPending, limit]
  refine ⟨rfl, rfl, ?_⟩
  intro message member
  obtain ⟨row, selected, rfl⟩ := List.mem_map.mp member
  refine ⟨?_, rfl, Nat.le_add_left _ _⟩
  show (updateRows w.rows ((selectPending (env.view w.statements) currentTime options.limit
    w.rows).map (·.id)) (·.claimed currentTime)).get? row.id = some (row.claimed currentTime)
  rw [get?_updateRows, (get?_of_selected h selected).1]
  have listed : row.id ∈ (selectPending (env.view w.statements) currentTime options.limit
      w.rows).map (·.id) := List.mem_map_of_mem selected
  rw [Option.map_some, if_pos listed]

end Claim

/-- A dispatch whose failures are all `Exception`s does not raise, settles every message it has
claimed, and counts them as they are settled. -/
theorem dispatch_accounts (env : OutboxEnvironment σ) (t : TaskId) (w : OutboxWorld σ)
    (wellFormed : w.WellFormed env) (currentTime : Time) (options : DispatchOptions)
    (valid : options.Valid)
    (admissible : ∀ entry ∈ answers env (claimedMessages env w currentTime options) w.outside,
      ∀ failure, entry.2 = .error failure → Admissible currentTime options entry.1 failure) :
    ∃ result w', (dispatchPendingNotifications currentTime options).run.eval (outboxMachine env) t
        w = (.ok result, w') ∧ Accounted env currentTime options w w' result := by
  obtain ⟨returned, outside, held⟩ := held_claimed wellFormed t currentTime valid
  have ids : ((claimedMessages env w currentTime options).map (·.id)).Nodup := by
    rw [claimedMessages_ids]
    exact selected_nodup wellFormed
  obtain ⟨w', ran, -, settled⟩ := deliver_run env t valid _ ids _ held (outside ▸ admissible)
    ⟨(claimedMessages env w currentTime options).length, 0, 0, 0⟩
  rw [outside] at ran settled
  have counted : ∀ status, endedCount w' (claimedMessages env w currentTime options) status =
      (answers env (claimedMessages env w currentTime options) w.outside).countP fun entry =>
        (settle currentTime options entry.1 entry.2).status = status := by
    intro status
    unfold endedCount
    conv => lhs; rw [← answers_messages env (claimedMessages env w currentTime options) w.outside]
    rw [List.countP_map]
    apply List.countP_congr
    intro entry member
    simp [settled entry member]
  refine ⟨tallies options ⟨(claimedMessages env w currentTime options).length, 0, 0, 0⟩
    (answers env (claimedMessages env w currentTime options) w.outside), w', ?_, ?_⟩
  · unfold dispatchPendingNotifications
    rw [if_neg (not_le.mpr valid.retryDelay), if_neg (not_lt.mpr valid.maxRetryDelay),
      if_neg (not_lt.mpr valid.maxAttempts), eval_seq, eval_perform, returned]
    exact ran
  · have total := countP_statuses currentTime options
      (answers env (claimedMessages env w currentTime options) w.outside)
    have length : (answers env (claimedMessages env w currentTime options) w.outside).length =
        (claimedMessages env w currentTime options).length := by
      conv => rhs; rw [← answers_messages env (claimedMessages env w currentTime options) w.outside]
      rw [List.length_map]
    have counts := @fold_countOf options currentTime
      (answers env (claimedMessages env w currentTime options) w.outside)
      ⟨(claimedMessages env w currentTime options).length, 0, 0, 0⟩
    have delivered := counts .delivered
    have pending := counts .pending
    have failed := counts .failed
    simp only [countOf, Nat.zero_add] at delivered pending failed
    constructor
    · exact fold_claimedCount _ _
    · intro entry member
      exact ⟨_, settled entry member, settled_settle valid (admissible entry member)⟩
    · rw [counted, delivered]
    · rw [counted, pending]
    · rw [counted, failed]
    · rw [delivered, pending, failed, total, fold_claimedCount, length]

/-! Two messages, of which a receiver takes one and asks for a minute with the other. -/

namespace BusyReceiver

def busy : DeliveryFailure := .notificationDeliveryError "busy" (some (seconds 60)) true

def environment : OutboxEnvironment Unit where
  deliver message s := (if message.id = ⟨1⟩ then .error busy else .ok (), s)
  view _ := ⟨fun _ => false, fun _ => 0⟩
  newId n := ⟨n + 1⟩
  newId_injective := UUID.count_injective

def content : NotificationContent := ⟨⟨7⟩, ⟨8⟩, "mission_completed", 0, [], [⟨9⟩]⟩

def world : OutboxWorld Unit where
  rows := [(⟨1⟩, content.message ⟨1⟩), (⟨2⟩, content.message ⟨2⟩)]
  outside := ()
  statements := 0
  idsDrawn := 2
  trace := []

theorem wellFormed : world.WellFormed environment where
  keys := by decide
  ids entry member := by
    obtain rfl | rfl : entry = (⟨1⟩, content.message ⟨1⟩) ∨ entry = (⟨2⟩, content.message ⟨2⟩) := by
      simpa [world] using member
    · rfl
    · rfl
  fresh n drawn := by
    have later : 2 ≤ n := drawn
    have first : (⟨n + 1⟩ : UUID) ≠ ⟨1⟩ := fun same => absurd (congrArg UUID.int same) (by simp; omega)
    have second : (⟨n + 1⟩ : UUID) ≠ ⟨2⟩ := fun same => absurd (congrArg UUID.int same) (by simp; omega)
    show Dict.get? [((⟨1⟩ : UUID), content.message ⟨1⟩), (⟨2⟩, content.message ⟨2⟩)] ⟨n + 1⟩ = none
    simp [Dict.get?, first, second]

theorem valid : ({} : DispatchOptions).Valid := by
  constructor <;> decide

theorem answered (messages : List NotificationOutboxMessage) :
    ∀ entry ∈ answers environment messages (), ∀ failure, entry.2 = .error failure →
      failure = busy := by
  induction messages with
  | nil =>
      intro entry impossible
      cases impossible
  | cons message rest ih =>
      refine List.forall_mem_cons.mpr ⟨?_, ih⟩
      intro failure failed
      change (if message.id = ⟨1⟩ then .error busy else .ok ()) = Except.error failure at failed
      split at failed
      · exact (Except.error.inj failed).symm
      · cases failed

theorem admissible (message : NotificationOutboxMessage) :
    Admissible 1 {} message busy where
  caught := rfl
  retryDelay delay asked := by
    obtain rfl := Option.some.inj asked
    decide
  representable := rfl

end BusyReceiver

theorem dispatch_accounts_busy :
    ∃ result w', (dispatchPendingNotifications 1 {}).run.eval
        (outboxMachine BusyReceiver.environment) 0 BusyReceiver.world = (.ok result, w') ∧
      Accounted BusyReceiver.environment 1 {} BusyReceiver.world w' result := by
  refine dispatch_accounts BusyReceiver.environment 0 BusyReceiver.world BusyReceiver.wellFormed 1
    {} BusyReceiver.valid ?_
  intro entry member failure failed
  obtain rfl := BusyReceiver.answered _ entry member failure failed
  exact BusyReceiver.admissible entry.1

end Dispatch
end PurchaseAgent
