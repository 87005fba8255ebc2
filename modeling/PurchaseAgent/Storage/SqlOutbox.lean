import PurchaseAgent.Collections.Dict
import PurchaseAgent.Collections.StableSort
import PurchaseAgent.Cooperative.RelyGuarantee
import PurchaseAgent.Domain.Errors
import PurchaseAgent.Domain.Notification

/-!
The notification outbox of the database and its repository. A method is one
transaction on the rows it locks, so it takes place at once when it commits; a
row that another session has locked is skipped, and the database breaks ties in
the order of rows as it likes.
-/

namespace PurchaseAgent

open Cooperative Collections

/-- The rows a statement finds locked, and how it breaks ties. -/
structure TableView where
  locked : UUID → Bool
  rank : UUID → Nat

/-- Why `deliver` raises. -/
inductive DeliveryFailure where
  | notificationDeliveryError (message : String) (retryDelay : Option TimeDelta) (retryable : Bool)
  | exception (error : PyException)
deriving DecidableEq

inductive OutboxEvent where
  | claimed (message : NotificationOutboxMessage)
  | answered (message : NotificationOutboxMessage) (answer : Except DeliveryFailure Unit)
  | requeued (messageId : UUID)

structure OutboxWorld (σ : Type) where
  rows : Dict UUID NotificationOutboxMessage
  /-- The state of the receivers. -/
  outside : σ
  statements : Nat
  idsDrawn : Nat
  trace : List (TaskId × OutboxEvent)

/-- What the outbox depends on: the adapter, other sessions and `uuid4`, which
never repeats. -/
structure OutboxEnvironment (σ : Type) where
  deliver : NotificationOutboxMessage → σ → Except DeliveryFailure Unit × σ
  view : Nat → TableView
  newId : Nat → UUID
  newId_injective : Function.Injective newId

namespace SqlAlchemyNotificationOutboxRepository
variable {σ : Type}

/-- `SELECT ... WHERE p ORDER BY first, second LIMIT limit FOR UPDATE SKIP LOCKED`. -/
def selectForUpdate (view : TableView) (rows : Dict UUID NotificationOutboxMessage)
    (p : NotificationOutboxMessage → Bool) (first second : NotificationOutboxMessage → Int)
    (limit : Int) : List NotificationOutboxMessage :=
  let candidates := (rows.map (·.2)).filter fun row => p row && !view.locked row.id
  (sortedBy first (sortedBy second (sortedBy (view.rank ·.id) candidates))).take limit.toNat

/-- The rows with the given ids change. -/
def updateRows (rows : Dict UUID NotificationOutboxMessage) (ids : List UUID)
    (change : NotificationOutboxMessage → NotificationOutboxMessage) :
    Dict UUID NotificationOutboxMessage :=
  rows.map fun entry => if entry.1 ∈ ids then (entry.1, change entry.2) else entry

def isAvailable (currentTime : Time) (row : NotificationOutboxMessage) : Bool :=
  row.status = .pending ∧ row.availableAt ≤ currentTime

/-- The messages `claim_pending` selects. -/
def selectPending (view : TableView) (currentTime : Time) (limit : Int)
    (rows : Dict UUID NotificationOutboxMessage) : List NotificationOutboxMessage :=
  selectForUpdate view rows (isAvailable currentTime) (·.availableAt) (·.occurredAt) limit

def isStale (staleBefore : Time) (row : NotificationOutboxMessage) : Bool :=
  row.status = .processing ∧ row.claimedAt.any (· ≤ staleBefore)

/-- The messages `recover_stale_claims` selects. -/
def selectStale (view : TableView) (staleBefore : Time) (limit : Int)
    (rows : Dict UUID NotificationOutboxMessage) : List NotificationOutboxMessage :=
  selectForUpdate view rows (isStale staleBefore) (·.claimedAt.getD staleBefore) (fun _ => 0) limit

def isDeliveredBefore (cutoff : Time) (row : NotificationOutboxMessage) : Bool :=
  row.status = .delivered ∧ row.deliveredAt.any (· < cutoff)

/-- The messages `prune_delivered_before` selects. -/
def selectPrunable (view : TableView) (cutoff : Time) (limit : Int)
    (rows : Dict UUID NotificationOutboxMessage) : List NotificationOutboxMessage :=
  selectForUpdate view rows (isDeliveredBefore cutoff) (·.deliveredAt.getD cutoff)
    (fun row => (row.id.int : Int)) limit

/-- `_validate_arguments`. -/
def validateLimit (limit : Int) : Except PyException Unit :=
  if limit < 1 then .error (.valueError "limit must be at least one") else .ok ()

end SqlAlchemyNotificationOutboxRepository

inductive OutboxOp where
  | claimPending (currentTime : Time) (limit : Int)
  | markDelivered (messageId : UUID) (deliveredAt : Time)
  | recoverStaleClaims (currentTime : Time) (claimTimeout : TimeDelta) (limit : Int)
  | markDeliveryFailed (messageId : UUID) (failedAt retryAt : Time) (error : String)
      (maxAttempts : Int)
  | requeueFailed (messageId : UUID) (currentTime : Time)
  | pruneDeliveredBefore (cutoff : Time) (limit : Int) (dryRun : Bool)
  /-- A mission repository adds the row of an event. -/
  | add (content : NotificationContent)
  /-- `adapter.deliver`. -/
  | deliver (message : NotificationOutboxMessage)

abbrev OutboxOp.Answer : OutboxOp → Type
  | .claimPending _ _ | .recoverStaleClaims _ _ _ =>
      Except PyException (List NotificationOutboxMessage)
  | .markDelivered _ _ | .add _ => Unit
  | .markDeliveryFailed _ _ _ _ _ => Except PyException Unit
  | .requeueFailed _ _ => Option NotificationOutboxMessage
  | .pruneDeliveredBefore _ _ _ => Except PyException (List UUID)
  | .deliver _ => Except DeliveryFailure Unit

namespace OutboxWorld
variable {σ : Type} (w : OutboxWorld σ)

def log (t : TaskId) (events : List OutboxEvent) : OutboxWorld σ :=
  { w with trace := w.trace ++ events.map (t, ·) }

/-- A statement has locked rows and changed them. -/
def execute (rows : Dict UUID NotificationOutboxMessage) : OutboxWorld σ :=
  { w with rows := rows, statements := w.statements + 1 }

end OutboxWorld

namespace SqlAlchemyNotificationOutboxRepository
variable {σ : Type} (env : OutboxEnvironment σ) (t : TaskId) (w : OutboxWorld σ)

def claimPending (currentTime : Time) (limit : Int) :
    Except PyException (List NotificationOutboxMessage) × OutboxWorld σ :=
  match validateLimit limit with
  | .error error => (.error error, w)
  | .ok () =>
    let selected := selectPending (env.view w.statements) currentTime limit w.rows
    let messages := selected.map (·.claimed currentTime)
    (.ok messages, (w.execute (updateRows w.rows (selected.map (·.id)) (·.claimed currentTime))).log
      t (messages.map .claimed))

def markDelivered (messageId : UUID) (deliveredAt : Time) : Unit × OutboxWorld σ :=
  match w.rows.get? messageId with
  | none => ((), w)
  | some message =>
    if message.status = .processing then
      ((), w.execute (w.rows.set messageId (message.delivered deliveredAt)))
    else ((), w)

def recoverStaleClaims (currentTime : Time) (claimTimeout : TimeDelta) (limit : Int) :
    Except PyException (List NotificationOutboxMessage) × OutboxWorld σ :=
  match validateLimit limit with
  | .error error => (.error error, w)
  | .ok () =>
    if claimTimeout ≤ 0 then (.error (.valueError "claim_timeout must be greater than zero"), w)
    else
      match Time.add currentTime (-claimTimeout) with
      | .error text => (.error (.overflowError text), w)
      | .ok staleBefore =>
        let selected := selectStale (env.view w.statements) staleBefore limit w.rows
        (.ok (selected.map (·.recovered currentTime)),
          w.execute (updateRows w.rows (selected.map (·.id)) (·.recovered currentTime)))

def markDeliveryFailed (messageId : UUID) (failedAt retryAt : Time) (error : String)
    (maxAttempts : Int) : Except PyException Unit × OutboxWorld σ :=
  if retryAt < failedAt then
    (.error (.valueError "retry_at must not be before failed_at"), w)
  else if maxAttempts < 1 then
    (.error (.valueError "max_attempts must be at least one"), w)
  else
    match w.rows.get? messageId with
    | none => (.ok (), w)
    | some message =>
      if message.status ≠ .processing then (.ok (), w)
      else (.ok (), w.execute
        (w.rows.set messageId (message.attemptFailed retryAt error maxAttempts)))

def requeueFailed (messageId : UUID) (currentTime : Time) :
    Option NotificationOutboxMessage × OutboxWorld σ :=
  match w.rows.get? messageId with
  | none => (none, w)
  | some message =>
    if message.status ≠ .failed then (some message, w)
    else (some (message.requeued currentTime),
      (w.execute (w.rows.set messageId (message.requeued currentTime))).log t
        [.requeued messageId])

def pruneDeliveredBefore (cutoff : Time) (limit : Int) (dryRun : Bool) :
    Except PyException (List UUID) × OutboxWorld σ :=
  match validateLimit limit with
  | .error error => (.error error, w)
  | .ok () =>
    let view := if dryRun then { env.view w.statements with locked := fun _ => false }
      else env.view w.statements
    let messageIds := (selectPrunable view cutoff limit w.rows).map (·.id)
    if dryRun then (.ok messageIds, w)
    else (.ok messageIds, w.execute (w.rows.filter fun entry =>
      !(entry.1 ∈ messageIds && entry.2.status = .delivered)))

/-- What the operations do; `add` belongs to the mission repository and `deliver`
to the adapter. -/
def exec (env : OutboxEnvironment σ) (t : TaskId) :
    (o : OutboxOp) → OutboxWorld σ → o.Answer × OutboxWorld σ
  | .claimPending currentTime limit, w => claimPending env t w currentTime limit
  | .markDelivered messageId deliveredAt, w => markDelivered w messageId deliveredAt
  | .recoverStaleClaims currentTime claimTimeout limit, w =>
      recoverStaleClaims env w currentTime claimTimeout limit
  | .markDeliveryFailed messageId failedAt retryAt error maxAttempts, w =>
      markDeliveryFailed w messageId failedAt retryAt error maxAttempts
  | .requeueFailed messageId currentTime, w => requeueFailed t w messageId currentTime
  | .pruneDeliveredBefore cutoff limit dryRun, w => pruneDeliveredBefore env w cutoff limit dryRun
  | .add content, w =>
      let id := env.newId w.idsDrawn
      ((), { w with rows := w.rows.set id (content.message id), idsDrawn := w.idsDrawn + 1 })
  | .deliver message, w =>
      ((env.deliver message w.outside).1,
        { w with outside := (env.deliver message w.outside).2 }.log t
          [.answered message (env.deliver message w.outside).1])

end SqlAlchemyNotificationOutboxRepository

abbrev outboxSignature : Signature where
  Op := OutboxOp
  Answer := OutboxOp.Answer

/-- Every method awaits its session, and `deliver` its receiver. -/
def outboxMachine {σ : Type} (env : OutboxEnvironment σ) :
    Machine outboxSignature (OutboxWorld σ) where
  awaits _ := true
  ready _ _ _ := true
  exec := SqlAlchemyNotificationOutboxRepository.exec env

/-- A coroutine over the outbox. -/
abbrev OutboxTask (α : Type) := Task outboxSignature PyException α

namespace OutboxTask
variable {α : Type}

def perform (o : OutboxOp) : OutboxTask o.Answer :=
  ExceptT.lift (Prog.perform (F := outboxSignature) o)

/-- The value of an answer, or the exception it is. -/
def fromExcept (result : Except PyException α) : OutboxTask α := ExceptT.mk (Prog.pure result)

end OutboxTask
end PurchaseAgent
