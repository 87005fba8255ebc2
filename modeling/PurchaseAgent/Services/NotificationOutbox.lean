import PurchaseAgent.Storage.SqlOutbox

/-!
Dispatching the notification outbox: claim a batch, deliver each message and
acknowledge what became of it.
-/

namespace PurchaseAgent

open Cooperative

structure NotificationDispatchResult where
  claimedCount : Nat
  deliveredCount : Nat
  retryScheduledCount : Nat
  permanentlyFailedCount : Nat

def NotificationDispatchResult.countFailure (result : NotificationDispatchResult)
    (exhausted : Bool) : NotificationDispatchResult :=
  if exhausted then { result with permanentlyFailedCount := result.permanentlyFailedCount + 1 }
  else { result with retryScheduledCount := result.retryScheduledCount + 1 }

/-- `delta / 2`, which rounds half to even. -/
def TimeDelta.half (delta : TimeDelta) : TimeDelta :=
  if delta % 2 = 1 ∧ delta / 2 % 2 = 1 then delta / 2 + 1 else delta / 2

/-- The loop of `_exponential_retry_delay` after `n` rounds. -/
def exponentialRetryDelayLoop (maxDelay delay : TimeDelta) : Nat → TimeDelta
  | 0 => min delay maxDelay
  | n + 1 =>
    if TimeDelta.half maxDelay ≤ delay then maxDelay
    else exponentialRetryDelayLoop maxDelay (delay * 2) n

def exponentialRetryDelay (baseDelay maxDelay : TimeDelta) (attempt : Nat) : TimeDelta :=
  exponentialRetryDelayLoop maxDelay baseDelay (attempt - 1)

example : exponentialRetryDelay (seconds 30) (seconds 900) 3 = seconds 120 := by decide

namespace DeliveryFailure

/-- `not isinstance(exc, NotificationDeliveryError) or exc.retryable`. -/
def retryable : DeliveryFailure → Bool
  | .notificationDeliveryError _ _ retryable => retryable
  | .exception _ => true

/-- The delay the receiver asks for. -/
def retryDelay : DeliveryFailure → Option TimeDelta
  | .notificationDeliveryError _ retryDelay _ => retryDelay
  | .exception _ => none

/-- What `except Exception` does not catch. -/
def uncaught : DeliveryFailure → Option PyException
  | .notificationDeliveryError _ _ _ => none
  | .exception error => if error.isException then none else some error

/-- `str(exc)`. -/
def str : DeliveryFailure → String
  | .notificationDeliveryError message _ _ => message
  | .exception error => error.str

end DeliveryFailure

/-- The keyword arguments of `dispatch_pending_notifications`. -/
structure DispatchOptions where
  limit : Int := 100
  retryDelay : TimeDelta := seconds 30
  maxRetryDelay : TimeDelta := seconds 900
  maxAttempts : Int := 5

/-- The handler of `except Exception as exc`: is the failure permanent? -/
def recordDeliveryFailure (currentTime : Time) (options : DispatchOptions)
    (message : NotificationOutboxMessage) (failure : DeliveryFailure) : OutboxTask Bool := do
  let exhausted := !failure.retryable || message.exhausted options.maxAttempts
  let requestedRetryDelay := failure.retryDelay.getD
    (exponentialRetryDelay options.retryDelay options.maxRetryDelay message.deliveryAttempts)
  let retryAt ← OutboxTask.fromExcept
    ((Time.add currentTime requestedRetryDelay).mapError .overflowError)
  let recorded ← OutboxTask.perform (.markDeliveryFailed message.id currentTime retryAt failure.str
    (if failure.retryable then options.maxAttempts else message.deliveryAttempts))
  OutboxTask.fromExcept recorded
  pure exhausted

/-- The loop of `dispatch_pending_notifications`. -/
def deliverMessages (currentTime : Time) (options : DispatchOptions) :
    List NotificationOutboxMessage → NotificationDispatchResult →
      OutboxTask NotificationDispatchResult
  | [], result => pure result
  | message :: rest, result => do
    match ← OutboxTask.perform (.deliver message) with
    | .ok () =>
      OutboxTask.perform (.markDelivered message.id currentTime)
      deliverMessages currentTime options rest
        { result with deliveredCount := result.deliveredCount + 1 }
    | .error failure =>
      match failure.uncaught with
      | some error => throw error
      | none =>
        let exhausted ← recordDeliveryFailure currentTime options message failure
        deliverMessages currentTime options rest (result.countFailure exhausted)

def dispatchPendingNotifications (currentTime : Time) (options : DispatchOptions) :
    OutboxTask NotificationDispatchResult := do
  if options.retryDelay ≤ 0 then throw (.valueError "retry_delay must be greater than zero")
  else if options.maxRetryDelay < options.retryDelay then
    throw (.valueError "max_retry_delay must not be less than retry_delay")
  else if options.maxAttempts < 1 then
    throw (.valueError "max_attempts must be at least one")
  else
    let messages ← OutboxTask.fromExcept
      (← OutboxTask.perform (.claimPending currentTime options.limit))
    deliverMessages currentTime options messages ⟨messages.length, 0, 0, 0⟩

/-- `process_notification_worker_cycle`, with the messages it has recovered. -/
def processNotificationWorkerCycle (currentTime : Time) (claimTimeout : TimeDelta)
    (options : DispatchOptions) : OutboxTask (Nat × NotificationDispatchResult) := do
  let recovered ← OutboxTask.fromExcept
    (← OutboxTask.perform (.recoverStaleClaims currentTime claimTimeout options.limit))
  let dispatch ← dispatchPendingNotifications currentTime options
  pure (recovered.length, dispatch)

end PurchaseAgent
