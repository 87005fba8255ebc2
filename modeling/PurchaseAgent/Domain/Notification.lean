import PurchaseAgent.Domain.Values

/-!
Notification outbox messages: a user-facing event with the state of its
delivery.
-/

namespace PurchaseAgent

inductive NotificationOutboxStatus where
  | pending
  | processing
  | delivered
  | failed
deriving DecidableEq, Repr

/-- A row of `notification_outbox`, and what is read from one. -/
structure NotificationOutboxMessage where
  id : UUID
  missionId : UUID
  eventId : UUID
  eventType : String
  occurredAt : Time
  payload : List (String × PyValue)
  recipientIds : List UUID
  status : NotificationOutboxStatus
  deliveryAttempts : Nat
  availableAt : Time
  claimedAt : Option Time
  deliveredAt : Option Time
  lastError : Option String
deriving DecidableEq, Repr

/-- What an event contributes to its message. -/
structure NotificationContent where
  missionId : UUID
  eventId : UUID
  eventType : String
  occurredAt : Time
  payload : List (String × PyValue)
  recipientIds : List UUID
deriving DecidableEq, Repr

/-- The row that is added for an event. -/
def NotificationContent.message (content : NotificationContent) (id : UUID) :
    NotificationOutboxMessage where
  id := id
  missionId := content.missionId
  eventId := content.eventId
  eventType := content.eventType
  occurredAt := content.occurredAt
  payload := content.payload
  recipientIds := content.recipientIds
  status := .pending
  deliveryAttempts := 0
  availableAt := content.occurredAt
  claimedAt := none
  deliveredAt := none
  lastError := none

namespace NotificationOutboxMessage

/-- What `claim_pending` makes of a message. -/
def claimed (currentTime : Time) (message : NotificationOutboxMessage) :
    NotificationOutboxMessage :=
  { message with
    status := .processing
    claimedAt := some currentTime
    deliveryAttempts := message.deliveryAttempts + 1 }

/-- What `mark_delivered` makes of a message. -/
def delivered (deliveredAt : Time) (message : NotificationOutboxMessage) :
    NotificationOutboxMessage :=
  { message with
    status := .delivered
    deliveredAt := some deliveredAt
    claimedAt := none
    lastError := none }

/-- What `recover_stale_claims` makes of a message. -/
def recovered (currentTime : Time) (message : NotificationOutboxMessage) :
    NotificationOutboxMessage :=
  { message with
    status := .pending
    availableAt := currentTime
    claimedAt := none
    lastError := some "Delivery claim recovered after timeout." }

/-- `delivery_attempts >= max_attempts`. -/
def exhausted (maxAttempts : Int) (message : NotificationOutboxMessage) : Bool :=
  maxAttempts ≤ message.deliveryAttempts

/-- What `mark_delivery_failed` makes of a message. -/
def attemptFailed (retryAt : Time) (error : String) (maxAttempts : Int)
    (message : NotificationOutboxMessage) : NotificationOutboxMessage :=
  { message with
    status := if message.exhausted maxAttempts then .failed else .pending
    availableAt := retryAt
    claimedAt := none
    lastError := some (String.ofList (error.toList.take 2000)) }

/-- What `requeue_failed` makes of a message. -/
def requeued (currentTime : Time) (message : NotificationOutboxMessage) :
    NotificationOutboxMessage :=
  { message with
    status := .pending
    deliveryAttempts := 0
    availableAt := currentTime
    claimedAt := none
    deliveredAt := none
    lastError := none }

end NotificationOutboxMessage
end PurchaseAgent
