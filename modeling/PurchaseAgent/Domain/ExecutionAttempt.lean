import PurchaseAgent.Domain.Values

/-!
Audit records of mission claims.
-/

namespace PurchaseAgent

inductive MissionExecutionAttemptStatus where
  | processing
  | requiresConfirmation
  | completed
  | failed
  | recovered
deriving DecidableEq, Repr

/-- An immutable audit record for one successful mission claim. -/
structure MissionExecutionAttempt where
  missionId : UUID
  attemptNumber : Nat
  status : MissionExecutionAttemptStatus
  claimedAt : Time
  finishedAt : Option Time
  resolvedProviderId : Option String
  reservationId : Option String
deriving DecidableEq, Repr

/-- The record `claim_due` opens. -/
def MissionExecutionAttempt.opened (missionId : UUID) (attemptNumber : Nat) (claimedAt : Time) :
    MissionExecutionAttempt where
  missionId := missionId
  attemptNumber := attemptNumber
  status := .processing
  claimedAt := claimedAt
  finishedAt := none
  resolvedProviderId := none
  reservationId := none

end PurchaseAgent
