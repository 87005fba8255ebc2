import PurchaseAgent.Domain.Errors

/-!
What escapes from the API layer: its own exceptions, HTTP answers with an error
status, and what the services raise.
-/

namespace PurchaseAgent

/-- `HTTPException(status_code, detail)`. -/
structure HTTPException where
  statusCode : Nat
  detail : PyValue
deriving DecidableEq, Repr

inductive ApiException where
  | missionCommandIdempotencyConflictError
  | missionCommandInProgressError
  | resourceCreationConflictError
  | resourceCreationInProgressError
  | keyError
  | assertionError
  | httpException (answer : HTTPException)
  | service (error : PyException)
deriving DecidableEq, Repr

/-- A detail with a code and a message. -/
def HTTPException.coded (statusCode : Nat) (code message : String)
    (further : List (String × PyValue) := []) : HTTPException :=
  ⟨statusCode, .dict ([("code", .str code), ("message", .str message)] ++ further)⟩

end PurchaseAgent
