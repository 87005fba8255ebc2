import PurchaseAgent.Api.Exceptions
import PurchaseAgent.Cooperative.ReceiptProtocol
import PurchaseAgent.Domain.Values

/-!
The in-memory receipt stores of the API, for mission commands and for created
resources. The lock of a store is never contended, because nothing is awaited
while it is held.
-/

namespace PurchaseAgent

open Cooperative Receipts

inductive MissionCommandType where
  | run
  | confirm
  | cancel
  | retry
  | pause
  | resume
deriving DecidableEq, Repr

inductive ResourceCreationScope where
  | identity
  | mission
deriving DecidableEq, Repr

/-- A coroutine of the API that uses receipts beside other operations. -/
abbrev ApiTask (K P R : Type) (F : Signature) (α : Type) :=
  Task (Receipts.signature K P R F) ApiException α

namespace ApiTask
variable {K P R α : Type} {F : Signature}

def perform (o : Receipts.Op K P R F) : ApiTask K P R F o.Answer :=
  ExceptT.lift (Prog.perform (F := Receipts.signature K P R F) o)

/-- A coroutine that uses no receipts. -/
def service (p : Task F PyException α) : ApiTask K P R F α :=
  ExceptT.mk ((embed p.run).bind fun outcome => .pure (outcome.mapError .service))

/-- `try: ...`, with the outcome left to the handlers. -/
def attempt (p : ApiTask K P R F α) : ApiTask K P R F (Except ApiException α) :=
  ExceptT.lift p.run

/-- `begin` of a store with the given exceptions. -/
def begin (conflict inProgress : ApiException) (key : K) (request : P) :
    ApiTask K P R F (Option R) := do
  match ← perform (.begin key request) with
  | .ok result => pure result
  | .error .conflict => throw conflict
  | .error .inProgress => throw inProgress

def complete (key : K) (result : R) : ApiTask K P R F Unit := do
  if ← perform (.complete key result) then pure ()
  else throw .keyError

def abort (key : K) (request : P) : ApiTask K P R F Unit := perform (.abort key request)

/-- The end of the work under a receipt, for the record. -/
def left (result : Option R) : ApiTask K P R F Unit := perform (.left result)

end ApiTask

namespace InMemoryMissionCommandIdempotencyStore
variable {F : Signature}

/-- Receipts of the request for a command on a mission, with the id of the
mission that the command returned. -/
abbrev Api (F : Signature) (α : Type) := ApiTask String (UUID × MissionCommandType) UUID F α

def begin (key : String) (missionId : UUID) (command : MissionCommandType) :
    Api F (Option UUID) :=
  ApiTask.begin .missionCommandIdempotencyConflictError .missionCommandInProgressError key
    (missionId, command)

def complete (key : String) (missionId : UUID) : Api F Unit := ApiTask.complete key missionId

def abort (key : String) (missionId : UUID) (command : MissionCommandType) : Api F Unit :=
  ApiTask.abort key (missionId, command)

end InMemoryMissionCommandIdempotencyStore

namespace InMemoryResourceCreationIdempotencyStore
variable {F : Signature}

/-- Receipts of the fingerprint of a creation request, with the id of the
resource. -/
abbrev Api (F : Signature) (α : Type) :=
  ApiTask (ResourceCreationScope × String) String UUID F α

def begin (scope : ResourceCreationScope) (key fingerprint : String) : Api F (Option UUID) :=
  ApiTask.begin .resourceCreationConflictError .resourceCreationInProgressError (scope, key)
    fingerprint

def complete (scope : ResourceCreationScope) (key : String) (resourceId : UUID) : Api F Unit :=
  ApiTask.complete (scope, key) resourceId

def abort (scope : ResourceCreationScope) (key fingerprint : String) : Api F Unit :=
  ApiTask.abort (scope, key) fingerprint

end InMemoryResourceCreationIdempotencyStore
end PurchaseAgent
