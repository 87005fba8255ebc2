import PurchaseAgent.Api.Preconditions
import PurchaseAgent.Services.MissionCommands
import PurchaseAgent.Services.MissionEngine
import PurchaseAgent.Services.MissionRetry
import PurchaseAgent.Storage.Idempotency

/-!
Mission commands of the API: a command with an idempotency key is executed under
a receipt for that key, after `If-Match` has been compared with the version of
the mission.
-/

namespace PurchaseAgent

open Cooperative Receipts
open InMemoryMissionCommandIdempotencyStore (Api)

variable {B : Backend}

/-- `await execute()` and the id of its result. -/
def resultWithId (execute : Service B Ref) : Service B (Ref × UUID) := do
  let result ← execute
  pure (result, (← Service.read result).id)

/-- An execution, whose end goes on record. -/
def executeRecorded (execute : Service B Ref) : Api (signature B) (Ref × UUID) := do
  match ← ApiTask.attempt (ApiTask.service (resultWithId execute)) with
  | .ok (result, id) =>
    ApiTask.left (some id)
    pure (result, id)
  | .error error =>
    ApiTask.left none
    throw error

def executeIdempotentMissionCommand (repository : MissionRepository B) (missionId : UUID)
    (command : MissionCommandType) (idempotencyKey : String) (execute : Service B Ref) :
    Api (signature B) Ref := do
  match ← InMemoryMissionCommandIdempotencyStore.begin idempotencyKey missionId command with
  | some previous =>
    match ← ApiTask.service (repository.get previous) with
    | some result => pure result
    | none => throw .assertionError
  | none =>
    match ← ApiTask.attempt (do
        let (result, id) ← executeRecorded execute
        InMemoryMissionCommandIdempotencyStore.complete idempotencyKey id
        pure result) with
    | .ok result => pure result
    | .error error =>
      InMemoryMissionCommandIdempotencyStore.abort idempotencyKey missionId command
      throw error

/-- A call with its arguments. -/
structure MissionCommandCall (B : Backend) where
  missionId : UUID
  command : MissionCommandType
  idempotencyKey : String
  execute : Service B Ref

def MissionCommandCall.run (call : MissionCommandCall B) (repository : MissionRepository B) :
    Api (signature B) Ref :=
  executeIdempotentMissionCommand repository call.missionId call.command call.idempotencyKey
    call.execute

def ensureMissionVersion (repository : MissionRepository B) (missionId : UUID)
    (ifMatch : Option String) : Api (signature B) Unit :=
  match ifMatch with
  | none => pure ()
  | some ifMatch =>
    match expectedSequence ifMatch with
    | none => throw (.httpException invalidMissionVersion)
    | some expected =>
      if expected < 0 then throw (.httpException invalidMissionVersion)
      else do
        match ← ApiTask.service (repository.get missionId) with
        | none => throw (.service .missionNotFoundError)
        | some r =>
          let mission ← ApiTask.service (Service.read r)
          if (mission.lastEventSequence : Int) ≠ expected then
            throw (.httpException (missionVersionConflict mission.lastEventSequence expected))
          else pure ()

/-- The body of a command endpoint. `handle` is what its own `except` clauses
make of an exception of the service. -/
def missionCommandEndpoint (repository : MissionRepository B) (missionId : UUID)
    (command : MissionCommandType) (idempotencyKey : String) (ifMatch : Option String)
    (execute : Service B Ref) (handle : PyException → Option HTTPException) :
    Api (signature B) (Ref × String) := do
  match ← ApiTask.attempt (do
      ensureMissionVersion repository missionId ifMatch
      let mission ←
        executeIdempotentMissionCommand repository missionId command idempotencyKey execute
      pure (mission, missionEtag (← ApiTask.service (Service.read mission)))) with
  | .ok response => pure response
  | .error .missionCommandIdempotencyConflictError =>
    throw (.httpException ⟨409, .str "Idempotency key conflict"⟩)
  | .error .missionCommandInProgressError =>
    throw (.httpException ⟨409, .str "Command is in progress"⟩)
  | .error (.service .missionNotFoundError) =>
    throw (.httpException ⟨404, .str "Mission not found"⟩)
  | .error (.service error) =>
    match handle error with
    | some answer => throw (.httpException answer)
    | none => throw (.service error)
  | .error error => throw error

section Endpoints
variable (repository : MissionRepository B) (registry : ProviderRegistry) (missionId : UUID)
  (idempotencyKey : String) (ifMatch : Option String)

def runMissionEndpoint : Api (signature B) (Ref × String) :=
  missionCommandEndpoint repository missionId .run idempotencyKey ifMatch
    (runMission repository registry missionId) fun
      | .invalidMissionRunError message => some ⟨409, .str message⟩
      | .missionNotReadyError message => some ⟨409, .str message⟩
      | _ => none

def confirmMissionEndpoint : Api (signature B) (Ref × String) :=
  missionCommandEndpoint repository missionId .confirm idempotencyKey ifMatch
    (confirmMission repository registry missionId) fun
      | .invalidMissionConfirmationError message => some ⟨409, .str message⟩
      | _ => none

def cancelMissionEndpoint : Api (signature B) (Ref × String) :=
  missionCommandEndpoint repository missionId .cancel idempotencyKey ifMatch
    (cancelMission repository registry missionId) fun
      | .invalidMissionCancellationError message => some ⟨409, .str message⟩
      | _ => none

/-- The `details` of an answer that names a status. -/
def statusDetails (status : MissionStatus) : List (String × PyValue) :=
  [("details", .dict [("status", .str status.value)])]

def pauseMissionEndpoint : Api (signature B) (Ref × String) :=
  missionCommandEndpoint repository missionId .pause idempotencyKey ifMatch
    (pauseMission repository missionId) fun
      | .missionPauseNotAllowedError status =>
        some (.coded 409 "mission_pause_not_allowed"
          (PyException.missionPauseNotAllowedError status).str (statusDetails status))
      | _ => none

def resumeMissionEndpoint : Api (signature B) (Ref × String) :=
  missionCommandEndpoint repository missionId .resume idempotencyKey ifMatch
    (resumeMission repository missionId) fun
      | .missionResumeNotAllowedError status =>
        some (.coded 409 "mission_resume_not_allowed"
          (PyException.missionResumeNotAllowedError status).str (statusDetails status))
      | _ => none

def retryMissionEndpoint (retryAt : Option Time) : Api (signature B) (Ref × String) :=
  missionCommandEndpoint repository missionId .retry idempotencyKey ifMatch
    (retryMission repository missionId { retryAt := retryAt }) fun
      | .missionRetryNotAllowedError status =>
        some (.coded 409 "mission_retry_not_allowed"
          "Mission cannot be retried in its current state." (statusDetails status))
      | .missionAttemptsExhaustedError message =>
        some (.coded 409 "mission_attempts_exhausted" message)
      | .invalidMissionRetryTimeError message => some ⟨422, .str message⟩
      | _ => none

end Endpoints

/-- A request for a command. Only `retry` has a body. -/
structure MissionCommandRequest where
  command : MissionCommandType
  missionId : UUID
  idempotencyKey : String
  ifMatch : Option String
  retryAt : Option Time

def MissionCommandRequest.endpoint (request : MissionCommandRequest)
    (repository : MissionRepository B) (registry : ProviderRegistry) :
    Api (signature B) (Ref × String) :=
  match request.command with
  | .run => runMissionEndpoint repository registry request.missionId request.idempotencyKey
      request.ifMatch
  | .confirm => confirmMissionEndpoint repository registry request.missionId
      request.idempotencyKey request.ifMatch
  | .cancel => cancelMissionEndpoint repository registry request.missionId
      request.idempotencyKey request.ifMatch
  | .pause => pauseMissionEndpoint repository request.missionId request.idempotencyKey
      request.ifMatch
  | .resume => resumeMissionEndpoint repository request.missionId request.idempotencyKey
      request.ifMatch
  | .retry => retryMissionEndpoint repository request.missionId request.idempotencyKey
      request.ifMatch request.retryAt

end PurchaseAgent
