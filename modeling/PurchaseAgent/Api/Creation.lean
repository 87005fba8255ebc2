import PurchaseAgent.Api.Preconditions
import PurchaseAgent.Storage.Idempotency
import PurchaseAgent.Storage.Resources

/-!
Creation of missions and identities over the API. A request with an idempotency
key creates its resource under a receipt for the key; a mission request first
makes sure that its participants exist.
-/

namespace PurchaseAgent

open Cooperative Receipts
open InMemoryResourceCreationIdempotencyStore (Api)

structure TrainTicketMissionPayloadCreate where
  origin : String
  destination : String
  departureDate : Date

/-- A validated body of `POST /missions`. -/
structure MissionCreate where
  type : Option String
  missionType : MissionType
  payload : TrainTicketMissionPayloadCreate
  title : String
  participantIds : List UUID
  provider : String
  executionMode : MissionExecutionMode
  providerId : Option ProviderId
  constraints : TrainConstraints
  fallbackRules : FallbackRules
  scheduledAt : Option Time
  expiresAt : Option Time
  maxExecutionAttempts : Nat
  participantIds_nodup : participantIds.Nodup
  participantIds_length : constraints.passengersCount = participantIds.length
  provider_nonempty : provider ≠ ""
  maxExecutionAttempts_pos : 1 ≤ maxExecutionAttempts
  maxExecutionAttempts_le : maxExecutionAttempts ≤ 100
  scheduledAt_le : ∀ scheduledAt' ∈ scheduledAt, ∀ expiresAt' ∈ expiresAt, scheduledAt' ≤ expiresAt'

inductive DocumentType where
  | internalPassport
  | internationalPassport
  | birthCertificate

structure DocumentCreate where
  type : DocumentType
  number : String
  expiresAt : Option Date

structure TrainPreferences where
  prefersLowerBerth : Option Bool
  avoidToilet : Option Bool
  preferSameCompartment : Option Bool

inductive NotificationChannel where
  | webhook
  | email
  | telegram

structure NotificationPreferences where
  enabled : Bool
  channels : List NotificationChannel
  externalRecipientId : Option String

structure Preferences where
  train : TrainPreferences
  notifications : NotificationPreferences

/-- A validated body of `POST /identities`. -/
structure IdentityCreate where
  displayName : String
  firstName : String
  lastName : String
  birthDate : Date
  documents : List DocumentCreate
  preferences : Preferences

/-- What the endpoints take from the standard library. -/
structure CreationLibrary where
  casefold : String → String
  /-- `creation_fingerprint` of a mission request. -/
  missionFingerprint : MissionCreate → String
  /-- `creation_fingerprint` of an identity request. -/
  identityFingerprint : IdentityCreate → String

/-- The city validator of `TrainTicketMissionPayload`. -/
def normalizeCity (value : String) : Except PyException String :=
  if 200 < value.length then
    .error (.other "ValidationError" "String should have at most 200 characters")
  else if strip value = "" then .error (.other "ValidationError" "city must not be empty")
  else .ok (strip value)

def TrainTicketMissionPayloadCreate.toDomain (payload : TrainTicketMissionPayloadCreate)
    (library : CreationLibrary) : Except PyException TrainTicketMissionPayload := do
  let origin ← normalizeCity payload.origin
  let destination ← normalizeCity payload.destination
  if library.casefold origin = library.casefold destination then
    .error (.other "ValidationError" "origin and destination must be different")
  else .ok ⟨origin, destination, payload.departureDate⟩

/-- `to_domain` with the id it draws. -/
def MissionCreate.toDomain (mission : MissionCreate) (library : CreationLibrary) (id : UUID) :
    Except PyException Mission := do
  let payload ← mission.payload.toDomain library
  pure {
    id := id
    type := .trainTicket
    missionType := mission.missionType
    payload := payload
    title := mission.title
    status := if mission.scheduledAt.isSome then .waiting else .created
    participantIds := mission.participantIds
    provider := mission.provider
    executionMode := mission.executionMode
    providerId := mission.providerId
    resolvedProviderId := none
    reservationId := none
    constraints := mission.constraints
    fallbackRules := mission.fallbackRules
    scheduledAt := mission.scheduledAt
    expiresAt := mission.expiresAt
    claimedAt := none
    executionAttempts := 0
    maxExecutionAttempts := mission.maxExecutionAttempts
    lastEventSequence := 0
    executionLog := []
    bestOption := none }

/-- `mission_repository.create(mission.to_domain())`. -/
def createMissionFrom (library : CreationLibrary) (mission : MissionCreate) :
    ResourceTask Mission := do
  let id ← ResourceTask.perform .newId
  let mission ← ResourceTask.fromExcept (mission.toDomain library id)
  ResourceTask.perform (.createMission mission)

/-- `repository.create(identity.to_domain())`. The documents get ids of their own. -/
def createIdentityFrom (identity : IdentityCreate) : ResourceTask VersionedIdentity := do
  let id ← ResourceTask.perform .newId
  let _ ← identity.documents.mapM fun _ => ResourceTask.perform .newId
  ResourceTask.perform (.createIdentity ⟨⟨id⟩, 0⟩)

def identityEtag (identity : VersionedIdentity) : String := "\"" ++ toString identity.version ++ "\""

/-- A successful answer with its ETag. -/
inductive CreationResponse where
  | mission (body : Mission) (etag : String)
  | identity (body : VersionedIdentity) (etag : String)
  | other
deriving DecidableEq

def CreationResponse.resourceId : CreationResponse → Option UUID
  | .mission body _ => some body.id
  | .identity body _ => some body.id
  | .other => none

def unknownParticipantIds : List UUID → ResourceTask (List String)
  | [] => pure []
  | participantId :: rest => do
    let identity ← ResourceTask.perform (.getIdentity participantId)
    let unknown ← unknownParticipantIds rest
    pure (if identity.isNone then participantId.str :: unknown else unknown)

def unknownParticipants (participantIds : List String) : HTTPException :=
  .coded 422 "unknown_participants" "One or more participants do not exist"
    [("participant_ids", .list (participantIds.map .str))]

def creationConflict : HTTPException :=
  .coded 409 "idempotency_key_conflict" "Idempotency-Key was already used with another request."

def creationInProgress : HTTPException :=
  .coded 409 "idempotent_request_in_progress"
    "A request with this Idempotency-Key is in progress."

def identityGone : HTTPException :=
  .coded 410 "idempotent_resource_gone" "The previously created Identity was deleted."

/-- A creation, whose end goes on record. -/
def createRecorded {α : Type} (create : ResourceTask α) (idOf : α → UUID) :
    Api resourceSignature α := do
  match ← ApiTask.attempt (ApiTask.service create) with
  | .ok created =>
    ApiTask.left (some (idOf created))
    pure created
  | .error error =>
    ApiTask.left none
    throw error

/-- The `try` block of both endpoints, with its handlers. -/
def createUnderKey {α : Type} (scope : ResourceCreationScope) (key fingerprint : String)
    (idOf : α → UUID) (replay : UUID → Api resourceSignature α) (create : ResourceTask α) :
    Api resourceSignature α := do
  match ← ApiTask.attempt (do
      match ← InMemoryResourceCreationIdempotencyStore.begin scope key fingerprint with
      | some previousId => replay previousId
      | none =>
        let created ← createRecorded create idOf
        InMemoryResourceCreationIdempotencyStore.complete scope key (idOf created)
        pure created) with
  | .ok resource => pure resource
  | .error .resourceCreationConflictError => throw (.httpException creationConflict)
  | .error .resourceCreationInProgressError => throw (.httpException creationInProgress)
  | .error error =>
    InMemoryResourceCreationIdempotencyStore.abort scope key fingerprint
    throw error

def replayMission (previousId : UUID) : Api resourceSignature Mission := do
  match ← ApiTask.service (ResourceTask.perform (.getMission previousId)) with
  | some previous => pure previous
  | none => throw .assertionError

def replayIdentity (previousId : UUID) : Api resourceSignature VersionedIdentity := do
  match ← ApiTask.service (ResourceTask.perform (.getIdentity previousId)) with
  | some previous => pure previous
  | none => throw (.httpException identityGone)

def createMission (library : CreationLibrary) (mission : MissionCreate)
    (idempotencyKey : Option String) : Api resourceSignature CreationResponse := do
  let unknown ← ApiTask.service (unknownParticipantIds mission.participantIds)
  if unknown ≠ [] then throw (.httpException (unknownParticipants unknown))
  else
    let created ← match idempotencyKey with
      | none => ApiTask.service (createMissionFrom library mission)
      | some key =>
        createUnderKey .mission key (library.missionFingerprint mission) (·.id) replayMission
          (createMissionFrom library mission)
    pure (.mission created (missionEtag created))

def createIdentity (library : CreationLibrary) (identity : IdentityCreate)
    (idempotencyKey : Option String) : Api resourceSignature CreationResponse := do
  let created ← match idempotencyKey with
    | none => ApiTask.service (createIdentityFrom identity)
    | some key =>
      createUnderKey .identity key (library.identityFingerprint identity) (·.id) replayIdentity
        (createIdentityFrom identity)
  pure (.identity created (identityEtag created))

/-- The requests, and whatever else works on the repositories. -/
inductive CreationRequest where
  | mission (body : MissionCreate) (idempotencyKey : Option String)
  | identity (body : IdentityCreate) (idempotencyKey : Option String)
  | other (program : ResourceTask Unit)

namespace CreationRequest

def run (library : CreationLibrary) : CreationRequest → Api resourceSignature CreationResponse
  | .mission body idempotencyKey => createMission library body idempotencyKey
  | .identity body idempotencyKey => createIdentity library body idempotencyKey
  | .other program => do
    ApiTask.service program
    pure .other

/-- The receipt a request asks for. -/
def receipt (library : CreationLibrary) :
    CreationRequest → Option ((ResourceCreationScope × String) × String)
  | .mission body idempotencyKey =>
      idempotencyKey.map fun key => ((.mission, key), library.missionFingerprint body)
  | .identity body idempotencyKey =>
      idempotencyKey.map fun key => ((.identity, key), library.identityFingerprint body)
  | .other _ => none

end CreationRequest
end PurchaseAgent
