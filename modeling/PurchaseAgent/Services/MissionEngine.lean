import PurchaseAgent.Services.ProviderResolver
import PurchaseAgent.Services.RuleEngine
import PurchaseAgent.Services.Runtime

/-!
The mission engine: expiration of a loaded mission, running, confirming and
cancelling. `run_mission` is cut where it awaits the provider, so that each part
goes on from one answer.
-/

namespace PurchaseAgent

open Service

def expirableStatuses : List MissionStatus := [.created, .waiting, .paused]

def expiredMetadata (expiresAt : Time) (previousStatus : MissionStatus) :
    List (String × PyValue) :=
  [("expires_at", .str (isoformat expiresAt)), ("previous_status", .str previousStatus.value)]

def isScheduledForFuture (mission : Mission) (currentTime : Time) : Bool :=
  match mission.scheduledAt with
  | some scheduledAt => currentTime < scheduledAt
  | none => false

def reservationIdempotencyKey (mission : Mission) : String := s!"mission:{mission.id.str}"

def confirmationIdempotencyKey (mission : Mission) : String :=
  s!"mission:{mission.id.str}:confirmation"

def cancellationIdempotencyKey (mission : Mission) : String :=
  s!"mission:{mission.id.str}:cancellation"

/-- `_requires_provider_confirmation`, with the two ids when it is true. -/
def requiresProviderConfirmation (mission : Mission) :
    Except PyException (Option (String × String)) :=
  match mission.resolvedProviderId, mission.reservationId with
  | none, none => .ok none
  | some providerId, some reservationId => .ok (some (providerId, reservationId))
  | _, _ => .error (.invalidMissionConfirmationError "Mission reservation metadata is incomplete")

/-- The `retryable` flag of a `ProviderOperationError`. -/
def PyException.retryable? : PyException → Option Bool
  | .providerOperationError _ _ retryable => some retryable
  | _ => none

variable {B : Backend} (repository : MissionRepository B)

def expireMissionIfDue (r : Ref) (currentTime : Time) : Service B Bool := do
  let mission ← read r
  match mission.expiresAt with
  | none => pure false
  | some expiresAt =>
    if mission.status ∉ expirableStatuses ∨ currentTime < expiresAt then pure false
    else do
      transition r .expired
      recordEvent r currentTime "mission_expired" "Mission expired before execution."
        (expiredMetadata expiresAt mission.status)
      let _ ← repository.update r
      pure true

/-- Change the status, record it with an event and store the mission. -/
def concludeMission (r : Ref) (target : MissionStatus) (eventType message : String)
    (metadata : List (String × PyValue) := []) : Service B Ref := do
  transition r target
  addEvent r eventType message metadata
  repository.update r

def failProviderOperation (r : Ref) (providerId operation : String) (retryable : Bool) :
    Service B Ref :=
  concludeMission repository r .failed "provider_operation_failed" "Provider operation failed."
    [("provider_id", .str providerId), ("operation", .str operation),
      ("retryable", .bool retryable)]

/-- `try: answer = await adapter.method(...)` with a handler for
`ProviderOperationError`; every other exception goes up. -/
def callProvider (r : Ref) (call : ProviderCall) (handler : Bool → Service B Ref)
    (proceed : call.Answer → Service B Ref) : Service B Ref := do
  match ← attempt (provider r call) with
  | .ok answer => proceed answer
  | .error error =>
    match error.retryable? with
    | some retryable => handler retryable
    | none => throw error

/-- The end of `run_mission`. -/
def completeMission (r : Ref) : Service B Ref := do
  let mission ← read r
  concludeMission repository r .completed "mission_completed" "Mission completed automatically."
    [("execution_mode", .str mission.executionMode.value)]

/-- `run_mission` from the reservation on. -/
def reservationMade (r : Ref) (providerId : String) (result : ReservationResult)
    (reservationId : String) : Service B Ref := do
  assign r (.reservationId (some reservationId))
  addEvent r "reservation_succeeded" "Reservation succeeded."
    [("reservation_id", .str reservationId),
      ("requires_confirmation", .bool result.requiresConfirmation)]
  let mission ← read r
  if mission.executionMode = .requireConfirmation then
    concludeMission repository r .requiresConfirmation "waiting_for_user_confirmation"
      "Waiting for user confirmation."
      [("execution_mode", .str mission.executionMode.value),
        ("provider_requires_confirmation", .bool result.requiresConfirmation)]
  else if result.requiresConfirmation then do
    addEvent r "automatic_confirmation_started" "Automatic reservation confirmation started."
      [("provider_id", .str providerId)]
    callProvider r
      (.confirmReservation providerId reservationId (confirmationIdempotencyKey mission))
      (failProviderOperation repository r providerId "automatic_confirmation")
      fun confirmation =>
        if confirmation.success = false then
          concludeMission repository r .failed "automatic_confirmation_failed"
            "Automatic reservation confirmation failed." [("provider_id", .str providerId)]
        else do
          addEvent r "automatic_confirmation_succeeded"
            "Automatic reservation confirmation succeeded." [("provider_id", .str providerId)]
          completeMission repository r
  else completeMission repository r

/-- `run_mission` from the call of `reserve_option` on. -/
def reserveBest (r : Ref) (providerId : String) (best : ScoredOption) (mission : Mission) :
    Service B Ref :=
  callProvider r
    (.reserveOption providerId best.option (reservationIdempotencyKey mission))
    (failProviderOperation repository r providerId "reservation")
    fun result =>
      match result.success, result.reservationId with
      | false, _ =>
        concludeMission repository r .failed "reservation_failed" "Reservation failed."
          [("provider_id", .str providerId)]
      | true, none => throw (.assertionError "")
      | true, some reservationId => reservationMade repository r providerId result reservationId

/-- `run_mission` from the selected option on. -/
def bestSelected (r : Ref) (providerId : String) (isProcessingRun : Bool) (best : ScoredOption) :
    Service B Ref := do
  if isProcessingRun = false then transition r .optionFound else pure ()
  assign r (.bestOption (some best.option))
  addEvent r "best_option_selected" "Best option selected."
    [("score", .int best.score), ("reasons", .list (best.reasons.map .str))]
  let mission ← read r
  if mission.executionMode = .searchOnly then
    concludeMission repository r .completed "mission_search_completed"
      "Mission completed without creating a reservation."
      [("execution_mode", .str mission.executionMode.value)]
  else do
    if isProcessingRun = false then transition r .reserving else pure ()
    addEvent r "reservation_started" "Reservation started."
    reserveBest repository r providerId best mission

/-- `run_mission` from the answer of `search_options` on. -/
def optionsFound (r : Ref) (providerId : String) (isProcessingRun : Bool)
    (options : List ProviderOption) : Service B Ref := do
  addEvent r "options_found" "Provider options found." [("count", .int options.length)]
  let mission ← read r
  match selectBest options mission with
  | none => concludeMission repository r .failed "no_valid_option_found" "No valid option found."
  | some best => bestSelected repository r providerId isProcessingRun best

/-- `_get_participants`, over the ids still to be looked up. -/
def getParticipants : List UUID → Service B (List Identity)
  | [] => pure []
  | participantId :: rest => do
    match ← getIdentity participantId with
    | some identity => do
      let identities ← getParticipants rest
      pure (identity :: identities)
    | none => getParticipants rest

/-- `run_mission` from the participants on. -/
def participantsFound (r : Ref) (providerId : String) (isProcessingRun : Bool)
    (identities : List Identity) : Service B Ref := do
  let mission ← read r
  if identities.length ≠ mission.participantIds.length then
    concludeMission repository r .failed "participant_missing"
      "At least one mission participant was not found."
  else do
    addEvent r "mission_started" "Mission started."
    if isProcessingRun = false then transition r .searching else pure ()
    addEvent r "search_started" "Provider option search started."
    callProvider r (.searchOptions providerId identities)
      (failProviderOperation repository r providerId "search")
      (optionsFound repository r providerId isProcessingRun)

/-- `run_mission` once its resolution is stored. -/
def startMission (r : Ref) (providerId : String) : Service B Ref := do
  let mission ← read r
  let isProcessingRun : Bool := mission.status = .processing
  if isProcessingRun = false then transition r .running else pure ()
  let identities ← getParticipants mission.participantIds
  participantsFound repository r providerId isProcessingRun identities

/-- `run_mission` with its adapter. -/
def providerResolved (r : Ref) (adapter : ProviderAdapter) : Service B Ref := do
  assign r (.resolvedProviderId (some adapter.providerId))
  let mission ← read r
  let metadata ← fromExcept (providerResolvedPayload mission adapter)
  addEvent r "provider_resolved" "Provider resolved for mission execution." metadata
  let _ ← repository.update r
  startMission repository r adapter.providerId

/-- The handler of `resolver.resolve`, for the exceptions it raises. -/
def providerResolutionFailed (r : Ref) (mission : Mission) (error : PyException) :
    Service B Ref := do
  let metadata ← fromExcept (providerResolutionFailurePayload mission error)
  addEvent r "provider_resolution_failed" "Provider resolution failed." metadata
  let _ ← repository.update r
  throw error

/-- The statuses `run_mission` starts from. -/
def startableStatuses (allowProcessing : Bool) : List MissionStatus :=
  if allowProcessing then [.created, .waiting, .processing] else [.created, .waiting]

/-- The optional arguments of `run_mission`. -/
structure RunOptions where
  currentTime : Option Time := none
  allowProcessing : Bool := false

def runMission (registry : ProviderRegistry) (missionId : UUID) (options : RunOptions := {}) :
    Service B Ref := do
  match ← repository.get missionId with
  | none => throw .missionNotFoundError
  | some r =>
    let mission ← read r
    if mission.status ∉ startableStatuses options.allowProcessing then
      throw (.invalidMissionRunError
        s!"Mission cannot be started from status '{mission.status.value}'")
    else do
      let now ← orUtcNow options.currentTime
      if ← expireMissionIfDue repository r now then
        throw (.missionNotReadyError "Mission has expired")
      else do
        let mission ← read r
        if mission.status = .waiting ∧ isScheduledForFuture mission now then
          throw (.missionNotReadyError "Mission is scheduled for a future time")
        else
          match ProviderResolver.resolve registry mission with
          | .error error => providerResolutionFailed repository r mission error
          | .ok adapter => providerResolved repository r adapter

/-- The end of `confirm_mission`. -/
def missionConfirmed (r : Ref) : Service B Ref := do
  transition r .completed
  addEvent r "mission_confirmed" "Mission confirmed by user"
  addEvent r "mission_completed" "Mission completed"
  repository.update r

def confirmMission (registry : ProviderRegistry) (missionId : UUID) : Service B Ref := do
  match ← repository.get missionId with
  | none => throw .missionNotFoundError
  | some r =>
    let mission ← read r
    if mission.status ≠ .requiresConfirmation then
      throw (.invalidMissionConfirmationError
        s!"Mission cannot be confirmed from status {mission.status.value}")
    else
      match requiresProviderConfirmation mission with
      | .error error => throw error
      | .ok none => missionConfirmed repository r
      | .ok (some (providerId, reservationId)) =>
        match registry.get providerId with
        | .error _ =>
          throw (.invalidMissionConfirmationError
            "The provider for this reservation is unavailable")
        | .ok adapter => do
          addEvent r "confirmation_started" "Reservation confirmation started."
          callProvider r
            (.confirmReservation adapter.providerId reservationId
              (confirmationIdempotencyKey mission))
            (failProviderOperation repository r adapter.providerId "confirmation")
            fun confirmation =>
              if confirmation.success = false then
                concludeMission repository r .failed "confirmation_failed"
                  "Reservation confirmation failed." [("provider_id", .str adapter.providerId)]
              else do
                addEvent r "confirmation_succeeded" "Reservation confirmed."
                  [("provider_id", .str adapter.providerId)]
                missionConfirmed repository r

/-- The end of `cancel_mission`. -/
def missionCancelled (r : Ref) : Service B Ref :=
  concludeMission repository r .cancelled "mission_cancelled" "Mission cancelled."

/-- `cancel_mission` of a mission that requires confirmation, with the body of
`_cancel_provider_reservation`. -/
def cancelProviderReservation (registry : ProviderRegistry) (r : Ref) (mission : Mission) :
    Service B Ref :=
  match requiresProviderConfirmation mission with
  | .error error => throw (.invalidMissionCancellationError error.str)
  | .ok none => missionCancelled repository r
  | .ok (some (providerId, reservationId)) =>
    match registry.get providerId with
    | .error _ =>
      throw (.invalidMissionCancellationError
        "The provider for this reservation is unavailable")
    | .ok adapter => do
      addEvent r "cancellation_started" "Reservation cancellation started."
      callProvider r
        (.cancelReservation adapter.providerId reservationId (cancellationIdempotencyKey mission))
        (fun retryable => do
          let _ ← failProviderOperation repository r adapter.providerId "cancellation" retryable
          pure r)
        fun cancellation =>
          if cancellation.success = false then do
            let _ ← concludeMission repository r .failed "cancellation_failed"
              "Reservation cancellation failed." [("provider_id", .str adapter.providerId)]
            pure r
          else do
            addEvent r "cancellation_succeeded" "Reservation cancelled."
              [("provider_id", .str adapter.providerId)]
            missionCancelled repository r

def cancellableStatuses : List MissionStatus :=
  [.created, .waiting, .paused, .requiresConfirmation]

def cancelMission (registry : ProviderRegistry) (missionId : UUID) : Service B Ref := do
  match ← repository.get missionId with
  | none => throw .missionNotFoundError
  | some r =>
    let mission ← read r
    if mission.status ∉ cancellableStatuses then
      throw (.invalidMissionCancellationError
        s!"Mission cannot be cancelled from status '{mission.status.value}'")
    else if mission.status = .requiresConfirmation then
      cancelProviderReservation repository registry r mission
    else missionCancelled repository r

end PurchaseAgent
