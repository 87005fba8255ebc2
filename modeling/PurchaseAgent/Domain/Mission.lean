import PurchaseAgent.Domain.Errors
import PurchaseAgent.Domain.Execution
import PurchaseAgent.Domain.Provider

/-!
The mission aggregate and its event log. Services assign its fields without
running the validators again, so a `Mission` here is a plain record; what a
freshly validated one satisfies is stated with the persistence layer.
-/

namespace PurchaseAgent

structure TrainConstraints where
  fromCity : String
  toCity : String
  travelDate : Date
  passengersCount : Int
  mustBeSameCompartment : Option Bool
  minLowerBerths : Option Int
  maxTotalPrice : Option Int
  avoidToilet : Option Bool
  passengersCount_pos : 1 ≤ passengersCount
deriving DecidableEq, Repr

theorem TrainConstraints.single_pos : (1 : Int) ≤ 1 := Int.le_refl 1

structure FallbackRules where
  allowAdjacentCompartments : Option Bool
  allowAnyCoupeSeats : Option Bool
  notifyOnlyIfNoMatch : Option Bool
deriving DecidableEq, Repr

structure TrainTicketMissionPayload where
  origin : String
  destination : String
  departureDate : Date
deriving DecidableEq, Repr

structure Mission where
  id : UUID
  type : MissionType
  missionType : MissionType
  payload : TrainTicketMissionPayload
  title : String
  status : MissionStatus
  participantIds : List UUID
  provider : String
  executionMode : MissionExecutionMode
  providerId : Option ProviderId
  resolvedProviderId : Option String
  reservationId : Option String
  constraints : TrainConstraints
  fallbackRules : FallbackRules
  scheduledAt : Option Time
  expiresAt : Option Time
  claimedAt : Option Time
  executionAttempts : Nat
  maxExecutionAttempts : Nat
  lastEventSequence : Nat
  executionLog : List ExecutionEvent
  bestOption : Option ProviderOption
deriving DecidableEq

namespace Mission

/-- `Mission(...)` with the defaults of the fields that are not given. -/
def new (id : UUID) (title : String) (participantIds : List UUID) (provider : String)
    (constraints : TrainConstraints) : Mission where
  id := id
  type := .trainTicket
  missionType := .trainTicket
  payload :=
    { origin := strip constraints.fromCity
      destination := strip constraints.toCity
      departureDate := constraints.travelDate }
  title := title
  status := .created
  participantIds := participantIds
  provider := provider
  executionMode := .requireConfirmation
  providerId := none
  resolvedProviderId := none
  reservationId := none
  constraints := constraints
  fallbackRules := ⟨none, none, none⟩
  scheduledAt := none
  expiresAt := none
  claimedAt := none
  executionAttempts := 0
  maxExecutionAttempts := 3
  lastEventSequence := 0
  executionLog := []
  bestOption := none

def hasExhaustedAttempts (mission : Mission) : Bool :=
  mission.maxExecutionAttempts ≤ mission.executionAttempts

def canChangeProviderSelection (mission : Mission) : Bool :=
  mission.status ∈ [.created, .waiting, .paused]

/-- The event `record_event` appends, once its id has been accepted. -/
def nextEvent (mission : Mission) (eventId : UUID) (timestamp : Time)
    (eventType message : String) (metadata : List (String × PyValue)) : ExecutionEvent where
  eventId := eventId
  correlationId :=
    match mission.executionLog.getLast? with
    | some previous => previous.correlationId
    | none => eventId
  causationId := mission.executionLog.getLast?.map (·.eventId)
  sequence := mission.lastEventSequence + 1
  timestamp := timestamp
  type := eventType
  message := message
  metadata := metadata
  sequence_pos := Nat.le_add_left 1 _

/-- The two assignments every status change consists of. -/
def withStatus (mission : Mission) (status : MissionStatus) (claimedAt : Option Time) : Mission :=
  { mission with status := status, claimedAt := claimedAt }

def append (mission : Mission) (event : ExecutionEvent) : Mission :=
  { mission with
    executionLog := mission.executionLog ++ [event]
    lastEventSequence := event.sequence }

/-- `record_event`, with the id its factory draws. -/
def recordEvent (mission : Mission) (eventId : UUID) (timestamp : Time)
    (eventType message : String) (metadata : List (String × PyValue)) :
    Except PyException Mission :=
  if eventId = .nil then
    .error (.valueError "Mission event ID must not be nil")
  else if mission.executionLog.any (·.eventId = eventId) then
    .error (.valueError "Mission event ID must be unique")
  else
    .ok (mission.append (mission.nextEvent eventId timestamp eventType message metadata))

/-- The id is new to the log, as `uuid4` guarantees. -/
def FreshFor (mission : Mission) (eventId : UUID) : Prop :=
  eventId ≠ .nil ∧ ∀ event ∈ mission.executionLog, event.eventId ≠ eventId

theorem recordEvent_ok {mission after : Mission} {eventId : UUID} {timestamp : Time}
    {eventType message : String} {metadata : List (String × PyValue)}
    (h : mission.recordEvent eventId timestamp eventType message metadata = .ok after) :
    mission.FreshFor eventId ∧
      after = mission.append (mission.nextEvent eventId timestamp eventType message metadata) := by
  unfold recordEvent at h
  split at h
  · cases h
  · rename_i notNil
    split at h
    · cases h
    · rename_i unique
      refine ⟨⟨notNil, ?_⟩, (Except.ok.inj h).symm⟩
      simpa using unique

theorem recordEvent_of_fresh (mission : Mission) {eventId : UUID} (fresh : mission.FreshFor eventId)
    (timestamp : Time) (eventType message : String) (metadata : List (String × PyValue)) :
    mission.recordEvent eventId timestamp eventType message metadata =
      .ok (mission.append (mission.nextEvent eventId timestamp eventType message metadata)) := by
  have unique : mission.executionLog.any (·.eventId = eventId) = false := by
    simpa using fresh.2
  simp only [recordEvent, fresh.1, if_false, unique, Bool.false_eq_true]

section Fields
variable (mission : Mission) (event : ExecutionEvent) (status : MissionStatus)
  (claimedAt : Option Time)

@[simp] theorem append_id : (mission.append event).id = mission.id := rfl
@[simp] theorem append_status : (mission.append event).status = mission.status := rfl
@[simp] theorem append_claimedAt : (mission.append event).claimedAt = mission.claimedAt := rfl
@[simp] theorem append_executionAttempts :
    (mission.append event).executionAttempts = mission.executionAttempts := rfl
@[simp] theorem append_maxExecutionAttempts :
    (mission.append event).maxExecutionAttempts = mission.maxExecutionAttempts := rfl
@[simp] theorem append_reservationId :
    (mission.append event).reservationId = mission.reservationId := rfl
@[simp] theorem append_bestOption : (mission.append event).bestOption = mission.bestOption := rfl
@[simp] theorem append_resolvedProviderId :
    (mission.append event).resolvedProviderId = mission.resolvedProviderId := rfl
@[simp] theorem append_executionMode :
    (mission.append event).executionMode = mission.executionMode := rfl
@[simp] theorem append_expiresAt : (mission.append event).expiresAt = mission.expiresAt := rfl
@[simp] theorem append_scheduledAt : (mission.append event).scheduledAt = mission.scheduledAt := rfl
@[simp] theorem append_constraints : (mission.append event).constraints = mission.constraints := rfl
@[simp] theorem append_fallbackRules :
    (mission.append event).fallbackRules = mission.fallbackRules := rfl
@[simp] theorem append_executionLog :
    (mission.append event).executionLog = mission.executionLog ++ [event] := rfl
@[simp] theorem append_lastEventSequence :
    (mission.append event).lastEventSequence = event.sequence := rfl

@[simp] theorem withStatus_status : (mission.withStatus status claimedAt).status = status := rfl
@[simp] theorem withStatus_claimedAt :
    (mission.withStatus status claimedAt).claimedAt = claimedAt := rfl
@[simp] theorem withStatus_id : (mission.withStatus status claimedAt).id = mission.id := rfl
@[simp] theorem withStatus_executionAttempts :
    (mission.withStatus status claimedAt).executionAttempts = mission.executionAttempts := rfl
@[simp] theorem withStatus_maxExecutionAttempts :
    (mission.withStatus status claimedAt).maxExecutionAttempts = mission.maxExecutionAttempts := rfl
@[simp] theorem withStatus_executionLog :
    (mission.withStatus status claimedAt).executionLog = mission.executionLog := rfl
@[simp] theorem withStatus_lastEventSequence :
    (mission.withStatus status claimedAt).lastEventSequence = mission.lastEventSequence := rfl
@[simp] theorem withStatus_reservationId :
    (mission.withStatus status claimedAt).reservationId = mission.reservationId := rfl
@[simp] theorem withStatus_bestOption :
    (mission.withStatus status claimedAt).bestOption = mission.bestOption := rfl
@[simp] theorem withStatus_resolvedProviderId :
    (mission.withStatus status claimedAt).resolvedProviderId = mission.resolvedProviderId := rfl
@[simp] theorem withStatus_executionMode :
    (mission.withStatus status claimedAt).executionMode = mission.executionMode := rfl
@[simp] theorem withStatus_expiresAt :
    (mission.withStatus status claimedAt).expiresAt = mission.expiresAt := rfl
@[simp] theorem withStatus_scheduledAt :
    (mission.withStatus status claimedAt).scheduledAt = mission.scheduledAt := rfl
@[simp] theorem withStatus_constraints :
    (mission.withStatus status claimedAt).constraints = mission.constraints := rfl
@[simp] theorem withStatus_fallbackRules :
    (mission.withStatus status claimedAt).fallbackRules = mission.fallbackRules := rfl

end Fields

end Mission
end PurchaseAgent
