import PurchaseAgent.Services.MissionEngine

/-!
Confirmations and cancellations of one mission whose reservation is at a provider. Each
runs in a session of its own: it loads the mission, calls the provider and saves.
-/

namespace PurchaseAgent

/-- `confirm_mission` and `cancel_mission`. -/
inductive ReservationCommand where
  | confirm
  | cancel
deriving DecidableEq, Repr

/-- The answer of the adapter: a result, or a `ProviderOperationError`. -/
inductive ReservationAnswer where
  | result (success : Bool)
  | operationFailed (retryable : Bool)
deriving DecidableEq, Repr

/-- What `_add_event` records. -/
structure EventDraft where
  eventType : String
  message : String
  metadata : List (String × PyValue) := []

/-- Several `_add_event`, with the id and the time that are drawn for each event. -/
def addEvents (draw : Nat → UUID × Time) (mission : Mission) :
    List EventDraft → Except PyException Mission
  | [] => .ok mission
  | draft :: rest => do
    let drawn := draw mission.lastEventSequence
    let mission ← mission.recordEvent drawn.1 drawn.2 draft.eventType draft.message draft.metadata
    addEvents draw mission rest

namespace ReservationCommand

/-- The status check of the command. -/
def accepts : ReservationCommand → MissionStatus → Bool
  | .confirm, status => status = .requiresConfirmation
  | .cancel, status => status ∈ cancellableStatuses

def operation : ReservationCommand → String
  | .confirm => "confirmation"
  | .cancel => "cancellation"

def started : ReservationCommand → EventDraft
  | .confirm => ⟨"confirmation_started", "Reservation confirmation started.", []⟩
  | .cancel => ⟨"cancellation_started", "Reservation cancellation started.", []⟩

def failed (providerId : String) : ReservationCommand → EventDraft
  | .confirm => ⟨"confirmation_failed", "Reservation confirmation failed.",
      [("provider_id", .str providerId)]⟩
  | .cancel => ⟨"cancellation_failed", "Reservation cancellation failed.",
      [("provider_id", .str providerId)]⟩

def succeeded (providerId : String) : ReservationCommand → EventDraft
  | .confirm => ⟨"confirmation_succeeded", "Reservation confirmed.",
      [("provider_id", .str providerId)]⟩
  | .cancel => ⟨"cancellation_succeeded", "Reservation cancelled.",
      [("provider_id", .str providerId)]⟩

def operationFailed (providerId : String) (retryable : Bool) (command : ReservationCommand) :
    EventDraft :=
  ⟨"provider_operation_failed", "Provider operation failed.",
    [("provider_id", .str providerId), ("operation", .str command.operation),
      ("retryable", .bool retryable)]⟩

def target : ReservationCommand → MissionStatus
  | .confirm => .completed
  | .cancel => .cancelled

def ended : ReservationCommand → List EventDraft
  | .confirm => [⟨"mission_confirmed", "Mission confirmed by user", []⟩,
      ⟨"mission_completed", "Mission completed", []⟩]
  | .cancel => [⟨"mission_cancelled", "Mission cancelled.", []⟩]

/-- The mission that the command passes to `update`, from the one that it has loaded:
`call` has the provider and its answer, and is missing where no provider is called. -/
def edit (command : ReservationCommand) (draw : Nat → UUID × Time)
    (call : Option (String × ReservationAnswer)) (mission : Mission) :
    Except PyException Mission :=
  match call with
  | none => do
    let mission ← MissionStateMachine.transition mission command.target
    addEvents draw mission command.ended
  | some (providerId, .result true) => do
    let mission ← addEvents draw mission [command.started, command.succeeded providerId]
    let mission ← MissionStateMachine.transition mission command.target
    addEvents draw mission command.ended
  | some (providerId, .result false) => do
    let mission ← addEvents draw mission [command.started]
    let mission ← MissionStateMachine.transition mission .failed
    addEvents draw mission [command.failed providerId]
  | some (providerId, .operationFailed retryable) => do
    let mission ← addEvents draw mission [command.started]
    let mission ← MissionStateMachine.transition mission .failed
    addEvents draw mission [command.operationFailed providerId retryable]

end ReservationCommand

/-- How far a command has come. One that raises after its call stays where it is, except
for the conflict of its save. -/
inductive CommandStage where
  | refused
  | loaded
  | answered (call : Option (String × ReservationAnswer))
  | saved (call : Option (String × ReservationAnswer)) (mission : Mission)
  | conflicted (call : Option (String × ReservationAnswer))

def CommandStage.call : CommandStage → Option (String × ReservationAnswer)
  | .refused | .loaded => none
  | .answered call | .saved call _ | .conflicted call => call

structure SessionCommand where
  command : ReservationCommand
  snapshot : Mission
  stage : CommandStage

/-- The committed row of the mission, and the commands given on it. -/
structure ReservationState where
  row : Mission
  commands : List SessionCommand

/-- What a step means to the commands of the other kind. -/
inductive ReservationEvent where
  | loads (command : ReservationCommand)
  | calls (command : ReservationCommand)
  | other

/-- One step of one of the commands; `update` commits what it saves. -/
inductive ReservationStep (registry : ProviderRegistry) :
    ReservationState → ReservationEvent → ReservationState → Prop
  | load {row : Mission} {commands : List SessionCommand} {command : ReservationCommand}
      (accepted : command.accepts row.status = true) :
      ReservationStep registry ⟨row, commands⟩ (.loads command)
        ⟨row, commands ++ [⟨command, row, .loaded⟩]⟩
  | refuse {row : Mission} {commands : List SessionCommand} {command : ReservationCommand}
      (refused : command.accepts row.status = false) :
      ReservationStep registry ⟨row, commands⟩ .other
        ⟨row, commands ++ [⟨command, row, .refused⟩]⟩
  | call {row : Mission} {front back : List SessionCommand} {command : ReservationCommand}
      {snapshot : Mission} {providerId reservationId : String} {adapter : ProviderAdapter}
      {answer : ReservationAnswer} (reserved : snapshot.status = .requiresConfirmation)
      (required : requiresProviderConfirmation snapshot = .ok (some (providerId, reservationId)))
      (known : registry.get providerId = .ok adapter) :
      ReservationStep registry ⟨row, front ++ ⟨command, snapshot, .loaded⟩ :: back⟩
        (.calls command)
        ⟨row, front ++
          ⟨command, snapshot, .answered (some (adapter.providerId, answer))⟩ :: back⟩
  | unavailable {row : Mission} {front back : List SessionCommand} {command : ReservationCommand}
      {snapshot : Mission} {providerId reservationId : String} {error : PyException}
      (reserved : snapshot.status = .requiresConfirmation)
      (required : requiresProviderConfirmation snapshot = .ok (some (providerId, reservationId)))
      (unknown : registry.get providerId = .error error) :
      ReservationStep registry ⟨row, front ++ ⟨command, snapshot, .loaded⟩ :: back⟩ .other
        ⟨row, front ++ ⟨command, snapshot, .refused⟩ :: back⟩
  | pass {row : Mission} {front back : List SessionCommand} {command : ReservationCommand}
      {snapshot : Mission} (unneeded : snapshot.status ≠ .requiresConfirmation ∨
        requiresProviderConfirmation snapshot = .ok none) :
      ReservationStep registry ⟨row, front ++ ⟨command, snapshot, .loaded⟩ :: back⟩ .other
        ⟨row, front ++ ⟨command, snapshot, .answered none⟩ :: back⟩
  | save {row mission : Mission} {front back : List SessionCommand}
      {command : ReservationCommand} {snapshot : Mission}
      {call : Option (String × ReservationAnswer)} {draw : Nat → UUID × Time}
      (edited : command.edit draw call snapshot = .ok mission)
      (validated : validateEventSequence mission.executionLog mission.lastEventSequence = .ok ())
      (expected : row.lastEventSequence = snapshot.lastEventSequence) :
      ReservationStep registry ⟨row, front ++ ⟨command, snapshot, .answered call⟩ :: back⟩ .other
        ⟨mission, front ++ ⟨command, snapshot, .saved call mission⟩ :: back⟩
  | conflict {row mission : Mission} {front back : List SessionCommand}
      {command : ReservationCommand} {snapshot : Mission}
      {call : Option (String × ReservationAnswer)} {draw : Nat → UUID × Time}
      (edited : command.edit draw call snapshot = .ok mission)
      (stale : row.lastEventSequence ≠ snapshot.lastEventSequence) :
      ReservationStep registry ⟨row, front ++ ⟨command, snapshot, .answered call⟩ :: back⟩ .other
        ⟨row, front ++ ⟨command, snapshot, .conflicted call⟩ :: back⟩

end PurchaseAgent
