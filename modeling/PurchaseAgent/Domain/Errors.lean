import PurchaseAgent.Domain.Values

/-!
Mission enumerations and the exceptions that cross the services. An exception
keeps the attributes its handlers look at; `str` is the text `str(exc)` gives.
-/

namespace PurchaseAgent

inductive MissionType where
  | trainTicket
deriving DecidableEq, Repr

def MissionType.value : MissionType → String
  | .trainTicket => "train_ticket"

inductive MissionStatus where
  | created
  | waiting
  | paused
  | processing
  | running
  | searching
  | optionFound
  | reserving
  | requiresConfirmation
  | completed
  | failed
  | cancelled
  | expired
deriving DecidableEq, Repr

def MissionStatus.value : MissionStatus → String
  | .created => "created"
  | .waiting => "waiting"
  | .paused => "paused"
  | .processing => "processing"
  | .running => "running"
  | .searching => "searching"
  | .optionFound => "option_found"
  | .reserving => "reserving"
  | .requiresConfirmation => "requires_confirmation"
  | .completed => "completed"
  | .failed => "failed"
  | .cancelled => "cancelled"
  | .expired => "expired"

inductive MissionExecutionMode where
  | searchOnly
  | requireConfirmation
  | autoPurchase
deriving DecidableEq, Repr

def MissionExecutionMode.value : MissionExecutionMode → String
  | .searchOnly => "search_only"
  | .requireConfirmation => "require_confirmation"
  | .autoPurchase => "auto_purchase"

inductive PyException where
  | missionNotFoundError
  | invalidMissionRunError (message : String)
  | missionNotReadyError (message : String)
  | invalidMissionConfirmationError (message : String)
  | invalidMissionCancellationError (message : String)
  | invalidMissionTransitionError (message : String)
  | missionPauseNotAllowedError (status : MissionStatus)
  | missionResumeNotAllowedError (status : MissionStatus)
  | missionSchedulingNotAllowedError (status : MissionStatus)
  | invalidMissionScheduleError (message : String)
  | missionUpdateNotAllowedError (status : MissionStatus)
  | invalidMissionUpdateError (message : String)
  | missionProviderSelectionNotAllowedError (missionId : UUID) (status : MissionStatus)
  | missionRetryNotAllowedError (status : MissionStatus)
  | missionAttemptsExhaustedError (message : String)
  | invalidMissionRetryTimeError (message : String)
  | unknownProviderError (providerId : String)
  | unsupportedMissionTypeError (providerId : String) (missionType : MissionType)
  | unsupportedExecutionModeError (executionMode : MissionExecutionMode)
      (providerId : Option String)
  | noSupportingProviderError (missionType : MissionType)
  | ambiguousProviderError (missionType : MissionType) (providerIds : List String)
  | providerOperationError (providerId operation : String) (retryable : Bool)
  | repositoryEntityNotFoundError
  | missionEventSequenceConflictError
  /-- A `ConnectionError` of the given class. -/
  | connectionError (className message : String)
  | timeoutError (message : String)
  | overflowError (message : String)
  | valueError (message : String)
  | assertionError (message : String)
  /-- Any other subclass of `Exception`. -/
  | other (className message : String)
  /-- A `BaseException` that is not an `Exception`, such as `CancelledError`. -/
  | base (className : String)
deriving DecidableEq, Repr

namespace PyException

/-- Caught by `except Exception`. -/
def isException : PyException → Bool
  | .base _ => false
  | _ => true

/-- `type(exc).__name__`. -/
def typeName : PyException → String
  | .missionNotFoundError => "MissionNotFoundError"
  | .invalidMissionRunError _ => "InvalidMissionRunError"
  | .missionNotReadyError _ => "MissionNotReadyError"
  | .invalidMissionConfirmationError _ => "InvalidMissionConfirmationError"
  | .invalidMissionCancellationError _ => "InvalidMissionCancellationError"
  | .invalidMissionTransitionError _ => "InvalidMissionTransitionError"
  | .missionPauseNotAllowedError _ => "MissionPauseNotAllowedError"
  | .missionResumeNotAllowedError _ => "MissionResumeNotAllowedError"
  | .missionSchedulingNotAllowedError _ => "MissionSchedulingNotAllowedError"
  | .invalidMissionScheduleError _ => "InvalidMissionScheduleError"
  | .missionUpdateNotAllowedError _ => "MissionUpdateNotAllowedError"
  | .invalidMissionUpdateError _ => "InvalidMissionUpdateError"
  | .missionProviderSelectionNotAllowedError _ _ => "MissionProviderSelectionNotAllowedError"
  | .missionRetryNotAllowedError _ => "MissionRetryNotAllowedError"
  | .missionAttemptsExhaustedError _ => "MissionAttemptsExhaustedError"
  | .invalidMissionRetryTimeError _ => "InvalidMissionRetryTimeError"
  | .unknownProviderError _ => "UnknownProviderError"
  | .unsupportedMissionTypeError _ _ => "UnsupportedMissionTypeError"
  | .unsupportedExecutionModeError _ _ => "UnsupportedExecutionModeError"
  | .noSupportingProviderError _ => "NoSupportingProviderError"
  | .ambiguousProviderError _ _ => "AmbiguousProviderError"
  | .providerOperationError _ _ _ => "ProviderOperationError"
  | .repositoryEntityNotFoundError => "RepositoryEntityNotFoundError"
  | .missionEventSequenceConflictError => "MissionEventSequenceConflictError"
  | .connectionError className _ => className
  | .timeoutError _ => "TimeoutError"
  | .overflowError _ => "OverflowError"
  | .valueError _ => "ValueError"
  | .assertionError _ => "AssertionError"
  | .other className _ => className
  | .base className => className

/-- `str(exc)`. -/
def str : PyException → String
  | .missionNotFoundError | .repositoryEntityNotFoundError
  | .missionEventSequenceConflictError | .base _ => ""
  | .missionPauseNotAllowedError status =>
      s!"Mission cannot be paused from status '{status.value}'"
  | .missionResumeNotAllowedError status =>
      s!"Mission cannot be resumed from status '{status.value}'"
  | .missionSchedulingNotAllowedError status =>
      s!"Mission scheduling cannot be changed from status '{status.value}'"
  | .missionUpdateNotAllowedError status =>
      s!"Mission cannot be updated from status '{status.value}'"
  | .missionProviderSelectionNotAllowedError _ status =>
      s!"Provider selection cannot be changed from mission status '{status.value}'"
  | .missionRetryNotAllowedError status =>
      s!"Mission cannot be retried from status '{status.value}'"
  | .unknownProviderError providerId => s!"Unknown provider '{providerId}'"
  | .unsupportedMissionTypeError providerId missionType =>
      s!"Provider '{providerId}' does not support mission type '{missionType.value}'"
  | .unsupportedExecutionModeError executionMode (some providerId) =>
      s!"Provider '{providerId}' does not support execution mode '{executionMode.value}'"
  | .unsupportedExecutionModeError executionMode none =>
      s!"No configured provider does not support execution mode '{executionMode.value}'"
  | .noSupportingProviderError missionType =>
      s!"No provider supports mission type '{missionType.value}'"
  | .ambiguousProviderError missionType providerIds =>
      s!"Multiple providers support mission type '{missionType.value}': " ++
        String.intercalate ", " providerIds
  | .providerOperationError providerId operation _ =>
      s!"Provider '{providerId}' failed during {operation} operation"
  | .invalidMissionRunError message | .missionNotReadyError message
  | .invalidMissionConfirmationError message | .invalidMissionCancellationError message
  | .invalidMissionTransitionError message | .invalidMissionScheduleError message
  | .invalidMissionUpdateError message | .missionAttemptsExhaustedError message
  | .invalidMissionRetryTimeError message | .connectionError _ message
  | .timeoutError message | .overflowError message | .valueError message
  | .assertionError message | .other _ message => message

end PyException
end PurchaseAgent
