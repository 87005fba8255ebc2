import PurchaseAgent.Domain.Mission
import PurchaseAgent.Domain.ProviderResolution

/-!
The validators that run when a mission is built, in their order.
-/

namespace PurchaseAgent

/-- The message that a validator raises for a faulty log. -/
def MissionEventError.message : MissionEventError → String
  | .invalidSequence message => message
  | .invalidEventId message => message

/-- One `raise` of a validator. -/
def reject (faulty : Prop) [Decidable faulty] (message : String) : Except PyException Unit :=
  if faulty then .error (validationError message) else .ok ()

theorem reject_of_not {faulty : Prop} [Decidable faulty] (sound : ¬ faulty) (message : String) :
    reject faulty message = .ok () := if_neg sound

/-- The validators of an optional id, which is stripped and must not be blank. -/
def requireText (message : String) : Option String → Except PyException (Option String)
  | none => .ok none
  | some value =>
    if strip value = "" then .error (validationError message) else .ok (some (strip value))

/-- The validators of `Mission`, field by field and then of the whole. -/
def Mission.validate (mission : Mission) : Except PyException Mission := do
  reject (mission.participantIds = []) "List should have at least 1 item after validation, not 0"
  reject (mission.provider = "") "String should have at least 1 character"
  let resolvedProviderId ← requireText "Provider ID must be a non-empty string"
    mission.resolvedProviderId
  reject (mission.reservationId.any (255 < ·.length)) "String should have at most 255 characters"
  let reservationId ← requireText "reservation_id must be a non-empty string" mission.reservationId
  reject (mission.maxExecutionAttempts < 1) "Input should be greater than or equal to 1"
  reject (100 < mission.maxExecutionAttempts) "Input should be less than or equal to 100"
  reject (mission.maxExecutionAttempts < mission.executionAttempts)
    "max_execution_attempts cannot be less than execution_attempts"
  (validateEventSequence mission.executionLog mission.lastEventSequence).mapError
    fun error => validationError error.message
  reject (mission.status = .processing ∧ mission.claimedAt = none)
    "claimed_at is required for processing missions"
  reject (mission.status ≠ .processing ∧ mission.claimedAt.isSome)
    "claimed_at is allowed only for processing missions"
  reject (mission.scheduledAt.any fun scheduledAt => mission.expiresAt.any (· < scheduledAt))
    "scheduled_at must not be after expires_at"
  return { mission with resolvedProviderId := resolvedProviderId, reservationId := reservationId }

end PurchaseAgent
