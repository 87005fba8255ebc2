import PurchaseAgent.Services.ProviderResolver
import PurchaseAgent.Services.Runtime

/-!
Retries of failed missions and the policy that schedules them automatically.
-/

namespace PurchaseAgent

open Service

/-- The intervals are `timedelta`s; `__post_init__` checks the three relations. -/
structure MissionRetryPolicy where
  initialDelay : TimeDelta
  maximumDelay : TimeDelta
  multiplier : Int
  initialDelay_pos : 0 < initialDelay
  initialDelay_le : initialDelay ≤ maximumDelay
  one_le_multiplier : 1 ≤ multiplier
  maximumDelay_le : maximumDelay ≤ timedeltaMax

def defaultMissionRetryPolicy : MissionRetryPolicy where
  initialDelay := seconds 30
  maximumDelay := seconds 900
  multiplier := 2
  initialDelay_pos := by decide
  initialDelay_le := by decide
  one_le_multiplier := by decide
  maximumDelay_le := by decide

namespace MissionRetryPolicy

/-- The delay after `n` rounds of the loop of `delay_after_attempt`. -/
def delayLoop (policy : MissionRetryPolicy) (delay : TimeDelta) :
    Nat → Except PyException TimeDelta
  | 0 => .ok delay
  | n + 1 =>
    match TimeDelta.mul delay policy.multiplier with
    | .error message => .error (.overflowError message)
    | .ok product => policy.delayLoop (min product policy.maximumDelay) n

def delayAfterAttempt (policy : MissionRetryPolicy) (attemptNumber : Nat) :
    Except PyException TimeDelta :=
  if attemptNumber < 1 then .error (.valueError "attempt_number must be at least one")
  else policy.delayLoop policy.initialDelay (attemptNumber - 1)

theorem delayLoop_pos (policy : MissionRetryPolicy) {delay delay' : TimeDelta} {n : Nat}
    (pos : 0 < delay) (h : policy.delayLoop delay n = .ok delay') : 0 < delay' := by
  induction n generalizing delay with
  | zero =>
      cases h
      exact pos
  | succ n ih =>
      unfold delayLoop at h
      split at h
      · cases h
      · rename_i product multiplied
        refine ih (Int.lt_min.mpr ⟨?_, Int.lt_of_lt_of_le policy.initialDelay_pos
          policy.initialDelay_le⟩) h
        unfold TimeDelta.mul at multiplied
        split at multiplied
        · obtain rfl := Except.ok.inj multiplied
          exact Int.mul_pos pos (Int.lt_of_lt_of_le Int.zero_lt_one policy.one_le_multiplier)
        · cases multiplied

/-- Delays are positive. -/
theorem delayAfterAttempt_pos (policy : MissionRetryPolicy) {attemptNumber : Nat}
    {delay : TimeDelta} (h : policy.delayAfterAttempt attemptNumber = .ok delay) : 0 < delay := by
  unfold delayAfterAttempt at h
  split at h
  · cases h
  · exact policy.delayLoop_pos policy.initialDelay_pos h

def shouldRetryMission (_policy : MissionRetryPolicy) (mission : Mission) : Bool :=
  match mission.executionLog.getLast? with
  | none => false
  | some event =>
    if mission.hasExhaustedAttempts then false
    else if event.type = "no_valid_option_found" then true
    else event.type = "provider_operation_failed" ∧ event.get "retryable" = some (.bool true)

def shouldRetryException (_policy : MissionRetryPolicy) : PyException → Bool
  | .connectionError _ _ | .timeoutError _ => true
  | _ => false

end MissionRetryPolicy

inductive MissionRetryTrigger where
  | manual
  | automatic
deriving DecidableEq

def MissionRetryTrigger.value : MissionRetryTrigger → String
  | .manual => "manual"
  | .automatic => "automatic"

/-- The keyword arguments of `retry_mission`. -/
structure RetryOptions where
  retryAt : Option Time := none
  currentTime : Option Time := none
  trigger : MissionRetryTrigger := .manual
  reason : Option String := none

def retryMetadata (mission : Mission) (retryAt : Time) (trigger : MissionRetryTrigger)
    (reason : Option String) : List (String × PyValue) :=
  [("retry_at", .str (isoformat retryAt)),
    ("execution_attempts", .int mission.executionAttempts),
    ("max_execution_attempts", .int mission.maxExecutionAttempts),
    ("previous_resolved_provider_id", .ofText mission.resolvedProviderId),
    ("previous_reservation_id", .ofText mission.reservationId),
    ("trigger", .str trigger.value),
    ("reason", .ofText reason)]

variable {B : Backend}

/-- What `retry_mission` does to a failed mission with attempts left. -/
def resetForRetry (repository : MissionRepository B) (r : Ref) (mission : Mission) (now : Time)
    (retryAt : Time) (options : RetryOptions) : Service B Ref := do
  transition r .waiting { currentTime := some now, retry := true }
  assign r (.scheduledAt (some retryAt))
  assign r (.resolvedProviderId none)
  assign r (.reservationId none)
  assign r (.bestOption none)
  recordEvent r now "mission_retry_scheduled" "Mission scheduled for another execution attempt."
    (retryMetadata mission retryAt options.trigger options.reason)
  repository.update r

def retryMission (repository : MissionRepository B) (missionId : UUID)
    (options : RetryOptions := {}) : Service B Ref := do
  let now ← orUtcNow options.currentTime
  let retryAt := options.retryAt.getD now
  if retryAt < now then
    throw (.invalidMissionRetryTimeError "retry_at must not be in the past")
  else do
    match ← repository.get missionId with
    | none => throw .missionNotFoundError
    | some r =>
      let mission ← read r
      if mission.status ≠ .failed then throw (.missionRetryNotAllowedError mission.status)
      else if mission.hasExhaustedAttempts then
        throw (.missionAttemptsExhaustedError "Mission execution attempts are exhausted")
      else resetForRetry repository r mission now retryAt options

end PurchaseAgent
