import PurchaseAgent.Collections.Dict
import PurchaseAgent.Services.MissionEngine
import PurchaseAgent.Services.MissionRetry

/-!
Batches of due missions: expire, claim, and run each claimed mission in turn,
with the handling of what goes wrong in a run.
-/

namespace PurchaseAgent

open Service

structure DueMissionProcessingResult where
  processedCount : Nat
  expiredMissionIds : List UUID := []
  succeededMissionIds : List UUID := []
  failedMissionIds : List UUID := []
  retryScheduledMissionIds : List UUID := []
  errors : Collections.Dict UUID String := []

namespace DueMissionProcessingResult

def succeeded (result : DueMissionProcessingResult) (id : UUID) : DueMissionProcessingResult :=
  { result with succeededMissionIds := result.succeededMissionIds ++ [id] }

def failed (result : DueMissionProcessingResult) (id : UUID) : DueMissionProcessingResult :=
  { result with failedMissionIds := result.failedMissionIds ++ [id] }

def retryScheduled (result : DueMissionProcessingResult) (id : UUID) :
    DueMissionProcessingResult :=
  { result with retryScheduledMissionIds := result.retryScheduledMissionIds ++ [id] }

/-- `errors[id] = message`. -/
def withError (result : DueMissionProcessingResult) (id : UUID) (message : String) :
    DueMissionProcessingResult :=
  { result with errors := result.errors.set id message }

end DueMissionProcessingResult

variable {B : Backend} (repository : MissionRepository B)

def expireDueMissions (currentTime : Time) (limit : Int) : Service B (List Ref) :=
  if limit < 1 then throw (.valueError "limit must be at least one")
  else repository.expireDue currentTime limit

def recordTerminalFailure (r : Ref) (currentTime : Time) : Service B Ref := do
  let mission ← read r
  let reason := (mission.executionLog.getLast?.map (·.type)).getD "unknown"
  recordEvent r currentTime "mission_failed" "Mission execution ended without another retry."
    [("reason", .str reason),
      ("execution_attempts", .int mission.executionAttempts),
      ("max_execution_attempts", .int mission.maxExecutionAttempts),
      ("attempts_exhausted", .bool mission.hasExhaustedAttempts)]
  repository.update r

/-- `_mark_claimed_mission_failed`: the status is assigned, not transitioned. -/
def markClaimedMissionFailed (r : Ref) (message : String) : Service B Ref := do
  let mission ← read r
  let failedMission := (← repository.get mission.id).getD r
  assign failedMission (.status .failed)
  assign failedMission (.claimedAt none)
  addEvent failedMission "mission_processing_failed" "Mission processing failed."
    [("message", .str message)]
  repository.update failedMission

/-- `current_time + retry_policy.delay_after_attempt(...)`, capped at the expiry. -/
def automaticRetryAt (policy : MissionRetryPolicy) (mission : Mission) (currentTime : Time) :
    Except PyException Time :=
  match policy.delayAfterAttempt mission.executionAttempts with
  | .error error => .error error
  | .ok delay =>
    match Time.add currentTime delay with
    | .error message => .error (.overflowError message)
    | .ok retryAt => .ok (match mission.expiresAt with
      | some expiresAt => min retryAt expiresAt
      | none => retryAt)

/-- A retry of a mission that has not expired is not in the past. -/
theorem le_automaticRetryAt {policy : MissionRetryPolicy} {mission : Mission}
    {currentTime retryAt : Time} (unexpired : mission.expiresAt.all (currentTime < ·))
    (h : automaticRetryAt policy mission currentTime = .ok retryAt) : currentTime ≤ retryAt := by
  unfold automaticRetryAt at h
  split at h
  · cases h
  · rename_i delay delayed
    have pos := policy.delayAfterAttempt_pos delayed
    split at h
    · cases h
    · rename_i sum added
      have later : currentTime ≤ sum := by
        unfold Time.add at added
        split at added
        · obtain rfl := Except.ok.inj added
          exact Int.le_add_of_nonneg_right (Int.le_of_lt pos)
        · cases added
      obtain rfl := Except.ok.inj h
      cases expiry : mission.expiresAt with
      | none => exact later
      | some expiresAt =>
          rw [expiry] at unexpired
          exact Int.le_min.mpr ⟨later, Int.le_of_lt (by simpa using unexpired)⟩

def scheduleAutomaticRetry (r : Ref) (currentTime : Time) (policy : MissionRetryPolicy)
    (reason : String) : Service B Ref := do
  let mission ← read r
  let retryAt ← fromExcept (automaticRetryAt policy mission currentTime)
  retryMission repository mission.id
    { retryAt := some retryAt, currentTime := some currentTime, trigger := .automatic,
      reason := some reason }

/-- The handler of an exception that `run_mission` raised for a claimed mission. -/
def handleFailedRun (r : Ref) (missionId : UUID) (currentTime : Time)
    (policy : MissionRetryPolicy) (result : DueMissionProcessingResult) (exc : PyException) :
    Service B DueMissionProcessingResult := do
  let failedMission ← markClaimedMissionFailed repository r exc.str
  let result := result.withError missionId exc.str
  if policy.shouldRetryException exc then do
    let _ ← scheduleAutomaticRetry repository failedMission currentTime policy exc.typeName
    pure (result.retryScheduled missionId)
  else pure (result.failed missionId)

/-- What follows a run that returned. -/
def handleFinishedRun (updated : Ref) (currentTime : Time) (policy : MissionRetryPolicy)
    (result : DueMissionProcessingResult) : Service B DueMissionProcessingResult := do
  let mission ← read updated
  if mission.status ∈ [.requiresConfirmation, .completed] then
    pure (result.succeeded mission.id)
  else if mission.status = .failed then
    if policy.shouldRetryMission mission then do
      let reason := (mission.executionLog.getLast?.map (·.type)).getD ""
      let _ ← scheduleAutomaticRetry repository updated currentTime policy reason
      pure (result.retryScheduled mission.id)
    else do
      let _ ← recordTerminalFailure repository updated currentTime
      pure (result.failed mission.id)
  else pure result

/-- One turn of the loop over the claimed missions. -/
def processClaimedMission (registry : ProviderRegistry) (currentTime : Time)
    (policy : MissionRetryPolicy) (r : Ref) (result : DueMissionProcessingResult) :
    Service B DueMissionProcessingResult := do
  let mission ← read r
  match ← attempt (runMission repository registry mission.id
      { currentTime := some currentTime, allowProcessing := true }) with
  | .ok updated => handleFinishedRun repository updated currentTime policy result
  | .error exc =>
    if exc.isException = false then throw exc
    else handleFailedRun repository r mission.id currentTime policy result exc

def processClaimedMissions (registry : ProviderRegistry) (currentTime : Time)
    (policy : MissionRetryPolicy) :
    List Ref → DueMissionProcessingResult → Service B DueMissionProcessingResult
  | [], result => pure result
  | r :: rest, result => do
    let result ← processClaimedMission repository registry currentTime policy r result
    processClaimedMissions registry currentTime policy rest result

/-- The ids of mission objects. -/
def missionIds : List Ref → Service B (List UUID)
  | [] => pure []
  | r :: rest => do
    let mission ← read r
    let ids ← missionIds rest
    pure (mission.id :: ids)

def processDueMissions (registry : ProviderRegistry) (currentTime : Time) (limit : Int)
    (policy : MissionRetryPolicy) : Service B DueMissionProcessingResult := do
  let expiredMissions ← expireDueMissions repository currentTime limit
  let claimedMissions ← repository.claimDue currentTime limit
  let expiredMissionIds ← missionIds expiredMissions
  processClaimedMissions repository registry currentTime policy claimedMissions
    { processedCount := claimedMissions.length, expiredMissionIds := expiredMissionIds }

end PurchaseAgent
