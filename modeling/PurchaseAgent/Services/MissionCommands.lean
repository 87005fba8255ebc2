import Mathlib.Data.String.Basic
import PurchaseAgent.Collections.StableSort
import PurchaseAgent.Services.ProviderResolver
import PurchaseAgent.Services.Runtime

/-!
The commands a user gives on a mission that is not being executed: pause and
resume, scheduling, configuration and provider selection.
-/

namespace PurchaseAgent

open Service

variable {B : Backend} (repository : MissionRepository B)

def pauseMission (missionId : UUID) : Service B Ref := do
  match ← repository.get missionId with
  | none => throw .missionNotFoundError
  | some r =>
    let mission ← read r
    if mission.status ∉ [.created, .waiting] then
      throw (.missionPauseNotAllowedError mission.status)
    else do
      transition r .paused
      addEvent r "mission_paused" "Mission paused."
        [("previous_status", .str mission.status.value)]
      repository.update r

def resumeMission (missionId : UUID) : Service B Ref := do
  match ← repository.get missionId with
  | none => throw .missionNotFoundError
  | some r =>
    let mission ← read r
    if mission.status ≠ .paused then throw (.missionResumeNotAllowedError mission.status)
    else do
      let target : MissionStatus := if mission.scheduledAt.isSome then .waiting else .created
      transition r target
      addEvent r "mission_resumed" "Mission resumed." [("resumed_status", .str target.value)]
      repository.update r

/-- `schedule_mission` with `scheduled_at=None`. -/
def unscheduleMission (r : Ref) (mission : Mission) (now : Time) : Service B Ref :=
  if mission.status = .created then pure r
  else do
    if mission.status = .waiting then transition r .created else pure ()
    assign r (.scheduledAt none)
    recordEvent r now "mission_unscheduled" "Mission schedule removed."
      [("previous_scheduled_at", .ofTime mission.scheduledAt)]
    repository.update r

/-- `schedule_mission` with a time. -/
def scheduleMissionAt (r : Ref) (mission : Mission) (scheduledAt now : Time) : Service B Ref :=
  if scheduledAt ≤ now then
    throw (.invalidMissionScheduleError "scheduled_at must be in the future")
  else if mission.expiresAt.any (· < scheduledAt) then
    throw (.invalidMissionScheduleError "scheduled_at must not be after expires_at")
  else do
    assign r (.scheduledAt (some scheduledAt))
    if mission.status = .created then transition r .waiting else pure ()
    recordEvent r now "mission_scheduled" "Mission scheduled."
      [("previous_scheduled_at", .ofTime mission.scheduledAt),
        ("scheduled_at", .str (isoformat scheduledAt))]
    repository.update r

def scheduleMission (missionId : UUID) (scheduledAt : Option Time)
    (currentTime : Option Time := none) : Service B Ref := do
  let now ← orUtcNow currentTime
  match ← repository.get missionId with
  | none => throw .missionNotFoundError
  | some r =>
    let mission ← read r
    if mission.status ∉ [.created, .waiting, .paused] then
      throw (.missionSchedulingNotAllowedError mission.status)
    else if mission.scheduledAt = scheduledAt then pure r
    else
      match scheduledAt with
      | none => unscheduleMission repository r mission now
      | some scheduledAt => scheduleMissionAt repository r mission scheduledAt now

/-- The keyword arguments of `update_mission`. -/
structure MissionUpdate where
  title : Option String := none
  fallbackRules : Option FallbackRules := none
  executionMode : Option MissionExecutionMode := none
  maxExecutionAttempts : Option Nat := none

/-- One `_apply_change` that changes something, with the serialized values. -/
structure Change where
  fieldName : String
  previous : PyValue
  current : PyValue
  assignment : Assignment

def applyChange {α : Type} [DecidableEq α] (fieldName : String) (existing : α) (value : Option α)
    (serialize : α → PyValue) (assignment : α → Assignment) : List Change :=
  match value with
  | none => []
  | some value =>
    if existing = value then []
    else [⟨fieldName, serialize existing, serialize value, assignment value⟩]

/-- `model_dump(mode="json")`. -/
def FallbackRules.dump (rules : FallbackRules) : List (String × PyValue) :=
  [("allow_adjacent_compartments", .ofBool rules.allowAdjacentCompartments),
    ("allow_any_coupe_seats", .ofBool rules.allowAnyCoupeSeats),
    ("notify_only_if_no_match", .ofBool rules.notifyOnlyIfNoMatch)]

def MissionUpdate.changes (update : MissionUpdate) (mission : Mission) : List Change :=
  applyChange "title" mission.title update.title .str .title ++
  applyChange "fallback_rules" mission.fallbackRules update.fallbackRules
    (fun rules => .dict rules.dump) .fallbackRules ++
  applyChange "execution_mode" mission.executionMode update.executionMode
    (fun mode => .str mode.value) .executionMode ++
  applyChange "max_execution_attempts" mission.maxExecutionAttempts update.maxExecutionAttempts
    (fun n => .int n) .maxExecutionAttempts

def assignAll (r : Ref) : List Assignment → Service B Unit
  | [] => pure ()
  | assignment :: rest => do
    assign r assignment
    assignAll r rest

def updatedMetadata (changes : List Change) : List (String × PyValue) :=
  [("changed_fields", .list ((Collections.sortedBy id (changes.map (·.fieldName))).map .str)),
    ("previous", .dict (changes.map fun change => (change.fieldName, change.previous))),
    ("current", .dict (changes.map fun change => (change.fieldName, change.current)))]

/-- The check of a new execution mode against the selected provider. -/
def checkExecutionMode (registry : ProviderRegistry) (mission : Mission)
    (executionMode : Option MissionExecutionMode) : Except PyException Unit :=
  match executionMode, mission.providerId with
  | some executionMode, some providerId =>
    if executionMode = mission.executionMode then .ok ()
    else
      match registry.get providerId.text with
      | .error error => .error error
      | .ok adapter =>
        if adapter.supportsExecutionMode mission.missionType executionMode then .ok ()
        else .error (.unsupportedExecutionModeError executionMode (some adapter.providerId))
  | _, _ => .ok ()

def updateMission (registry : ProviderRegistry) (missionId : UUID) (update : MissionUpdate) :
    Service B Ref := do
  match ← repository.get missionId with
  | none => throw .missionNotFoundError
  | some r =>
    let mission ← read r
    if mission.status ∉ [.created, .waiting, .paused] then
      throw (.missionUpdateNotAllowedError mission.status)
    else if update.maxExecutionAttempts.any (· < mission.executionAttempts) then
      throw (.invalidMissionUpdateError
        "max_execution_attempts cannot be less than execution_attempts")
    else do
      fromExcept (checkExecutionMode registry mission update.executionMode)
      let changes := update.changes mission
      assignAll r (changes.map (·.assignment))
      if changes.isEmpty then pure r
      else do
        addEvent r "mission_updated" "Mission configuration updated." (updatedMetadata changes)
        repository.update r

/-- The checks of a requested provider against the registry. -/
def checkProvider (registry : ProviderRegistry) (mission : Mission)
    (providerId : Option ProviderId) : Except PyException Unit :=
  match providerId with
  | none => .ok ()
  | some providerId =>
    match registry.get providerId.text with
    | .error error => .error error
    | .ok adapter =>
      if adapter.supports mission.missionType = false then
        .error (.unsupportedMissionTypeError adapter.providerId mission.missionType)
      else if adapter.supportsExecutionMode mission.missionType mission.executionMode = false then
        .error (.unsupportedExecutionModeError mission.executionMode (some adapter.providerId))
      else .ok ()

/-- `SetMissionProvider.execute`. -/
def setMissionProvider (registry : ProviderRegistry) (missionId : UUID)
    (providerId : Option String) : Service B Ref := do
  match ← repository.get missionId with
  | none => throw .missionNotFoundError
  | some r =>
    let mission ← read r
    if mission.canChangeProviderSelection = false then
      throw (.missionProviderSelectionNotAllowedError mission.id mission.status)
    else do
      let normalizedProviderId ← fromExcept (normalizeProviderId providerId)
      fromExcept (checkProvider registry mission normalizedProviderId)
      if normalizedProviderId = mission.providerId then pure r
      else do
        let updated ← copy r
          [.providerId normalizedProviderId, .resolvedProviderId none, .reservationId none]
        addEvent updated "provider_selection_changed" "Mission provider selection changed."
          [("previous_provider_id", .ofProviderId mission.providerId),
            ("new_provider_id", .ofProviderId normalizedProviderId),
            ("previous_selection_mode", .str (selectionModeFor mission.providerId)),
            ("new_selection_mode", .str (selectionModeFor normalizedProviderId))]
        repository.update updated

end PurchaseAgent
