import PurchaseAgent.Domain.ProviderResolution
import PurchaseAgent.Services.ProviderResolver
import PurchaseAgent.Services.Runtime

/-!
The preview of a mission's provider resolution: what the resolver would do,
without a run.
-/

namespace PurchaseAgent

open Cooperative Service

inductive ProviderResolutionPreviewOutcome where
  | resolved
  | unknownProvider
  | unsupportedMissionType
  | unsupportedExecutionMode
  | noSupportingProvider
  | ambiguousProvider
deriving DecidableEq, Repr

def ProviderResolutionPreviewOutcome.value : ProviderResolutionPreviewOutcome → String
  | .resolved => "resolved"
  | .unknownProvider => "unknown_provider"
  | .unsupportedMissionType => "unsupported_mission_type"
  | .unsupportedExecutionMode => "unsupported_execution_mode"
  | .noSupportingProvider => "no_supporting_provider"
  | .ambiguousProvider => "ambiguous_provider"

/-- The fields of a `ProviderResolutionPreview`. -/
structure ProviderResolutionPreviewFields where
  missionId : UUID
  missionType : MissionType
  selectionMode : ProviderSelectionMode
  requestedProviderId : Option ProviderId
  outcome : ProviderResolutionPreviewOutcome
  resolvedProviderId : Option String
  candidateProviderIds : List String
  failureReason : Option ProviderResolutionFailureReason

namespace ProviderResolutionPreviewFields

/-- The second half of `validate_outcome`, for an outcome that is a failure. -/
def validateFailure (preview : ProviderResolutionPreviewFields) : Except PyException Unit :=
  match preview.outcome with
  | .unknownProvider | .unsupportedMissionType =>
    if preview.requestedProviderId = none ∨ preview.candidateProviderIds ≠ [] then
      .error (validationError "explicit provider failure preview is invalid")
    else .ok ()
  | .unsupportedExecutionMode =>
    if preview.candidateProviderIds ≠ [] then
      .error (validationError "unsupported-execution-mode preview is invalid")
    else .ok ()
  | .noSupportingProvider =>
    if preview.requestedProviderId ≠ none ∨ preview.candidateProviderIds ≠ [] then
      .error (validationError "no-supporting-provider preview is invalid")
    else .ok ()
  | .ambiguousProvider | .resolved =>
    if preview.requestedProviderId ≠ none ∨ preview.candidateProviderIds.length < 2 then
      .error (validationError "ambiguous-provider preview is invalid")
    else .ok ()

def validateOutcome (preview : ProviderResolutionPreviewFields) : Except PyException Unit :=
  if preview.selectionMode ≠ .ofProviderId preview.requestedProviderId then
    .error (validationError "selection mode does not match requested provider")
  else if preview.outcome = .resolved then
    match preview.resolvedProviderId with
    | none => .error (validationError "resolved preview is invalid")
    | some resolved =>
      if preview.failureReason ≠ none ∨ preview.candidateProviderIds ≠ [resolved] then
        .error (validationError "resolved preview is invalid")
      else .ok ()
  else if preview.resolvedProviderId ≠ none then
    .error (validationError "failed preview must not have a resolved provider")
  else
    match preview.failureReason with
    | none => .error (validationError "failed preview must have a failure reason")
    | some reason =>
      if preview.outcome.value ≠ reason.value then
        .error (validationError "preview outcome does not match failure reason")
      else preview.validateFailure

end ProviderResolutionPreviewFields

/-- A preview that its validator accepted. -/
structure ProviderResolutionPreview extends ProviderResolutionPreviewFields where
  valid : toProviderResolutionPreviewFields.validateOutcome = .ok ()

def ProviderResolutionPreview.create (fields : ProviderResolutionPreviewFields) :
    Except PyException ProviderResolutionPreview :=
  match valid : fields.validateOutcome with
  | .error error => .error error
  | .ok () => .ok { fields with valid := valid }

theorem ProviderResolutionPreview.create_ok {fields : ProviderResolutionPreviewFields}
    (valid : fields.validateOutcome = .ok ()) :
    create fields = .ok { fields with valid := valid } := by
  unfold create
  split
  · rename_i error raised
    cases raised.symm.trans valid
  · rfl

namespace PreviewMissionProviderResolution

def failurePreview (mission : Mission) (outcome : ProviderResolutionPreviewOutcome)
    (failureReason : ProviderResolutionFailureReason) (candidateProviderIds : List String := []) :
    Except PyException ProviderResolutionPreview :=
  ProviderResolutionPreview.create {
    missionId := mission.id
    missionType := mission.missionType
    selectionMode := .ofProviderId mission.providerId
    requestedProviderId := mission.providerId
    outcome := outcome
    resolvedProviderId := none
    candidateProviderIds := candidateProviderIds
    failureReason := some failureReason }

/-- The preview of what the resolver returned or raised. -/
def preview (mission : Mission) :
    Except PyException ProviderAdapter → Except PyException ProviderResolutionPreview
  | .ok adapter =>
    ProviderResolutionPreview.create {
      missionId := mission.id
      missionType := mission.missionType
      selectionMode := .ofProviderId mission.providerId
      requestedProviderId := mission.providerId
      outcome := .resolved
      resolvedProviderId := some adapter.providerId
      candidateProviderIds := [adapter.providerId]
      failureReason := none }
  | .error (.unknownProviderError _) => failurePreview mission .unknownProvider .unknownProvider
  | .error (.unsupportedMissionTypeError _ _) =>
    failurePreview mission .unsupportedMissionType .unsupportedMissionType
  | .error (.unsupportedExecutionModeError _ _) =>
    failurePreview mission .unsupportedExecutionMode .unsupportedExecutionMode
  | .error (.noSupportingProviderError _) =>
    failurePreview mission .noSupportingProvider .noSupportingProvider
  | .error (.ambiguousProviderError _ providerIds) =>
    failurePreview mission .ambiguousProvider .ambiguousProvider providerIds
  | .error error => .error error

variable {B : Backend} (repository : MissionRepository B)

def execute (registry : ProviderRegistry) (missionId : UUID) :
    Service B ProviderResolutionPreview := do
  match ← repository.get missionId with
  | none => throw .missionNotFoundError
  | some r =>
    let mission ← read r
    fromExcept (preview mission (ProviderResolver.resolve registry mission))

end PreviewMissionProviderResolution
end PurchaseAgent
