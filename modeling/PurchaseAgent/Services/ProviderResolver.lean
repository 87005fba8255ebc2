import PurchaseAgent.Adapters.Registry

/-!
Resolution of one adapter for a mission, and the payloads of the events that
record how it went.
-/

namespace PurchaseAgent

/-- `selection_mode_for(provider_id).value`. -/
def selectionModeFor (providerId : Option ProviderId) : String :=
  if providerId.isSome then "explicit" else "automatic"

namespace ProviderResolver

def resolve (registry : ProviderRegistry) (mission : Mission) :
    Except PyException ProviderAdapter :=
  match mission.providerId with
  | some providerId =>
    match registry.get providerId.text with
    | .error error => .error error
    | .ok adapter =>
      if adapter.supports mission.missionType = false then
        .error (.unsupportedMissionTypeError adapter.providerId mission.missionType)
      else if adapter.supportsExecutionMode mission.missionType mission.executionMode = false then
        .error (.unsupportedExecutionModeError mission.executionMode (some adapter.providerId))
      else
        .ok adapter
  | none =>
    let missionTypeAdapters := registry.listSupporting mission.missionType
    match missionTypeAdapters.filter
        (·.supportsExecutionMode mission.missionType mission.executionMode) with
    | [] =>
      if missionTypeAdapters.isEmpty then .error (.noSupportingProviderError mission.missionType)
      else .error (.unsupportedExecutionModeError mission.executionMode none)
    | [adapter] => .ok adapter
    | supportingAdapters =>
      .error (.ambiguousProviderError mission.missionType
        (supportingAdapters.map (·.providerId)))

theorem resolve_ok {registry : ProviderRegistry} {mission : Mission} {adapter : ProviderAdapter}
    (h : resolve registry mission = .ok adapter) :
    adapter ∈ registry.adapters ∧
      ∀ providerId ∈ mission.providerId, adapter.providerId = providerId.text := by
  unfold resolve at h
  split at h
  · rename_i providerId selected
    split at h
    · cases h
    · rename_i found
      obtain ⟨member, id⟩ := ProviderRegistry.get_ok found
      split at h
      · cases h
      · split at h
        · cases h
        · cases h
          refine ⟨member, fun other chosen => ?_⟩
          rw [selected] at chosen
          cases chosen
          exact id
  · rename_i automatic
    simp only at h
    split at h
    · split at h <;> cases h
    · rename_i only
      cases h
      have member := List.mem_singleton_self adapter
      rw [← only, List.mem_filter] at member
      exact ⟨(List.mem_filter.mp member.1).1, by simp [automatic]⟩
    · cases h

/-- The resolver looks at three fields of the mission. -/
theorem resolve_of_same {registry : ProviderRegistry} {mission mission' : Mission}
    (missionType : mission'.missionType = mission.missionType)
    (executionMode : mission'.executionMode = mission.executionMode)
    (providerId : mission'.providerId = mission.providerId) :
    resolve registry mission' = resolve registry mission := by
  unfold resolve
  rw [missionType, executionMode, providerId]

end ProviderResolver

def PyValue.ofProviderId (providerId : Option ProviderId) : PyValue :=
  .ofText (providerId.map (·.text))

/-- `ProviderResolvedEventPayload(...).model_dump(mode="json")`. Its validators
compare the requested provider with the resolved one. -/
def providerResolvedPayload (mission : Mission) (adapter : ProviderAdapter) :
    Except PyException (List (String × PyValue)) :=
  let resolved := strip adapter.providerId
  if resolved = "" then
    .error (.other "ValidationError" "Provider ID must be a non-empty string")
  else if mission.providerId.isSome ∧ mission.providerId.map (·.text) ≠ some resolved then
    .error (.other "ValidationError" "explicit snapshot must resolve requested provider")
  else
    .ok [("provider_id", .str resolved),
      ("mission_type", .str mission.missionType.value),
      ("selection_mode", .str (selectionModeFor mission.providerId)),
      ("snapshot", .dict
        [("selection_mode", .str (selectionModeFor mission.providerId)),
          ("requested_provider_id", .ofProviderId mission.providerId),
          ("resolved_provider_id", .str resolved),
          ("candidate_provider_ids", .list [.str resolved]),
          ("mission_type", .str mission.missionType.value)])]

/-- What the resolver returns passes the validators. -/
theorem providerResolvedPayload_of_resolve {registry : ProviderRegistry} {mission : Mission}
    {adapter : ProviderAdapter} (h : ProviderResolver.resolve registry mission = .ok adapter) :
    ∃ metadata, providerResolvedPayload mission adapter = .ok metadata := by
  obtain ⟨member, selected⟩ := ProviderResolver.resolve_ok h
  have named := registry.validIds adapter member
  have resolves : ¬ (mission.providerId.isSome ∧
      mission.providerId.map (·.text) ≠ some (strip adapter.providerId)) := by
    rintro ⟨explicit, differs⟩
    cases chosen : mission.providerId with
    | none => simp [chosen] at explicit
    | some providerId =>
        refine differs ?_
        rw [chosen, selected providerId (by simp [chosen]), providerId.normalized]
        rfl
  exact ⟨_, (if_neg named).trans (if_neg resolves)⟩

/-- `ProviderResolutionFailedEventPayload(...).model_dump(mode="json")`, for the
exceptions of `resolve`; its validators want the candidates to differ. What else they
want holds of all that `resolve` raises (`recordable_resolutionFailed`). -/
def providerResolutionFailurePayload (mission : Mission) :
    PyException → Except PyException (List (String × PyValue))
  | .unknownProviderError _ =>
      payload "unknown_provider" (.ofProviderId mission.providerId) []
  | .unsupportedMissionTypeError _ _ =>
      payload "unsupported_mission_type" (.ofProviderId mission.providerId) []
  | .unsupportedExecutionModeError _ _ =>
      payload "unsupported_execution_mode" (.ofProviderId mission.providerId) []
  | .noSupportingProviderError _ => payload "no_supporting_provider" .none []
  | .ambiguousProviderError _ providerIds =>
      payload "ambiguous_provider" .none (providerIds.map strip)
  | error => .error error
where
  payload (reason : String) (requested : PyValue) (candidates : List String) :
      Except PyException (List (String × PyValue)) :=
    if candidates.Nodup then
      .ok [("reason", .str reason), ("mission_type", .str mission.missionType.value),
        ("requested_provider_id", requested),
        ("candidate_provider_ids", .list (candidates.map .str))]
    else
      .error (.other "ValidationError" "candidate provider IDs must be unique")

end PurchaseAgent
