import PurchaseAgent.Domain.Mission

/-!
Provider adapters as the services see them, and the catalog of the configured
ones. The asynchronous methods of an adapter are effects, not data.
-/

namespace PurchaseAgent

structure ProviderCapability where
  missionType : MissionType
  supportsAutoPurchase : Bool
deriving DecidableEq

structure ProviderAdapter where
  providerId : String
  capabilities : List ProviderCapability
deriving DecidableEq

namespace ProviderAdapter

def supports (adapter : ProviderAdapter) (missionType : MissionType) : Bool :=
  adapter.capabilities.any fun capability => capability.missionType = missionType

def supportsExecutionMode (adapter : ProviderAdapter) (missionType : MissionType)
    (executionMode : MissionExecutionMode) : Bool :=
  if executionMode ≠ .autoPurchase then
    adapter.capabilities.any fun capability => capability.missionType = missionType
  else
    adapter.capabilities.any fun capability =>
      capability.missionType = missionType ∧ capability.supportsAutoPurchase

end ProviderAdapter

/-- The adapters passed to `ProviderRegistry(...)`; its constructor rejects blank
and duplicate ids. -/
structure ProviderRegistry where
  adapters : List ProviderAdapter
  validIds : ∀ adapter ∈ adapters, strip adapter.providerId ≠ ""
  uniqueIds : (adapters.map (·.providerId)).Nodup

namespace ProviderRegistry

def get (registry : ProviderRegistry) (providerId : String) :
    Except PyException ProviderAdapter :=
  match registry.adapters.find? (·.providerId = providerId) with
  | some adapter => .ok adapter
  | none => .error (.unknownProviderError providerId)

def listSupporting (registry : ProviderRegistry) (missionType : MissionType) :
    List ProviderAdapter :=
  registry.adapters.filter (·.supports missionType)

theorem get_ok {registry : ProviderRegistry} {providerId : String} {adapter : ProviderAdapter}
    (h : registry.get providerId = .ok adapter) :
    adapter ∈ registry.adapters ∧ adapter.providerId = providerId := by
  unfold get at h
  split at h
  · rename_i found
    cases h
    exact ⟨List.mem_of_find?_eq_some found, by simpa using List.find?_some found⟩
  · cases h

end ProviderRegistry
end PurchaseAgent
