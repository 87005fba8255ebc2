import PurchaseAgent.Correctness.Initial
import PurchaseAgent.Services.LongPolling

/-!
Both services answer before their deadline has passed unnoticed: whatever is written in the
meantime, and however much longer than asked the waiter sleeps.
-/

namespace PurchaseAgent

open Cooperative LongPoll

section
variable {σ ρ : Type} (waiter : Waiter σ) (present : Bool) (read : σ → Except PyException ρ)
  (found : ρ → Bool) (pollInterval timeout : TimeDelta)

/-- Only a mission that is not there raises without a reading; a call for another one
returns in time. -/
def AnswersInTime (s : σ) (run : Nat → Option (Returned σ PyException ρ)) : Prop :=
  if present then
    Settles waiter read found pollInterval (waiter.monotonic s + timeout) (timeout.toNat + 1) run
  else ∀ fuel, run fuel = some ⟨[], waiter.meanwhile s, .error .missionNotFoundError⟩

end

theorem Sources.call_answers {σ ρ Reader : Type} (waiter : Waiter σ) (sources : Sources σ Reader)
    (missionId : UUID) (read : σ → Except PyException ρ) (found : ρ → Bool)
    {pollInterval timeout : TimeDelta} (positive : 0 < pollInterval) (waits : 0 < timeout) (s : σ) :
    AnswersInTime waiter ((sources.missions s).get missionId).isSome read found pollInterval
      timeout s fun fuel =>
        call waiter read found (sources.absent missionId) pollInterval timeout fuel s := by
  cases present : ((sources.missions s).get missionId).isSome with
  | true => exact call_settles positive waits (if_pos present)
  | false =>
      intro fuel
      have raises : sources.absent missionId s = some .missionNotFoundError := by
        rw [Sources.absent, present]
        rfl
      simp only [call, raises]

namespace WaitForMissionEventHistory

theorem init_ok {pollInterval : TimeDelta} {service : WaitForMissionEventHistory}
    (accepted : init pollInterval = .ok service) : service.pollInterval = pollInterval := by
  rw [init] at accepted
  split at accepted
  · cases accepted
    rfl
  · cases accepted

end WaitForMissionEventHistory

namespace GetMissionProviderResolutionIncrement

theorem init_ok {pollInterval : TimeDelta} {service : Service}
    (accepted : init pollInterval = .ok service) : service.pollInterval = pollInterval := by
  rw [init] at accepted
  split at accepted
  · split at accepted
    · cases accepted
      rfl
    · cases accepted
  · cases accepted

end GetMissionProviderResolutionIncrement

/-- Both services, from any state and with any poll interval that their constructors accept. -/
theorem long_polls_answer {σ : Type} (waiter : Waiter σ) (missionId : UUID) (s : σ)
    {eventInterval historyInterval : TimeDelta} {events : WaitForMissionEventHistory}
    {history : GetMissionProviderResolutionIncrement.Service}
    (eventsAccepted : WaitForMissionEventHistory.init eventInterval = .ok events)
    (historyAccepted : GetMissionProviderResolutionIncrement.init historyInterval = .ok history)
    (eventSources : Sources σ MissionEventProjectionReader)
    (historySources : Sources σ ProviderHistoryProjectionReader)
    (eventRequest : MissionEventHistoryPageRequest) {waitTimeout : TimeDelta}
    (eventsWait : 0 < waitTimeout) (historyRequest : ProviderResolutionIncrementRequest)
    (historyWaits : 0 < historyRequest.waitTimeout) :
    AnswersInTime waiter ((eventSources.missions s).get missionId).isSome
        (WaitForMissionEventHistory.reads eventSources missionId eventRequest)
        WaitForMissionEventHistory.found eventInterval waitTimeout s
        (fun fuel => events.execute waiter eventSources missionId eventRequest waitTimeout fuel s) ∧
      AnswersInTime waiter ((historySources.missions s).get missionId).isSome
        (GetMissionProviderResolutionIncrement.reads historySources missionId historyRequest)
        GetMissionProviderResolutionIncrement.found historyInterval historyRequest.waitTimeout s
        (fun fuel => GetMissionProviderResolutionIncrement.execute history waiter historySources
          missionId historyRequest fuel s) := by
  have eventsPositive := events.pollInterval_pos
  have historyPositive := history.pollInterval_pos
  rw [← WaitForMissionEventHistory.init_ok eventsAccepted,
    ← GetMissionProviderResolutionIncrement.init_ok historyAccepted]
  exact ⟨eventSources.call_answers waiter missionId _ _ eventsPositive eventsWait s,
    historySources.call_answers waiter missionId _ _ historyPositive historyWaits s⟩

/-! A waiter that oversleeps by one microsecond. -/

namespace Oversleeping

theorem slept (delay now : Int) : now + delay ≤ now + delay + 1 := by omega

theorem stands (now : Int) : now = now := rfl

def waiter : Waiter Int := ⟨id, fun delay now => now + delay + 1, id, slept, stands⟩

def sources (Reader : Type) : Sources Int Reader := ⟨fun _ => [Sample.mission], none⟩

theorem interval_pos : (0 : Int) < 500000 := by decide

theorem interval_le : 500000 ≤ maxProviderHistoryWait := by decide

theorem limit_ge : 1 ≤ 100 := by decide

theorem limit_le : 100 ≤ 500 := by decide

theorem timeout_nonneg : (0 : Int) ≤ 1000000 := by decide

theorem timeout_le : 1000000 ≤ maxProviderHistoryWait := by decide

def events : WaitForMissionEventHistory := ⟨500000, interval_pos⟩

def history : GetMissionProviderResolutionIncrement.Service :=
  ⟨500000, interval_pos, interval_le⟩

def historyRequest : ProviderResolutionIncrementRequest :=
  ⟨0, 100, 1000000, limit_ge, limit_le, timeout_nonneg, timeout_le⟩

end Oversleeping

open Oversleeping in
theorem long_polls_answer_oversleeping :
    AnswersInTime waiter true
        (WaitForMissionEventHistory.reads (sources _) Sample.mission.id ⟨0, 50⟩)
        WaitForMissionEventHistory.found 500000 1000000 0
        (fun fuel => events.execute waiter (sources _) Sample.mission.id ⟨0, 50⟩ 1000000 fuel 0) ∧
      AnswersInTime waiter true
        (GetMissionProviderResolutionIncrement.reads (sources _) Sample.mission.id historyRequest)
        GetMissionProviderResolutionIncrement.found 500000 1000000 0
        (fun fuel => GetMissionProviderResolutionIncrement.execute history waiter (sources _)
          Sample.mission.id historyRequest fuel 0) :=
  long_polls_answer waiter Sample.mission.id 0 rfl rfl (sources _) (sources _) ⟨0, 50⟩
    (by decide) historyRequest (by decide)

end PurchaseAgent
