import PurchaseAgent.Cooperative.LongPoll
import PurchaseAgent.Services.MissionEventHistory

/-!
The two services that wait for news of a mission. Each opens the database anew for every
reading, so what others write in the meantime is seen by the next one.
-/

namespace PurchaseAgent

open Cooperative

/-- What the repository and the projection show in a state of the database; a service
without a projection factory reads the log. -/
structure Sources (σ Reader : Type) where
  missions : σ → MissionReadRepository
  projection : Option (σ → Reader)

/-- `projection_reader_factory.open()`. -/
def Sources.reader {σ Reader : Type} (sources : Sources σ Reader) (s : σ) : Option Reader :=
  sources.projection.map (· s)

/-- `if not await repository.exists(mission_id)`. -/
def Sources.absent {σ Reader : Type} (sources : Sources σ Reader) (missionId : UUID) (s : σ) :
    Option PyException :=
  if ((sources.missions s).get missionId).isSome then none else some .missionNotFoundError

structure WaitForMissionEventHistory where
  pollInterval : TimeDelta
  pollInterval_pos : 0 < pollInterval

namespace WaitForMissionEventHistory

def init (pollInterval : TimeDelta) : Except PyException WaitForMissionEventHistory :=
  if positive : 0 < pollInterval then .ok ⟨pollInterval, positive⟩
  else .error (.valueError "poll interval must be greater than zero")

/-- The reading of a state. -/
def reads {σ : Type} (sources : Sources σ MissionEventProjectionReader) (missionId : UUID)
    (request : MissionEventHistoryPageRequest) (s : σ) :
    Except PyException MissionEventHistoryPage :=
  readOnce (sources.missions s) (sources.reader s) missionId request

/-- `result.items`. -/
def found (page : MissionEventHistoryPage) : Bool := !page.items.isEmpty

def execute {σ : Type} (service : WaitForMissionEventHistory) (waiter : Waiter σ)
    (sources : Sources σ MissionEventProjectionReader) (missionId : UUID)
    (request : MissionEventHistoryPageRequest) (waitTimeout : TimeDelta) (fuel : Nat) (s : σ) :
    Option (LongPoll.Returned σ PyException MissionEventHistoryPage) :=
  LongPoll.call waiter (reads sources missionId request) found (sources.absent missionId)
    service.pollInterval waitTimeout fuel s

end WaitForMissionEventHistory

def maxProviderHistoryWait : TimeDelta := seconds 30

structure ProviderResolutionIncrementRequest where
  sinceSequence : Nat
  limit : Nat
  waitTimeout : TimeDelta
  limit_ge : 1 ≤ limit
  limit_le : limit ≤ 500
  waitTimeout_nonneg : 0 ≤ waitTimeout
  waitTimeout_le : waitTimeout ≤ maxProviderHistoryWait

namespace GetMissionProviderResolutionIncrement

/-- The service, with what its constructor has checked. -/
structure Service where
  pollInterval : TimeDelta
  pollInterval_pos : 0 < pollInterval
  pollInterval_le : pollInterval ≤ maxProviderHistoryWait

def init (pollInterval : TimeDelta) : Except PyException Service :=
  if positive : 0 < pollInterval then
    if bounded : pollInterval ≤ maxProviderHistoryWait then
      .ok ⟨pollInterval, positive, bounded⟩
    else .error (.valueError "poll interval exceeds the maximum wait")
  else .error (.valueError "poll interval must be greater than zero")

def reads {σ : Type} (sources : Sources σ ProviderHistoryProjectionReader) (missionId : UUID)
    (request : ProviderResolutionIncrementRequest) (s : σ) :
    Except PyException MissionProviderResolutionIncrement :=
  readIncrementOnce (sources.missions s) (sources.reader s) missionId request.sinceSequence
    request.limit

/-- `result.items`. -/
def found (increment : MissionProviderResolutionIncrement) : Bool := !increment.items.isEmpty

def execute {σ : Type} (service : Service) (waiter : Waiter σ)
    (sources : Sources σ ProviderHistoryProjectionReader) (missionId : UUID)
    (request : ProviderResolutionIncrementRequest) (fuel : Nat) (s : σ) :
    Option (LongPoll.Returned σ PyException MissionProviderResolutionIncrement) :=
  LongPoll.call waiter (reads sources missionId request) found (sources.absent missionId)
    service.pollInterval request.waitTimeout fuel s

end GetMissionProviderResolutionIncrement
end PurchaseAgent
