import PurchaseAgent.Collections.Dict
import PurchaseAgent.Domain.Values

/-!
The worker processes: the loop that runs cycle after cycle until it is stopped, the
heartbeat that is recorded after each cycle, and the health that is read from it.
-/

namespace PurchaseAgent

open Collections

inductive WorkerKind where
  | mission
  | notification
deriving DecidableEq, Repr

structure WorkerHeartbeat where
  workerKind : WorkerKind
  instanceId : String
  startedAt : Time
  heartbeatAt : Time
  lastSuccessAt : Option Time
  consecutiveFailures : Nat
deriving DecidableEq, Repr

structure WorkerHealth where
  workerKind : WorkerKind
  instanceId : String
  healthy : Bool
  heartbeatAt : Time
  heartbeatAge : TimeDelta
  lastSuccessAt : Option Time
  consecutiveFailures : Nat
deriving DecidableEq, Repr

/-- `evaluate_worker_health`; `none` stands for the `ValueError` about `max_age`. -/
def evaluateWorkerHealth (heartbeat : WorkerHeartbeat) (currentTime : Time) (maxAge : TimeDelta) :
    Option WorkerHealth :=
  if maxAge ≤ 0 then none
  else
    let age := max 0 (currentTime - heartbeat.heartbeatAt)
    some
      { workerKind := heartbeat.workerKind
        instanceId := heartbeat.instanceId
        healthy := age ≤ maxAge ∧ heartbeat.consecutiveFailures = 0
        heartbeatAt := heartbeat.heartbeatAt
        heartbeatAge := age
        lastSuccessAt := heartbeat.lastSuccessAt
        consecutiveFailures := heartbeat.consecutiveFailures }

/-- The rows of `worker_heartbeats` under their primary key. -/
abbrev HeartbeatTable := Dict (WorkerKind × String) WorkerHeartbeat

def HeartbeatTable.record (table : HeartbeatTable) (workerKind : WorkerKind) (instanceId : String)
    (currentTime : Time) (success : Bool) : HeartbeatTable :=
  let key := (workerKind, instanceId)
  match Dict.get? table key with
  | none =>
    Dict.set table key
      { workerKind := workerKind
        instanceId := instanceId
        startedAt := currentTime
        heartbeatAt := currentTime
        lastSuccessAt := if success then some currentTime else none
        consecutiveFailures := if success then 0 else 1 }
  | some heartbeat =>
    Dict.set table key
      { heartbeat with
        heartbeatAt := currentTime
        lastSuccessAt := if success then some currentTime else heartbeat.lastSuccessAt
        consecutiveFailures := if success then 0 else heartbeat.consecutiveFailures + 1 }

structure MissionWorkerRunResult where
  completedCycles : Nat
  failedCycles : Nat
deriving DecidableEq, Repr

/-- A process of a worker, with what `run_mission_worker` has checked. -/
structure WorkerProcess where
  workerKind : WorkerKind
  instanceId : String
  maxCycles : Option Nat
  maxCycles_pos : ∀ limit ∈ maxCycles, 1 ≤ limit

/-- Where `run_mission_worker` stands between two cycles. -/
inductive WorkerState where
  | running (completedCycles failedCycles : Nat)
  | returned (result : MissionWorkerRunResult)
  | raised
deriving DecidableEq, Repr

/-- What happens to a process next. -/
inductive WorkerEvent where
  /-- A cycle ends, its heartbeat is recorded at a time or lost, and the loop goes on or
  has reached its last cycle. -/
  | cycle (process : Nat) (success : Bool) (recordedAt : Option Time)
  /-- The loop finds that the stop event is set. -/
  | stopped (process : Nat)
  /-- The cycle or a handler raises what the loop does not catch; a handler may have
  recorded its heartbeat before. -/
  | interrupted (process : Nat) (success : Bool) (recordedAt : Option Time)
deriving DecidableEq, Repr

structure WorkerWorld where
  heartbeats : HeartbeatTable
  states : Nat → WorkerState

namespace WorkerWorld

def start : WorkerWorld := ⟨[], fun _ => .running 0 0⟩

/-- A process comes to a state after `_record_worker_heartbeat`. Recordings under the name
of one worker do not overlap. -/
def enter (world : WorkerWorld) (process : Nat) (worker : WorkerProcess) (success : Bool)
    (recordedAt : Option Time) (state : WorkerState) : WorkerWorld where
  heartbeats :=
    match recordedAt with
    | some currentTime =>
      world.heartbeats.record worker.workerKind worker.instanceId currentTime success
    | none => world.heartbeats
  states other := if other = process then state else world.states other

/-- The end of the loop body. -/
def goOn (maxCycles : Option Nat) (completedCycles failedCycles : Nat) : WorkerState :=
  if maxCycles.any (· ≤ completedCycles + failedCycles) then
    .returned ⟨completedCycles, failedCycles⟩
  else .running completedCycles failedCycles

/-- The state in which an event leaves a running process. -/
def next (maxCycles : Option Nat) (completedCycles failedCycles : Nat) : WorkerEvent → WorkerState
  | .cycle _ success _ =>
    if success then goOn maxCycles (completedCycles + 1) failedCycles
    else goOn maxCycles completedCycles (failedCycles + 1)
  | .stopped _ => .returned ⟨completedCycles, failedCycles⟩
  | .interrupted _ _ _ => .raised

end WorkerWorld

namespace WorkerEvent

def process : WorkerEvent → Nat
  | .cycle process _ _ | .stopped process | .interrupted process _ _ => process

def success : WorkerEvent → Bool
  | .cycle _ success _ | .interrupted _ success _ => success
  | .stopped _ => true

def recordedAt : WorkerEvent → Option Time
  | .cycle _ _ recordedAt | .interrupted _ _ recordedAt => recordedAt
  | .stopped _ => none

end WorkerEvent

namespace WorkerWorld

/-- A process that is no longer running does nothing. -/
def step (processes : Nat → WorkerProcess) (world : WorkerWorld) (event : WorkerEvent) :
    Option WorkerWorld :=
  let worker := processes event.process
  match world.states event.process with
  | .running completedCycles failedCycles =>
    some (world.enter event.process worker event.success event.recordedAt
      (next worker.maxCycles completedCycles failedCycles event))
  | .returned _ => none
  | .raised => none

def run (processes : Nat → WorkerProcess) (world : WorkerWorld) (events : List WorkerEvent) :
    Option WorkerWorld := events.foldlM (step processes) world

end WorkerWorld
end PurchaseAgent
