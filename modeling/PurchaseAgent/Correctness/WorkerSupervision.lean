import Mathlib.Data.List.DropRight
import PurchaseAgent.Services.Workers

/-!
What a supervisor can read from the heartbeats, whatever processes of whichever
workers run at the same time: the row of a worker sums up its own recorded cycles.
-/

namespace PurchaseAgent

open Collections WorkerWorld

/-- A recorded cycle: when it was recorded and whether it succeeded. -/
abbrev CycleRecord := Time × Bool

def lastSuccess (records : List CycleRecord) : Option Time :=
  (records.filter (·.2)).getLast?.map (·.1)

/-- The failures since the last success. -/
def failuresInARow (records : List CycleRecord) : Nat :=
  (records.rtakeWhile fun record => ! record.2).length

/-- The row after the recorded cycles of a worker. -/
def heartbeatOf (workerKind : WorkerKind) (instanceId : String) (records : List CycleRecord) :
    Option WorkerHeartbeat :=
  match records.head?, records.getLast? with
  | some first, some last => some
    { workerKind := workerKind
      instanceId := instanceId
      startedAt := first.1
      heartbeatAt := last.1
      lastSuccessAt := lastSuccess records
      consecutiveFailures := failuresInARow records }
  | _, _ => none

/-- The record an event makes for a worker, by any of its processes. -/
def WorkerEvent.recordFor (processes : Nat → WorkerProcess) (workerKind : WorkerKind)
    (instanceId : String) (event : WorkerEvent) : Option CycleRecord :=
  if (processes event.process).workerKind = workerKind ∧
      (processes event.process).instanceId = instanceId then
    event.recordedAt.map fun currentTime => (currentTime, event.success)
  else none

def recordsOf (processes : Nat → WorkerProcess) (workerKind : WorkerKind) (instanceId : String)
    (events : List WorkerEvent) : List CycleRecord :=
  events.filterMap (·.recordFor processes workerKind instanceId)

/-- A cycle of the process that ends in this way. -/
def WorkerEvent.ends (process : Nat) (success : Bool) : WorkerEvent → Bool
  | .cycle other outcome _ => other = process && outcome == success
  | _ => false

def cyclesOf (process : Nat) (success : Bool) (events : List WorkerEvent) : Nat :=
  events.countP (·.ends process success)

/-- What the state of a process says about its cycles. -/
def Counted (maxCycles : Option Nat) (stopped : Prop) (completed failed : Nat) :
    WorkerState → Prop
  | .running completedCycles failedCycles =>
      completedCycles = completed ∧ failedCycles = failed ∧
        ∀ limit ∈ maxCycles, completed + failed < limit
  | .returned result =>
      result = ⟨completed, failed⟩ ∧
        (maxCycles = some (completed + failed) ∨
          stopped ∧ ∀ limit ∈ maxCycles, completed + failed < limit)
  | .raised => ∀ limit ∈ maxCycles, completed + failed < limit

/-! One record. -/

theorem heartbeatOf_snoc (workerKind : WorkerKind) (instanceId : String)
    (records : List CycleRecord) (last : CycleRecord) :
    heartbeatOf workerKind instanceId (records ++ [last]) = some
      { workerKind := workerKind
        instanceId := instanceId
        startedAt := (records.head?.getD last).1
        heartbeatAt := last.1
        lastSuccessAt := if last.2 then some last.1 else lastSuccess records
        consecutiveFailures := if last.2 then 0 else failuresInARow records + 1 } := by
  have newest : (records ++ [last]).getLast? = some last := List.getLast?_concat
  have oldest : (records ++ [last]).head? = some (records.head?.getD last) := by
    cases records <;> rfl
  simp only [heartbeatOf, newest, oldest]
  cases outcome : last.2 <;>
    simp [lastSuccess, failuresInARow, List.filter_append, outcome]

theorem heartbeatOf_eq_none {workerKind : WorkerKind} {instanceId : String}
    {records : List CycleRecord} (missing : heartbeatOf workerKind instanceId records = none) :
    records = [] := by
  induction records using List.reverseRecOn with
  | nil => rfl
  | append_singleton front last _ => simp [heartbeatOf_snoc] at missing

/-- `record` adds one cycle to what the row sums up. -/
theorem record_get (table : HeartbeatTable) (workerKind : WorkerKind) (instanceId : String)
    (records : List CycleRecord) (currentTime : Time) (success : Bool)
    (sums : Dict.get? table (workerKind, instanceId) = heartbeatOf workerKind instanceId records) :
    Dict.get? (table.record workerKind instanceId currentTime success) (workerKind, instanceId) =
      heartbeatOf workerKind instanceId (records ++ [(currentTime, success)]) := by
  rw [heartbeatOf_snoc, HeartbeatTable.record, sums]
  cases row : heartbeatOf workerKind instanceId records with
  | none =>
      rw [heartbeatOf_eq_none row]
      simp [lastSuccess, failuresInARow]
  | some heartbeat =>
      cases records with
      | nil => cases row
      | cons first rest =>
          simp only [heartbeatOf, List.head?_cons,
            List.getLast?_eq_some_getLast (List.cons_ne_nil first rest)] at row
          obtain rfl := Option.some.inj row
          simp

theorem record_get_of_ne (table : HeartbeatTable) (workerKind : WorkerKind) (instanceId : String)
    (currentTime : Time) (success : Bool) {key : WorkerKind × String}
    (other : key ≠ (workerKind, instanceId)) :
    Dict.get? (table.record workerKind instanceId currentTime success) key =
      Dict.get? table key := by
  rw [HeartbeatTable.record]
  split <;> exact Dict.get?_set_of_ne _ other _

/-! One step of the processes. -/

theorem Counted.mono {maxCycles : Option Nat} {stopped later : Prop} {completed failed : Nat}
    {state : WorkerState} (h : Counted maxCycles stopped completed failed state)
    (mono : stopped → later) : Counted maxCycles later completed failed state := by
  cases state with
  | running completedCycles failedCycles => exact h
  | returned result => exact ⟨h.1, h.2.imp_right fun early => ⟨mono early.1, early.2⟩⟩
  | raised => exact h

theorem goOn_counted {maxCycles : Option Nat} {stopped : Prop} {completed failed : Nat}
    (within : ∀ limit ∈ maxCycles, completed + failed ≤ limit) :
    Counted maxCycles stopped completed failed (goOn maxCycles completed failed) := by
  cases maxCycles with
  | none => exact ⟨rfl, rfl, fun _ given => nomatch given⟩
  | some limit =>
      have bounded := within limit rfl
      by_cases reached : limit ≤ completed + failed
      · have last : goOn (some limit) completed failed = .returned ⟨completed, failed⟩ :=
          if_pos (decide_eq_true reached)
        rw [last]
        exact ⟨rfl, .inl (congrArg some (by omega))⟩
      · have more : goOn (some limit) completed failed = .running completed failed :=
          if_neg fun all => reached (of_decide_eq_true all)
        rw [more]
        refine ⟨rfl, rfl, fun other given => ?_⟩
        obtain rfl := Option.some.inj given
        omega

/-- What holds after the events of a run. -/
structure Supervised (processes : Nat → WorkerProcess) (events : List WorkerEvent)
    (world : WorkerWorld) : Prop where
  counts : ∀ process, Counted (processes process).maxCycles (.stopped process ∈ events)
    (cyclesOf process true events) (cyclesOf process false events) (world.states process)
  heartbeats : ∀ workerKind instanceId, Dict.get? world.heartbeats (workerKind, instanceId) =
    heartbeatOf workerKind instanceId (recordsOf processes workerKind instanceId events)

variable {processes : Nat → WorkerProcess} {events : List WorkerEvent} {world world' : WorkerWorld}

theorem supervised_start : Supervised processes [] .start where
  counts process := ⟨rfl, rfl, (processes process).maxCycles_pos⟩
  heartbeats _ _ := rfl

theorem cyclesOf_snoc (process : Nat) (success : Bool) (events : List WorkerEvent)
    (event : WorkerEvent) :
    cyclesOf process success (events ++ [event]) =
      cyclesOf process success events + if event.ends process success then 1 else 0 := by
  rw [cyclesOf, List.countP_append, List.countP_singleton]
  rfl

theorem ends_of_ne {process : Nat} {event : WorkerEvent} (other : process ≠ event.process)
    (success : Bool) : event.ends process success = false := by
  cases event with
  | cycle own outcome recordedAt =>
      have differs : own ≠ process := fun same => other same.symm
      simp [WorkerEvent.ends, differs]
  | stopped own => rfl
  | interrupted own outcome recordedAt => rfl

theorem recordsOf_snoc (workerKind : WorkerKind) (instanceId : String)
    (events : List WorkerEvent) (event : WorkerEvent) :
    recordsOf processes workerKind instanceId (events ++ [event]) =
      recordsOf processes workerKind instanceId events ++
        (event.recordFor processes workerKind instanceId).toList := by
  rw [recordsOf, List.filterMap_append]
  cases made : event.recordFor processes workerKind instanceId <;> simp [recordsOf, made]

/-- The event leaves the process where its cycles say. -/
theorem next_counted (event : WorkerEvent) {maxCycles : Option Nat}
    (below : ∀ limit ∈ maxCycles, cyclesOf event.process true events +
      cyclesOf event.process false events < limit) :
    Counted maxCycles (.stopped event.process ∈ events ++ [event])
      (cyclesOf event.process true (events ++ [event]))
      (cyclesOf event.process false (events ++ [event]))
      (next maxCycles (cyclesOf event.process true events)
        (cyclesOf event.process false events) event) := by
  rw [cyclesOf_snoc, cyclesOf_snoc]
  cases event with
  | cycle process success recordedAt =>
      cases success with
      | true =>
          simp only [WorkerEvent.ends, WorkerEvent.process, decide_true, beq_self_eq_true,
            Bool.and_self, Bool.true_beq, Bool.and_false, Bool.false_eq_true, if_true, if_false,
            Nat.add_zero, next]
          apply goOn_counted
          intro limit given
          have := below limit given
          simp only [WorkerEvent.process] at this
          omega
      | false =>
          simp only [WorkerEvent.ends, WorkerEvent.process, decide_true, beq_self_eq_true,
            Bool.and_self, Bool.false_beq, Bool.not_true, Bool.and_false, Bool.false_eq_true,
            if_true, if_false, Nat.add_zero, next]
          apply goOn_counted
          intro limit given
          have := below limit given
          simp only [WorkerEvent.process] at this
          omega
  | stopped process =>
      exact ⟨rfl, .inr ⟨List.mem_append_right _ (List.mem_singleton_self _), below⟩⟩
  | interrupted process success recordedAt => exact below

theorem Supervised.step (h : Supervised processes events world) {event : WorkerEvent}
    (stepped : step processes world event = some world') :
    Supervised processes (events ++ [event]) world' := by
  cases state : world.states event.process with
  | running completed failed =>
      obtain ⟨rfl, rfl, below⟩ : Counted _ _ _ _ (.running completed failed) :=
        state ▸ h.counts event.process
      simp only [WorkerWorld.step, state, Option.some.injEq] at stepped
      rw [← stepped]
      constructor
      · intro process
        by_cases own : process = event.process
        · rw [own]
          simp only [enter, if_true]
          exact next_counted event below
        · simp only [enter, own, if_false]
          rw [cyclesOf_snoc, cyclesOf_snoc, ends_of_ne own, ends_of_ne own]
          exact (h.counts process).mono (List.mem_append_left _)
      · intro workerKind instanceId
        have sums := h.heartbeats workerKind instanceId
        rw [recordsOf_snoc, WorkerEvent.recordFor]
        simp only [enter]
        cases event.recordedAt with
        | none => simpa using sums
        | some currentTime =>
            by_cases own : (processes event.process).workerKind = workerKind ∧
                (processes event.process).instanceId = instanceId
            · rw [if_pos own]
              obtain ⟨rfl, rfl⟩ := own
              exact record_get _ _ _ _ currentTime event.success sums
            · have other : (workerKind, instanceId) ≠ ((processes event.process).workerKind,
                  (processes event.process).instanceId) := fun equal =>
                own ⟨(congrArg Prod.fst equal).symm, (congrArg Prod.snd equal).symm⟩
              rw [if_neg own, Option.toList_none, List.append_nil]
              exact (record_get_of_ne _ _ _ currentTime event.success other).trans sums
  | returned result => simp [WorkerWorld.step, state] at stepped
  | raised => simp [WorkerWorld.step, state] at stepped

theorem supervised_run (ran : run processes .start events = some world) :
    Supervised processes events world := by
  induction events using List.reverseRecOn generalizing world with
  | nil =>
      obtain rfl := Option.some.inj ran
      exact supervised_start
  | append_singleton front event ih =>
      rw [run, List.foldlM_append] at ran
      obtain ⟨middle, before, last⟩ := Option.bind_eq_some_iff.mp ran
      rw [List.foldlM_cons] at last
      obtain ⟨after, stepped, same⟩ := Option.bind_eq_some_iff.mp last
      obtain rfl := Option.some.inj same
      exact (ih before).step stepped

/-! What the health of a worker says. -/

/-- A worker is healthy exactly when its last recorded cycle succeeded, lately enough. -/
theorem healthy_iff {workerKind : WorkerKind} {instanceId : String} {records : List CycleRecord}
    {heartbeat : WorkerHeartbeat} (row : heartbeatOf workerKind instanceId records = some heartbeat)
    (currentTime : Time) {maxAge : TimeDelta} (positive : 0 < maxAge) :
    (evaluateWorkerHealth heartbeat currentTime maxAge).map (·.healthy) = some true ↔
      ∃ earlier time, records = earlier ++ [(time, true)] ∧ currentTime - time ≤ maxAge := by
  induction records using List.reverseRecOn with
  | nil => cases row
  | append_singleton earlier last _ =>
      obtain ⟨time, success⟩ := last
      rw [heartbeatOf_snoc] at row
      obtain rfl := Option.some.inj row
      rw [evaluateWorkerHealth, if_neg (Int.not_le.mpr positive)]
      have nonneg : (0 : Int) ≤ maxAge := Int.le_of_lt positive
      cases success with
      | true =>
          simp only [Option.map_some, if_true, and_true, Option.some.injEq, decide_eq_true_eq]
          constructor
          · intro fresh
            exact ⟨earlier, time, rfl, Int.le_trans (Int.le_max_right _ _) fresh⟩
          · intro found
            obtain ⟨_, _, same, fresh⟩ := found
            obtain ⟨-, last⟩ := List.append_inj' same rfl
            obtain ⟨rfl, -⟩ := Prod.mk.inj (List.singleton_inj.mp last)
            exact Int.max_le.mpr ⟨nonneg, fresh⟩
      | false =>
          constructor
          · simp
          · intro found
            obtain ⟨_, _, same, _⟩ := found
            obtain ⟨-, last⟩ := List.append_inj' same rfl
            cases last

theorem workers_supervised (ran : run processes .start events = some world) :
    (∀ process, Counted (processes process).maxCycles (.stopped process ∈ events)
      (cyclesOf process true events) (cyclesOf process false events) (world.states process)) ∧
    ∀ workerKind instanceId,
      Dict.get? world.heartbeats (workerKind, instanceId) =
        heartbeatOf workerKind instanceId (recordsOf processes workerKind instanceId events) ∧
      ∀ heartbeat, Dict.get? world.heartbeats (workerKind, instanceId) = some heartbeat →
        ∀ (currentTime : Time) (maxAge : TimeDelta), 0 < maxAge →
          ((evaluateWorkerHealth heartbeat currentTime maxAge).map (·.healthy) = some true ↔
            ∃ earlier time,
              recordsOf processes workerKind instanceId events = earlier ++ [(time, true)] ∧
                currentTime - time ≤ maxAge) := by
  have supervised := supervised_run ran
  refine ⟨supervised.counts, fun workerKind instanceId =>
    ⟨supervised.heartbeats workerKind instanceId, ?_⟩⟩
  intro heartbeat row currentTime maxAge positive
  rw [supervised.heartbeats] at row
  exact healthy_iff row currentTime positive

/-- A worker that ends after two cycles and the one that takes over its name. -/
def successiveWorkers (process : Nat) : WorkerProcess where
  workerKind := .mission
  instanceId := "worker-1"
  maxCycles := if process = 0 then some 2 else none
  maxCycles_pos limit given := by
    split at given
    · obtain rfl := Option.some.inj given
      decide
    · cases given

def successiveEvents : List WorkerEvent :=
  [.cycle 0 true (some 10), .cycle 0 false (some 20), .cycle 1 false none,
    .cycle 1 true (some 40), .stopped 1]

def successiveWorld : WorkerWorld :=
  (run successiveWorkers .start successiveEvents).getD .start

def successiveHeartbeat : WorkerHeartbeat := ⟨.mission, "worker-1", 10, 40, some 40, 0⟩

theorem workers_supervised_successive :
    successiveWorld.states 0 = .returned ⟨1, 1⟩ ∧ successiveWorld.states 1 = .returned ⟨1, 1⟩ ∧
      Dict.get? successiveWorld.heartbeats (.mission, "worker-1") = some successiveHeartbeat ∧
      ((evaluateWorkerHealth successiveHeartbeat 60 30).map (·.healthy) = some true ↔
        ∃ earlier time,
          recordsOf successiveWorkers .mission "worker-1" successiveEvents =
            earlier ++ [(time, true)] ∧ 60 - time ≤ 30) := by
  have ends : (run successiveWorkers .start successiveEvents).isSome = true := rfl
  have ran : run successiveWorkers .start successiveEvents = some successiveWorld :=
    (Option.some_get ends).symm
  have row : Dict.get? successiveWorld.heartbeats (.mission, "worker-1") =
      some successiveHeartbeat := rfl
  exact ⟨rfl, rfl, row,
    ((workers_supervised ran).2 .mission "worker-1").2 successiveHeartbeat row 60 30 (by decide)⟩

end PurchaseAgent
