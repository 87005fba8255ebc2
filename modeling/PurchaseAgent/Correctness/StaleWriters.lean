import PurchaseAgent.Correctness.OutboxLog

/-!
Claims of the worker against other writers. A claim saves no event, so an update from
a snapshot that was loaded before it is rejected only if something else has saved one.
-/

namespace PurchaseAgent

open Relation

/-- A session has loaded the row. -/
def MissionSessions.load (s : MissionSessions) (row : Mission) : MissionSessions :=
  { s with objects := s.objects ++ [.persisted row] }

/-- The statement of `update` finds the row as the object has last persisted it. -/
def MissionSessions.Accepts (s : MissionSessions) (object : SessionMission) : Prop :=
  ∃ row ∈ s.missions, row.id = object.mission.id ∧
    row.lastEventSequence = object.persistedLastEventSequence

/-- An event of the mission has been saved that the snapshot does not have. -/
def MissionSessions.SavedSince (s : MissionSessions) (snapshot : Mission) : Prop :=
  ∃ row ∈ s.missions, row.id = snapshot.id ∧
    ∃ event ∈ row.executionLog, event ∉ snapshot.executionLog

/-- `claim_due` commits the claim of one mission. -/
inductive MissionClaim (missionId : UUID) : MissionSessions → MissionSessions → Prop
  | claimed {front back : List Mission} {old : Mission} {outbox : List NotificationOutboxMessage}
      {objects : List SessionMission} {currentTime : Time} (own : old.id = missionId)
      (due : InMemoryMissionRepository.isDue currentTime old = true) :
      MissionClaim missionId ⟨front ++ old :: back, outbox, objects⟩
        ⟨front ++ InMemoryMissionRepository.claimedMission currentTime old :: back, outbox,
          objects ++ [.persisted (InMemoryMissionRepository.claimedMission currentTime old)]⟩

section
variable {fields : EventFields} {s s' : MissionSessions}

theorem MissionClaim.step {missionId : UUID} (claims : MissionClaim missionId s s') :
    AnySessionStep fields s s' := by
  cases claims with
  | claimed own due => exact ⟨_, .claimDue due⟩

theorem SessionStep.objects_mono {call : RepositoryCall} (step : SessionStep fields call s s')
    {object : SessionMission} (held : object ∈ s.objects) : object ∈ s'.objects := by
  cases step <;> exact List.mem_append_left _ held

theorem run_objects_mono (run : ReflTransGen (AnySessionStep fields) s s') {object : SessionMission}
    (held : object ∈ s.objects) : object ∈ s'.objects := by
  induction run with
  | refl => exact held
  | tail _ step ih =>
      obtain ⟨_, step⟩ := step
      exact step.objects_mono ih

/-- Of two logs that end with one sequence, none has an event that the other lacks if
they agree up to what one of them has added. -/
theorem same_log {row snapshot : Mission} (stored : StoredMission snapshot)
    (known : StoredMission row) (same : snapshot.lastEventSequence = row.lastEventSequence)
    {added : List ExecutionEvent} (log : snapshot.executionLog = row.executionLog ++ added) :
    row.executionLog = snapshot.executionLog := by
  obtain ⟨valid, last⟩ := storedMission_iff.1 stored
  rw [log] at valid last
  have nothing : added = [] := by
    apply added_eq_nil valid
    rw [← last, same, (storedMission_iff.1 known).2]
  rw [log, nothing, List.append_nil]

/-- A row that has got ahead of a snapshot ends with an event that the snapshot lacks. -/
theorem last_event_new {row snapshot : Mission} (stored : StoredMission snapshot)
    (known : StoredMission row) (ahead : snapshot.lastEventSequence < row.lastEventSequence) :
    ∃ event ∈ row.executionLog, event ∉ snapshot.executionLog := by
  obtain ⟨-, last⟩ := storedMission_iff.1 known
  obtain ⟨valid, own⟩ := storedMission_iff.1 stored
  cases found : row.executionLog.getLast? with
  | none =>
      rw [last, lastSequence, found] at ahead
      exact absurd ahead (Nat.not_lt_zero _)
  | some final =>
      refine ⟨final, List.mem_of_mem_getLast? found, ?_⟩
      intro old
      have upper := sequence_le_last valid.increasing old
      rw [last, lastSequence, found, own] at ahead
      exact absurd ahead (Nat.not_lt_of_le upper)

/-- A snapshot is never ahead of its row, so the statement rejects it if and only if
the row has events that the snapshot lacks. -/
theorem OutboxInvariant.rejects_iff (invariant : OutboxInvariant fields s) {snapshot : Mission}
    (held : SessionMission.persisted snapshot ∈ s.objects) (stored : StoredMission snapshot)
    {mission : Mission} (same : mission.id = snapshot.id) :
    ¬ s.Accepts ⟨mission, snapshot.lastEventSequence⟩ ↔ s.SavedSince snapshot := by
  obtain ⟨row, member, traced⟩ := invariant.traced (.persisted snapshot) held
  have known : StoredMission row := invariant.stored row member
  have only {other : Mission} (found : other ∈ s.missions) (id : other.id = snapshot.id) :
      other = row :=
    List.inj_on_of_nodup_map invariant.unique found member (id.trans traced.id.symm)
  constructor
  · intro rejected
    have different : snapshot.lastEventSequence ≠ row.lastEventSequence :=
      fun equal => rejected ⟨row, member, traced.id.trans same.symm, equal.symm⟩
    have ahead := Nat.lt_of_le_of_ne traced.behind different
    exact ⟨row, member, traced.id, last_event_new stored known ahead⟩
  · intro saved accepted
    obtain ⟨later, found, id, event, new, lacking⟩ := saved
    obtain ⟨other, foundOther, idOther, equal⟩ := accepted
    have isRow := only foundOther (idOther.trans same)
    have isLater := only found id
    subst isRow isLater
    obtain ⟨added, log⟩ := traced.continues equal.symm
    rw [same_log stored known equal.symm log] at new
    exact lacking new

end

/-- In every run, an update from a snapshot that was loaded before a claim is rejected
if and only if an event of the mission has been saved since the snapshot was loaded. -/
theorem stale_update_rejected_iff {fields : EventFields}
    {before unclaimed claimed now : MissionSessions}
    (run : ReflTransGen (AnySessionStep fields) ⟨[], [], []⟩ before) {snapshot : Mission}
    (stored : snapshot ∈ before.missions)
    (meanwhile : ReflTransGen (AnySessionStep fields) (before.load snapshot) unclaimed)
    (claim : MissionClaim snapshot.id unclaimed claimed)
    (later : ReflTransGen (AnySessionStep fields) claimed now) {mission : Mission}
    (edits : ReflTransGen MissionEdit snapshot mission) :
    ¬ now.Accepts ⟨mission, snapshot.lastEventSequence⟩ ↔ now.SavedSince snapshot := by
  have onwards : ReflTransGen (AnySessionStep fields) (before.load snapshot) now :=
    (meanwhile.tail claim.step).trans later
  have whole : ReflTransGen (AnySessionStep fields) ⟨[], [], []⟩ now :=
    (run.tail ⟨_, .load stored⟩).trans onwards
  have held : SessionMission.persisted snapshot ∈ now.objects :=
    run_objects_mono onwards (List.mem_append_right _ (List.mem_singleton_self _))
  have known := (outboxInvariant_of_run run).stored snapshot stored
  exact (outboxInvariant_of_run whole).rejects_iff held known (edits_id edits)

/-! A mission that is paused from a snapshot, once the worker has claimed it. -/

namespace StaleWriter

def fields : EventFields := .plain fun id _ => id

def created : MissionSessions :=
  ⟨[Sample.mission], [], [⟨Sample.mission, 0⟩, .persisted Sample.mission]⟩

def loaded : MissionSessions := created.load Sample.mission

def claimedMission : Mission := InMemoryMissionRepository.claimedMission 1 Sample.mission

def claimed : MissionSessions :=
  ⟨[claimedMission], [], loaded.objects ++ [.persisted claimedMission]⟩

def pausing : Mission := Sample.mission.withStatus .paused none

/-- What `pause_mission` makes of the snapshot. -/
def paused : Mission :=
  pausing.append (pausing.nextEvent ⟨3⟩ 2 "mission_paused" "Mission paused."
    [("previous_status", .str "waiting")])

theorem creates : ReflTransGen (AnySessionStep fields) ⟨[], [], []⟩ created :=
  .single ⟨_, @SessionStep.create fields ⟨[], [], []⟩ Sample.mission NotifiedExpiry.newIds 0 []
    List.not_mem_nil rfl (Nat.le_refl 0) rfl⟩

theorem claims : MissionClaim Sample.mission.id loaded claimed :=
  @MissionClaim.claimed _ [] [] Sample.mission [] loaded.objects 1 rfl (by decide)

theorem records : MissionEdit pausing paused :=
  @MissionEdit.recorded pausing ⟨3⟩ 2 "mission_paused" "Mission paused."
    [("previous_status", .str "waiting")] paused rfl

theorem edits : ReflTransGen MissionEdit Sample.mission paused := by
  have transitioned : MissionEdit Sample.mission pausing := .assigned rfl rfl rfl rfl
  exact (ReflTransGen.single transitioned).tail records

/-- The object of the pause, which has been edited after the claim. -/
def edited : MissionSessions :=
  { claimed with objects := claimed.objects ++ [⟨pausing, 0⟩] ++ [⟨paused, 0⟩] }

def overwritten : MissionSessions := ⟨[paused], [], edited.objects ++ [.persisted paused]⟩

theorem saves : ReflTransGen (AnySessionStep fields) claimed overwritten := by
  have held : SessionMission.persisted Sample.mission ∈ claimed.objects :=
    List.mem_append_left _ (List.mem_append_right _ (List.mem_singleton_self _))
  have first : AnySessionStep fields claimed
      { claimed with objects := claimed.objects ++ [⟨pausing, 0⟩] } :=
    ⟨_, .edit held (.assigned rfl rfl rfl rfl)⟩
  have second : AnySessionStep fields
      { claimed with objects := claimed.objects ++ [⟨pausing, 0⟩] } edited :=
    ⟨_, @SessionStep.edit fields { claimed with objects := claimed.objects ++ [⟨pausing, 0⟩] }
      ⟨pausing, 0⟩ paused (List.mem_append_right _ (List.mem_singleton_self _)) records⟩
  have update : AnySessionStep fields edited overwritten :=
    ⟨_, @SessionStep.update fields [] [] claimedMission edited.objects ⟨paused, 0⟩
      NotifiedExpiry.newIds [] [] (List.mem_append_right _ (List.mem_singleton_self _)) rfl rfl
      rfl rfl⟩
  exact ((ReflTransGen.single first).tail second).tail update

end StaleWriter

theorem stale_update_rejected_iff_paused :
    ¬ StaleWriter.claimed.Accepts ⟨StaleWriter.paused, Sample.mission.lastEventSequence⟩ ↔
      StaleWriter.claimed.SavedSince Sample.mission :=
  stale_update_rejected_iff StaleWriter.creates (List.mem_singleton_self _) .refl
    StaleWriter.claims .refl StaleWriter.edits

/-- The update of the pause is accepted after the claim, and takes its status, its time
and its attempt number away. -/
theorem claim_overwritten :
    ReflTransGen (AnySessionStep StaleWriter.fields) ⟨[], [], []⟩ StaleWriter.created ∧
    MissionClaim Sample.mission.id (StaleWriter.created.load Sample.mission) StaleWriter.claimed ∧
    ReflTransGen MissionEdit Sample.mission StaleWriter.paused ∧
    StaleWriter.claimed.Accepts ⟨StaleWriter.paused, Sample.mission.lastEventSequence⟩ ∧
    ReflTransGen (AnySessionStep StaleWriter.fields) StaleWriter.claimed StaleWriter.overwritten ∧
    StaleWriter.claimed.missions.map (fun mission =>
      (mission.status, mission.claimedAt, mission.executionAttempts)) =
        [(.processing, some 1, 1)] ∧
    StaleWriter.overwritten.missions.map (fun mission =>
      (mission.status, mission.claimedAt, mission.executionAttempts)) = [(.paused, none, 0)] := by
  refine ⟨StaleWriter.creates, StaleWriter.claims, StaleWriter.edits, ?_, StaleWriter.saves,
    rfl, rfl⟩
  exact ⟨StaleWriter.claimedMission, List.mem_singleton_self _, rfl, rfl⟩

end PurchaseAgent
