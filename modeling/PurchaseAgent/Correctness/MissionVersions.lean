import PurchaseAgent.Correctness.StaleWriters
import PurchaseAgent.Storage.LiveMissions
import PurchaseAgent.Transactions.VersionedTable

/-!
The last event sequence as the version of a mission. Every method of the repositories but
the claim raises it for the mission that it saves, if an update comes with an event, so
without claims it tells the states of a mission apart over every run.
-/

namespace PurchaseAgent

open Relation

/-- A mission that is met again with its last event sequence is the same. -/
def SameAtSequence (missions missions' : List Mission) : Prop :=
  ∀ old ∈ missions, ∀ row ∈ missions', row.id = old.id →
    row.lastEventSequence = old.lastEventSequence → row = old

/-- The call is no claim, and an update comes with an event that has not been persisted. -/
def RepositoryCall.SavesEvent : RepositoryCall → Prop
  | .update object => object.persistedLastEventSequence < object.mission.lastEventSequence
  | .claimDue _ => False
  | .edit _ _ | .get | .create _ | .expireDue _ _ | .recoverStaleProcessing _ => True

/-- The call is no claim, what a task does to a stored object includes an event, and an
update stores an object that is ahead of the stored one. -/
def LiveCall.SavesEvent : LiveCall → Prop
  | .turn recorded => recorded = true
  | .update object old => old.lastEventSequence < object.lastEventSequence
  | .claimDue => False
  | .turnHeld | .copy | .create | .expireDue | .recoverStaleProcessing => True

def LoudSessionStep (fields : EventFields) (s s' : MissionSessions) : Prop :=
  ∃ call, SessionStep fields call s s' ∧ call.SavesEvent

def LoudLiveStep (s s' : LiveMissions) : Prop :=
  ∃ call, LiveStep call s s' ∧ call.SavesEvent

theorem recordEvent_last {mission after : Mission} {eventId : UUID} {timestamp : Time}
    {eventType message : String} {metadata : List (String × PyValue)}
    (ok : mission.recordEvent eventId timestamp eventType message metadata = .ok after) :
    after.lastEventSequence = mission.lastEventSequence + 1 := by
  obtain ⟨-, rfl⟩ := Mission.recordEvent_ok ok
  rfl

theorem MissionEdit.last_le {mission after : Mission} (edited : MissionEdit mission after) :
    mission.lastEventSequence ≤ after.lastEventSequence := by
  cases edited with
  | recorded ok =>
      rw [recordEvent_last ok]
      exact Nat.le_succ _
  | assigned _ _ _ lastEventSequence => exact Nat.le_of_eq lastEventSequence.symm

theorem Edits.last_le {recorded : Bool} {mission after : Mission}
    (edits : Edits recorded mission after) :
    mission.lastEventSequence ≤ after.lastEventSequence ∧
      (recorded = true → mission.lastEventSequence < after.lastEventSequence) := by
  induction edits with
  | none => exact ⟨Nat.le_refl _, nofun⟩
  | edit _ edited ih =>
      have later := edited.last_le
      exact ⟨ih.1.trans later, fun recorded => (ih.2 recorded).trans_le later⟩
  | record _ ok ih =>
      have less := Nat.lt_succ_of_le ih.1
      rw [Nat.succ_eq_add_one, ← recordEvent_last ok] at less
      exact ⟨less.le, fun _ => less⟩

theorem Edits.id {recorded : Bool} {mission after : Mission}
    (edits : Edits recorded mission after) : after.id = mission.id := by
  induction edits with
  | none => rfl
  | edit _ edited ih => exact edited.id.trans ih
  | record _ ok ih => exact (MissionEdit.recorded ok).id.trans ih

theorem Edits.stored {recorded : Bool} {mission after : Mission} (stored : StoredMission mission)
    (edits : Edits recorded mission after) : StoredMission after := by
  induction edits with
  | none => exact stored
  | edit _ edited ih => exact (ih stored).edit edited
  | record _ ok ih => exact (ih stored).edit (.recorded ok)

/-- An expiry records its event. -/
theorem expireDue_last {old expired mission : Mission} {eventId : UUID} {currentTime : Time}
    {metadata : List (String × PyValue)}
    (transitioned : MissionStateMachine.transition old .expired = .ok expired)
    (recorded : expired.recordEvent eventId currentTime "mission_expired"
      "Mission expired before execution." metadata = .ok mission) :
    old.lastEventSequence < mission.lastEventSequence := by
  obtain ⟨-, rfl⟩ := MissionStateMachine.transition_ok transitioned
  rw [recordEvent_last recorded]
  exact Nat.lt_succ_self _

/-- A recovery records its event. -/
theorem recoverStale_last {old : Mission} {eventId : UUID} {currentTime : Time}
    (recovered : (MissionStateMachine.recoverStale old eventId currentTime).1 = .ok ()) :
    old.lastEventSequence <
      (MissionStateMachine.recoverStale old eventId currentTime).2.lastEventSequence := by
  obtain ⟨unclaimed, transitioned, recorded⟩ := recoverStale_recorded recovered
  obtain ⟨-, rfl⟩ := MissionStateMachine.transition_ok transitioned
  rw [recordEvent_last recorded]
  exact Nat.lt_succ_self _

section
variable {front back : List Mission} {old mission : Mission}

theorem ids_replace (same : mission.id = old.id) :
    (front ++ mission :: back).map (·.id) = (front ++ old :: back).map (·.id) := by
  simp only [List.map_append, List.map_cons, same]

theorem mem_missions_replace {row : Mission} (member : row ∈ front ++ mission :: back) :
    row = mission ∨ row ∈ front ++ old :: back := by
  cases List.mem_append.1 member with
  | inl early => exact .inr (List.mem_append_left _ early)
  | inr late =>
      cases List.mem_cons.1 late with
      | inl same => exact .inl same
      | inr later => exact .inr (List.mem_append_right _ (List.mem_cons_of_mem _ later))

end

/-- One mission is replaced by one with a higher sequence. -/
theorem raises_replace {S : Type} {missions : S → List Mission} {s s' : S}
    {front back : List Mission} {old mission : Mission} (before : missions s = front ++ old :: back)
    (after : missions s' = front ++ mission :: back) (same : mission.id = old.id)
    (later : old.lastEventSequence < mission.lastEventSequence) :
    Transactions.Raises missions (·.id) (·.lastEventSequence) s s' := by
  unfold Transactions.Raises
  rw [before, after]
  intro row member
  cases List.mem_append.1 member with
  | inl early => exact ⟨row, List.mem_append_left _ early, rfl, .inl rfl⟩
  | inr late =>
      cases List.mem_cons.1 late with
      | inl own =>
          subst own
          exact ⟨mission, List.mem_append_right _ List.mem_cons_self, same, .inr later⟩
      | inr last =>
          exact ⟨row, List.mem_append_right _ (List.mem_cons_of_mem _ last), rfl, .inl rfl⟩

/-- Missions are added. -/
theorem raises_append {S : Type} {missions : S → List Mission} {s s' : S} {added : List Mission}
    (after : missions s' = missions s ++ added) :
    Transactions.Raises missions (·.id) (·.lastEventSequence) s s' := by
  intro row member
  exact ⟨row, after ▸ List.mem_append_left _ member, rfl, .inl rfl⟩

/-- Every method but the claim raises the sequence of the mission that it saves. -/
theorem SessionStep.raises {fields : EventFields} {call : RepositoryCall} {s s' : MissionSessions}
    (step : SessionStep fields call s s') (saves : call.SavesEvent) :
    Transactions.Raises MissionSessions.missions (·.id) (·.lastEventSequence) s s' := by
  cases step with
  | edit | load => exact raises_append (List.append_nil _).symm
  | create => exact raises_append rfl
  | update held own expected => exact raises_replace rfl rfl own.symm (expected ▸ saves)
  | claimDue => exact saves.elim
  | @expireDue _ _ old _ mission _ _ _ _ _ _ due transitioned recorded =>
      have later : old.lastEventSequence < mission.lastEventSequence :=
        expireDue_last transitioned recorded
      exact raises_replace rfl rfl rfl later
  | recoverStaleProcessing stale recovered =>
      exact raises_replace rfl rfl (InMemoryMissionRepository.recoverStale_id _ _ _)
        (recoverStale_last recovered)

/-! The in-memory repository. -/

structure LiveInvariant (s : LiveMissions) : Prop where
  unique : (s.missions.map (·.id)).Nodup
  stored : ∀ row ∈ s.missions, StoredMission row
  held : ∀ object ∈ s.held, StoredMission object

section
variable {front back held held' : List Mission} {old mission : Mission} {call : LiveCall}
  {s s' : LiveMissions}

theorem stored_replace (stored : ∀ row ∈ front ++ old :: back, StoredMission row)
    (new : StoredMission mission) : ∀ row ∈ front ++ mission :: back, StoredMission row := by
  intro row member
  cases mem_missions_replace member with
  | inl same => exact same ▸ new
  | inr known => exact stored row known

theorem LiveInvariant.replace (invariant : LiveInvariant ⟨front ++ old :: back, held⟩)
    (same : mission.id = old.id) (new : StoredMission mission)
    (others : ∀ object ∈ held', StoredMission object) :
    LiveInvariant ⟨front ++ mission :: back, held'⟩ where
  unique := by
    have unique := invariant.unique
    rw [← ids_replace same] at unique
    exact unique
  stored := stored_replace invariant.stored new
  held := others

theorem LiveInvariant.old_stored (invariant : LiveInvariant ⟨front ++ old :: back, held⟩) :
    StoredMission old :=
  invariant.stored old (List.mem_append_right _ List.mem_cons_self)

theorem LiveInvariant.step (invariant : LiveInvariant s) (step : LiveStep call s s') :
    LiveInvariant s' := by
  cases step with
  | turn edits =>
      exact invariant.replace edits.id (edits.stored invariant.old_stored) invariant.held
  | turnHeld edits =>
      refine ⟨invariant.unique, invariant.stored, stored_replace invariant.held ?_⟩
      exact edits.stored (invariant.held _ (List.mem_append_right _ List.mem_cons_self))
  | copy stored edits =>
      refine ⟨invariant.unique, invariant.stored, ?_⟩
      intro object member
      cases List.mem_append.1 member with
      | inl known => exact invariant.held object known
      | inr new =>
          rw [List.mem_singleton.1 new]
          exact edits.stored (invariant.stored _ stored)
  | create fresh validated =>
      refine ⟨?_, ?_, invariant.held⟩
      · rw [List.map_append]
        exact List.Nodup.append invariant.unique (List.nodup_singleton _)
          (List.disjoint_singleton.2 fresh)
      · intro row member
        cases List.mem_append.1 member with
        | inl known => exact invariant.stored row known
        | inr new => exact List.mem_singleton.1 new ▸ validated
  | update own =>
      apply invariant.replace own
      · exact invariant.held _ (List.mem_append_right _ List.mem_cons_self)
      · exact stored_replace invariant.held invariant.old_stored
  | claimDue due => exact invariant.replace rfl invariant.old_stored invariant.held
  | expireDue due transitioned recorded =>
      obtain ⟨-, rfl⟩ := MissionStateMachine.transition_ok transitioned
      obtain ⟨event, -, whole⟩ := RowExtends.record invariant.old_stored recorded
      exact invariant.replace whole.id whole.stored invariant.held
  | recoverStaleProcessing stale recovered =>
      obtain ⟨unclaimed, transitioned, recorded⟩ := recoverStale_recorded recovered
      obtain ⟨-, rfl⟩ := MissionStateMachine.transition_ok transitioned
      obtain ⟨event, -, whole⟩ := RowExtends.record invariant.old_stored recorded
      exact invariant.replace whole.id whole.stored invariant.held

/-- So does every turn that records an event, and every method but the claim. -/
theorem LiveStep.raises (step : LiveStep call s s') (saves : call.SavesEvent) :
    Transactions.Raises LiveMissions.missions (·.id) (·.lastEventSequence) s s' := by
  cases step with
  | turn edits => exact raises_replace rfl rfl edits.id (edits.last_le.2 saves)
  | turnHeld | copy => exact raises_append (List.append_nil _).symm
  | create => exact raises_append rfl
  | update own => exact raises_replace rfl rfl own saves
  | claimDue => exact saves.elim
  | expireDue due transitioned recorded =>
      have later := expireDue_last transitioned recorded
      obtain ⟨-, rfl⟩ := MissionStateMachine.transition_ok transitioned
      obtain ⟨-, rfl⟩ := Mission.recordEvent_ok recorded
      exact raises_replace rfl rfl rfl later
  | recoverStaleProcessing stale recovered =>
      exact raises_replace rfl rfl (InMemoryMissionRepository.recoverStale_id _ _ _)
        (recoverStale_last recovered)

end

/-- In both backends, in every run without claims whose updates and turns come with events, a
mission is the same wherever its last event sequence is. -/
theorem sequence_shows_mission (fields : EventFields) :
    (∀ {s s' : MissionSessions},
      ReflTransGen (LoudSessionStep fields) ⟨[], [], []⟩ s →
      ReflTransGen (LoudSessionStep fields) s s' → SameAtSequence s.missions s'.missions) ∧
    (∀ {s s' : LiveMissions}, ReflTransGen LoudLiveStep ⟨[], []⟩ s →
      ReflTransGen LoudLiveStep s s' → SameAtSequence s.missions s'.missions) := by
  constructor
  · intro s s' run later
    have start : OutboxInvariant fields ⟨[], [], []⟩ := outboxInvariant_of_run .refl
    have kept (s s' : MissionSessions) (invariant : OutboxInvariant fields s)
        (loud : LoudSessionStep fields s s') : OutboxInvariant fields s' := by
      obtain ⟨_, step, -⟩ := loud
      exact invariant.step step
    have raises (s s' : MissionSessions) (_ : OutboxInvariant fields s)
        (loud : LoudSessionStep fields s s') :
        Transactions.Raises MissionSessions.missions (·.id) (·.lastEventSequence) s s' := by
      obtain ⟨_, step, saves⟩ := loud
      exact step.raises saves
    have invariant := (Transactions.raises_of_run kept raises start run).1
    have whole := Transactions.raises_of_run kept raises invariant later
    intro old before row after same level
    exact whole.2.eq_of_version whole.1.unique before after same level
  · intro s s' run later
    have start : LiveInvariant ⟨[], []⟩ := ⟨List.nodup_nil, by simp, by simp⟩
    have kept (s s' : LiveMissions) (invariant : LiveInvariant s) (loud : LoudLiveStep s s') :
        LiveInvariant s' := by
      obtain ⟨_, step, -⟩ := loud
      exact invariant.step step
    have raises (s s' : LiveMissions) (_ : LiveInvariant s) (loud : LoudLiveStep s s') :
        Transactions.Raises LiveMissions.missions (·.id) (·.lastEventSequence) s s' := by
      obtain ⟨_, step, saves⟩ := loud
      exact step.raises saves
    have invariant := (Transactions.raises_of_run kept raises start run).1
    have whole := Transactions.raises_of_run kept raises invariant later
    intro old before row after same level
    exact whole.2.eq_of_version whole.1.unique before after same level

/-! A mission that is created and paused, and one that is created and claimed. -/

namespace ShownMission
open StaleWriter (fields created loaded pausing paused edits records)

/-- The object of the pause in its session. -/
def changed : MissionSessions := { loaded with objects := loaded.objects ++ [⟨pausing, 0⟩] }

def edited : MissionSessions := { changed with objects := changed.objects ++ [⟨paused, 0⟩] }

def saved : MissionSessions := ⟨[paused], [], edited.objects ++ [.persisted paused]⟩

theorem session_created : ReflTransGen (LoudSessionStep fields) ⟨[], [], []⟩ created :=
  .single ⟨_, @SessionStep.create fields ⟨[], [], []⟩ Sample.mission NotifiedExpiry.newIds 0 []
    List.not_mem_nil rfl (Nat.le_refl 0) rfl, trivial⟩

/-- The mission is loaded, edited and updated with its event. -/
theorem session_paused : ReflTransGen (LoudSessionStep fields) created saved := by
  have loads : LoudSessionStep fields created loaded :=
    ⟨_, @SessionStep.load fields created Sample.mission (List.mem_singleton_self _), trivial⟩
  have held : SessionMission.persisted Sample.mission ∈ loaded.objects :=
    List.mem_append_right _ (List.mem_singleton_self _)
  have first : LoudSessionStep fields loaded changed :=
    ⟨_, @SessionStep.edit fields loaded (.persisted Sample.mission) pausing held
      (.assigned rfl rfl rfl rfl), trivial⟩
  have second : LoudSessionStep fields changed edited :=
    ⟨_, @SessionStep.edit fields changed ⟨pausing, 0⟩ paused
      (List.mem_append_right _ (List.mem_singleton_self _)) records, trivial⟩
  have update : LoudSessionStep fields edited saved :=
    ⟨_, @SessionStep.update fields [] [] Sample.mission edited.objects ⟨paused, 0⟩
      NotifiedExpiry.newIds [] [] (List.mem_append_right _ (List.mem_singleton_self _)) rfl rfl
      rfl rfl, Nat.zero_lt_one⟩
  exact (((ReflTransGen.single loads).tail first).tail second).tail update

def live : LiveMissions := ⟨[Sample.mission], []⟩

def livePaused : LiveMissions := ⟨[paused], []⟩

theorem live_created : ReflTransGen LoudLiveStep ⟨[], []⟩ live :=
  .single ⟨_, @LiveStep.create ⟨[], []⟩ Sample.mission List.not_mem_nil rfl, trivial⟩

theorem live_paused : ReflTransGen LoudLiveStep live livePaused := by
  have pauses : Edits true Sample.mission paused :=
    @Edits.record false Sample.mission pausing paused ⟨3⟩ 2 "mission_paused" "Mission paused."
      [("previous_status", .str "waiting")] (.edit .none (.assigned rfl rfl rfl rfl)) rfl
  exact .single ⟨_, @LiveStep.turn [] [] [] _ _ _ pauses, rfl⟩

end ShownMission

theorem sequence_shows_paused :
    SameAtSequence StaleWriter.created.missions ShownMission.saved.missions ∧
    SameAtSequence ShownMission.live.missions ShownMission.livePaused.missions :=
  ⟨(sequence_shows_mission _).1 ShownMission.session_created ShownMission.session_paused,
    (sequence_shows_mission StaleWriter.fields).2 ShownMission.live_created ShownMission.live_paused⟩

/-- A claim leaves the sequence and changes the mission, in both backends. -/
theorem claim_hidden :
    (∃ s s' : MissionSessions, ReflTransGen (AnySessionStep StaleWriter.fields) ⟨[], [], []⟩ s ∧
      ReflTransGen (AnySessionStep StaleWriter.fields) s s' ∧
      ¬ SameAtSequence s.missions s'.missions) ∧
    (∃ s s' : LiveMissions, ReflTransGen (fun s s' => ∃ call, LiveStep call s s') ⟨[], []⟩ s ∧
      ReflTransGen (fun s s' => ∃ call, LiveStep call s s') s s' ∧
      ¬ SameAtSequence s.missions s'.missions) := by
  have different : ¬ SameAtSequence [Sample.mission] [StaleWriter.claimedMission] := by
    intro same
    have equal := same _ (List.mem_singleton_self _) _ (List.mem_singleton_self _) rfl rfl
    have status : MissionStatus.processing = .waiting := congrArg Mission.status equal
    cases status
  constructor
  · refine ⟨StaleWriter.created.load Sample.mission, StaleWriter.claimed, ?_, ?_, different⟩
    · exact StaleWriter.creates.tail ⟨_, .load (List.mem_singleton_self _)⟩
    · exact .single StaleWriter.claims.step
  · refine ⟨ShownMission.live, ⟨[StaleWriter.claimedMission], []⟩, ?_, ?_, different⟩
    · exact .single ⟨_, @LiveStep.create ⟨[], []⟩ Sample.mission List.not_mem_nil rfl⟩
    · exact .single ⟨_, @LiveStep.claimDue [] [] [] Sample.mission 1 (by decide)⟩

end PurchaseAgent
