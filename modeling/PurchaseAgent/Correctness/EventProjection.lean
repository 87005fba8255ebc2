import PurchaseAgent.Correctness.EventPolling
import PurchaseAgent.Correctness.StaleWriters
import PurchaseAgent.Services.MissionEventProjection
import PurchaseAgent.Storage.SqlMissionProjections

/-!
The projection of mission events over whole runs of the repository, from the
empty tables on. Each method is shown to be a save that appends what it has added
to the log; only the recovery of a stale claim leaves its mission behind.
-/

namespace PurchaseAgent
open Collections Relation MissionEventSerializer

section
variable {fields : EventFields} {missionId : UUID}

/-- The projection has a row for each event of the log, and no other. -/
structure Mirrors (fields : EventFields) (missionId : UUID) (db : MissionDatabase) : Prop where
  ids : (db.missions.map (·.id)).Nodup
  logged : ∀ mission ∈ db.missions, Logged mission
  rows : SqlMissionEvents.rowsOf missionId db.missionEvents =
    (db.log missionId).map (eventRow fields missionId)

theorem mirrors_empty (fields : EventFields) (missionId : UUID) :
    Mirrors fields missionId ⟨[], [], []⟩ := by
  refine ⟨List.nodup_nil, ?_, rfl⟩
  intro mission member
  cases member

theorem log_of_absent {db : MissionDatabase} (absent : missionId ∉ db.missions.map (·.id)) :
    db.log missionId = [] := by
  have none : MissionReadRepository.get db.missions missionId = none := by
    apply List.find?_eq_none.mpr
    intro mission member
    simp only [decide_eq_true_eq]
    rintro rfl
    exact absent (List.mem_map_of_mem member)
  simp only [MissionDatabase.log, none, Option.map_none, Option.getD_none]

/-- The logs of the missions that are not replaced stay. -/
theorem log_of_replaced {front back : List Mission} {old mission : Mission}
    {providerEvents providerEvents' : SqlProviderHistory.Table}
    {missionEvents missionEvents' : SqlMissionEvents.Table} (same : mission.id = old.id)
    (differs : old.id ≠ missionId) :
    (MissionDatabase.mk (front ++ mission :: back) providerEvents' missionEvents').log missionId =
      (MissionDatabase.mk (front ++ old :: back) providerEvents missionEvents).log missionId := by
  simp only [MissionDatabase.log, MissionReadRepository.get, List.find?_append, List.find?_cons,
    same, decide_eq_false differs]

theorem Mirrors.saved {db db' : MissionDatabase} (mirrors : Mirrors fields missionId db)
    (saves : Saves fields db db') : Mirrors fields missionId db' := by
  cases saves with
  | @created missions mission providerEvents providerEvents' missionEvents missionEvents' fresh
      logged events _ =>
      have appended := appendMissionEvents_ok logged events
      have all : mission.executionLog.filter (0 < ·.sequence) = mission.executionLog :=
        @filter_added_events [] _ 0 logged.valid rfl
      have ids : ((missions ++ [mission]).map (·.id)).Nodup := by
        rw [List.map_append, List.nodup_append]
        refine ⟨mirrors.ids, List.nodup_singleton _, ?_⟩
        intro id early other late same
        obtain rfl : other = mission.id := List.mem_singleton.mp late
        subst same
        exact fresh early
      refine ⟨ids, ?_, ?_⟩
      · intro other member
        rcases List.mem_append.mp member with early | late
        · exact mirrors.logged other early
        · exact List.mem_singleton.mp late ▸ logged
      · rw [appended, all, rowsOf_append_eventRows, mirrors.rows]
        by_cases own : mission.id = missionId
        · subst own
          rw [if_pos rfl, log_of_absent fresh]
          rw [log_eq_of_mem ids (List.mem_append_right _ (List.mem_singleton_self _)) rfl]
          rfl
        · have kept : (MissionDatabase.mk (missions ++ [mission]) providerEvents'
              missionEvents').log missionId =
              (MissionDatabase.mk missions providerEvents missionEvents).log missionId := by
            simp only [MissionDatabase.log, MissionReadRepository.get, List.find?_append,
              List.find?_cons, decide_eq_false own, List.find?_nil, Option.or_none]
          rw [if_neg own, List.append_nil]
          exact congrArg (List.map (eventRow fields missionId)) kept.symm
  | @updated front back old mission added _ providerEvents' missionEvents missionEvents' same
      extends_ logged events _ =>
      have oldMember : old ∈ front ++ old :: back := by simp
      have inside : mission ∈ front ++ mission :: back := by simp
      have persisted := (mirrors.logged old oldMember).last
      have valid := logged.valid
      have appended := appendMissionEvents_ok logged events
      rw [extends_] at valid appended
      rw [filter_added_events valid persisted] at appended
      have ids : ((front ++ mission :: back).map (·.id)).Nodup := by
        simpa only [List.map_append, List.map_cons, same] using mirrors.ids
      refine ⟨ids, ?_, ?_⟩
      · intro other member
        rcases replace_cases member with rfl | inside
        · exact logged
        · exact mirrors.logged other inside
      · rw [appended, rowsOf_append_eventRows, mirrors.rows]
        by_cases own : mission.id = missionId
        · have now : (MissionDatabase.mk (front ++ mission :: back) providerEvents'
              missionEvents').log missionId = mission.executionLog := log_eq_of_mem ids inside own
          rw [← appended, if_pos own, now, log_eq_of_mem mirrors.ids oldMember (same ▸ own),
            extends_, List.map_append, own]
        · rw [if_neg own, List.append_nil, log_of_replaced same (same ▸ own)]

/-- The recovery of another mission. -/
theorem Mirrors.recovered {db db' : MissionDatabase} {id : UUID}
    (mirrors : Mirrors fields missionId db) (recovers : RecoversClaim id db db')
    (other : id ≠ missionId) : Mirrors fields missionId db' := by
  cases recovers with
  | @recovered front back old _ _ _ eventId currentTime ok =>
      obtain ⟨event, -, -, -, -, recovered⟩ := MissionStateMachine.recoverStale_ok ok
      have oldMember : old ∈ front ++ old :: back := by simp
      have logged : Logged (MissionStateMachine.recoverStale old eventId currentTime).2 :=
        (mirrors.logged old oldMember).step (logStep_recovers ⟨eventId, rfl⟩)
      have same : (MissionStateMachine.recoverStale old eventId currentTime).2.id = old.id := by
        rw [recovered]
        rfl
      refine ⟨?_, ?_, ?_⟩
      · simpa only [List.map_append, List.map_cons, same] using mirrors.ids
      · intro mission member
        rcases replace_cases member with rfl | inside
        · exact logged
        · exact mirrors.logged mission inside
      · rw [log_of_replaced same other]
        exact mirrors.rows

/-! The methods of the repository as saves. -/

def MissionTables.database (t : MissionTables) : MissionDatabase :=
  ⟨t.sessions.missions, t.providerEvents, t.missionEvents⟩

/-- The events are such as the services record. -/
def RepositoryCall.Recordable : RepositoryCall → Prop
  | .edit before after => LogStep before after
  | .create mission => ∀ event ∈ mission.executionLog, Storable event
  | .get | .update _ | .claimDue _ | .expireDue _ _ | .recoverStaleProcessing _ => True

/-- What holds of the tables beside the projected rows. -/
structure TablesInvariant (fields : EventFields) (t : MissionTables) : Prop where
  sessions : OutboxInvariant fields t.sessions
  logged : ∀ row ∈ t.sessions.missions, Logged row
  held : ∀ object ∈ t.sessions.objects, Logged object.mission
  unique : SqlMissionEvents.Unique t.missionEvents

theorem tablesInvariant_empty : TablesInvariant fields ⟨⟨[], [], []⟩, [], []⟩ :=
  ⟨outboxInvariant_of_run .refl, by simp, by simp, List.nodup_nil, List.nodup_nil⟩

theorem unique_of_appended {table table' : SqlMissionEvents.Table} {mission : Mission}
    {previous : Nat}
    (appended : SqlMissionEvents.appendMissionEvents fields table mission previous = .ok table') :
    SqlMissionEvents.Unique table' := by
  obtain ⟨added, -, appended⟩ := bind_eq_ok appended
  unfold SqlMissionEvents.addAll at appended
  split at appended
  · next unique =>
    obtain rfl := Except.ok.inj appended
    exact unique
  · cases appended

/-- Nothing is appended where nothing is new. -/
theorem appendMissionEvents_nil {table : SqlMissionEvents.Table} {mission : Mission}
    {previous : Nat} (unique : SqlMissionEvents.Unique table)
    (none : mission.executionLog.filter (previous < ·.sequence) = []) :
    SqlMissionEvents.appendMissionEvents fields table mission previous = .ok table := by
  simp only [SqlMissionEvents.appendMissionEvents, SqlMissionEvents.appendMany, none,
    SqlMissionEvents.toModels, bind, Except.bind, SqlMissionEvents.addAll, List.append_nil]
  exact if_pos unique

/-- Events that are no provider events have no row in the history. -/
theorem appendProviderHistoryEvents_other {table : SqlProviderHistory.Table} {mission : Mission}
    {previous : Nat}
    (other : ∀ x ∈ mission.executionLog.zipIdx.filter (previous < ·.1.sequence),
      x.1.isProviderHistory = false) :
    SqlProviderHistory.appendProviderHistoryEvents table mission previous = .ok table := by
  have nothing : ∀ indexed : List (ExecutionEvent × Nat),
      (∀ x ∈ indexed, x.1.isProviderHistory = false) →
        providerProjections mission.id indexed = .ok [] := by
    intro indexed none
    induction indexed with
    | nil => rfl
    | cons x rest ih =>
        rw [List.forall_mem_cons] at none
        have first : executionEventToProviderProjection mission.id x.1 x.2 = .ok Option.none :=
          if_pos none.1
        simp only [providerProjections, first, ih none.2]
  simp only [SqlProviderHistory.appendProviderHistoryEvents, nothing _ other, bind, Except.bind]
  rfl

theorem forall_replaced {front back : List Mission} {old mission : Mission} {P : Mission → Prop}
    (all : ∀ row ∈ front ++ old :: back, P row) (new : P mission) :
    ∀ row ∈ front ++ mission :: back, P row := by
  intro row member
  rcases replace_cases member with rfl | known
  · exact new
  · exact all row known

theorem forall_held {objects more : List SessionMission} {P : SessionMission → Prop}
    (all : ∀ object ∈ objects, P object) (new : ∀ object ∈ more, P object) :
    ∀ object ∈ objects ++ more, P object :=
  List.forall_mem_append.mpr ⟨all, new⟩

/-- The logs of the rows and of the objects stay such as the serializer keeps them. -/
theorem SessionStep.logged {call : RepositoryCall} {s s' : MissionSessions}
    (step : SessionStep fields call s s') (recordable : call.Recordable)
    (logged : ∀ row ∈ s.missions, Logged row) (held : ∀ object ∈ s.objects, Logged object.mission) :
    (∀ row ∈ s'.missions, Logged row) ∧ ∀ object ∈ s'.objects, Logged object.mission := by
  cases step with
  | edit member =>
      refine ⟨logged, forall_held held ?_⟩
      exact List.forall_mem_singleton.mpr ((held _ member).step recordable)
  | load stored =>
      exact ⟨logged, forall_held held (List.forall_mem_singleton.mpr (logged _ stored))⟩
  | @create _ mission _ _ _ fresh validated =>
      obtain ⟨valid, last⟩ := storedMission_iff.mp validated
      have new : Logged mission := ⟨valid, last, recordable⟩
      refine ⟨List.forall_mem_append.mpr ⟨logged, List.forall_mem_singleton.mpr new⟩, ?_⟩
      exact forall_held held (List.forall_mem_cons.mpr ⟨new, List.forall_mem_singleton.mpr new⟩)
  | update member =>
      have new := held _ member
      exact ⟨forall_replaced logged new, forall_held held (List.forall_mem_singleton.mpr new)⟩
  | @claimDue _ _ old _ _ currentTime =>
      have new : Logged (InMemoryMissionRepository.claimedMission currentTime old) :=
        (logged old (List.mem_append_right _ List.mem_cons_self)).step (.kept rfl rfl)
      exact ⟨forall_replaced logged new, forall_held held (List.forall_mem_singleton.mpr new)⟩
  | @expireDue _ _ old _ mission _ _ _ _ _ _ _ transitioned recorded =>
      obtain ⟨-, rfl⟩ := MissionStateMachine.transition_ok transitioned
      have new : Logged mission := by
        refine (logged old (List.mem_append_right _ List.mem_cons_self)).step
          (logStep_recordEvent recorded rfl rfl ((recordable_generic (by decide)).mpr ?_))
        simp [jsonMetadata_cons, JsonMetadata.nil]
      refine ⟨forall_replaced logged ?_, forall_held held (List.forall_mem_singleton.mpr new)⟩
      exact ⟨new.valid, new.last, new.storable⟩
  | @recoverStaleProcessing _ _ old _ _ _ currentTime eventId =>
      have new : Logged (MissionStateMachine.recoverStale old eventId currentTime).2 :=
        (logged old (List.mem_append_right _ List.mem_cons_self)).step
          (logStep_recovers ⟨eventId, rfl⟩)
      exact ⟨forall_replaced logged new, forall_held held (List.forall_mem_singleton.mpr new)⟩

/-- What a step does to the missions and their projections: nothing, a save that appends what
is new, or the recovery of a claim. -/
theorem TablesInvariant.saves {call : RepositoryCall} {t t' : MissionTables}
    (invariant : TablesInvariant fields t) (step : RepositoryStep fields call t t')
    (recordable : call.Recordable) :
    t'.database = t.database ∨ Saves fields t.database t'.database ∨
      ∃ id, call = .recoverStaleProcessing id ∧ RecoversClaim id t.database t'.database := by
  obtain ⟨s, providerEvents, missionEvents⟩ := t
  obtain ⟨s', providerEvents', missionEvents'⟩ := t'
  obtain ⟨session, projections, events⟩ := step
  have logged := (session.logged recordable invariant.logged invariant.held).1
  have sessions := invariant.sessions
  dsimp only at session projections events logged sessions
  cases session with
  | edit | load =>
      cases projections
      cases events
      exact .inl rfl
  | create fresh =>
      have new := logged _ (List.mem_append_right _ (List.mem_singleton_self _))
      exact .inr (.inl (.created fresh new events projections))
  | @update _ _ old _ object _ _ _ held own expected =>
      obtain ⟨added, log⟩ := (sessions.traces_old held own).continues expected.symm
      have new := logged _ (List.mem_append_right _ List.mem_cons_self)
      -- the guard has made the persisted sequence that of the row
      rw [RepositoryCall.appendMissionEvents, ← expected] at events
      rw [RepositoryCall.appendProviderHistoryEvents, ← expected] at projections
      exact .inr (.inl (.updated own.symm log new events projections))
  | @claimDue _ _ old _ _ currentTime due =>
      cases projections
      cases events
      have known := invariant.logged old (List.mem_append_right _ List.mem_cons_self)
      have new := logged _ (List.mem_append_right _ List.mem_cons_self)
      have indexed := @filter_added old.executionLog [] _
        ((List.append_nil old.executionLog).symm ▸ known.valid) known.last
      have behind := @filter_added_events old.executionLog [] _
        ((List.append_nil old.executionLog).symm ▸ known.valid) known.last
      rw [List.append_nil] at indexed behind
      refine .inr (.inl (.updated rfl (List.append_nil _).symm new ?_ ?_))
      · exact appendMissionEvents_nil invariant.unique behind
      · apply appendProviderHistoryEvents_other
        change ∀ x ∈ old.executionLog.zipIdx.filter (old.lastEventSequence < ·.1.sequence), _
        rw [indexed]
        exact fun _ member => nomatch member
  | @expireDue _ _ old expired mission _ _ _ currentTime eventId _ due transitioned recorded =>
      cases projections
      have known := invariant.logged old (List.mem_append_right _ List.mem_cons_self)
      have new := logged _ (List.mem_append_right _ List.mem_cons_self)
      obtain ⟨-, rfl⟩ := MissionStateMachine.transition_ok transitioned
      obtain ⟨event, type, whole⟩ := RowExtends.record sessions.old_stored recorded
      have valid := new.valid
      have indexed := @filter_added old.executionLog [event] _ (whole.log ▸ valid) known.last
      have sameId : mission.id = old.id := whole.id
      have events : SqlMissionEvents.appendMissionEvents fields missionEvents { old with
          status := mission.status
          lastEventSequence := mission.lastEventSequence
          executionLog := mission.executionLog } old.lastEventSequence = .ok missionEvents' := by
        rw [← events]
        exact congrArg (fun id => SqlMissionEvents.appendMany fields missionEvents id
          (mission.executionLog.filter (old.lastEventSequence < ·.sequence))) sameId.symm
      refine .inr (.inl (.updated rfl whole.log new events ?_))
      apply appendProviderHistoryEvents_other
      change ∀ x ∈ mission.executionLog.zipIdx.filter (old.lastEventSequence < ·.1.sequence), _
      rw [whole.log, indexed]
      refine List.forall_mem_singleton.mpr ?_
      rw [ExecutionEvent.isProviderHistory, type]
      rfl
  | @recoverStaleProcessing _ _ old _ _ staleBefore _ _ stale recovered =>
      cases projections
      cases events
      have processing : old.status = .processing := by
        simp only [InMemoryMissionRepository.isStale, decide_eq_true_eq] at stale
        exact stale.1
      exact .inr (.inr ⟨_, rfl, .recovered processing recovered⟩)

theorem TablesInvariant.step {call : RepositoryCall} {t t' : MissionTables}
    (invariant : TablesInvariant fields t) (step : RepositoryStep fields call t t')
    (recordable : call.Recordable) : TablesInvariant fields t' := by
  obtain ⟨logged, held⟩ := step.session.logged recordable invariant.logged invariant.held
  refine ⟨invariant.sessions.step step.session, logged, held, ?_⟩
  have events := step.missionEvents
  cases call with
  | create | update | expireDue => exact unique_of_appended events
  | edit | get | claimDue | recoverStaleProcessing =>
      exact Except.ok.inj events ▸ invariant.unique

/-- What the repository may do while the mission is not recovered. -/
def Commits (fields : EventFields) (missionId : UUID) (t t' : MissionTables) : Prop :=
  ∃ call, RepositoryStep fields call t t' ∧ call.Recordable ∧
    call ≠ .recoverStaleProcessing missionId

theorem Mirrors.run {t : MissionTables}
    (run : ReflTransGen (Commits fields missionId) ⟨⟨[], [], []⟩, [], []⟩ t) :
    TablesInvariant fields t ∧ Mirrors fields missionId t.database := by
  induction run with
  | refl => exact ⟨tablesInvariant_empty, mirrors_empty fields missionId⟩
  | tail _ commits ih =>
      obtain ⟨invariant, mirrors⟩ := ih
      obtain ⟨call, step, recordable, other⟩ := commits
      refine ⟨invariant.step step recordable, ?_⟩
      rcases invariant.saves step recordable with same | saves | ⟨id, recovery, recovers⟩
      · exact same ▸ mirrors
      · exact mirrors.saved saves
      · refine mirrors.recovered recovers ?_
        rintro rfl
        exact other recovery

/-! Two equal lists of events are found consistent. -/

namespace MissionEventProjection

theorem modelDump_storable {event : ExecutionEvent} (storable : Storable event) :
    ∃ raw, modelDump fields event = .ok raw := by
  simp only [modelDump, storable.json.dump, bind, Except.bind]
  exact ⟨_, rfl⟩

theorem mismatches_self {events : List ExecutionEvent}
    (storable : ∀ event ∈ events, Storable event) (sequences : List Nat) :
    mismatches fields events events sequences = .ok [] := by
  induction sequences with
  | nil => rfl
  | cons sequence rest ih =>
      unfold mismatches
      cases found : bySequence events sequence with
      | none => exact ih
      | some event =>
          have ⟨raw, dumped⟩ : ∃ raw, modelDump fields event = .ok raw :=
            modelDump_storable (storable event (List.mem_of_find?_eq_some found))
          simp only [dumped, ih, bind, Except.bind, if_true]
          rfl

theorem compare_self {events : List ExecutionEvent} (missionId : UUID)
    (storable : ∀ event ∈ events, Storable event) (unique : (events.map (·.sequence)).Nodup) :
    compareMissionEventProjection fields missionId events events =
      .ok ⟨missionId, .consistent, events.length, events.length, [], [], []⟩ := by
  have absent : (events.map (·.sequence)).filter
      (fun sequence => decide (sequence ∉ events.map (·.sequence))) = [] := by
    apply List.filter_eq_nil_iff.mpr
    intro sequence member
    simpa using member
  simp only [compareMissionEventProjection, validateUniqueSequences, if_pos unique, absent,
    mismatches_self storable, bind, Except.bind]
  simp [sortedBy, validateStatus]

end MissionEventProjection

theorem length_le_of_valid {log : List ExecutionEvent} {last : Nat} (valid : ValidEvents 0 [] log)
    (bound : ∀ event ∈ log, event.sequence ≤ last) : log.length ≤ last := by
  have distinct : (log.map (·.sequence)).Nodup :=
    (List.pairwise_map.mpr valid.increasing).imp fun less => Nat.ne_of_lt less
  have inside : log.map (·.sequence) ⊆ List.range' 1 last := by
    intro sequence member
    obtain ⟨event, listed, rfl⟩ := List.mem_map.mp member
    have positive := event.sequence_pos
    have small := bound event listed
    rw [List.mem_range'_1]
    omega
  have short := (List.subperm_of_subset distinct inside).length_le
  simpa using short

/-- The rows, the comparison and the pages of a mission show its log. -/
structure ShowsLog (fields : EventFields) (db : MissionDatabase) (mission : Mission) : Prop where
  rows : SqlMissionEvents.toModels fields mission.id mission.executionLog =
    .ok (sortedBy (·.sequence) (SqlMissionEvents.rowsOf mission.id db.missionEvents))
  consistent : ∀ newIds, ∃ verification,
    MissionEventProjection.verify fields newIds db.missions db.missionEvents mission.id =
      .ok verification ∧ verification.status = .consistent
  pages : ∀ newIds request,
    GetMissionEventHistory.execute db.missions
        (some (SqlMissionEvents.listAfter fields newIds db.missionEvents)) mission.id request =
      GetMissionEventHistory.execute db.missions none mission.id request

/-- The greatest value of an `Integer` column. -/
def integerMax : Nat := 2147483647

theorem Mirrors.showsLog {db : MissionDatabase} {mission : Mission}
    (mirrors : Mirrors fields mission.id db) (member : mission ∈ db.missions)
    (fits : mission.lastEventSequence ≤ integerMax) : ShowsLog fields db mission := by
  have logged := mirrors.logged mission member
  have found : MissionReadRepository.get db.missions mission.id = some mission :=
    get_of_mem mirrors.ids member
  have rows := mirrors.rows
  rw [log_eq_of_mem mirrors.ids member rfl] at rows
  have increasing := logged.valid.increasing
  have bound : ∀ event ∈ mission.executionLog, event.sequence ≤ integerMax := by
    intro event listed
    have last := sequence_le_last increasing listed
    rw [← logged.last] at last
    exact last.trans fits
  have short : mission.executionLog.length ≤ 2147483647 := length_le_of_valid logged.valid bound
  have all : mission.executionLog.filter (0 < ·.sequence) = mission.executionLog :=
    List.filter_eq_self.mpr fun event _ => decide_eq_true event.sequence_pos
  refine ⟨?_, fun newIds => ?_, fun newIds request => ?_⟩
  · rw [toModels_storable logged.storable, rows, sortedBy_of_pairwise]
    rw [List.pairwise_map]
    refine increasing.imp ?_
    intro a b less
    exact Int.ofNat_le.mpr less.le
  · have unique : (mission.executionLog.map (·.sequence)).Nodup :=
      (List.pairwise_map.mpr increasing).imp fun less => Nat.ne_of_lt less
    have listed : SqlMissionEvents.listAll fields newIds db.missionEvents mission.id =
        .ok mission.executionLog := by
      unfold SqlMissionEvents.listAll
      rw [listAfter_rows logged rows, all, List.take_of_length_le short]
    refine ⟨⟨mission.id, .consistent, mission.executionLog.length, mission.executionLog.length,
      [], [], []⟩, ?_, rfl⟩
    simp only [MissionEventProjection.verify, found, listed, bind, Except.bind]
    exact MissionEventProjection.compare_self mission.id logged.storable unique
  · simp only [GetMissionEventHistory.execute, found, listAfter_rows logged rows, Except.map,
      fetchedEvents]

/-- In every state that commits lead to from the empty tables, the projection shows the log
of every mission that was not recovered. -/
theorem projection_shows_log {t : MissionTables} {mission : Mission}
    (run : ReflTransGen (Commits fields mission.id) ⟨⟨[], [], []⟩, [], []⟩ t)
    (member : mission ∈ t.sessions.missions) (fits : mission.lastEventSequence ≤ integerMax) :
    ShowsLog fields t.database mission :=
  (Mirrors.run run).2.showsLog member fits

end

/-! A mission that is created, and paused or claimed and recovered. -/

namespace ProjectedMission
open StaleWriter (fields created claimedMission pausing paused records)

def newIds (_ : Nat) : UUID × UUID := (⟨1⟩, ⟨1⟩)

def empty : MissionTables := ⟨⟨[], [], []⟩, [], []⟩

def tables (sessions : MissionSessions) : MissionTables := ⟨sessions, [], []⟩

theorem creates : RepositoryStep fields (.create Sample.mission) empty (tables created) where
  session := @SessionStep.create fields ⟨[], [], []⟩ Sample.mission NotifiedExpiry.newIds 0 []
    List.not_mem_nil rfl (Nat.le_refl 0) rfl
  providerEvents := rfl
  missionEvents := rfl

theorem created_recordable : (RepositoryCall.create Sample.mission).Recordable := by
  intro event member
  cases member

def changed : MissionSessions := { created with objects := created.objects ++ [⟨pausing, 0⟩] }

def edited : MissionSessions := { changed with objects := changed.objects ++ [⟨paused, 0⟩] }

def event : ExecutionEvent :=
  pausing.nextEvent ⟨3⟩ 2 "mission_paused" "Mission paused." [("previous_status", .str "waiting")]

def saved : MissionTables :=
  ⟨⟨[paused], [], edited.objects ++ [.persisted paused]⟩, [], [eventRow fields ⟨7⟩ event]⟩

theorem pause_recordable : Recordable "mission_paused" [("previous_status", .str "waiting")] := by
  refine (recordable_generic (by decide)).mpr ?_
  simp [jsonMetadata_cons, JsonMetadata.nil]

theorem pause_logs : LogStep pausing paused := by
  refine .recorded ⟨3⟩ 2 "mission_paused" "Mission paused." [("previous_status", .str "waiting")]
    pause_recordable ⟨by decide, ?_⟩ rfl rfl
  intro other member
  cases member

theorem pause_storable : Storable event := storable_of_recordable pause_recordable (by decide)

theorem create_not_recovery {mission : Mission} {missionId : UUID} :
    RepositoryCall.create mission ≠ .recoverStaleProcessing missionId := by simp

theorem edit_not_recovery {before after : Mission} {missionId : UUID} :
    RepositoryCall.edit before after ≠ .recoverStaleProcessing missionId := by simp

theorem update_not_recovery {object : SessionMission} {missionId : UUID} :
    RepositoryCall.update object ≠ .recoverStaleProcessing missionId := by simp

theorem pauses :
    ReflTransGen (Commits fields Sample.mission.id) (tables created) saved := by
  have held : SessionMission.persisted Sample.mission ∈ created.objects :=
    List.mem_cons_of_mem _ (List.mem_singleton_self _)
  have first : Commits fields Sample.mission.id (tables created) (tables changed) := by
    refine ⟨_, ⟨@SessionStep.edit fields created (.persisted Sample.mission) pausing held
      (.assigned rfl rfl rfl rfl), rfl, rfl⟩, .kept rfl rfl, edit_not_recovery⟩
  have second : Commits fields Sample.mission.id (tables changed) (tables edited) := by
    refine ⟨_, ⟨@SessionStep.edit fields changed ⟨pausing, 0⟩ paused
      (List.mem_append_right _ (List.mem_singleton_self _)) records, rfl, rfl⟩, pause_logs, edit_not_recovery⟩
  have appended : SqlMissionEvents.appendMissionEvents fields [] paused 0 =
      .ok [eventRow fields ⟨7⟩ event] := by
    have storable : ∀ added ∈ [event], Storable added :=
      List.forall_mem_singleton.mpr pause_storable
    change SqlMissionEvents.appendMany fields [] ⟨7⟩ [event] = _
    simp only [SqlMissionEvents.appendMany, toModels_storable storable, bind, Except.bind,
      SqlMissionEvents.addAll]
    exact if_pos ⟨List.nodup_singleton _, List.nodup_singleton _⟩
  have update : Commits fields Sample.mission.id (tables edited) saved := by
    refine ⟨_, ⟨@SessionStep.update fields [] [] Sample.mission edited.objects ⟨paused, 0⟩
      NotifiedExpiry.newIds [] [] (List.mem_append_right _ (List.mem_singleton_self _)) rfl rfl
      rfl rfl, rfl, appended⟩, trivial, update_not_recovery⟩
  exact ((ReflTransGen.single first).tail second).tail update

def claimed : MissionTables :=
  tables ⟨[claimedMission], [], created.objects ++ [.persisted claimedMission]⟩

def recovered : Mission := (MissionStateMachine.recoverStale claimedMission ⟨11⟩ 5).2

def recoveredTables : MissionTables :=
  tables ⟨[recovered], [], claimed.sessions.objects ++ [⟨recovered, 0⟩]⟩

theorem claims : RepositoryStep fields (.claimDue Sample.mission.id) (tables created) claimed where
  session := @SessionStep.claimDue fields [] [] Sample.mission [] created.objects 1 (by decide)
  providerEvents := rfl
  missionEvents := rfl

theorem recovers :
    RepositoryStep fields (.recoverStaleProcessing Sample.mission.id) claimed recoveredTables where
  session := @SessionStep.recoverStaleProcessing fields [] [] claimedMission []
    claimed.sessions.objects 4 5 ⟨11⟩ (by decide) (by decide +kernel)
  providerEvents := rfl
  missionEvents := rfl

end ProjectedMission

theorem projection_shows_log_paused :
    ShowsLog StaleWriter.fields ProjectedMission.saved.database StaleWriter.paused :=
  projection_shows_log
    (.head ⟨_, ProjectedMission.creates, ProjectedMission.created_recordable,
        ProjectedMission.create_not_recovery⟩ ProjectedMission.pauses) (List.mem_singleton_self _) (by decide)

/-- After a recovery the comparison finds the projection inconsistent. -/
theorem recovered_claim_inconsistent :
    ReflTransGen (fun t t' => ∃ call, RepositoryStep StaleWriter.fields call t t' ∧
      call.Recordable) ⟨⟨[], [], []⟩, [], []⟩ ProjectedMission.recoveredTables ∧
    (MissionEventProjection.verify StaleWriter.fields ProjectedMission.newIds
        ProjectedMission.recoveredTables.sessions.missions
        ProjectedMission.recoveredTables.missionEvents ⟨7⟩).map (·.status) =
      .ok .inconsistent := by
  refine ⟨?_, by decide +kernel⟩
  exact .tail (.tail (.single ⟨_, ProjectedMission.creates, ProjectedMission.created_recordable⟩)
    ⟨_, ProjectedMission.claims, trivial⟩) ⟨_, ProjectedMission.recovers, trivial⟩

end PurchaseAgent
