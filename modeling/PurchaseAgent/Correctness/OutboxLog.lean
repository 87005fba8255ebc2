import PurchaseAgent.Correctness.EventFields
import PurchaseAgent.Correctness.EventPolling
import PurchaseAgent.Correctness.Initial
import PurchaseAgent.Storage.SqlMissionOutbox

/-!
The outbox against the logs. Every committed save adds the rows of the notification
events that it adds to a log, whatever objects the sessions hold.
-/

namespace PurchaseAgent

open Relation SqlMissionOutbox

theorem mapM_ok {α β ε : Type} {f : α → Except ε β} {xs : List α} {ys : List β}
    (h : xs.mapM f = .ok ys) : xs.map f = ys.map .ok := by
  induction xs generalizing ys with
  | nil =>
      cases h
      rfl
  | cons x rest ih =>
      rw [List.mapM_cons] at h
      cases first : f x with
      | error error =>
          rw [first] at h
          cases h
      | ok y =>
          rw [first] at h
          cases others : rest.mapM f with
          | error error =>
              rw [others] at h
              cases h
          | ok zs =>
              rw [others] at h
              cases h
              rw [List.map_cons, List.map_cons, first, ih others]

section
variable (fields : EventFields)

/-- The contents of the rows of some events, as far as they are serializable. -/
def contentsOf (mission : Mission) (events : List ExecutionEvent) :
    List (Except PyException NotificationContent) :=
  (events.filter isNotification).map (contentOf fields mission)

/-- The outbox has one row for each notification event of the logs, and no other. -/
def OutboxShowsLogs (s : MissionSessions) : Prop :=
  (s.outbox.map fun message => (.ok message.content : Except PyException NotificationContent)).Perm
    (s.missions.flatMap fun mission => contentsOf fields mission mission.executionLog)

theorem contentsOf_append (mission : Mission) (events others : List ExecutionEvent) :
    contentsOf fields mission (events ++ others) =
      contentsOf fields mission events ++ contentsOf fields mission others := by
  rw [contentsOf, List.filter_append, List.map_append]
  rfl

/-- The contents name the mission and its participants only. -/
theorem contentsOf_same {mission other : Mission} (id : other.id = mission.id)
    (participantIds : other.participantIds = mission.participantIds)
    (events : List ExecutionEvent) :
    contentsOf fields other events = contentsOf fields mission events := by
  apply List.map_congr_left
  intro event _
  rw [contentOf, contentOf, id, participantIds]

variable {fields}

theorem content_appendMissionEvents {newIds : Nat → UUID}
    {outbox outbox' : List NotificationOutboxMessage} {mission : Mission} {previous : Nat}
    (appended : appendMissionEvents fields newIds outbox mission previous = .ok outbox') :
    (outbox'.map fun message =>
        (.ok message.content : Except PyException NotificationContent)) =
      (outbox.map fun message => .ok message.content) ++ contentsOf fields mission
        (MissionJsonEventStore.eventsAfter mission.executionLog previous) := by
  rw [appendMissionEvents] at appended
  cases contents : ((MissionJsonEventStore.eventsAfter mission.executionLog previous).filter
      isNotification).mapM (contentOf fields mission) with
  | error error =>
      rw [contents] at appended
      cases appended
  | ok added =>
      rw [contents] at appended
      cases appended
      -- the numbers of the rows are no part of their contents
      have numbered := congrArg (List.map (Except.ok (ε := PyException)))
        (List.zipIdx_map_fst 0 added)
      rw [List.map_map, ← mapM_ok contents] at numbered
      rw [List.map_append, List.map_map]
      exact congrArg ((outbox.map fun message => .ok message.content) ++ ·) numbered

end

/-! Logs that are valid up to their last sequence. -/

section
variable {log added : List ExecutionEvent}

theorem lastSequence_le_append (valid : ValidEvents 0 [] (log ++ added)) :
    lastSequence 0 log ≤ lastSequence 0 (log ++ added) := by
  cases found : log.getLast? with
  | none => simp [lastSequence, found]
  | some final =>
      have member := List.mem_append_left added (List.mem_of_mem_getLast? found)
      have upper := sequence_le_last valid.increasing member
      have last : lastSequence 0 log = final.sequence := by simp [lastSequence, found]
      rw [last]
      exact upper

/-- Where the last sequence has not grown, nothing has been added. -/
theorem added_eq_nil (valid : ValidEvents 0 [] (log ++ added))
    (same : lastSequence 0 (log ++ added) = lastSequence 0 log) : added = [] := by
  have behind := filter_added_events valid rfl
  have none_behind : (log ++ added).filter (lastSequence 0 log < ·.sequence) = [] := by
    apply List.filter_eq_nil_iff.2
    intro event member
    have upper := sequence_le_last valid.increasing member
    simp only [decide_eq_true_eq]
    omega
  exact behind.symm.trans none_behind

theorem storedMission_iff {mission : Mission} :
    StoredMission mission ↔ ValidEvents 0 [] mission.executionLog ∧
      mission.lastEventSequence = lastSequence 0 mission.executionLog :=
  validateEventSequence_ok_iff

/-- A mission with the event that `record_event` appends is a stored one again. -/
theorem StoredMission.record {mission after : Mission} (stored : StoredMission mission)
    {eventId : UUID} {timestamp : Time} {eventType message : String}
    {metadata : List (String × PyValue)}
    (ok : mission.recordEvent eventId timestamp eventType message metadata = .ok after) :
    StoredMission after := by
  obtain ⟨fresh, rfl⟩ := Mission.recordEvent_ok ok
  obtain ⟨valid, last⟩ := storedMission_iff.1 stored
  have sound := valid.nextEvent_sound fresh timestamp eventType message metadata
  have next : (mission.nextEvent eventId timestamp eventType message metadata).sequence =
      lastSequence 0 mission.executionLog + 1 := congrArg (· + 1) last
  apply storedMission_iff.2
  constructor
  · exact valid.append next fresh.2 sound
  · exact (lastSequence_append _ _).symm

end

theorem MissionEdit.id {mission after : Mission} (edited : MissionEdit mission after) :
    after.id = mission.id := by
  cases edited with
  | recorded ok =>
      obtain ⟨-, rfl⟩ := Mission.recordEvent_ok ok
      rfl
  | assigned id => exact id

theorem edits_id {mission after : Mission} (edits : ReflTransGen MissionEdit mission after) :
    after.id = mission.id := by
  induction edits with
  | refl => rfl
  | tail _ edited ih => exact edited.id.trans ih

/-- An edited mission is a stored one as before. -/
theorem StoredMission.edit {mission after : Mission} (stored : StoredMission mission)
    (edited : MissionEdit mission after) : StoredMission after := by
  cases edited with
  | recorded ok => exact stored.record ok
  | assigned id participantIds executionLog lastEventSequence =>
      rw [StoredMission, executionLog, lastEventSequence]
      exact stored

/-- The object has come from the row, and can be saved over it as long as nothing else
has added events to the row. -/
structure SessionMission.Traces (object : SessionMission) (row : Mission) : Prop where
  id : row.id = object.mission.id
  participantIds : row.participantIds = object.mission.participantIds
  behind : object.persistedLastEventSequence ≤ row.lastEventSequence
  continues : object.persistedLastEventSequence = row.lastEventSequence →
    ∃ added, object.mission.executionLog = row.executionLog ++ added

/-- The object of the row itself, with a marker that is not ahead of the row. -/
theorem SessionMission.traces_self (mission : Mission) {persisted : Nat}
    (behind : persisted ≤ mission.lastEventSequence) :
    SessionMission.Traces ⟨mission, persisted⟩ mission where
  id := rfl
  participantIds := rfl
  behind := behind
  continues _ := ⟨[], (List.append_nil _).symm⟩

structure OutboxInvariant (fields : EventFields) (s : MissionSessions) : Prop where
  unique : (s.missions.map (·.id)).Nodup
  stored : ∀ row ∈ s.missions, StoredMission row
  traced : ∀ object ∈ s.objects, ∃ row ∈ s.missions, object.Traces row
  shown : OutboxShowsLogs fields s

/-- The row that a save leaves, and the events that it has added. -/
structure RowExtends (old mission : Mission) (added : List ExecutionEvent) : Prop where
  id : mission.id = old.id
  participantIds : mission.participantIds = old.participantIds
  log : mission.executionLog = old.executionLog ++ added
  stored : StoredMission mission

namespace RowExtends
variable {old mission : Mission} {added : List ExecutionEvent}

theorem last_le (h : RowExtends old mission added) (stored : StoredMission old) :
    old.lastEventSequence ≤ mission.lastEventSequence := by
  obtain ⟨valid, last⟩ := storedMission_iff.1 h.stored
  rw [h.log] at valid last
  rw [(storedMission_iff.1 stored).2, last]
  exact lastSequence_le_append valid

theorem added_nil (h : RowExtends old mission added) (stored : StoredMission old)
    (same : mission.lastEventSequence = old.lastEventSequence) : added = [] := by
  obtain ⟨valid, last⟩ := storedMission_iff.1 h.stored
  rw [h.log] at valid last
  apply added_eq_nil valid
  rw [← last, same, (storedMission_iff.1 stored).2]

/-- The events behind the sequence of the old row are those added. -/
theorem eventsAfter (h : RowExtends old mission added) (stored : StoredMission old) :
    MissionJsonEventStore.eventsAfter mission.executionLog old.lastEventSequence = added := by
  obtain ⟨valid, -⟩ := storedMission_iff.1 h.stored
  rw [h.log] at valid ⊢
  exact filter_added_events valid (storedMission_iff.1 stored).2

/-- An object of the old row is an object of the new one; it can be saved over the new
one only if no events have been added. -/
theorem traces (h : RowExtends old mission added) (stored : StoredMission old)
    {object : SessionMission} (traced : object.Traces old) : object.Traces mission where
  id := h.id.trans traced.id
  participantIds := h.participantIds.trans traced.participantIds
  behind := Nat.le_trans traced.behind (h.last_le stored)
  continues := by
    intro same
    have grown := h.last_le stored
    have behind := traced.behind
    have kept : mission.lastEventSequence = old.lastEventSequence := by omega
    have nothing := h.added_nil stored kept
    rw [h.log, nothing, List.append_nil]
    exact traced.continues (by omega)

/-- A save of an event that is recorded once the status has changed. -/
theorem record (stored : StoredMission old) {status : MissionStatus} {claimedAt : Option Time}
    {eventId : UUID} {timestamp : Time} {eventType message : String}
    {metadata : List (String × PyValue)}
    (recorded : (old.withStatus status claimedAt).recordEvent eventId timestamp eventType message
      metadata = .ok mission) :
    ∃ event, event.type = eventType ∧ RowExtends old mission [event] := by
  have same : StoredMission (old.withStatus status claimedAt) := stored
  have after := same.record recorded
  obtain ⟨-, rfl⟩ := Mission.recordEvent_ok recorded
  exact ⟨(old.withStatus status claimedAt).nextEvent eventId timestamp eventType message metadata,
    rfl, rfl, rfl, rfl, after⟩

end RowExtends

/-- The recovery of a stale claim ends with its event. -/
theorem recoverStale_recorded {mission : Mission} {eventId : UUID} {currentTime : Time}
    (recovered : (MissionStateMachine.recoverStale mission eventId currentTime).1 = .ok ()) :
    ∃ unclaimed,
      MissionStateMachine.transition mission (MissionStateMachine.recoveryTarget mission)
        { currentTime := some currentTime, recovery := true } = .ok unclaimed ∧
      unclaimed.recordEvent eventId currentTime "claim_recovered"
        (MissionStateMachine.recoveryMessage (MissionStateMachine.recoveryTarget mission))
        [("previous_claimed_at", .ofTime mission.claimedAt),
          ("attempts_exhausted",
            .bool (MissionStateMachine.recoveryTarget mission = .failed))] =
          .ok (MissionStateMachine.recoverStale mission eventId currentTime).2 := by
  simp only [MissionStateMachine.recoverStale] at recovered ⊢
  split at recovered
  · cases recovered
  · next unclaimed transitioned =>
      split at recovered
      · cases recovered
      · next after recorded => exact ⟨unclaimed, transitioned, recorded⟩

section
variable {fields : EventFields} {front back : List Mission} {old mission : Mission}
  {added : List ExecutionEvent} {outbox outbox' : List NotificationOutboxMessage}
  {objects more : List SessionMission}

theorem shown_replace (h : RowExtends old mission added)
    (grown : (outbox'.map fun message =>
        (.ok message.content : Except PyException NotificationContent)) =
      (outbox.map fun message => .ok message.content) ++ contentsOf fields mission added)
    (shown : OutboxShowsLogs fields ⟨front ++ old :: back, outbox, objects⟩) :
    OutboxShowsLogs fields ⟨front ++ mission :: back, outbox', more⟩ := by
  have own : contentsOf fields mission mission.executionLog =
      contentsOf fields old old.executionLog ++ contentsOf fields mission added := by
    rw [h.log, contentsOf_append, contentsOf_same fields h.id h.participantIds]
  simp only [OutboxShowsLogs, List.flatMap_append, List.flatMap_cons] at shown ⊢
  rw [grown, own, List.append_assoc]
  refine (shown.append_right _).trans ?_
  rw [List.append_assoc, List.append_assoc]
  apply List.Perm.append_left
  apply List.Perm.append_left
  exact List.perm_append_comm

/-- A save of one row keeps the invariant if the outbox grows by what it adds. -/
theorem OutboxInvariant.replace (h : RowExtends old mission added)
    (grown : (outbox'.map fun message =>
        (.ok message.content : Except PyException NotificationContent)) =
      (outbox.map fun message => .ok message.content) ++ contentsOf fields mission added)
    (own : ∀ object ∈ more, object.Traces mission)
    (invariant : OutboxInvariant fields ⟨front ++ old :: back, outbox, objects⟩) :
    OutboxInvariant fields ⟨front ++ mission :: back, outbox', objects ++ more⟩ where
  unique := by
    have unique := invariant.unique
    simp only [List.map_append, List.map_cons, h.id] at unique ⊢
    exact unique
  stored := by
    intro row member
    cases List.mem_append.1 member with
    | inl early => exact invariant.stored row (List.mem_append_left _ early)
    | inr late =>
        cases List.mem_cons.1 late with
        | inl same => exact same ▸ h.stored
        | inr later =>
            exact invariant.stored row (List.mem_append_right _ (List.mem_cons_of_mem _ later))
  traced := by
    intro object member
    have inside : mission ∈ front ++ mission :: back :=
      List.mem_append_right _ (List.mem_cons_self)
    cases List.mem_append.1 member with
    | inr new => exact ⟨mission, inside, own object new⟩
    | inl held =>
        obtain ⟨row, stored, traced⟩ := invariant.traced object held
        cases List.mem_append.1 stored with
        | inl early => exact ⟨row, List.mem_append_left _ early, traced⟩
        | inr late =>
            cases List.mem_cons.1 late with
            | inl same =>
                subst same
                exact ⟨mission, inside, h.traces (invariant.stored row stored) traced⟩
            | inr later =>
                exact ⟨row, List.mem_append_right _ (List.mem_cons_of_mem _ later), traced⟩
  shown := shown_replace h grown invariant.shown

theorem OutboxInvariant.old_stored
    (invariant : OutboxInvariant fields ⟨front ++ old :: back, outbox, objects⟩) :
    StoredMission old :=
  invariant.stored old (List.mem_append_right _ List.mem_cons_self)

/-- The guard of the statement makes the row the one that the object has come from. -/
theorem OutboxInvariant.traces_old
    (invariant : OutboxInvariant fields ⟨front ++ old :: back, outbox, objects⟩)
    {object : SessionMission} (held : object ∈ objects) (own : old.id = object.mission.id) :
    object.Traces old := by
  obtain ⟨row, known, traced⟩ := invariant.traced object held
  have same : row = old :=
    List.inj_on_of_nodup_map invariant.unique known
      (List.mem_append_right _ List.mem_cons_self) (traced.id.trans own.symm)
  exact same ▸ traced

/-- An edit extends the log of an object, and names the same mission. -/
theorem SessionMission.Traces.edit {object : SessionMission} {row after : Mission}
    (traced : object.Traces row) (edited : MissionEdit object.mission after) :
    SessionMission.Traces ⟨after, object.persistedLastEventSequence⟩ row := by
  cases edited with
  | @recorded eventId timestamp eventType message metadata after ok =>
      obtain ⟨-, rfl⟩ := Mission.recordEvent_ok ok
      refine ⟨traced.id, traced.participantIds, traced.behind, ?_⟩
      intro same
      obtain ⟨added, log⟩ := traced.continues same
      refine ⟨added ++
        [object.mission.nextEvent eventId timestamp eventType message metadata], ?_⟩
      rw [← List.append_assoc, ← log]
      rfl
  | assigned id participantIds executionLog lastEventSequence =>
      refine ⟨traced.id.trans id.symm, traced.participantIds.trans participantIds.symm,
        traced.behind, ?_⟩
      intro same
      obtain ⟨added, log⟩ := traced.continues same
      exact ⟨added, executionLog.trans log⟩

/-- More objects of the rows keep the invariant. -/
theorem OutboxInvariant.hold {s : MissionSessions} (invariant : OutboxInvariant fields s)
    {more : List SessionMission}
    (own : ∀ object ∈ more, ∃ row ∈ s.missions, object.Traces row) :
    OutboxInvariant fields { s with objects := s.objects ++ more } where
  unique := invariant.unique
  stored := invariant.stored
  traced := by
    intro object member
    cases List.mem_append.1 member with
    | inl held => exact invariant.traced object held
    | inr new => exact own object new
  shown := invariant.shown

/-- A mission is created with all the rows of its log. -/
theorem OutboxInvariant.create {s : MissionSessions} (invariant : OutboxInvariant fields s)
    (fresh : mission.id ∉ s.missions.map (·.id)) (stored : StoredMission mission)
    {newIds : Nat → UUID} (appended : appendMissionEvents fields newIds s.outbox mission 0 =
      .ok outbox) {persisted : Nat} (unsaved : persisted ≤ mission.lastEventSequence) :
    OutboxInvariant fields ⟨s.missions ++ [mission], outbox,
      s.objects ++ [⟨mission, persisted⟩, .persisted mission]⟩ where
  unique := by
    rw [List.map_append]
    exact List.Nodup.append invariant.unique (List.nodup_singleton _)
      (List.disjoint_singleton.2 fresh)
  stored := by
    intro row member
    cases List.mem_append.1 member with
    | inl early => exact invariant.stored row early
    | inr new => exact List.mem_singleton.1 new ▸ stored
  traced := by
    intro object member
    cases List.mem_append.1 member with
    | inl held =>
        obtain ⟨row, known, traced⟩ := invariant.traced object held
        exact ⟨row, List.mem_append_left _ known, traced⟩
    | inr new =>
        refine ⟨mission, List.mem_append_right _ (List.mem_singleton_self _), ?_⟩
        cases List.mem_cons.1 new with
        | inl same => exact same ▸ SessionMission.traces_self mission unsaved
        | inr other =>
            exact List.mem_singleton.1 other ▸ SessionMission.traces_self mission le_rfl
  shown := by
    obtain ⟨valid, -⟩ := storedMission_iff.1 stored
    have whole : MissionJsonEventStore.eventsAfter mission.executionLog 0 =
        mission.executionLog := by
      apply List.filter_eq_self.2
      intro event member
      exact decide_eq_true (valid.above event member)
    have grown := content_appendMissionEvents appended
    rw [whole] at grown
    simp only [OutboxShowsLogs, List.flatMap_append, List.flatMap_singleton]
    rw [grown]
    exact invariant.shown.append_right _

end

theorem OutboxInvariant.step {fields : EventFields} {call : RepositoryCall}
    {s s' : MissionSessions} (invariant : OutboxInvariant fields s)
    (step : SessionStep fields call s s') :
    OutboxInvariant fields s' := by
  cases step with
  | edit held edited =>
      apply invariant.hold
      intro object new
      obtain ⟨row, known, traced⟩ := invariant.traced _ held
      exact ⟨row, known, List.mem_singleton.1 new ▸ traced.edit edited⟩
  | load stored =>
      apply invariant.hold
      intro object new
      exact ⟨_, stored, List.mem_singleton.1 new ▸ SessionMission.traces_self _ le_rfl⟩
  | create fresh validated unsaved appended =>
      exact invariant.create fresh validated appended unsaved
  | @update front back old objects object newIds outbox outbox' held own expected validated
      appended =>
      have traced := invariant.traces_old held own
      obtain ⟨added, log⟩ := traced.continues expected.symm
      have extends_ : RowExtends old object.mission added :=
        ⟨traced.id.symm, traced.participantIds.symm, log, validated⟩
      have grown := content_appendMissionEvents appended
      rw [← expected, extends_.eventsAfter invariant.old_stored] at grown
      apply invariant.replace extends_ grown
      intro saved new
      exact List.mem_singleton.1 new ▸ SessionMission.traces_self _ le_rfl
  | @claimDue front back old outbox objects currentTime due =>
      have extends_ : RowExtends old
          (InMemoryMissionRepository.claimedMission currentTime old) [] :=
        ⟨rfl, rfl, (List.append_nil _).symm, invariant.old_stored⟩
      apply invariant.replace extends_ (List.append_nil _).symm
      intro claimed new
      exact List.mem_singleton.1 new ▸ SessionMission.traces_self _ le_rfl
  | @expireDue front back old expired mission outbox outbox' objects currentTime eventId newIds due
      transitioned recorded appended =>
      obtain ⟨-, rfl⟩ := MissionStateMachine.transition_ok transitioned
      obtain ⟨event, -, whole⟩ := RowExtends.record invariant.old_stored recorded
      have grown := content_appendMissionEvents appended
      rw [whole.eventsAfter invariant.old_stored] at grown
      -- the row takes the status and the log of the mission, which has nothing else changed
      have extends_ : RowExtends old { old with
          status := mission.status
          lastEventSequence := mission.lastEventSequence
          executionLog := mission.executionLog } [event] :=
        ⟨rfl, rfl, whole.log, whole.stored⟩
      have same := (contentsOf_same fields whole.id whole.participantIds [event]).trans
        (contentsOf_same fields extends_.id extends_.participantIds [event]).symm
      rw [same] at grown
      apply invariant.replace extends_ grown
      intro object new
      rw [List.mem_singleton.1 new]
      exact ⟨whole.id.symm, whole.participantIds.symm, le_rfl,
        fun _ => ⟨[], (List.append_nil _).symm⟩⟩
  | @recoverStaleProcessing front back old outbox objects staleBefore currentTime eventId stale
      recovered =>
      obtain ⟨unclaimed, transitioned, recorded⟩ := recoverStale_recorded recovered
      obtain ⟨-, rfl⟩ := MissionStateMachine.transition_ok transitioned
      obtain ⟨event, type, extends_⟩ := RowExtends.record invariant.old_stored recorded
      have silent : contentsOf fields (MissionStateMachine.recoverStale old eventId currentTime).2
          [event] = [] := by
        have other : isNotification event = false := by
          rw [isNotification, type]
          decide
        rw [contentsOf, List.filter_cons_of_neg (by simp [other])]
        rfl
      have grown := (List.append_nil (outbox.map fun message =>
        (.ok message.content : Except PyException NotificationContent))).symm
      rw [← silent] at grown
      apply invariant.replace extends_ grown
      intro object new
      rw [List.mem_singleton.1 new]
      exact SessionMission.traces_self _ (extends_.last_le invariant.old_stored)

theorem outboxInvariant_of_run {fields : EventFields} {s : MissionSessions}
    (run : ReflTransGen (AnySessionStep fields) ⟨[], [], []⟩ s) : OutboxInvariant fields s := by
  induction run with
  | refl => exact ⟨List.nodup_nil, by simp, by simp, List.Perm.refl _⟩
  | tail _ step invariant =>
      obtain ⟨_, step⟩ := step
      exact invariant.step step

/-- In every run of committed saves the outbox has one row for each notification event
of the logs, with its data and the participants of its mission, and no other row. -/
theorem outbox_shows_logs {fields : EventFields} {s : MissionSessions}
    (run : ReflTransGen (AnySessionStep fields) ⟨[], [], []⟩ s) : OutboxShowsLogs fields s :=
  (outboxInvariant_of_run run).shown

/-! A mission that is created and expires. -/

namespace NotifiedExpiry

def fields : EventFields := .plain fun id _ => id

/-- It waits, and has expired. -/
def mission : Mission := { Sample.mission with expiresAt := some 5 }

def expired : Mission := mission.withStatus .expired none

def notified : Mission :=
  expired.append (expired.nextEvent ⟨3⟩ 6 "mission_expired" "Mission expired before execution."
    [("expires_at", .ofTime (some 5)), ("previous_status", .str "waiting")])

def newIds (index : Nat) : UUID := ⟨index + 1⟩

def outbox : List NotificationOutboxMessage :=
  (SqlMissionOutbox.appendMissionEvents fields newIds [] notified 0).toOption.getD []

def row : Mission :=
  { mission with
    status := notified.status
    lastEventSequence := notified.lastEventSequence
    executionLog := notified.executionLog }

def created : MissionSessions := ⟨[mission], [], [⟨mission, 0⟩, .persisted mission]⟩

def last : MissionSessions := ⟨[row], outbox, created.objects ++ [.persisted notified]⟩

theorem run : ReflTransGen (AnySessionStep fields) ⟨[], [], []⟩ last := by
  have creation : AnySessionStep fields ⟨[], [], []⟩ created :=
    ⟨_, @SessionStep.create fields ⟨[], [], []⟩ mission newIds 0 [] List.not_mem_nil rfl
      (Nat.le_refl 0) rfl⟩
  have expiry : AnySessionStep fields created last :=
    ⟨_, @SessionStep.expireDue fields [] [] mission expired notified [] outbox created.objects 6
      ⟨3⟩ newIds (by decide) rfl rfl rfl⟩
  exact (ReflTransGen.single creation).tail expiry

end NotifiedExpiry

theorem outbox_shows_expiry : OutboxShowsLogs NotifiedExpiry.fields NotifiedExpiry.last :=
  outbox_shows_logs NotifiedExpiry.run

end PurchaseAgent
