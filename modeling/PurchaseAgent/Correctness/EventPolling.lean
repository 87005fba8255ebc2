import PurchaseAgent.Collections.Polling
import PurchaseAgent.Correctness.EventMigration
import PurchaseAgent.Correctness.MissionRuns
import PurchaseAgent.Correctness.ProviderHistoryPages
import PurchaseAgent.Services.MissionEventHistory

/-!
Clients that poll the events of a mission while the repository writes. The logs
and both projections grow together, except that the recovery of a stale claim
extends the log alone.
-/

namespace PurchaseAgent
open Collections Polling Relation MissionEventSerializer

/-- The stored missions and the two projections. -/
structure MissionDatabase where
  missions : List Mission
  providerEvents : SqlProviderHistory.Table
  missionEvents : SqlMissionEvents.Table

def MissionDatabase.history (db : MissionDatabase) : ProviderHistoryDatabase :=
  ⟨db.missions, db.providerEvents⟩

/-- `create`, `update` and the other saves that append to the projections. -/
inductive Saves (fields : EventFields) : MissionDatabase → MissionDatabase → Prop
  | created {missions : List Mission} {mission : Mission}
      {providerEvents providerEvents' : SqlProviderHistory.Table}
      {missionEvents missionEvents' : SqlMissionEvents.Table}
      (fresh : mission.id ∉ missions.map (·.id)) (logged : Logged mission)
      (events : SqlMissionEvents.appendMissionEvents fields missionEvents mission 0 =
        .ok missionEvents')
      (projections : SqlProviderHistory.appendProviderHistoryEvents providerEvents mission 0 =
        .ok providerEvents') :
      Saves fields ⟨missions, providerEvents, missionEvents⟩
        ⟨missions ++ [mission], providerEvents', missionEvents'⟩
  | updated {front back : List Mission} {old mission : Mission} {added : List ExecutionEvent}
      {providerEvents providerEvents' : SqlProviderHistory.Table}
      {missionEvents missionEvents' : SqlMissionEvents.Table}
      (same : mission.id = old.id) (extends_ : mission.executionLog = old.executionLog ++ added)
      (logged : Logged mission)
      (events : SqlMissionEvents.appendMissionEvents fields missionEvents mission
        old.lastEventSequence = .ok missionEvents')
      (projections : SqlProviderHistory.appendProviderHistoryEvents providerEvents mission
        old.lastEventSequence = .ok providerEvents') :
      Saves fields ⟨front ++ old :: back, providerEvents, missionEvents⟩
        ⟨front ++ mission :: back, providerEvents', missionEvents'⟩

/-- `recover_stale_processing` of one mission, which writes no projection. -/
inductive RecoversClaim : UUID → MissionDatabase → MissionDatabase → Prop
  | recovered {front back : List Mission} {old : Mission}
      {providerEvents : SqlProviderHistory.Table} {missionEvents : SqlMissionEvents.Table}
      (processing : old.status = .processing) {eventId : UUID} {currentTime : Time}
      (ok : (MissionStateMachine.recoverStale old eventId currentTime).1 = .ok ()) :
      RecoversClaim old.id ⟨front ++ old :: back, providerEvents, missionEvents⟩
        ⟨front ++ (MissionStateMachine.recoverStale old eventId currentTime).2 :: back,
          providerEvents, missionEvents⟩

/-- The readers a client can poll, from the log or from a projection. -/
inductive EventReader where
  | increments (projected : Bool)
  | eventHistory (projected : Bool)
  | waitingEventHistory (projected : Bool)

namespace EventReader

abbrev Item : EventReader → Type
  | .increments _ => ProviderResolutionHistoryItem
  | .eventHistory _ | .waitingEventHistory _ => ExecutionEvent

def sequence : (reader : EventReader) → reader.Item → Nat
  | .increments _ => fun item => item.sequence
  | .eventHistory _ | .waitingEventHistory _ => fun event => event.sequence

/-- The greatest limit that a request may have. -/
def maxLimit : EventReader → Nat
  | .increments _ => 500
  | .eventHistory _ | .waitingEventHistory _ => 100

/-- The events of a log that the reader shows. -/
def events : EventReader → List ExecutionEvent → List ExecutionEvent
  | .increments _, log => log.filter (·.isProviderHistory)
  | .eventHistory _, log | .waitingEventHistory _, log => log

/-- The item shows the event. -/
def Shows : (reader : EventReader) → reader.Item → ExecutionEvent → Prop
  | .increments _ => fun item event => providerEventToHistoryItem event = .ok item
  | .eventHistory _ | .waitingEventHistory _ => fun item event => item = event

/-- The reader is served from `mission_events`. -/
def readsMissionEvents : EventReader → Bool
  | .increments _ => false
  | .eventHistory projected | .waitingEventHistory projected => projected

section
variable (fields : EventFields) (newIds : Nat → UUID × UUID) (missionId : UUID)

/-- `session.list_after` of the projection repository, when the reader has one. -/
def projectionReader (projected : Bool) (db : MissionDatabase) :
    Option MissionEventProjectionReader :=
  if projected then some (SqlMissionEvents.listAfter fields newIds db.missionEvents) else none

def pageAnswer (page : MissionEventHistoryPage) : Answer ExecutionEvent :=
  ⟨page.latestSequence, page.hasMore, page.items⟩

/-- One read behind a position. -/
def readOnce (db : MissionDatabase) (position limit : Nat) :
    (reader : EventReader) → Except PyException (Answer reader.Item)
  | .increments projected =>
    (GetMissionProviderResolutionIncrement.readIncrementOnce db.missions
      (if projected then some (SqlProviderHistory.reader db.providerEvents) else none) missionId
      position limit).map fun increment =>
        ⟨increment.latestSequence, increment.hasMore, increment.items⟩
  | .eventHistory projected =>
    (GetMissionEventHistory.execute db.missions (projectionReader fields newIds projected db)
      missionId ⟨position, limit⟩).map pageAnswer
  | .waitingEventHistory projected =>
    (WaitForMissionEventHistory.readOnce db.missions (projectionReader fields newIds projected db)
      missionId ⟨position, limit⟩).map pageAnswer

/-- A read for a request that its model accepts. -/
def read (reader : EventReader) (db : MissionDatabase) (position limit : Nat) :
    Except PyException (Answer reader.Item) :=
  if 1 ≤ limit ∧ limit ≤ reader.maxLimit then readOnce fields newIds missionId db position limit reader
  else .error (validationError "limit is out of range")

/-- What the repository writes while the client polls. The recovery of the polled
mission is left out for the readers of `mission_events`. -/
def Grows (reader : EventReader) (db db' : MissionDatabase) : Prop :=
  Saves fields db db' ∨ ∃ id, RecoversClaim id db db' ∧
    (reader.readsMissionEvents = true → id ≠ missionId)

end
end EventReader

/-! The rows of `mission_events`. -/

section Rows
variable (fields : EventFields) (missionId : UUID)

/-- The row that is written for an event. -/
def eventRow (event : ExecutionEvent) : MissionEventModel :=
  ⟨missionId, event.sequence, event.eventId, event.type, event.timestamp,
    MissionEventSerializer.dump fields event event.metadata⟩

variable {fields missionId}

theorem toModels_storable {events : List ExecutionEvent}
    (storable : ∀ event ∈ events, Storable event) :
    SqlMissionEvents.toModels fields missionId events =
      .ok (events.map (eventRow fields missionId)) := by
  induction events with
  | nil => rfl
  | cons event rest ih =>
      obtain ⟨first, others⟩ := List.forall_mem_cons.mp storable
      simp only [SqlMissionEvents.toModels,
        serialize_of_storable fields first, ih others]
      rfl

theorem appendMissionEvents_ok {table table' : SqlMissionEvents.Table} {mission : Mission}
    {previous : Nat} (logged : Logged mission)
    (h : SqlMissionEvents.appendMissionEvents fields table mission previous = .ok table') :
    table' = table ++ (mission.executionLog.filter (previous < ·.sequence)).map
      (eventRow fields mission.id) := by
  have storable : ∀ event ∈ mission.executionLog.filter (previous < ·.sequence), Storable event :=
    fun event member => logged.storable event (List.mem_filter.mp member).1
  simp only [SqlMissionEvents.appendMissionEvents, SqlMissionEvents.appendMany,
    toModels_storable storable, bind, Except.bind, SqlMissionEvents.addAll] at h
  split at h
  · exact (Except.ok.inj h).symm
  · cases h

theorem readRow_eventRow {event : ExecutionEvent} (storable : Storable event) (sound : event.Sound)
    (drawn : UUID × UUID) :
    SqlMissionEvents.readRow fields drawn (eventRow fields missionId event) = .ok event :=
  readRow_ok_iff.mpr
    ⟨deserialize_dump fields drawn _ storable, sound, rfl⟩

/-- The projection of a log is read as the log. -/
theorem listAfter_rows {table : SqlMissionEvents.Table} {mission : Mission}
    (logged : Logged mission)
    (rows : SqlMissionEvents.rowsOf mission.id table =
      mission.executionLog.map (eventRow fields mission.id))
    (newIds : Nat → UUID × UUID) (position limit : Nat) :
    SqlMissionEvents.listAfter fields newIds table mission.id position limit =
      .ok ((mission.executionLog.filter (position < ·.sequence)).take limit) := by
  have later : (mission.executionLog.map (eventRow fields mission.id)).filter
        ((position : Int) < ·.sequence) =
      (mission.executionLog.filter (position < ·.sequence)).map (eventRow fields mission.id) := by
    rw [List.filter_map]
    congr 1
    apply List.filter_congr
    intro event _
    simp [eventRow]
  have sorted : ((mission.executionLog.filter (position < ·.sequence)).map
      (eventRow fields mission.id)).Pairwise fun a b => a.sequence ≤ b.sequence := by
    rw [List.pairwise_map]
    refine (logged.valid.increasing.sublist List.filter_sublist).imp ?_
    intro a b less
    exact Int.ofNat_le.mpr less.le
  have reads : List.Forall₂
      (fun row event => ∀ drawn, SqlMissionEvents.readRow fields drawn row = .ok event)
      (((mission.executionLog.filter (position < ·.sequence)).take limit).map
        (eventRow fields mission.id))
      ((mission.executionLog.filter (position < ·.sequence)).take limit) := by
    rw [List.forall₂_map_left_iff, List.forall₂_same]
    intro event member drawn
    have inside := (List.mem_filter.mp (List.mem_of_mem_take member)).1
    exact readRow_eventRow (logged.storable event inside) (logged.valid.sound event inside) drawn
  unfold SqlMissionEvents.listAfter
  rw [rows, later, sortedBy_of_pairwise _ _ sorted, ← List.map_take]
  exact readRows_ok_iff.mpr reads newIds

end Rows

/-- The events behind the sequence that was persisted, without their indexes. -/
theorem filter_added_events {log added : List ExecutionEvent} {last : Nat}
    (valid : ValidEvents 0 [] (log ++ added)) (persisted : last = lastSequence 0 log) :
    (log ++ added).filter (last < ·.sequence) = added := by
  have indexed := congrArg (List.map Prod.fst) (filter_added valid persisted)
  have moved := List.filter_map (f := Prod.fst)
    (p := fun event : ExecutionEvent => decide (last < event.sequence)) (l := (log ++ added).zipIdx)
  rw [List.zipIdx_map_fst] at indexed moved
  exact moved.trans indexed

/-! What holds while the client polls. -/

/-- The projections show the logs, `mission_events` as far as it is read. -/
structure ReadyToPoll (fields : EventFields) (missionId : UUID) (readsRows : Bool)
    (db : MissionDatabase) : Prop where
  projected : Projected db.history
  logged : ∀ mission ∈ db.missions, Logged mission
  stored : missionId ∈ db.missions.map (·.id)
  rows : readsRows = true → ∀ mission ∈ db.missions, mission.id = missionId →
    SqlMissionEvents.rowsOf missionId db.missionEvents =
      mission.executionLog.map (eventRow fields missionId)

section
variable {fields : EventFields} {missionId : UUID} {readsRows : Bool}

theorem rowsOf_append_eventRows (id : UUID) (table : SqlMissionEvents.Table)
    (events : List ExecutionEvent) :
    SqlMissionEvents.rowsOf missionId (table ++ events.map (eventRow fields id)) =
      SqlMissionEvents.rowsOf missionId table ++
        if id = missionId then events.map (eventRow fields id) else [] := by
  unfold SqlMissionEvents.rowsOf
  rw [List.filter_append]
  congr 1
  split
  · rename_i same
    apply List.filter_eq_self.mpr
    intro row member
    obtain ⟨event, -, rfl⟩ := List.mem_map.mp member
    exact decide_eq_true same
  · rename_i differs
    apply List.filter_eq_nil_iff.mpr
    intro row member
    obtain ⟨event, -, rfl⟩ := List.mem_map.mp member
    exact ne_true_of_eq_false (decide_eq_false differs)

/-- One mission is replaced by a longer version of itself. -/
theorem replace_cases {front back : List Mission} {old mission other : Mission}
    (member : other ∈ front ++ mission :: back) :
    other = mission ∨ other ∈ front ++ old :: back := by
  rcases List.mem_append.mp member with early | late
  · exact .inr (List.mem_append_left _ early)
  · rcases List.mem_cons.mp late with same | late
    · exact .inl same
    · exact .inr (List.mem_append_right _ (List.mem_cons_of_mem _ late))

/-- A mission with the id of the replaced one is the new one. -/
theorem eq_of_replaced {front back : List Mission} {mission other : Mission}
    (ids : ((front ++ mission :: back).map (·.id)).Nodup)
    (member : other ∈ front ++ mission :: back) (same : other.id = mission.id) :
    other = mission :=
  List.inj_on_of_nodup_map ids member (by simp) same

theorem ReadyToPoll.saved {db db' : MissionDatabase} (ready : ReadyToPoll fields missionId readsRows db)
    (saves : Saves fields db db') : ReadyToPoll fields missionId readsRows db' := by
  cases saves with
  | @created missions mission providerEvents providerEvents' missionEvents missionEvents' fresh logged
      events projections =>
      obtain ⟨added, read, rfl⟩ := appendProviderHistoryEvents_ok projections
      obtain rfl := appendMissionEvents_ok logged events
      have all := @filter_added [] _ 0 logged.valid rfl
      rw [List.nil_append] at all
      refine ⟨ready.projected.create fresh logged.validated (all ▸ read), ?_, ?_, ?_⟩
      · intro other member
        rcases List.mem_append.mp member with early | late
        · exact ready.logged other early
        · exact List.mem_singleton.mp late ▸ logged
      · change missionId ∈ (missions ++ [mission]).map (·.id)
        rw [List.map_append]
        exact List.mem_append_left _ ready.stored
      · intro readsRows other member same
        have differs : mission.id ≠ missionId := by
          rintro rfl
          exact fresh ready.stored
        have early : other ∈ missions := by
          rcases List.mem_append.mp member with early | late
          · exact early
          · exact absurd (List.mem_singleton.mp late ▸ same) differs
        rw [rowsOf_append_eventRows, if_neg differs, List.append_nil]
        exact ready.rows readsRows other early same
  | @updated front back old mission added providerEvents providerEvents' missionEvents missionEvents'
      same extends_ logged events projections =>
      have oldMember : old ∈ front ++ old :: back := by simp
      have persisted := (ready.logged old oldMember).last
      have valid := logged.valid
      obtain ⟨projected, read, rfl⟩ := appendProviderHistoryEvents_ok projections
      obtain rfl := appendMissionEvents_ok logged events
      rw [extends_] at valid read
      rw [filter_added valid persisted] at read
      have after := ready.projected.replace same extends_ logged.validated read
      refine ⟨after, ?_, ?_, ?_⟩
      · intro other member
        rcases replace_cases member with rfl | inside
        · exact logged
        · exact ready.logged other inside
      · have stored := ready.stored
        simpa only [List.map_append, List.map_cons, same] using stored
      · intro readsRows other member polled
        rw [rowsOf_append_eventRows]
        by_cases own : mission.id = missionId
        · obtain rfl := eq_of_replaced after.ids member (polled.trans own.symm)
          rw [if_pos own, ready.rows readsRows old oldMember (same ▸ own), extends_,
            filter_added_events valid persisted, List.map_append, own]
        · rw [if_neg own, List.append_nil]
          refine ready.rows readsRows other ?_ polled
          refine (replace_cases member).resolve_left ?_
          rintro rfl
          exact own polled

theorem ReadyToPoll.recovered {db db' : MissionDatabase} {id : UUID}
    (ready : ReadyToPoll fields missionId readsRows db) (recovers : RecoversClaim id db db')
    (other : readsRows = true → id ≠ missionId) : ReadyToPoll fields missionId readsRows db' := by
  cases recovers with
  | @recovered front back old providerEvents missionEvents _ eventId currentTime ok =>
      obtain ⟨event, -, type, -, -, recovered⟩ := MissionStateMachine.recoverStale_ok ok
      have oldMember : old ∈ front ++ old :: back := by simp
      have logged : Logged (MissionStateMachine.recoverStale old eventId currentTime).2 :=
        (ready.logged old oldMember).step (logStep_recovers ⟨eventId, rfl⟩)
      have same : (MissionStateMachine.recoverStale old eventId currentTime).2.id = old.id := by
        rw [recovered]
        rfl
      have extends_ : (MissionStateMachine.recoverStale old eventId currentTime).2.executionLog =
          old.executionLog ++ [event] := by
        rw [recovered]
        rfl
      have read : providerProjections
          (MissionStateMachine.recoverStale old eventId currentTime).2.id
          ([event].zipIdx old.executionLog.length) = .ok [] :=
        providerProjections_others fun x member => by
          rw [List.mem_singleton.mp (List.fst_mem_of_mem_zipIdx member)]
          simp [ExecutionEvent.isProviderHistory, type, ProviderHistoryEventType.ofText,
            ProviderHistoryEventType.value]
      have after := ready.projected.replace same extends_ logged.validated read
      rw [List.map_nil, List.append_nil] at after
      refine ⟨after, ?_, ?_, ?_⟩
      · intro other member
        rcases replace_cases member with rfl | inside
        · exact logged
        · exact ready.logged other inside
      · have stored := ready.stored
        simpa only [List.map_append, List.map_cons, same] using stored
      · intro reads mission member polled
        refine ready.rows reads mission ?_ polled
        refine (replace_cases member).resolve_left ?_
        rintro rfl
        exact other reads (same.symm.trans polled)

/-- The log of the polled mission. -/
def MissionDatabase.log (db : MissionDatabase) (missionId : UUID) : List ExecutionEvent :=
  ((MissionReadRepository.get db.missions missionId).map (·.executionLog)).getD []

theorem ReadyToPoll.polled {db : MissionDatabase}
    (ready : ReadyToPoll fields missionId readsRows db) :
    ∃ mission ∈ db.missions, mission.id = missionId ∧
      MissionReadRepository.get db.missions missionId = some mission ∧
      db.log missionId = mission.executionLog := by
  obtain ⟨mission, member, rfl⟩ := List.mem_map.mp ready.stored
  have found : MissionReadRepository.get db.missions mission.id = some mission :=
    get_of_mem ready.projected.ids member
  refine ⟨mission, member, rfl, found, ?_⟩
  simp only [MissionDatabase.log, found, Option.map_some, Option.getD_some]

theorem log_eq_of_mem {db : MissionDatabase} (ids : (db.missions.map (·.id)).Nodup)
    {mission : Mission} (member : mission ∈ db.missions) (id : mission.id = missionId) :
    db.log missionId = mission.executionLog := by
  subst id
  simp only [MissionDatabase.log, get_of_mem ids member, Option.map_some, Option.getD_some]

/-- The missions of the second database that are replaced have longer logs. -/
theorem log_prefix_of_replaced {front back : List Mission} {old mission : Mission}
    {providerEvents providerEvents' : SqlProviderHistory.Table}
    {missionEvents missionEvents' : SqlMissionEvents.Table} {added : List ExecutionEvent}
    (ids : ((front ++ old :: back).map (·.id)).Nodup)
    (ids' : ((front ++ mission :: back).map (·.id)).Nodup)
    (stored : missionId ∈ (front ++ old :: back).map (·.id)) (same : mission.id = old.id)
    (extends_ : mission.executionLog = old.executionLog ++ added) :
    (MissionDatabase.mk (front ++ old :: back) providerEvents missionEvents).log missionId <+:
      (MissionDatabase.mk (front ++ mission :: back) providerEvents' missionEvents').log
        missionId := by
  obtain ⟨polled, member, rfl⟩ := List.mem_map.mp stored
  rw [log_eq_of_mem ids member rfl]
  by_cases own : polled.id = old.id
  · obtain rfl := eq_of_replaced ids member own
    have inside : mission ∈ front ++ mission :: back := by simp
    rw [log_eq_of_mem ids' inside same, extends_]
    exact List.prefix_append _ _
  · have kept : polled ∈ front ++ mission :: back := by
      have cases : polled = old ∨ polled ∈ front ++ mission :: back := replace_cases member
      refine cases.resolve_left ?_
      rintro rfl
      exact own rfl
    exact ⟨[], by rw [List.append_nil, log_eq_of_mem ids' kept rfl]⟩

theorem ReadyToPoll.log_saved {db db' : MissionDatabase}
    (ready : ReadyToPoll fields missionId readsRows db) (saves : Saves fields db db') :
    db.log missionId <+: db'.log missionId := by
  have after := ready.saved saves
  cases saves with
  | @created missions mission =>
      obtain ⟨polled, member, rfl⟩ := List.mem_map.mp ready.stored
      rw [log_eq_of_mem ready.projected.ids member rfl]
      refine ⟨[], ?_⟩
      rw [List.append_nil,
        log_eq_of_mem after.projected.ids (List.mem_append_left [mission] member) rfl]
  | updated same extends_ =>
      exact log_prefix_of_replaced ready.projected.ids after.projected.ids ready.stored same extends_

theorem ReadyToPoll.log_recovered {db db' : MissionDatabase} {id : UUID}
    (ready : ReadyToPoll fields missionId readsRows db) (recovers : RecoversClaim id db db') :
    db.log missionId <+: db'.log missionId := by
  cases recovers with
  | @recovered front back old _ _ _ eventId currentTime ok =>
      obtain ⟨event, -, -, -, -, recovered⟩ := MissionStateMachine.recoverStale_ok ok
      have same : (MissionStateMachine.recoverStale old eventId currentTime).2.id = old.id := by
        rw [recovered]
        rfl
      have longer : (MissionStateMachine.recoverStale old eventId currentTime).2.executionLog =
          old.executionLog ++ [event] := by
        rw [recovered]
        rfl
      have ids := ready.projected.ids
      refine log_prefix_of_replaced ids ?_ ready.stored same longer
      simpa only [MissionDatabase.history, List.map_append, List.map_cons, same] using ids

end

/-! What the readers answer. -/

theorem readableLog_of_logged {mission : Mission} (logged : Logged mission) :
    ReadableLog mission.executionLog := by
  intro event member provider
  have kept := (logged.storable event member).payload
  unfold withSerializedPayload at kept
  unfold providerEventToHistoryItem
  obtain ⟨eventType, known⟩ := Option.isSome_iff_exists.mp provider
  simp only [known] at kept ⊢
  obtain ⟨payload, validated, -⟩ := exists_of_map_ok kept
  split
  · rename_i error raised
    cases raised.symm.trans validated
  · exact ⟨_, rfl⟩

theorem toOption_eq_some {ε α : Type} {result : Except ε α} {a : α} :
    result.toOption = some a ↔ result = .ok a := by
  cases result <;> simp [Except.toOption]

/-- The item of an event, where the reader shows it. -/
def EventReader.item : (reader : EventReader) → ExecutionEvent → Option reader.Item
  | .increments _ => fun event => (providerEventToHistoryItem event).toOption
  | .eventHistory _ | .waitingEventHistory _ => some

/-- All items of a log. -/
def EventReader.visible (reader : EventReader) (log : List ExecutionEvent) :
    List reader.Item :=
  (reader.events log).filterMap reader.item

theorem behind_eq_filter {α : Type} (key : α → Nat) (position : Nat) (xs : List α) :
    behind key position xs = xs.filter fun x => decide (position < key x) := by
  apply List.filter_congr
  intro x _
  simp

/-- The readers look one element beyond the limit. -/
theorem answer_of_fetched {α : Type} (key : α → Nat) (position limit : Nat) (xs : List α) :
    (⟨((((behind key position xs).take (limit + 1)).take limit).getLast?.map key).getD position,
        decide (limit < ((behind key position xs).take (limit + 1)).length),
        ((behind key position xs).take (limit + 1)).take limit⟩ : Answer α) =
      answer key position limit xs := by
  have visible : ((behind key position xs).take (limit + 1)).take limit =
      (behind key position xs).take limit := by
    rw [List.take_take, Nat.min_eq_left (Nat.le_succ limit)]
  have more : limit < ((behind key position xs).take (limit + 1)).length ↔
      limit < (behind key position xs).length := by
    rw [List.length_take]
    omega
  simp only [answer, visible, more]

theorem pageAnswer_eq (missionId : UUID) (position limit : Nat) (log : List ExecutionEvent) :
    EventReader.pageAnswer (pageFromEvents missionId ⟨position, limit⟩
        ((log.filter (position < ·.sequence)).take (limit + 1))) =
      answer (·.sequence) position limit log := by
  rw [← answer_of_fetched, behind_eq_filter]
  rfl

/-- An increment of sorted items passes its validator. -/
theorem validateIncrement_answer (missionId : UUID) (position limit : Nat) (positive : 0 < limit)
    {items : List ProviderResolutionHistoryItem}
    (sorted : items.Pairwise fun a b => a.sequence < b.sequence) :
    MissionProviderResolutionIncrement.validateIncrement ⟨missionId, position,
        (answer (·.sequence) position limit items).latest,
        (answer (·.sequence) position limit items).hasMore,
        (answer (·.sequence) position limit items).items⟩ =
      .ok ⟨missionId, position, (answer (·.sequence) position limit items).latest,
        (answer (·.sequence) position limit items).hasMore,
        (answer (·.sequence) position limit items).items⟩ := by
  have members : ∀ item ∈ (answer (·.sequence) position limit items).items,
      item ∈ behind (·.sequence) position items := fun item member => List.mem_of_mem_take member
  have increasing : (position :: (answer (·.sequence) position limit items).items.map
      (·.sequence)).Pairwise (· < ·) := by
    rw [List.pairwise_cons, List.pairwise_map]
    constructor
    · intro sequence listed
      obtain ⟨item, member, rfl⟩ := List.mem_map.mp listed
      exact (mem_behind.mp (members item member)).2
    · exact (sorted.sublist List.filter_sublist).sublist (List.take_sublist _ _)
  unfold MissionProviderResolutionIncrement.validateIncrement
  dsimp only
  cases final : (answer (·.sequence) position limit items).items.getLast? with
  | some last =>
      have latest : (answer (·.sequence) position limit items).latest = last.sequence := by
        change ((answer (·.sequence) position limit items).items.getLast?.map _).getD _ = _
        rw [final]
        rfl
      have after := (mem_behind.mp (members last (List.mem_of_getLast? final))).2
      rw [if_neg (by simp only [latest]; omega), if_neg (not_not.mpr increasing)]
      simp only [latest, ne_eq, not_true_eq_false, if_false]
  | none =>
      have latest : (answer (·.sequence) position limit items).latest = position := by
        change ((answer (·.sequence) position limit items).items.getLast?.map _).getD _ = _
        rw [final]
        rfl
      have none : behind (·.sequence) position items = [] :=
        (List.take_eq_nil_iff.mp (List.getLast?_eq_none_iff.mp final)).resolve_left (by omega)
      have hasMore : (answer (·.sequence) position limit items).hasMore = false := by
        simp [answer, none]
      rw [if_neg (by simp only [latest]; omega), if_neg (not_not.mpr increasing)]
      simp only [latest, hasMore, ne_eq, not_true_eq_false, if_false, Bool.false_eq_true]

theorem serveIncrement_ok (missionId : UUID) (position limit : Nat) (positive : 0 < limit)
    {items : List ProviderResolutionHistoryItem}
    (sorted : items.Pairwise fun a b => a.sequence < b.sequence) :
    (serveIncrement missionId position limit items).map
        (fun increment => (⟨increment.latestSequence, increment.hasMore, increment.items⟩ :
          Answer ProviderResolutionHistoryItem)) =
      .ok (answer (·.sequence) position limit items) := by
  have mapped : (((behind (·.sequence) position items).take (limit + 1)).take limit).mapM
      (fun item => (.ok item : Except PyException ProviderResolutionHistoryItem)) =
        .ok (((behind (·.sequence) position items).take (limit + 1)).take limit) :=
    (mapM_eq_ok (g := id) fun _ _ => rfl).trans (congrArg Except.ok (List.map_id _))
  have valid := validateIncrement_answer missionId position limit positive sorted
  rw [← answer_of_fetched (·.sequence) position limit items] at valid ⊢
  unfold serveIncrement GetMissionProviderResolutionIncrement.increment
  rw [← behind_eq_filter]
  simp only [mapped, bind, Except.bind]
  rw [valid]
  rfl

section
variable {fields : EventFields} {newIds : Nat → UUID × UUID} {missionId : UUID}

/-- The items are those of the events, one for each. -/
theorem EventReader.visible_eq (reader : EventReader) {mission : Mission}
    (logged : Logged mission) :
    ∃ g : ExecutionEvent → reader.Item,
      reader.visible mission.executionLog = (reader.events mission.executionLog).map g ∧
      ∀ event ∈ reader.events mission.executionLog,
        reader.Shows (g event) event ∧ reader.sequence (g event) = event.sequence := by
  cases reader with
  | eventHistory | waitingEventHistory =>
      refine ⟨id, ?_, fun event _ => ⟨rfl, rfl⟩⟩
      exact List.filterMap_some.trans (List.map_id _).symm
  | increments =>
      have readable := readableLog_of_logged logged
      obtain ⟨g, shown⟩ := exists_values providerEventToHistoryItem fun event member =>
        readable event (List.mem_filter.mp member).1 (List.mem_filter.mp member).2
      refine ⟨g, ?_, fun event member =>
        ⟨shown event member, (providerEventToHistoryItem_ok (shown event member)).1⟩⟩
      rw [← List.filterMap_eq_map]
      apply List.filterMap_congr
      intro event member
      simp [EventReader.item, shown event member, Except.toOption]

theorem EventReader.visible_sorted (reader : EventReader) {mission : Mission}
    (logged : Logged mission) :
    (reader.visible mission.executionLog).Pairwise fun a b =>
      reader.sequence a < reader.sequence b := by
  obtain ⟨g, visible, shown⟩ := reader.visible_eq logged
  have kept : (reader.events mission.executionLog).Sublist mission.executionLog := by
    cases reader with
    | eventHistory | waitingEventHistory => exact List.Sublist.refl _
    | increments => exact List.filter_sublist
  rw [visible, List.pairwise_map]
  refine (logged.valid.increasing.sublist kept).imp_of_mem ?_
  intro a b ha hb less
  rw [(shown a ha).2, (shown b hb).2]
  exact less

/-- What the reader answers to a request that its model accepts. -/
theorem ReadyToPoll.read_eq (reader : EventReader) {db : MissionDatabase}
    (ready : ReadyToPoll fields missionId reader.readsMissionEvents db) (position : Nat)
    {limit : Nat} (positive : 1 ≤ limit) (bounded : limit ≤ reader.maxLimit) :
    reader.read fields newIds missionId db position limit =
      .ok (answer reader.sequence position limit (reader.visible (db.log missionId))) := by
  obtain ⟨mission, member, rfl, found, log⟩ := ready.polled
  have logged := ready.logged mission member
  have sorted := reader.visible_sorted logged
  rw [log]
  unfold EventReader.read
  rw [if_pos ⟨positive, bounded⟩]
  cases reader with
  | increments projected =>
      have canonical : GetMissionProviderResolutionIncrement.readIncrementOnce db.missions none
          mission.id position limit =
          serveIncrement mission.id position limit
            ((EventReader.increments projected).visible mission.executionLog) := by
        obtain ⟨items, ordered, members, served⟩ :=
          canonical_items (readableLog_of_logged logged) logged.valid.increasing
        have same : items = (EventReader.increments projected).visible mission.executionLog := by
          refine eq_of_same_members ordered sorted fun item => ?_
          rw [members]
          simp only [EventReader.visible, EventReader.events, EventReader.item, List.mem_filterMap,
            List.mem_filter, and_assoc, toOption_eq_some]
        simp only [GetMissionProviderResolutionIncrement.readIncrementOnce, found, served, same]
      have agree : GetMissionProviderResolutionIncrement.readIncrementOnce db.missions
          (if projected then some (SqlProviderHistory.reader db.providerEvents) else none)
          mission.id position limit =
          GetMissionProviderResolutionIncrement.readIncrementOnce db.missions none mission.id
            position limit := by
        cases projected with
        | false => rfl
        | true =>
            exact increments_agree found (ready.projected.paired member).1
              logged.valid.increasing position limit
      simp only [EventReader.readOnce]
      rw [agree, canonical]
      exact serveIncrement_ok mission.id position limit positive sorted
  | eventHistory projected =>
      have items : (EventReader.eventHistory projected).visible mission.executionLog =
          mission.executionLog := List.filterMap_some
      rw [items]
      simp only [EventReader.readOnce, GetMissionEventHistory.execute, found]
      cases projected with
      | false => exact congrArg Except.ok (pageAnswer_eq mission.id position limit _)
      | true =>
          have rows := ready.rows rfl mission member rfl
          simp only [EventReader.projectionReader, if_true, listAfter_rows logged rows]
          exact congrArg Except.ok (pageAnswer_eq mission.id position limit _)
  | waitingEventHistory projected =>
      have items : (EventReader.waitingEventHistory projected).visible mission.executionLog =
          mission.executionLog := List.filterMap_some
      rw [items]
      simp only [EventReader.readOnce, WaitForMissionEventHistory.readOnce]
      cases projected with
      | false =>
          simp only [EventReader.projectionReader, found]
          exact congrArg Except.ok (pageAnswer_eq mission.id position limit _)
      | true =>
          have rows := ready.rows rfl mission member rfl
          simp only [EventReader.projectionReader, if_true, listAfter_rows logged rows]
          exact congrArg Except.ok (pageAnswer_eq mission.id position limit _)

/-- The readers serve a growing list. -/
theorem EventReader.serves (reader : EventReader) :
    Serves (reader.Grows fields missionId) (reader.read fields newIds missionId) reader.sequence
      (fun db => reader.visible (db.log missionId))
      (ReadyToPoll fields missionId reader.readsMissionEvents) where
  keeps db db' ready grows := by
    rcases grows with saves | ⟨id, recovers, other⟩
    · exact ready.saved saves
    · exact ready.recovered recovers other
  appends db db' ready grows := by
    have grown : db.log missionId <+: db'.log missionId := by
      rcases grows with saves | ⟨id, recovers, -⟩
      · exact ready.log_saved saves
      · exact ready.log_recovered recovers
    obtain ⟨added, extended⟩ := grown
    rw [← extended]
    refine List.IsPrefix.filterMap _ ?_
    cases reader with
    | eventHistory | waitingEventHistory => exact List.prefix_append _ _
    | increments =>
        simp only [EventReader.events, List.filter_append]
        exact List.prefix_append _ _
  sorted db ready := by
    obtain ⟨mission, member, -, -, log⟩ := ready.polled
    rw [log]
    exact reader.visible_sorted (ready.logged mission member)
  reads db position limit a ready positive reads := by
    have accepted : 1 ≤ limit ∧ limit ≤ reader.maxLimit := by
      by_contra refused
      unfold EventReader.read at reads
      rw [if_neg refused] at reads
      cases reads
    exact Except.ok.inj (reads.symm.trans (ready.read_eq reader position accepted.1 accepted.2))

/-- The items are those of the first events behind `start`, each once, in order. -/
def EventReader.Delivers (reader : EventReader) (log : List ExecutionEvent) (start : Nat)
    (gathered : List reader.Item) : Prop :=
  List.Forall₂ reader.Shows gathered
    (((reader.events log).filter (start < ·.sequence)).take gathered.length)

/-- The answer leads on exactly when it left out events. -/
def EventReader.LeadsOn (reader : EventReader) (log : List ExecutionEvent)
    (a : Answer reader.Item) : Prop :=
  a.hasMore = true ↔ ∃ event ∈ reader.events log, a.latest < event.sequence

theorem EventReader.delivers_of_follows (reader : EventReader) {mission : Mission}
    (logged : Logged mission) {start : Nat} {client : Client reader.Item}
    (follows : Follows reader.sequence start (reader.visible mission.executionLog) client) :
    reader.Delivers mission.executionLog start client.gathered := by
  obtain ⟨g, visible, shown⟩ := reader.visible_eq logged
  have behind : behind reader.sequence start (reader.visible mission.executionLog) =
      ((reader.events mission.executionLog).filter (start < ·.sequence)).map g := by
    rw [visible, behind_eq_filter, List.filter_map]
    congr 1
    apply List.filter_congr
    intro event member
    simp only [Function.comp_apply, (shown event member).2]
  have gathered := List.prefix_iff_eq_take.mp (behind ▸ follows.isPrefix)
  have shows : ∀ n, List.Forall₂ reader.Shows
      ((((reader.events mission.executionLog).filter (start < ·.sequence)).take n).map g)
      (((reader.events mission.executionLog).filter (start < ·.sequence)).take n) := by
    intro n
    rw [List.forall₂_map_left_iff, List.forall₂_same]
    intro event member
    exact (shown event (List.mem_filter.mp (List.mem_of_mem_take member)).1).1
  have all := shows client.gathered.length
  rw [List.map_take, ← gathered] at all
  exact all

theorem EventReader.leadsOn_answer (reader : EventReader) {mission : Mission}
    (logged : Logged mission) (position : Nat) {limit : Nat} (positive : 0 < limit) :
    reader.LeadsOn mission.executionLog
      (answer reader.sequence position limit (reader.visible mission.executionLog)) := by
  obtain ⟨g, visible, shown⟩ := reader.visible_eq logged
  unfold EventReader.LeadsOn
  rw [hasMore_iff positive (reader.visible_sorted logged)]
  constructor
  · rintro ⟨item, member, later⟩
    obtain ⟨event, inside, rfl⟩ := List.mem_map.mp (visible ▸ member)
    exact ⟨event, inside, (shown event inside).2 ▸ later⟩
  · rintro ⟨event, inside, later⟩
    refine ⟨g event, ?_, (shown event inside).2.symm ▸ later⟩
    rw [visible]
    exact List.mem_map_of_mem inside

/-- Whatever is written between the calls, the client gets every event once, in
order; every request is answered, with an answer that its validators accepted and
that leads on when it left something out. -/
theorem polling_delivers (reader : EventReader) {db : MissionDatabase} {start : Nat}
    {after : MissionDatabase × Client reader.Item}
    (ready : ReadyToPoll fields missionId reader.readsMissionEvents db)
    (run : ReflTransGen (Step (reader.Grows fields missionId) (reader.read fields newIds missionId))
      (db, ⟨start, []⟩) after) :
    reader.Delivers (after.1.log missionId) start after.2.gathered ∧
      ∀ limit, 1 ≤ limit → limit ≤ reader.maxLimit →
        ∃ a, reader.read fields newIds missionId after.1 after.2.position limit = .ok a ∧
          reader.LeadsOn (after.1.log missionId) a ∧
          reader.Delivers (after.1.log missionId) start (after.2.take a).gathered := by
  have serves : Serves (reader.Grows fields missionId) (reader.read fields newIds missionId)
      reader.sequence (fun db => reader.visible (db.log missionId))
      (ReadyToPoll fields missionId reader.readsMissionEvents) := reader.serves
  obtain ⟨ready, follows⟩ := serves.run run ready (.initial start _)
  obtain ⟨mission, member, -, -, log⟩ := ready.polled
  have logged := ready.logged mission member
  rw [log] at follows ⊢
  refine ⟨reader.delivers_of_follows logged follows, fun limit positive bounded => ?_⟩
  refine ⟨_, ready.read_eq reader _ positive bounded, ?_⟩
  rw [log]
  exact ⟨reader.leadsOn_answer logged _ positive,
    reader.delivers_of_follows logged (follows.answered positive (reader.visible_sorted logged))⟩

end

/-! A recovery between two saves. -/

namespace StaleClaim

def claimed : Mission := { Sample.mission with status := .processing, claimedAt := some 0 }

def recovered : Mission := (MissionStateMachine.recoverStale claimed ⟨11⟩ 1).2

def paused : ExecutionEvent := recovered.nextEvent ⟨12⟩ 2 "mission_paused" "Mission paused." []

def database : MissionDatabase := ⟨[claimed], [], []⟩

def databaseRecovered : MissionDatabase := ⟨[recovered], [], []⟩

/-- The ids that would be drawn for rows without any. -/
def drawn (_ : Nat) : UUID × UUID := (⟨1⟩, ⟨1⟩)

def databasePaused : MissionDatabase :=
  ⟨[recovered.append paused], [], [eventRow legacyEventFields ⟨7⟩ paused]⟩

theorem claimed_logged : Logged claimed := by
  refine ⟨.nil _ _, rfl, ?_⟩
  intro event member
  cases member

theorem database_ready (readsRows : Bool) :
    ReadyToPoll legacyEventFields ⟨7⟩ readsRows database := by
  have logged : ∀ mission ∈ database.missions, Logged mission := by
    intro mission member
    rw [List.mem_singleton.mp member]
    exact claimed_logged
  refine ⟨⟨by decide, fun mission member => (logged mission member).validated, ?_, ?_, ?_⟩, logged,
    by decide, ?_⟩
  · intro mission member
    rw [List.mem_singleton.mp member]
    rfl
  · intro mission member
    rw [List.mem_singleton.mp member]
    rfl
  · intro row member
    cases member
  · intro _ mission member _
    rw [List.mem_singleton.mp member]
    rfl

theorem recovered_logged : Logged recovered :=
  claimed_logged.step (logStep_recovers ⟨⟨11⟩, rfl⟩)

theorem paused_logged : Logged (recovered.append paused) := by
  refine recovered_logged.step (.recorded ⟨12⟩ 2 "mission_paused" "Mission paused." [] ?_ ?_ rfl rfl)
  · exact (recordable_generic (by decide)).mpr JsonMetadata.nil
  · refine ⟨by decide, ?_⟩
    decide +kernel

theorem database_recovers : RecoversClaim ⟨7⟩ database databaseRecovered :=
  @RecoversClaim.recovered [] [] claimed [] [] rfl ⟨11⟩ 1 (by decide +kernel)

theorem database_saves : Saves legacyEventFields databaseRecovered databasePaused := by
  refine @Saves.updated _ [] [] recovered (recovered.append paused) [paused] [] [] [] _ rfl rfl
    paused_logged ?_ rfl
  have storable : ∀ event ∈ [paused], Storable event := by
    intro event member
    rw [List.mem_singleton.mp member]
    exact paused_logged.storable paused (by simp)
  change SqlMissionEvents.appendMany legacyEventFields [] ⟨7⟩ [paused] = _
  simp only [SqlMissionEvents.appendMany, toModels_storable storable, bind, Except.bind,
    SqlMissionEvents.addAll]
  exact if_pos ⟨List.nodup_singleton _, List.nodup_singleton _⟩

end StaleClaim

/-- A poller of `mission_events` is not shown the recovery, and goes on behind it. -/
theorem recovered_claim_lost :
    ReadyToPoll legacyEventFields ⟨7⟩ true StaleClaim.database ∧
    ReflTransGen
      (Step (fun db db' => Saves legacyEventFields db db' ∨ ∃ id, RecoversClaim id db db')
        ((EventReader.eventHistory true).read legacyEventFields StaleClaim.drawn ⟨7⟩))
      (StaleClaim.database, ⟨0, []⟩) (StaleClaim.databasePaused, ⟨2, [StaleClaim.paused]⟩) ∧
    ¬ (EventReader.eventHistory true).Delivers (StaleClaim.databasePaused.log ⟨7⟩) 0
      [StaleClaim.paused] := by
  refine ⟨StaleClaim.database_ready true, ?_, ?_⟩
  · refine .tail (.tail (.single (.grew (.inr ⟨_, StaleClaim.database_recovers⟩)))
      (.grew (.inl StaleClaim.database_saves))) ?_
    have row := @readRow_eventRow legacyEventFields ⟨7⟩ _
      (StaleClaim.paused_logged.storable StaleClaim.paused (by simp))
      (StaleClaim.paused_logged.valid.sound StaleClaim.paused (by simp)) (StaleClaim.drawn 0)
    have listed : SqlMissionEvents.listAfter legacyEventFields StaleClaim.drawn
        StaleClaim.databasePaused.missionEvents ⟨7⟩ 0 11 = .ok [StaleClaim.paused] := by
      change SqlMissionEvents.readRows legacyEventFields StaleClaim.drawn 0
        [eventRow legacyEventFields ⟨7⟩ StaleClaim.paused] = _
      simp only [SqlMissionEvents.readRows, row]
      rfl
    have read : (EventReader.eventHistory true).read legacyEventFields StaleClaim.drawn ⟨7⟩
        StaleClaim.databasePaused 0 10 = .ok ⟨2, false, [StaleClaim.paused]⟩ := by
      change ((SqlMissionEvents.listAfter legacyEventFields StaleClaim.drawn
        StaleClaim.databasePaused.missionEvents ⟨7⟩ 0 11).map (pageFromEvents ⟨7⟩ ⟨0, 10⟩)).map
          EventReader.pageAnswer = _
      rw [listed]
      rfl
    exact @Step.called _ _ _ _ _ StaleClaim.databasePaused _ ⟨0, []⟩ 10 _ (by decide)
      (.returned read)
  · intro delivers
    change List.Forall₂ Eq [StaleClaim.paused]
      [StaleClaim.recovered.executionLog.getD 0 StaleClaim.paused] at delivers
    cases delivers with
    | cons same _ =>
        have sequences := congrArg ExecutionEvent.sequence same
        revert sequences
        decide +kernel

/-! A claimed mission that gets two events while its client waits for them. -/

namespace WatchedClaim
open StaleClaim

def started : ExecutionEvent := claimed.nextEvent ⟨21⟩ 1 "mission_started" "Mission started." []

def startedMission : Mission := claimed.append started

def searching : ExecutionEvent :=
  startedMission.nextEvent ⟨22⟩ 2 "search_started" "Search started." []

def searchingMission : Mission := startedMission.append searching

def databaseStarted : MissionDatabase :=
  ⟨[startedMission], [], [eventRow legacyEventFields ⟨7⟩ started]⟩

def databaseSearching : MissionDatabase :=
  ⟨[searchingMission], [],
    [eventRow legacyEventFields ⟨7⟩ started, eventRow legacyEventFields ⟨7⟩ searching]⟩

theorem started_logged : Logged startedMission := by
  refine claimed_logged.step
    (.recorded ⟨21⟩ 1 "mission_started" "Mission started." [] ?_ ?_ rfl rfl)
  · exact (recordable_generic (by decide)).mpr JsonMetadata.nil
  · exact ⟨by decide, by decide +kernel⟩

theorem searching_logged : Logged searchingMission := by
  refine started_logged.step
    (.recorded ⟨22⟩ 2 "search_started" "Search started." [] ?_ ?_ rfl rfl)
  · exact (recordable_generic (by decide)).mpr JsonMetadata.nil
  · exact ⟨by decide, by decide +kernel⟩

theorem saves_started : Saves legacyEventFields database databaseStarted := by
  refine @Saves.updated _ [] [] claimed startedMission [started] [] [] [] _ rfl rfl
    started_logged ?_ rfl
  have storable : ∀ event ∈ [started], Storable event :=
    List.forall_mem_singleton.mpr (started_logged.storable started (by simp [startedMission]))
  change SqlMissionEvents.appendMany legacyEventFields [] ⟨7⟩ [started] = _
  simp only [SqlMissionEvents.appendMany, toModels_storable storable, bind, Except.bind,
    SqlMissionEvents.addAll]
  exact if_pos ⟨List.nodup_singleton _, List.nodup_singleton _⟩

theorem saves_searching : Saves legacyEventFields databaseStarted databaseSearching := by
  refine @Saves.updated _ [] [] startedMission searchingMission [searching] [] []
    [eventRow legacyEventFields ⟨7⟩ started] _ rfl rfl searching_logged ?_ rfl
  have storable : ∀ event ∈ [searching], Storable event :=
    List.forall_mem_singleton.mpr (searching_logged.storable searching (by simp [searchingMission]))
  change SqlMissionEvents.appendMany legacyEventFields _ ⟨7⟩ [searching] = _
  simp only [SqlMissionEvents.appendMany, toModels_storable storable, bind, Except.bind,
    SqlMissionEvents.addAll]
  exact if_pos ⟨by decide +kernel, by decide +kernel⟩

/-- The client reads a page, waits with nothing to read, and is woken by the next event. -/
theorem polled :
    ReflTransGen
      (Step ((EventReader.waitingEventHistory true).Grows legacyEventFields ⟨7⟩)
        ((EventReader.waitingEventHistory true).read legacyEventFields drawn ⟨7⟩))
      (database, ⟨0, []⟩) (databaseSearching, ⟨2, [started, searching]⟩) := by
  have readyStarted := (database_ready true).saved saves_started
  have readySearching := readyStarted.saved saves_searching
  refine .tail (.tail (.single (.grew (.inl saves_started)))
    (@Step.called _ _ _ _ _ databaseStarted _ ⟨0, []⟩ 1 ⟨1, false, [started]⟩ (by decide) ?_))
    (@Step.called _ _ _ _ _ databaseStarted _ ⟨1, [started]⟩ 10 ⟨2, false, [searching]⟩
      (by decide) (.waited (a := ⟨1, false, []⟩) ?_ rfl (.single (.inl saves_searching))
        (.returned ?_)))
  · exact .returned (readyStarted.read_eq (.waitingEventHistory true) 0 (by decide) (by decide))
  · exact readyStarted.read_eq (.waitingEventHistory true) 1 (by decide) (by decide)
  · exact readySearching.read_eq (.waitingEventHistory true) 1 (by decide) (by decide)

end WatchedClaim

theorem polling_delivers_watched :
    (EventReader.waitingEventHistory true).Delivers (WatchedClaim.databaseSearching.log ⟨7⟩) 0
        [WatchedClaim.started, WatchedClaim.searching] ∧
      ∀ limit, 1 ≤ limit → limit ≤ (EventReader.waitingEventHistory true).maxLimit →
        ∃ a, (EventReader.waitingEventHistory true).read legacyEventFields StaleClaim.drawn ⟨7⟩
            WatchedClaim.databaseSearching 2 limit = .ok a ∧
          (EventReader.waitingEventHistory true).LeadsOn
            (WatchedClaim.databaseSearching.log ⟨7⟩) a ∧
          (EventReader.waitingEventHistory true).Delivers
            (WatchedClaim.databaseSearching.log ⟨7⟩) 0
            ((⟨2, [WatchedClaim.started, WatchedClaim.searching]⟩ :
              Client ExecutionEvent).take a).gathered :=
  @polling_delivers legacyEventFields StaleClaim.drawn ⟨7⟩ (EventReader.waitingEventHistory true)
    StaleClaim.database 0
    (WatchedClaim.databaseSearching, ⟨2, [WatchedClaim.started, WatchedClaim.searching]⟩)
    (StaleClaim.database_ready true) WatchedClaim.polled

end PurchaseAgent
