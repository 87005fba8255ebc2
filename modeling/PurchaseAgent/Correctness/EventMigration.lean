import PurchaseAgent.Correctness.EventBackfill

/-!
What the projection of mission events shows after the migration: the canonical
logs, exactly when every event fills the columns of its row and carries the ids
that a reader without the event before it cannot derive.
-/

namespace PurchaseAgent
open Collections MissionEventSerializer SqlMissionEvents

section
variable {fields : EventFields}

/-- Each event of a log can be read without the one before it. -/
def AllReadAlone (fields : EventFields) :
    Option ExecutionEvent → List RawEvent → List ExecutionEvent → Prop
  | previous, raw :: raws, event :: events =>
    ReadsAlone fields previous raw ∧ AllReadAlone fields (some event) raws events
  | _, _, _ => True

/-- The context in which the reader of the projection reads an event. -/
def aloneContext (missionId : UUID) : MissionEventDeserializationContext :=
  ⟨some missionId, some 0, none, none⟩

theorem all_alone_iff {newIds : Nat → UUID × UUID} {missionId : UUID} {index : Nat}
    {previous : Option ExecutionEvent} {raws : List RawEvent} {events : List ExecutionEvent}
    (identified : ∀ raw ∈ raws, (raw.get? "event_id").isSome)
    (h : MissionJsonEventStore.restore fields newIds (some missionId) index previous raws =
      .ok events) :
    List.Forall₂ (fun raw event => ∀ newIds', MissionEventSerializer.deserialize fields newIds' raw
      (aloneContext missionId) = .ok event) raws events ↔
        AllReadAlone fields previous raws events := by
  induction raws generalizing index previous events with
  | nil =>
      obtain rfl := Except.ok.inj h
      exact ⟨fun _ => trivial, fun _ => .nil⟩
  | cons raw rest ih =>
      obtain ⟨here, later⟩ := List.forall_mem_cons.mp identified
      simp only [MissionJsonEventStore.restore] at h
      split at h
      · cases h
      rename_i event read
      obtain ⟨others, restored, rfl⟩ := exists_of_map_ok h
      rw [List.forall₂_cons, ih later restored]
      exact and_congr (reads_alone_iff here read) Iff.rfl

/-- The sequence that the validated event takes from its own key. -/
theorem deserialize_sequence {newIds : UUID × UUID} {raw : RawEvent}
    {context : MissionEventDeserializationContext} {event : ExecutionEvent}
    (h : MissionEventSerializer.deserialize fields newIds raw context = .ok event) :
    (requiredField raw "sequence" >>= fields.parseInt) = .ok (event.sequence : Int) := by
  obtain ⟨currentRaw, validated, lifted, parsed, -, serialized⟩ := deserialize_ok fields h
  obtain ⟨-, -, -, ⟨sequence, read, taken⟩, -⟩ := validateEvent_ok fields parsed
  have same : requiredField currentRaw "sequence" = requiredField raw "sequence" := by
    have key : List.lookup "sequence" currentRaw = List.lookup "sequence" raw :=
      upcastToCurrent_get? fields lifted (by decide)
    simp only [requiredField, key]
  rw [← same, read, (withSerializedPayload_ids serialized).2.2]
  have positive := validated.sequence_pos
  rw [taken] at positive ⊢
  congr 1
  omega

theorem restore_forall₂ {newIds : Nat → UUID × UUID} {missionId : Option UUID} {index : Nat}
    {previous : Option ExecutionEvent} {raws : List RawEvent} {events : List ExecutionEvent}
    (h : MissionJsonEventStore.restore fields newIds missionId index previous raws = .ok events) :
    List.Forall₂ (fun raw event => (requiredField raw "sequence" >>= fields.parseInt) =
      .ok (event.sequence : Int)) raws events := by
  induction raws generalizing index previous events with
  | nil =>
      obtain rfl := Except.ok.inj h
      exact .nil
  | cons raw rest ih =>
      simp only [MissionJsonEventStore.restore] at h
      split at h
      · cases h
      rename_i event read
      obtain ⟨others, restored, rfl⟩ := exists_of_map_ok h
      exact .cons (deserialize_sequence read) (ih restored)

theorem readRow_ok_iff {newIds : UUID × UUID} {row : MissionEventModel} {event : ExecutionEvent} :
    readRow fields newIds row = .ok event ↔
      MissionEventSerializer.deserialize fields newIds row.event (aloneContext row.missionId) =
        .ok event ∧ event.Sound ∧ row.sequence.toNat = event.sequence := by
  have single : ∀ e : ExecutionEvent, validateEventSequence [e] row.sequence.toNat = .ok () ↔
      e.Sound ∧ row.sequence.toNat = e.sequence := fun e => by
    rw [validateEventSequence_ok_iff, validEvents_cons]
    have pos := e.sequence_pos
    constructor
    · intro h
      exact ⟨h.1.2.2.1, h.2⟩
    · intro h
      exact ⟨⟨pos, List.not_mem_nil, h.1, .nil _ _⟩, h.2⟩
  have context : (⟨some row.missionId, some 0, none, none⟩ : MissionEventDeserializationContext) =
      aloneContext row.missionId := rfl
  simp only [readRow, MissionJsonEventStore.deserialize, MissionJsonEventStore.restore,
    Option.map_none, context]
  cases read : MissionEventSerializer.deserialize fields newIds row.event
      (aloneContext row.missionId) with
  | error error => simp
  | ok e =>
      simp only [Except.map, Except.ok.injEq]
      cases valid : validateEventSequence [e] row.sequence.toNat with
      | error error =>
          simp only [reduceCtorEq, false_iff]
          rintro ⟨rfl, fits⟩
          rw [(single e).mpr fits] at valid
          cases valid
      | ok u =>
          have fits := (single e).mp valid
          simp only [Except.ok.injEq]
          constructor
          · rintro rfl
            exact ⟨rfl, fits⟩
          · exact fun h => h.1

/-- Rows that are read as the same events whatever ids are drawn. -/
theorem readRows_ok_iff {rows : Table} {index : Nat} {events : List ExecutionEvent} :
    (∀ newIds, readRows fields newIds index rows = .ok events) ↔
      List.Forall₂ (fun row event => ∀ drawn, readRow fields drawn row = .ok event) rows events := by
  induction rows generalizing index events with
  | nil =>
      constructor
      · intro h
        obtain rfl := Except.ok.inj (h fun _ => (.nil, .nil))
        exact .nil
      · intro h newIds
        cases h
        rfl
  | cons row rest ih =>
      constructor
      · intro h
        have step : ∀ newIds, ∃ event others, readRow fields (newIds index) row = .ok event ∧
            readRows fields newIds (index + 1) rest = .ok others ∧ events = event :: others := by
          intro newIds
          have read := h newIds
          simp only [readRows] at read
          split at read
          · cases read
          rename_i event first
          obtain ⟨others, later, same⟩ := exists_of_map_ok read
          exact ⟨event, others, first, later, same⟩
        obtain ⟨event, others, -, -, rfl⟩ := step fun _ => (.nil, .nil)
        have later : ∀ newIds, readRows fields newIds (index + 1) rest = .ok others := by
          intro newIds
          obtain ⟨_, _, -, later, same⟩ := step newIds
          rw [later, (List.cons.inj same).2]
        refine .cons (fun drawn => ?_) (ih.mp later)
        obtain ⟨_, _, first, -, same⟩ := step fun _ => drawn
        rw [first, (List.cons.inj same).1]
      · intro h newIds
        cases h with
        | cons first others =>
            simp only [readRows, first (newIds index), ih.mpr others newIds]
            rfl

/-- An event whose row can be inserted, under the sequence that the reader of the
canonical log takes from it. -/
structure FillsRow (fields : EventFields) (casts : ColumnCasts) (raw : RawEvent) : Prop where
  sequence : ∃ n, column casts.integer raw "sequence" = .ok n ∧
    (requiredField raw "sequence" >>= fields.parseInt) = .ok n
  eventId : ∃ id, column casts.uuid raw "event_id" = .ok id
  eventType : ∃ text, column casts.text raw "type" = .ok text
  occurredAt : ∃ time, column casts.timestamp raw "timestamp" = .ok time

/-- The logs that the migration carries over. -/
structure Migratable (fields : EventFields) (casts : ColumnCasts) (missions : List MissionRow)
    (log : UUID → List ExecutionEvent) : Prop where
  rows : ∀ mission ∈ missions, ∀ raw ∈ mission.executionLog, FillsRow fields casts raw
  ids : (missions.flatMap fun mission => mission.executionLog.map fun raw =>
    column casts.uuid raw "event_id").Nodup
  alone : ∀ mission ∈ missions,
    AllReadAlone fields none mission.executionLog (log mission.id)
  size : ∀ mission ∈ missions, mission.executionLog.length ≤ 2147483647

theorem backfillRow_ok {casts : ColumnCasts} {missionId : UUID} {raw : RawEvent}
    {row : MissionEventModel} (h : backfillRow casts missionId raw = .ok row) :
    row.missionId = missionId ∧ row.event = raw ∧
      column casts.integer raw "sequence" = .ok row.sequence ∧
      column casts.uuid raw "event_id" = .ok row.eventId ∧
      (∃ text, column casts.text raw "type" = .ok text) ∧
      ∃ time, column casts.timestamp raw "timestamp" = .ok time := by
  obtain ⟨sequence, readSequence, h⟩ := bind_eq_ok h
  obtain ⟨eventId, readEventId, h⟩ := bind_eq_ok h
  obtain ⟨eventType, readEventType, h⟩ := bind_eq_ok h
  obtain ⟨occurredAt, readOccurredAt, h⟩ := bind_eq_ok h
  obtain rfl := Except.ok.inj h
  exact ⟨rfl, rfl, readSequence, readEventId, ⟨_, readEventType⟩, ⟨_, readOccurredAt⟩⟩

theorem backfillRow_of_fills {casts : ColumnCasts} {raw : RawEvent}
    (fills : FillsRow fields casts raw) (missionId : UUID) :
    ∃ row, backfillRow casts missionId raw = .ok row := by
  obtain ⟨⟨sequence, readSequence, -⟩, ⟨eventId, readEventId⟩, ⟨eventType, readEventType⟩,
    ⟨occurredAt, readOccurredAt⟩⟩ := fills
  simp only [backfillRow, readSequence, readEventId, readEventType, readOccurredAt, bind,
    Except.bind]
  exact ⟨_, rfl⟩

theorem identified_of_column {casts : ColumnCasts} {raw : RawEvent} {id : UUID}
    (h : column casts.uuid raw "event_id" = .ok id) : (raw.get? "event_id").isSome := by
  unfold column at h
  split at h
  · cases h
  · cases h
  · rename_i found
    rw [found]
    rfl

/-- The events of all logs, as the migration selects them. -/
def selectedEvents (missions : List MissionRow) : List (UUID × RawEvent) :=
  missions.flatMap fun mission => mission.executionLog.map fun raw => (mission.id, raw)

theorem selectedEvents_of {missions : List MissionRow} (ids : (missions.map (·.id)).Nodup)
    {mission : MissionRow} (member : mission ∈ missions) :
    (selectedEvents missions).filter (·.1 = mission.id) =
      mission.executionLog.map fun raw => (mission.id, raw) := by
  have own : ∀ other : MissionRow, (other.executionLog.map fun raw => (other.id, raw)).filter
      (fun selected => decide (selected.1 = mission.id)) =
        if other.id = mission.id then other.executionLog.map fun raw => (other.id, raw)
        else [] := fun other => by
    split
    · rename_i same
      exact List.filter_eq_self.mpr (by simp [same])
    · rename_i differs
      exact List.filter_eq_nil_iff.mpr (by simp [differs])
  induction missions with
  | nil => cases member
  | cons first rest ih =>
      simp only [List.map_cons, List.nodup_cons] at ids
      obtain ⟨fresh, ids⟩ := ids
      simp only [selectedEvents, List.flatMap_cons, List.filter_append, own]
      rcases List.mem_cons.mp member with rfl | later
      · have none : (rest.flatMap fun other => other.executionLog.map fun raw =>
            (other.id, raw)).filter (fun selected => decide (selected.1 = mission.id)) = [] := by
          refine List.filter_eq_nil_iff.mpr fun selected listed => ?_
          obtain ⟨other, inside, made⟩ := List.mem_flatMap.mp listed
          obtain ⟨raw, -, rfl⟩ := List.mem_map.mp made
          simp only [decide_eq_true_eq]
          exact fun same => fresh (same ▸ List.mem_map_of_mem inside)
        rw [none, if_pos rfl, List.append_nil]
      · have differs : first.id ≠ mission.id := fun same =>
          fresh (same ▸ List.mem_map_of_mem later)
        rw [if_neg differs, List.nil_append]
        exact ih ids later

/-- The table after the migration, row by row. -/
theorem backfill_ok_iff {casts : ColumnCasts} {missions : List MissionRow} {table : Table} :
    backfill casts missions = .ok table ↔ Unique table ∧
      ∃ row : UUID × RawEvent → MissionEventModel,
        (∀ selected ∈ selectedEvents missions,
          backfillRow casts selected.1 selected.2 = .ok (row selected)) ∧
        table = (selectedEvents missions).map row := by
  have inserted : ∀ rows, addAll [] rows = .ok table ↔ Unique table ∧ table = rows := by
    intro rows
    unfold addAll
    simp only [List.nil_append]
    split
    · rename_i unique
      simp only [Except.ok.injEq]
      constructor
      · rintro rfl
        exact ⟨unique, rfl⟩
      · exact fun h => h.2.symm
    · rename_i clash
      simp only [reduceCtorEq, false_iff]
      rintro ⟨unique, rfl⟩
      exact clash unique
  constructor
  · intro h
    obtain ⟨rows, selected, h⟩ := bind_eq_ok h
    obtain ⟨unique, rfl⟩ := (inserted rows).mp h
    have : Nonempty MissionEventModel := ⟨⟨.nil, 0, .nil, "", 0, []⟩⟩
    have made := forall₂_of_mapM selected
    obtain ⟨row, built⟩ := exists_values _ fun x member =>
      (exists_of_forall₂ made x member).imp fun _ h => h.2
    refine ⟨unique, row, built, ?_⟩
    have again := mapM_eq_ok built
    exact (Except.ok.inj (again.symm.trans selected)).symm
  · rintro ⟨unique, row, built, same⟩
    have made := mapM_eq_ok built
    change ((selectedEvents missions).mapM fun selected =>
      backfillRow casts selected.1 selected.2) >>= addAll [] = _
    rw [made]
    exact (inserted _).mpr ⟨unique, same⟩

/-- The rows of one mission, and what reading all of them gives. -/
theorem listAll_ok {newIds : Nat → UUID × UUID} {table rows : Table} {missionId : UUID}
    (own : rowsOf missionId table = rows) (positive : ∀ row ∈ rows, 0 < row.sequence)
    (sorted : rows.Pairwise fun a b => a.sequence ≤ b.sequence) (size : rows.length ≤ 2147483647) :
    listAll fields newIds table missionId = readRows fields newIds 0 rows := by
  have kept : rows.filter (((0 : Nat) : Int) < ·.sequence) = rows :=
    List.filter_eq_self.mpr fun row member => by simpa using positive row member
  simp only [listAll, listAfter, own, kept, sortedBy_of_pairwise _ _ sorted,
    List.take_of_length_le size]

theorem readRows_length {newIds : Nat → UUID × UUID} {index : Nat} {rows : Table}
    {events : List ExecutionEvent} (h : readRows fields newIds index rows = .ok events) :
    events.length = rows.length := by
  induction rows generalizing index events with
  | nil =>
      obtain rfl := Except.ok.inj h
      rfl
  | cons row rest ih =>
      simp only [readRows] at h
      split at h
      · cases h
      · obtain ⟨others, later, rfl⟩ := exists_of_map_ok h
        exact congrArg (· + 1) (ih later)

/-- A listing that shows as many events as there are rows shows all of them. -/
theorem rows_of_listAll {newIds : Nat → UUID × UUID} {table rows : Table} {missionId : UUID}
    {events : List ExecutionEvent} (own : rowsOf missionId table = rows)
    (all : events.length = rows.length) (h : listAll fields newIds table missionId = .ok events) :
    (∀ row ∈ rows, 0 < row.sequence) ∧ rows.length ≤ 2147483647 ∧
      ∀ newIds', listAll fields newIds' table missionId =
        readRows fields newIds' 0 (sortedBy (·.sequence) rows) := by
  have lengths := readRows_length h
  rw [own, List.length_take, (sortedBy_perm _ _).length_eq, all] at lengths
  have shorter := List.length_filter_le (fun row => decide (((0 : Nat) : Int) < row.sequence)) rows
  have size : rows.length ≤ 2147483647 := lengths.le.trans (min_le_left _ _)
  have full : (rows.filter (((0 : Nat) : Int) < ·.sequence)).length = rows.length := by omega
  have kept : rows.filter (((0 : Nat) : Int) < ·.sequence) = rows :=
    List.filter_sublist.eq_of_length full
  refine ⟨fun row member => ?_, size, fun newIds' => ?_⟩
  · rw [← kept] at member
    simpa using (List.mem_filter.mp member).2
  · have length : (sortedBy (·.sequence) rows).length ≤ 2147483647 := by
      rwa [(sortedBy_perm _ _).length_eq]
    simp only [listAll, listAfter, own, kept, List.take_of_length_le length]

/-- The migration succeeds and its projection shows the canonical logs. -/
def Preserves (fields : EventFields) (casts : ColumnCasts) (missions : List MissionRow)
    (log : UUID → List ExecutionEvent) : Prop :=
  ∃ table, backfill casts missions = .ok table ∧
    ∀ mission ∈ missions, ∀ newIds, listAll fields newIds table mission.id = .ok (log mission.id)

section
variable {casts : ColumnCasts} {missions : List MissionRow} {log : UUID → List ExecutionEvent}
  {newIds : UUID → Nat → UUID × UUID}

/-- The rows of one mission, in the order of its log. -/
theorem rowsOf_selected {row : UUID × RawEvent → MissionEventModel}
    (ids : (missions.map (·.id)).Nodup)
    (built : ∀ selected ∈ selectedEvents missions,
      backfillRow casts selected.1 selected.2 = .ok (row selected))
    {mission : MissionRow} (member : mission ∈ missions) :
    rowsOf mission.id ((selectedEvents missions).map row) =
      mission.executionLog.map fun raw => row (mission.id, raw) := by
  have owners : (selectedEvents missions).filter (fun selected =>
      decide ((row selected).missionId = mission.id)) =
        (selectedEvents missions).filter (·.1 = mission.id) :=
    List.filter_congr fun selected listed => by rw [(backfillRow_ok (built selected listed)).1]
  rw [rowsOf, List.filter_map]
  change List.map row ((selectedEvents missions).filter (fun selected =>
    decide ((row selected).missionId = mission.id))) = _
  rw [owners, selectedEvents_of ids member, List.map_map]
  rfl

theorem mem_selectedEvents {mission : MissionRow} (member : mission ∈ missions) {raw : RawEvent}
    (inside : raw ∈ mission.executionLog) : (mission.id, raw) ∈ selectedEvents missions :=
  List.mem_flatMap.mpr ⟨mission, member, List.mem_map_of_mem inside⟩

/-- The rows of a mission carry the sequences of its log. -/
theorem sequences_of_fills {row : RawEvent → MissionEventModel} {raws : List RawEvent}
    {events : List ExecutionEvent}
    (read : List.Forall₂ (fun raw event => (requiredField raw "sequence" >>= fields.parseInt) =
      .ok (event.sequence : Int)) raws events)
    (same : ∀ raw ∈ raws, (requiredField raw "sequence" >>= fields.parseInt) =
      .ok (row raw).sequence) :
    List.Forall₂ (fun raw event => (row raw).sequence = (event.sequence : Int)) raws events := by
  induction read with
  | nil => exact .nil
  | cons first _ ih =>
      obtain ⟨here, later⟩ := List.forall_mem_cons.mp same
      exact .cons (Except.ok.inj (here.symm.trans first)) (ih later)

theorem rows_sorted {row : RawEvent → MissionEventModel} {raws : List RawEvent}
    {events : List ExecutionEvent}
    (sequences : List.Forall₂ (fun raw event => (row raw).sequence = (event.sequence : Int))
      raws events) (increasing : events.Pairwise (·.sequence < ·.sequence)) :
    (raws.map row).Pairwise fun a b => a.sequence < b.sequence := by
  induction sequences with
  | nil => exact .nil
  | cons first others ih =>
      obtain ⟨above, increasing⟩ := List.pairwise_cons.mp increasing
      refine List.pairwise_cons.mpr ⟨fun other member => ?_, ih increasing⟩
      obtain ⟨raw, listed, rfl⟩ := List.mem_map.mp member
      obtain ⟨event, inside, same⟩ := exists_of_forall₂ others raw listed
      rw [first, same]
      exact_mod_cast above event inside

/-- The canonical logs of a database, with the ids that are drawn for them. -/
def Canonical (fields : EventFields) (newIds : UUID → Nat → UUID × UUID)
    (missions : List MissionRow) (log : UUID → List ExecutionEvent) : Prop :=
  ∀ mission ∈ missions, MissionJsonEventStore.deserialize fields (newIds mission.id)
    mission.executionLog mission.lastEventSequence (some mission.id) = .ok (log mission.id)

theorem unique_keys {row : UUID × RawEvent → MissionEventModel} (ids : (missions.map (·.id)).Nodup)
    (own : ∀ selected ∈ selectedEvents missions, (row selected).missionId = selected.1)
    (sorted : ∀ mission ∈ missions, (mission.executionLog.map fun raw =>
      row (mission.id, raw)).Pairwise fun a b => a.sequence < b.sequence) :
    (((selectedEvents missions).map row).map fun row => (row.missionId, row.sequence)).Nodup := by
  have keys : ((selectedEvents missions).map row).map (fun row => (row.missionId, row.sequence)) =
      missions.flatMap fun mission => mission.executionLog.map fun raw =>
        (mission.id, (row (mission.id, raw)).sequence) := by
    have owned : (selectedEvents missions).map ((fun row => (row.missionId, row.sequence)) ∘ row) =
        (selectedEvents missions).map fun selected => (selected.1, (row selected).sequence) :=
      List.map_congr_left fun selected listed => by
        simp only [Function.comp_apply, own selected listed]
    rw [List.map_map, owned]
    simp only [selectedEvents, List.map_flatMap, List.map_map]
    rfl
  rw [keys, List.nodup_flatMap]
  constructor
  · intro mission member
    have strict := sorted mission member
    rw [List.pairwise_map] at strict
    rw [List.Nodup, List.pairwise_map]
    exact strict.imp fun less same => less.ne (Prod.mk.inj same).2
  · rw [List.Nodup, List.pairwise_map] at ids
    refine ids.imp fun differs => ?_
    intro key here there
    obtain ⟨_, -, rfl⟩ := List.mem_map.mp here
    obtain ⟨_, -, same⟩ := List.mem_map.mp there
    exact differs (Prod.mk.inj same).1.symm

theorem preserves_of_migratable (ids : (missions.map (·.id)).Nodup)
    (canonical : Canonical fields newIds missions log)
    (migratable : Migratable fields casts missions log) : Preserves fields casts missions log := by
  have : Nonempty MissionEventModel := ⟨⟨.nil, 0, .nil, "", 0, []⟩⟩
  have fills : ∀ selected ∈ selectedEvents missions, FillsRow fields casts selected.2 := by
    intro selected listed
    obtain ⟨mission, member, made⟩ := List.mem_flatMap.mp listed
    obtain ⟨raw, inside, rfl⟩ := List.mem_map.mp made
    exact migratable.rows mission member raw inside
  obtain ⟨row, built⟩ := exists_values (fun selected : UUID × RawEvent =>
    backfillRow casts selected.1 selected.2) fun selected listed =>
      backfillRow_of_fills (fills selected listed) selected.1
  have parsed : ∀ mission ∈ missions, List.Forall₂ (fun raw event =>
      (row (mission.id, raw)).sequence = (event.sequence : Int)) mission.executionLog
        (log mission.id) := by
    intro mission member
    obtain ⟨read, -⟩ := MissionJsonEventStore.deserialize_ok fields (canonical mission member)
    refine sequences_of_fills (restore_forall₂ read) fun raw inside => ?_
    obtain ⟨n, cast, taken⟩ := (migratable.rows mission member raw inside).sequence
    have stored := (backfillRow_ok (built _ (mem_selectedEvents member inside))).2.2.1
    rw [taken, Except.ok.inj (cast.symm.trans stored)]
  have sorted : ∀ mission ∈ missions, (mission.executionLog.map fun raw =>
      row (mission.id, raw)).Pairwise fun a b => a.sequence < b.sequence := by
    intro mission member
    obtain ⟨-, validated⟩ := MissionJsonEventStore.deserialize_ok fields (canonical mission member)
    exact rows_sorted (parsed mission member)
      (validateEventSequence_ok_iff.mp validated).1.increasing
  have unique : Unique ((selectedEvents missions).map row) := by
    refine ⟨unique_keys ids (fun selected listed => (backfillRow_ok (built selected listed)).1)
      sorted, ?_⟩
    have columns : (missions.flatMap fun mission => mission.executionLog.map fun raw =>
        column casts.uuid raw "event_id") =
          (((selectedEvents missions).map row).map (·.eventId)).map Except.ok := by
      have casted : (selectedEvents missions).map (fun selected =>
          column casts.uuid selected.2 "event_id") =
            (selectedEvents missions).map (Except.ok ∘ (·.eventId) ∘ row) :=
        List.map_congr_left fun selected listed =>
          (backfillRow_ok (built selected listed)).2.2.2.1
      rw [List.map_map, List.map_map, Function.comp_assoc, ← casted]
      simp only [selectedEvents, List.map_flatMap, List.map_map]
      rfl
    exact List.Nodup.of_map _ (columns ▸ migratable.ids)
  refine ⟨_, backfill_ok_iff.mpr ⟨unique, row, built, rfl⟩, fun mission member => ?_⟩
  have own := rowsOf_selected ids built member
  have positive : ∀ r ∈ mission.executionLog.map fun raw => row (mission.id, raw),
      0 < r.sequence := by
    intro r listed
    obtain ⟨raw, inside, rfl⟩ := List.mem_map.mp listed
    obtain ⟨event, -, same⟩ := exists_of_forall₂ (parsed mission member) raw inside
    rw [same]
    exact_mod_cast event.sequence_pos
  have weakly := (sorted mission member).imp fun less => le_of_lt less
  have size : (mission.executionLog.map fun raw => row (mission.id, raw)).length ≤ 2147483647 := by
    rw [List.length_map]
    exact migratable.size mission member
  intro drawn
  rw [listAll_ok own positive weakly size]
  refine readRows_ok_iff.mpr ?_ drawn
  obtain ⟨read, validated⟩ := MissionJsonEventStore.deserialize_ok fields (canonical mission member)
  have sound := (validateEventSequence_ok_iff.mp validated).1.sound
  have identified : ∀ raw ∈ mission.executionLog, (raw.get? "event_id").isSome := by
    intro raw inside
    obtain ⟨id, cast⟩ := (migratable.rows mission member raw inside).eventId
    exact identified_of_column cast
  have alone := (all_alone_iff identified read).mpr (migratable.alone mission member)
  rw [List.forall₂_map_left_iff, List.forall₂_iff_zip]
  refine ⟨alone.length_eq, ?_⟩
  intro raw event paired drawn
  obtain ⟨inside, logged⟩ := List.of_mem_zip paired
  obtain ⟨owner, event', -⟩ := backfillRow_ok (built _ (mem_selectedEvents member inside))
  rw [readRow_ok_iff, owner, event']
  refine ⟨(List.forall₂_iff_zip.mp alone).2 paired drawn, sound event logged, ?_⟩
  rw [(List.forall₂_iff_zip.mp (parsed mission member)).2 paired]
  rfl

theorem migratable_of_preserves (ids : (missions.map (·.id)).Nodup)
    (canonical : Canonical fields newIds missions log)
    (preserves : Preserves fields casts missions log) : Migratable fields casts missions log := by
  obtain ⟨table, filled, listed⟩ := preserves
  obtain ⟨unique, row, built, rfl⟩ := backfill_ok_iff.mp filled
  have shown : ∀ mission ∈ missions,
      (∀ r ∈ mission.executionLog.map (fun raw => row (mission.id, raw)), 0 < r.sequence) ∧
      mission.executionLog.length ≤ 2147483647 ∧
      List.Forall₂ (fun r event => ∀ drawn, readRow fields drawn r = .ok event)
        (sortedBy (·.sequence) (mission.executionLog.map fun raw => row (mission.id, raw)))
        (log mission.id) := by
    intro mission member
    obtain ⟨read, -⟩ := MissionJsonEventStore.deserialize_ok fields (canonical mission member)
    have lengths : (log mission.id).length =
        (mission.executionLog.map fun raw => row (mission.id, raw)).length := by
      rw [List.length_map, (restore_forall₂ read).length_eq]
    obtain ⟨positive, size, all⟩ := rows_of_listAll (rowsOf_selected ids built member) lengths
      (listed mission member fun _ => (.nil, .nil))
    have reads : ∀ drawn, readRows fields drawn 0 (sortedBy (·.sequence)
        (mission.executionLog.map fun raw => row (mission.id, raw))) = .ok (log mission.id) :=
      fun drawn => (all drawn).symm.trans (listed mission member drawn)
    exact ⟨positive, by rwa [List.length_map] at size, readRows_ok_iff.mp reads⟩
  have taken : ∀ mission ∈ missions, ∀ raw ∈ mission.executionLog,
      (requiredField raw "sequence" >>= fields.parseInt) =
        .ok (row (mission.id, raw)).sequence := by
    intro mission member raw inside
    obtain ⟨positive, -, read⟩ := shown mission member
    have here := List.mem_map_of_mem (f := fun raw => row (mission.id, raw)) inside
    obtain ⟨event, -, reads⟩ := exists_of_forall₂ read _ ((mem_sortedBy _ _).mpr here)
    obtain ⟨alone, -, counted⟩ := readRow_ok_iff.mp (reads (.nil, .nil))
    obtain ⟨-, copied, -⟩ := backfillRow_ok (built _ (mem_selectedEvents member inside))
    rw [copied] at alone
    rw [deserialize_sequence alone, ← counted, Int.toNat_of_nonneg (positive _ here).le]
  have parsed : ∀ mission ∈ missions, List.Forall₂ (fun raw event =>
      (row (mission.id, raw)).sequence = (event.sequence : Int)) mission.executionLog
        (log mission.id) := by
    intro mission member
    obtain ⟨read, -⟩ := MissionJsonEventStore.deserialize_ok fields (canonical mission member)
    exact sequences_of_fills (restore_forall₂ read) (taken mission member)
  refine ⟨fun mission member raw inside => ?_, ?_, fun mission member => ?_, fun mission member =>
    (shown mission member).2.1⟩
  · obtain ⟨-, -, sequence, eventId, eventType, occurredAt⟩ :=
      backfillRow_ok (built _ (mem_selectedEvents member inside))
    exact ⟨⟨_, sequence, taken mission member raw inside⟩, ⟨_, eventId⟩, eventType, occurredAt⟩
  · have casted : (selectedEvents missions).map (fun selected =>
        column casts.uuid selected.2 "event_id") =
          (((selectedEvents missions).map row).map (·.eventId)).map Except.ok := by
      rw [List.map_map, List.map_map]
      exact List.map_congr_left fun selected listed =>
        (backfillRow_ok (built selected listed)).2.2.2.1
    have columns : (missions.flatMap fun mission => mission.executionLog.map fun raw =>
        column casts.uuid raw "event_id") = (selectedEvents missions).map (fun selected =>
          column casts.uuid selected.2 "event_id") := by
      simp only [selectedEvents, List.map_flatMap, List.map_map]
      rfl
    rw [columns, casted]
    exact unique.2.map fun _ _ same => Except.ok.inj same
  · obtain ⟨read, validated⟩ := MissionJsonEventStore.deserialize_ok fields
      (canonical mission member)
    have sorted := rows_sorted (parsed mission member)
      (validateEventSequence_ok_iff.mp validated).1.increasing
    obtain ⟨-, -, reads⟩ := shown mission member
    rw [sortedBy_of_pairwise _ _ (sorted.imp fun less => le_of_lt less),
      List.forall₂_map_left_iff] at reads
    have identified : ∀ raw ∈ mission.executionLog, (raw.get? "event_id").isSome :=
      fun raw inside => identified_of_column
        (backfillRow_ok (built _ (mem_selectedEvents member inside))).2.2.2.1
    refine (all_alone_iff identified read).mp (List.forall₂_iff_zip.mpr ⟨reads.length_eq, ?_⟩)
    intro raw event paired drawn
    obtain ⟨inside, -⟩ := List.of_mem_zip paired
    obtain ⟨owner, copied, -⟩ := backfillRow_ok (built _ (mem_selectedEvents member inside))
    have alone := (readRow_ok_iff.mp ((List.forall₂_iff_zip.mp reads).2 paired drawn)).1
    rwa [owner, copied] at alone

end

/-- The migration preserves the logs of a database exactly when each event fills
its row under an id of its own and carries the ids it cannot derive alone. -/
theorem migration_preserves_iff {casts : ColumnCasts} {missions : List MissionRow}
    {log : UUID → List ExecutionEvent} {newIds : UUID → Nat → UUID × UUID}
    (ids : (missions.map (·.id)).Nodup) (canonical : Canonical fields newIds missions log) :
    Preserves fields casts missions log ↔ Migratable fields casts missions log :=
  ⟨migratable_of_preserves ids canonical, preserves_of_migratable ids canonical⟩

end

/-- Casts of the values that are stored as JSON numbers and texts. -/
def plainCasts : ColumnCasts where
  integer
    | .int n =>
      if -2147483648 ≤ n ∧ n ≤ 2147483647 then .ok n
      else .error (.other "DataError" "integer out of range")
    | _ => .error (.other "DataError" "invalid input syntax for type integer")
  uuid
    | .str text => .ok (UUID.ofText text)
    | _ => .error (.other "DataError" "invalid input syntax for type uuid")
  text
    | .str text => .ok text
    | _ => .error (.other "DataError" "value is not a JSON string")
  timestamp
    | .str text => .ok (readMicros text)
    | _ => .error (.other "DataError" "invalid input syntax for type timestamp with time zone")

def legacyRow : MissionRow := ⟨⟨7⟩, 2, legacyEvents⟩

/-- An event of version 2, which has an id but not yet the ids of its chain. -/
def identifiedEvent (eventId : String) (sequence : Int) (eventType message : String) : RawEvent :=
  [("schema_version", .int 2), ("event_id", .str eventId), ("sequence", .int sequence),
    ("timestamp", .str "2026-08-01T00:00:00Z"), ("type", .str eventType),
    ("message", .str message)]

def firstIdentified : RawEvent :=
  identifiedEvent "00000000-0000-0000-0000-00000000000a" 1 "mission_paused" "Mission paused."

def secondIdentified : RawEvent :=
  identifiedEvent "00000000-0000-0000-0000-00000000000b" 2 "mission_resumed" "Mission resumed."

def identifiedRow : MissionRow := ⟨⟨7⟩, 2, [firstIdentified, secondIdentified]⟩

def identifiedLog : List ExecutionEvent :=
  [⟨⟨10⟩, ⟨10⟩, none, 1, 1785542400000000, "mission_paused", "Mission paused.", [],
      ExecutionEvent.first_pos⟩,
    ⟨⟨11⟩, ⟨10⟩, some ⟨10⟩, 2, 1785542400000000, "mission_resumed", "Mission resumed.", [],
      ExecutionEvent.second_pos⟩]

theorem identifiedRow_canonical :
    Canonical legacyEventFields (fun _ _ => (⟨1⟩, ⟨1⟩)) [identifiedRow] fun _ => identifiedLog := by
  intro mission member
  rw [List.mem_singleton.mp member]
  decide +kernel

def identifiedTable : Table :=
  [⟨⟨7⟩, 1, ⟨10⟩, "mission_paused", 1785542400000000, firstIdentified⟩,
    ⟨⟨7⟩, 2, ⟨11⟩, "mission_resumed", 1785542400000000, secondIdentified⟩]

theorem migration_loses_old_logs :
    (Canonical legacyEventFields (fun _ _ => (⟨1⟩, ⟨1⟩)) [legacyRow]
        (fun _ => legacyMission.executionLog) ∧
      backfill plainCasts [legacyRow] =
        .error (.other "IntegrityError" "null value in column of mission_events: event_id")) ∧
    Canonical legacyEventFields (fun _ _ => (⟨1⟩, ⟨1⟩)) [identifiedRow] (fun _ => identifiedLog) ∧
      backfill plainCasts [identifiedRow] = .ok identifiedTable ∧
      listAll legacyEventFields (fun _ => (⟨1⟩, ⟨1⟩)) identifiedTable ⟨7⟩ ≠ .ok identifiedLog := by
  refine ⟨⟨?_, ?_⟩, identifiedRow_canonical, ?_, ?_⟩
  · intro mission member
    rw [List.mem_singleton.mp member]
    exact legacyMission_restored
  · decide +kernel
  · decide +kernel
  · decide +kernel

theorem migration_preserves_iff_identified :
    Preserves legacyEventFields plainCasts [identifiedRow] (fun _ => identifiedLog) ↔
      Migratable legacyEventFields plainCasts [identifiedRow] fun _ => identifiedLog :=
  migration_preserves_iff (by decide) identifiedRow_canonical

end PurchaseAgent
