import PurchaseAgent.Correctness.ProviderHistoryVerification

/-!
The projection of the provider history as the repository writes it: appended
with every save of a mission, or rebuilt from the logs. Its rows are those of the
log, so that a client who follows the cursors sees the same pages as from the log.
-/

namespace PurchaseAgent
open Collections SqlProviderHistory ProviderHistoryVerification

theorem providerProjections_append {missionId : UUID} {front back : List (ExecutionEvent × Nat)}
    {before added : List ProviderHistoryProjectionEvent}
    (h : providerProjections missionId front = .ok before)
    (h' : providerProjections missionId back = .ok added) :
    providerProjections missionId (front ++ back) = .ok (before ++ added) := by
  induction front generalizing before with
  | nil =>
      obtain rfl := Except.ok.inj h
      exact h'
  | cons x rest ih =>
      obtain ⟨event, index⟩ := x
      simp only [providerProjections] at h
      split at h
      · cases h
      · cases h
      · rename_i others first later
        obtain rfl := Except.ok.inj h
        simp only [List.cons_append, providerProjections, first, ih later]
      · rename_i projection others first later
        obtain rfl := Except.ok.inj h
        simp only [List.cons_append, providerProjections, first, ih later]

/-- Other events leave no projection. -/
theorem providerProjections_others {missionId : UUID} {indexed : List (ExecutionEvent × Nat)}
    (others : ∀ x ∈ indexed, x.1.isProviderHistory = false) :
    providerProjections missionId indexed = .ok [] := by
  induction indexed with
  | nil => rfl
  | cons x rest ih =>
      obtain ⟨event, index⟩ := x
      obtain ⟨first, later⟩ := List.forall_mem_cons.mp others
      simp only [providerProjections, executionEventToProviderProjection, first, if_true, ih later]

/-- The events behind the sequence that was persisted are those that were added. -/
theorem filter_added {log added : List ExecutionEvent} {last : Nat}
    (valid : ValidEvents 0 [] (log ++ added)) (persisted : last = lastSequence 0 log) :
    (log ++ added).zipIdx.filter (last < ·.1.sequence) = added.zipIdx log.length := by
  have increasing := List.pairwise_append.mp valid.increasing
  have above := valid.above
  rw [List.zipIdx_append, List.filter_append, Nat.zero_add]
  have kept : log.zipIdx.filter (last < ·.1.sequence) = [] := by
    apply List.filter_eq_nil_iff.mpr
    intro x member
    have upper := sequence_le_last increasing.1 (List.fst_mem_of_mem_zipIdx member)
    simp only [decide_eq_true_eq]
    omega
  have gone : (added.zipIdx log.length).filter (last < ·.1.sequence) = added.zipIdx log.length := by
    apply List.filter_eq_self.mpr
    intro x member
    have inside := List.fst_mem_of_mem_zipIdx member
    simp only [decide_eq_true_eq, persisted, lastSequence]
    cases found : log.getLast? with
    | none => exact above x.1 (List.mem_append_right _ inside)
    | some final =>
        exact increasing.2.2 final (List.mem_of_mem_getLast? found) x.1 inside
  rw [kept, gone, List.nil_append]

/-- The missions and the projection table of a database. -/
structure ProviderHistoryDatabase where
  missions : List Mission
  table : Table

/-- A mission that `mission_to_model` accepts. -/
def StoredMission (mission : Mission) : Prop :=
  validateEventSequence mission.executionLog mission.lastEventSequence = .ok ()

/-- The databases whose projection was written by `append` or by a rebuild. A save
that adds none of the provider events, like the recovery of a stale claim, writes
no row. -/
inductive WrittenProjection : ProviderHistoryDatabase → Prop
  | empty : WrittenProjection ⟨[], []⟩
  | rebuilt {missions : List Mission} {table : Table} (ids : (missions.map (·.id)).Nodup)
      (stored : ∀ mission ∈ missions, StoredMission mission)
      (written : projectAll missions = .ok table) : WrittenProjection ⟨missions, table⟩
  | create {missions : List Mission} {table table' : Table} {mission : Mission}
      (before : WrittenProjection ⟨missions, table⟩)
      (fresh : mission.id ∉ missions.map (·.id)) (stored : StoredMission mission)
      (written : appendProviderHistoryEvents table mission 0 = .ok table') :
      WrittenProjection ⟨missions ++ [mission], table'⟩
  | update {front back : List Mission} {table table' : Table} {old mission : Mission}
      {added : List ExecutionEvent} (before : WrittenProjection ⟨front ++ old :: back, table⟩)
      (same : mission.id = old.id) (extends_ : mission.executionLog = old.executionLog ++ added)
      (stored : StoredMission mission)
      (written : appendProviderHistoryEvents table mission old.lastEventSequence = .ok table') :
      WrittenProjection ⟨front ++ mission :: back, table'⟩
  | others {front back : List Mission} {table : Table} {old mission : Mission}
      {added : List ExecutionEvent} (before : WrittenProjection ⟨front ++ old :: back, table⟩)
      (same : mission.id = old.id) (extends_ : mission.executionLog = old.executionLog ++ added)
      (stored : StoredMission mission) (other : ∀ event ∈ added, event.isProviderHistory = false) :
      WrittenProjection ⟨front ++ mission :: back, table⟩

/-- The projections of a mission's log. -/
def projectionsOf (mission : Mission) : List ProviderHistoryProjectionEvent :=
  match providerProjections mission.id mission.executionLog.zipIdx with
  | .ok projections => projections
  | .error _ => []

/-- Every provider event of the log has a projection. -/
def Projects (mission : Mission) : Prop :=
  providerProjections mission.id mission.executionLog.zipIdx = .ok (projectionsOf mission)

/-- The rows of each mission are the projections of its log, in that order. -/
structure Projected (db : ProviderHistoryDatabase) : Prop where
  ids : (db.missions.map (·.id)).Nodup
  stored : ∀ mission ∈ db.missions, StoredMission mission
  projects : ∀ mission ∈ db.missions, Projects mission
  rows : ∀ mission ∈ db.missions,
    rowsOf mission.id db.table = (projectionsOf mission).map toModel
  known : ∀ row ∈ db.table, row.missionId ∈ db.missions.map (·.id)

theorem projections_missionId {missionId : UUID} {indexed : List (ExecutionEvent × Nat)}
    {projections : List ProviderHistoryProjectionEvent}
    (h : providerProjections missionId indexed = .ok projections) :
    ∀ projection ∈ projections, projection.missionId = missionId := by
  intro projection member
  obtain ⟨x, -, read⟩ := (providerProjections_ok h).2 projection member
  obtain ⟨-, item, -, rfl⟩ := executionEventToProviderProjection_ok read
  rfl

theorem rowsOf_append (missionId : UUID) (table added : Table) :
    rowsOf missionId (table ++ added) = rowsOf missionId table ++ rowsOf missionId added :=
  List.filter_append ..

theorem rowsOf_projections {missionId other : UUID}
    {projections : List ProviderHistoryProjectionEvent}
    (own : ∀ projection ∈ projections, projection.missionId = missionId) :
    rowsOf other (projections.map toModel) =
      if other = missionId then projections.map toModel else [] := by
  split
  · rename_i same
    apply List.filter_eq_self.mpr
    intro row member
    obtain ⟨projection, listed, rfl⟩ := List.mem_map.mp member
    simp only [toModel, own projection listed, same, decide_true]
  · rename_i differs
    apply List.filter_eq_nil_iff.mpr
    intro row member
    obtain ⟨projection, listed, rfl⟩ := List.mem_map.mp member
    simp only [toModel, own projection listed, decide_eq_true_eq]
    exact fun same => differs same.symm

/-- What a save adds to the table. -/
theorem appendProviderHistoryEvents_ok {table table' : Table} {mission : Mission} {previous : Nat}
    (h : appendProviderHistoryEvents table mission previous = .ok table') :
    ∃ projections, providerProjections mission.id
        (mission.executionLog.zipIdx.filter (previous < ·.1.sequence)) = .ok projections ∧
      table' = table ++ projections.map toModel := by
  unfold appendProviderHistoryEvents at h
  cases read : providerProjections mission.id
      (mission.executionLog.zipIdx.filter (previous < ·.1.sequence)) with
  | error error => rw [read] at h; cases h
  | ok projections =>
      rw [read] at h
      simp only [bind, Except.bind, appendMany] at h
      refine ⟨projections, rfl, ?_⟩
      split at h
      · rename_i none
        obtain rfl := List.isEmpty_iff.mp none
        obtain rfl : table = table' := Except.ok.inj h
        simp
      · split at h
        · exact (Except.ok.inj h).symm
        · cases h

theorem projectLoop_ok {table table' : Table} {pending : List ProviderHistoryProjectionEvent}
    {missions : List Mission} (h : projectLoop table pending missions = .ok table') :
    (∀ mission ∈ missions, Projects mission) ∧
      table' = table ++ (pending ++ missions.flatMap projectionsOf).map toModel := by
  induction missions generalizing table pending with
  | nil =>
      refine ⟨by simp, ?_⟩
      simp only [projectLoop, appendMany] at h
      split at h
      · rename_i none
        obtain rfl := List.isEmpty_iff.mp none
        obtain rfl := Except.ok.inj h
        simp
      · split at h
        · obtain rfl := Except.ok.inj h
          simp
        · cases h
  | cons mission rest ih =>
      cases read : providerProjections mission.id mission.executionLog.zipIdx with
      | error error => simp [projectLoop, read, bind, Except.bind] at h
      | ok events =>
          have projects : projectionsOf mission = events := by simp only [projectionsOf, read]
          have first : Projects mission := read.trans (congrArg Except.ok projects.symm)
          simp only [projectLoop, read, bind, Except.bind, appendMany] at h
          split at h
          · split at h
            · cases h
            · rename_i middle written
              obtain ⟨others, rfl⟩ := ih h
              split at written
              · obtain rfl := Except.ok.inj written
                refine ⟨List.forall_mem_cons.mpr ⟨first, others⟩, ?_⟩
                simp [projects]
              · cases written
          · obtain ⟨others, rfl⟩ := ih h
            refine ⟨List.forall_mem_cons.mpr ⟨first, others⟩, ?_⟩
            simp [projects]

theorem Projects.missionId {mission : Mission} (projects : Projects mission) :
    ∀ projection ∈ projectionsOf mission, projection.missionId = mission.id :=
  projections_missionId projects

theorem rowsOf_flatMap {missions : List Mission} (ids : (missions.map (·.id)).Nodup)
    (projects : ∀ mission ∈ missions, Projects mission) {mission : Mission}
    (member : mission ∈ missions) :
    rowsOf mission.id ((missions.flatMap projectionsOf).map toModel) =
      (projectionsOf mission).map toModel := by
  induction missions with
  | nil => cases member
  | cons first rest ih =>
      obtain ⟨new, ids⟩ := List.nodup_cons.mp ids
      obtain ⟨here, later⟩ := List.forall_mem_cons.mp projects
      rw [List.flatMap_cons, List.map_append, rowsOf_append,
        rowsOf_projections here.missionId]
      rcases List.mem_cons.mp member with rfl | inside
      · have none : rowsOf mission.id ((rest.flatMap projectionsOf).map toModel) = [] := by
          apply List.filter_eq_nil_iff.mpr
          intro row listed
          obtain ⟨projection, found, rfl⟩ := List.mem_map.mp listed
          obtain ⟨other, inside, found⟩ := List.mem_flatMap.mp found
          simp only [toModel, (later other inside).missionId projection found, decide_eq_true_eq]
          exact fun same => new (List.mem_map.mpr ⟨other, inside, same⟩)
        rw [if_pos rfl, none, List.append_nil]
      · have differs : mission.id ≠ first.id := fun same =>
          new (List.mem_map.mpr ⟨mission, inside, same⟩)
        rw [if_neg differs, List.nil_append, ih ids later inside]

theorem Projected.rebuilt {missions : List Mission} {table : Table}
    (ids : (missions.map (·.id)).Nodup) (stored : ∀ mission ∈ missions, StoredMission mission)
    (written : projectAll missions = .ok table) : Projected ⟨missions, table⟩ := by
  obtain ⟨projects, rfl⟩ := projectLoop_ok written
  have order := sortedBy_perm (fun mission : Mission => mission.id.int) missions
  have listed : ∀ mission, mission ∈ sortedBy (fun mission : Mission => mission.id.int) missions ↔
      mission ∈ missions := fun mission => mem_sortedBy _ _
  have ids' := (order.map (·.id)).nodup_iff.mpr ids
  refine ⟨ids, stored, fun mission member => projects mission ((listed mission).mpr member), ?_, ?_⟩
  · intro mission member
    exact rowsOf_flatMap ids' projects ((listed mission).mpr member)
  · intro row member
    simp only [List.nil_append, List.mem_map, List.mem_flatMap] at member
    obtain ⟨projection, ⟨mission, inside, found⟩, rfl⟩ := member
    exact List.mem_map.mpr ⟨mission, (listed mission).mp inside,
      ((projects mission inside).missionId projection found).symm⟩

/-- A save of a mission whose rows were right so far. -/
theorem projects_added {old mission : Mission} {added : List ExecutionEvent}
    {projections : List ProviderHistoryProjectionEvent} (same : mission.id = old.id)
    (extends_ : mission.executionLog = old.executionLog ++ added) (before : Projects old)
    (read : providerProjections mission.id (added.zipIdx old.executionLog.length) =
      .ok projections) :
    Projects mission ∧ projectionsOf mission = projectionsOf old ++ projections := by
  have whole : providerProjections mission.id mission.executionLog.zipIdx =
      .ok (projectionsOf old ++ projections) := by
    rw [extends_, List.zipIdx_append, Nat.zero_add]
    exact providerProjections_append (same ▸ before) read
  have projections : projectionsOf mission = projectionsOf old ++ projections := by
    simp only [projectionsOf, whole]
  exact ⟨whole.trans (congrArg Except.ok projections.symm), projections⟩

/-- A save replaces one mission and adds its new rows. -/
theorem Projected.replace {front back : List Mission} {table : Table} {old mission : Mission}
    {added : List ExecutionEvent} {projections : List ProviderHistoryProjectionEvent}
    (before : Projected ⟨front ++ old :: back, table⟩) (same : mission.id = old.id)
    (extends_ : mission.executionLog = old.executionLog ++ added) (stored : StoredMission mission)
    (read : providerProjections mission.id (added.zipIdx old.executionLog.length) =
      .ok projections) :
    Projected ⟨front ++ mission :: back, table ++ projections.map toModel⟩ := by
  have ids : (front ++ mission :: back).map (·.id) = (front ++ old :: back).map (·.id) := by
    simp only [List.map_append, List.map_cons, same]
  have oldMember : old ∈ front ++ old :: back := by simp
  obtain ⟨projects, appended⟩ := projects_added same extends_ (before.projects old oldMember) read
  have others : ∀ other ∈ front ++ mission :: back, other ≠ mission →
      other ∈ front ++ old :: back ∧ other.id ≠ mission.id := by
    intro other member differs
    have elsewhere : other ∈ front ∨ other ∈ back := by
      rcases List.mem_append.mp member with early | late
      · exact .inl early
      · exact .inr ((List.mem_cons.mp late).resolve_left differs)
    have distinct := before.ids
    simp only [List.map_append, List.map_cons, List.nodup_append, List.nodup_cons, List.mem_map,
      List.mem_cons] at distinct
    refine ⟨by rcases elsewhere with early | late <;> simp [*], fun equal => ?_⟩
    rcases elsewhere with early | late
    · exact distinct.2.2 other.id ⟨other, early, rfl⟩ old.id (.inl rfl) (equal.trans same)
    · exact distinct.2.1.1 ⟨other, late, equal.trans same⟩
  have own := projections_missionId read
  refine ⟨ids ▸ before.ids, ?_, ?_, ?_, ?_⟩
  · intro other member
    by_cases equal : other = mission
    · exact equal ▸ stored
    · exact before.stored other (others other member equal).1
  · intro other member
    by_cases equal : other = mission
    · exact equal ▸ projects
    · exact before.projects other (others other member equal).1
  · intro other member
    rw [rowsOf_append, rowsOf_projections own]
    by_cases equal : other = mission
    · subst equal
      rw [if_pos rfl, appended, List.map_append, same]
      exact congrArg (· ++ _) (before.rows old oldMember)
    · obtain ⟨inside, differs⟩ := others other member equal
      rw [if_neg differs, List.append_nil]
      exact before.rows other inside
  · intro row member
    change row.missionId ∈ (front ++ mission :: back).map (·.id)
    rw [ids]
    rcases List.mem_append.mp member with early | late
    · exact before.known row early
    · obtain ⟨projection, found, rfl⟩ := List.mem_map.mp late
      exact List.mem_map.mpr ⟨old, oldMember, same.symm.trans (own projection found).symm⟩

theorem Projected.create {missions : List Mission} {table : Table} {mission : Mission}
    {projections : List ProviderHistoryProjectionEvent} (before : Projected ⟨missions, table⟩)
    (fresh : mission.id ∉ missions.map (·.id)) (stored : StoredMission mission)
    (read : providerProjections mission.id mission.executionLog.zipIdx = .ok projections) :
    Projected ⟨missions ++ [mission], table ++ projections.map toModel⟩ := by
  have own := projections_missionId read
  have projected : projectionsOf mission = projections := by simp only [projectionsOf, read]
  refine ⟨?_, ?_, ?_, ?_, ?_⟩
  · change ((missions ++ [mission]).map (·.id)).Nodup
    rw [List.map_append, List.nodup_append]
    refine ⟨before.ids, by simp, ?_⟩
    rintro id listed _ (_ | ⟨_, ⟨⟩⟩) rfl
    exact fresh listed
  · intro other member
    rcases List.mem_append.mp member with early | late
    · exact before.stored other early
    · exact List.mem_singleton.mp late ▸ stored
  · intro other member
    rcases List.mem_append.mp member with early | late
    · exact before.projects other early
    · obtain rfl := List.mem_singleton.mp late
      exact read.trans (congrArg Except.ok projected.symm)
  · intro other member
    rw [rowsOf_append, rowsOf_projections own]
    rcases List.mem_append.mp member with early | late
    · have differs : other.id ≠ mission.id := fun same =>
        fresh (same ▸ List.mem_map_of_mem early)
      rw [if_neg differs, List.append_nil]
      exact before.rows other early
    · obtain rfl := List.mem_singleton.mp late
      have none : rowsOf other.id table = [] := by
        apply List.filter_eq_nil_iff.mpr
        intro row listed same
        exact fresh (of_decide_eq_true same ▸ before.known row listed)
      rw [if_pos rfl, none, projected, List.nil_append]
  · intro row member
    change row.missionId ∈ (missions ++ [mission]).map (·.id)
    rw [List.map_append]
    rcases List.mem_append.mp member with early | late
    · exact List.mem_append_left _ (before.known row early)
    · obtain ⟨projection, found, rfl⟩ := List.mem_map.mp late
      exact List.mem_append_right _ (by simp [toModel, own projection found])

theorem WrittenProjection.projected {db : ProviderHistoryDatabase} (written : WrittenProjection db) :
    Projected db := by
  induction written with
  | empty => exact ⟨.nil, by simp, by simp, by simp, by simp⟩
  | rebuilt ids stored written => exact .rebuilt ids stored written
  | create _ fresh stored written ih =>
      obtain ⟨projections, read, rfl⟩ := appendProviderHistoryEvents_ok written
      have valid := (validateEventSequence_ok_iff.mp stored).1
      have all := @filter_added [] _ 0 valid rfl
      rw [List.nil_append] at all
      exact ih.create fresh stored (all ▸ read)
  | @update front back table table' old mission added _ same extends_ stored written ih =>
      obtain ⟨projections, read, rfl⟩ := appendProviderHistoryEvents_ok written
      have valid := (validateEventSequence_ok_iff.mp stored).1
      have persisted := (validateEventSequence_ok_iff.mp (ih.stored old (by simp))).2
      rw [extends_] at valid read
      rw [filter_added valid persisted] at read
      exact ih.replace same extends_ stored read
  | @others front back table old mission added _ same extends_ stored other ih =>
      have read : providerProjections mission.id (added.zipIdx old.executionLog.length) = .ok [] :=
        providerProjections_others fun x member => other x.1 (List.fst_mem_of_mem_zipIdx member)
      have after := ih.replace same extends_ stored read
      rwa [List.map_nil, List.append_nil] at after

theorem projectionFromModel_toModel {event : ProviderHistoryProjectionEvent}
    (types : event.payload.eventType = event.eventType) :
    projectionFromModel (toModel event) = .ok event := by
  have sequence_ge : 1 ≤ (toModel event).sequence.toNat := by
    simpa [toModel] using event.sequence_ge
  have validated : ProviderHistoryPayload.validate event.eventType event.payload.dump =
      .ok event.payload := types ▸ ProviderHistoryPayload.validate_dump event.payload
  simp only [projectionFromModel, toModel, ProviderHistoryEventType.ofText_value, validated,
    Int.toNat_natCast, event.sequence_ge, dif_pos, Int.natCast_nonneg, if_true]

/-- Rows that are the projections of the log are read as its provider events. -/
theorem Projected.paired {db : ProviderHistoryDatabase} (projected : Projected db)
    {mission : Mission} (member : mission ∈ db.missions) :
    Paired mission.executionLog (rowsOf mission.id db.table) ∧
      IndexesMatch mission.executionLog (rowsOf mission.id db.table) := by
  have projects := projected.projects mission member
  have increasing := (validateEventSequence_ok_iff.mp (projected.stored mission member)).1.increasing
  obtain ⟨forward, backward⟩ := providerProjections_ok projects
  rw [projected.rows mission member]
  have shows : ∀ {event : ExecutionEvent} {index : Nat} {item : ProviderResolutionHistoryItem},
      (event, index) ∈ mission.executionLog.zipIdx → event.isProviderHistory →
        providerEventToHistoryItem event = .ok item →
          (⟨mission.id, item.sequence, item.eventType, item.occurredAt, item.payload, index,
            item.sequence_ge⟩ : ProviderHistoryProjectionEvent) ∈ projectionsOf mission := by
    intro event index item indexed provider shown
    obtain ⟨projection, read, kept⟩ := forward _ indexed
    simp only [executionEventToProviderProjection, provider, Bool.true_eq_false, if_false,
      shown] at read
    obtain rfl := Except.ok.inj read
    exact kept _ rfl
  -- a row is written for an event and read back as it was
  have reads : ∀ row ∈ (projectionsOf mission).map toModel, ∃ event index item,
      (event, index) ∈ mission.executionLog.zipIdx ∧ event.isProviderHistory ∧
        providerEventToHistoryItem event = .ok item ∧ row.sequence = event.sequence ∧
          row.legacyEventIndex = index ∧ rowEntry row = .ok (item, index) := by
    intro row inside
    obtain ⟨projection, listed, rfl⟩ := List.mem_map.mp inside
    obtain ⟨⟨event, index⟩, indexed, read⟩ := backward projection listed
    obtain ⟨provider, item, shown, rfl⟩ := executionEventToProviderProjection_ok read
    refine ⟨event, index, item, indexed, provider, shown, ?_, rfl, ?_⟩
    · exact congrArg Nat.cast (providerEventToHistoryItem_ok shown).1
    · have read := @projectionFromModel_toModel ⟨mission.id, item.sequence, item.eventType,
        item.occurredAt, item.payload, index, item.sequence_ge⟩ item.payload_type
      obtain ⟨item', shown', -, -, -, -, entered⟩ := projectionToHistoryItem_of_row read
      have same : projectionToHistoryItem ⟨mission.id, item.sequence, item.eventType,
        item.occurredAt, item.payload, index, item.sequence_ge⟩ = .ok item :=
        dif_pos item.payload_type
      obtain rfl := Except.ok.inj (same.symm.trans shown')
      exact entered
  refine ⟨⟨?_, ?_, ?_, ?_, ?_⟩, ?_⟩
  · intro event inside provider
    obtain ⟨index, indexed⟩ := exists_mem_zipIdx inside
    obtain ⟨projection, read, -⟩ := forward _ indexed
    simp only [executionEventToProviderProjection, provider, Bool.true_eq_false, if_false] at read
    obtain ⟨item, shown, -⟩ := exists_of_map_ok read
    exact ⟨item, shown⟩
  · intro row inside
    obtain ⟨_, index, item, -, -, -, -, -, entered⟩ := reads row inside
    exact ⟨(item, index), entered⟩
  · have sequences : (projectionsOf mission).map (·.sequence) |>.Nodup :=
      projection_sequences_nodup projects (by
        have fst := congrArg (List.map ExecutionEvent.sequence)
          (List.zipIdx_map_fst 0 mission.executionLog)
        rw [List.map_map] at fst
        rw [show (mission.executionLog.zipIdx.map (·.1.sequence)) =
          mission.executionLog.map (·.sequence) from fst, List.Nodup, List.pairwise_map]
        exact increasing.imp Nat.ne_of_lt)
    rw [List.map_map, List.Nodup, List.pairwise_map]
    rw [List.Nodup, List.pairwise_map] at sequences
    exact sequences.imp fun differs same => differs (Int.ofNat_inj.mp same)
  · intro event inside provider item shown
    obtain ⟨index, indexed⟩ := exists_mem_zipIdx inside
    have listed := List.mem_map_of_mem (f := toModel) (shows indexed provider shown)
    obtain ⟨event', index', item', indexed', -, shown', sequence, place, entered⟩ :=
      reads _ listed
    have same : event'.sequence = event.sequence := by
      have written : (item.sequence : Int) = event'.sequence := sequence
      have shown := (providerEventToHistoryItem_ok shown).1
      omega
    obtain ⟨rfl, rfl⟩ := place_eq_of_sequence increasing indexed' indexed same
    obtain rfl := Except.ok.inj (shown.symm.trans shown')
    exact ⟨_, listed, _, entered⟩
  · intro row inside entry entered
    obtain ⟨event, index, item, indexed, provider, shown, -, -, entered'⟩ := reads row inside
    obtain rfl := Except.ok.inj (entered'.symm.trans entered)
    exact ⟨event, List.fst_mem_of_mem_zipIdx indexed, provider, shown⟩
  · intro row inside
    obtain ⟨event, index, item, indexed, -, -, sequence, place, -⟩ := reads row inside
    exact ⟨event, index, indexed, sequence.symm, place⟩

/-- The pages of a mission as a client asks for them: a limit outside the bounds of
the request is refused. -/
def readPage (repository : MissionReadRepository)
    (projectionReader : Option ProviderHistoryProjectionReader) (missionId : UUID)
    (cursor : Option ProviderHistoryCursor) (limit : Nat) :
    Option (List ProviderResolutionHistoryItem × Option ProviderHistoryCursor) :=
  if bounds : 1 ≤ limit ∧ limit ≤ 100 then
    match GetMissionProviderResolutionHistory.execute repository projectionReader missionId
        ⟨limit, cursor, bounds.1, bounds.2⟩ with
    | .ok page => some (page.items, page.nextCursor)
    | .error _ => none
  else none

theorem get_of_mem {missions : MissionReadRepository} (ids : (missions.map (·.id)).Nodup)
    {mission : Mission} (member : mission ∈ missions) :
    missions.get mission.id = some mission := by
  cases found : missions.get mission.id with
  | none =>
      have missing := List.find?_eq_none.mp found mission member
      simp at missing
  | some other =>
      have same := MissionReadRepository.get_id found
      rw [List.inj_on_of_nodup_map ids (List.mem_of_find?_eq_some found) member same]

/-- Pages served from entries are the pages of a keyset. -/
theorem reads_of_served {repository : MissionReadRepository}
    {source : Option ProviderHistoryProjectionReader} {missionId : UUID}
    {entries : List HistoryEntry}
    (served : ∀ request, GetMissionProviderResolutionHistory.execute repository source missionId
      request = servePage missionId request entries) {limit : Nat}
    (bounds : 1 ≤ limit ∧ limit ≤ 100) :
    Keyset.Reads HistoryEntry.key ProviderHistoryCursor.key (·.missionId = missionId) Prod.fst
      entries (readPage repository source missionId) limit := by
  intro cursor own
  obtain ⟨page, ok, items, leads, own'⟩ :=
    servePage_ok missionId ⟨limit, cursor, bounds.1, bounds.2⟩ entries own
  refine ⟨page.nextCursor, ?_, leads, own'⟩
  simp only [readPage, dif_pos bounds, served, ok, items]

/-- Both sources serve the same pages of a written projection, and the cursors lead
through all provider events of a mission in the order of timestamp and index. -/
theorem written_pages_agree_and_cover {db : ProviderHistoryDatabase}
    (written : WrittenProjection db) (missionId : UUID) :
    (∀ request, GetMissionProviderResolutionHistory.execute db.missions (some (reader db.table))
        missionId request =
      GetMissionProviderResolutionHistory.execute db.missions none missionId request) ∧
    ∀ mission ∈ db.missions, mission.id = missionId →
      ∃ places : List (ExecutionEvent × Nat),
        places.Perm (mission.executionLog.zipIdx.filter (·.1.isProviderHistory)) ∧
        places.Pairwise (fun a b => historyEventKey a < historyEventKey b) ∧
        ∀ limits : Nat → Nat, (∀ n, 1 ≤ limits n ∧ limits n ≤ 100) →
          ∀ source ∈ [none, some (reader db.table)],
            ∃ items, Keyset.follow (readPage db.missions source missionId) limits
                (mission.executionLog.length + 1) none = some items ∧
              items.map Except.ok = places.map fun place => providerEventToHistoryItem place.1 := by
  have projected := written.projected
  have agree : ∀ request,
      GetMissionProviderResolutionHistory.execute db.missions (some (reader db.table)) missionId
          request =
        GetMissionProviderResolutionHistory.execute db.missions none missionId request := by
    intro request
    cases found : MissionReadRepository.get db.missions missionId with
    | none => simp only [GetMissionProviderResolutionHistory.execute, found]
    | some mission =>
        obtain rfl := MissionReadRepository.get_id found
        have member : mission ∈ db.missions := List.mem_of_find?_eq_some found
        obtain ⟨paired, indexes⟩ := projected.paired member
        have increasing :=
          (validateEventSequence_ok_iff.mp (projected.stored mission member)).1.increasing
        exact pages_agree found paired increasing indexes request
  refine ⟨agree, ?_⟩
  rintro mission member rfl
  have found := get_of_mem projected.ids member
  obtain ⟨entries, sorted, -, served, listing⟩ :=
    canonical_entries (projected.paired member).1.readableLog
  have canonical : ∀ request, GetMissionProviderResolutionHistory.execute db.missions none mission.id
      request = servePage mission.id request entries := fun request => by
    simp only [GetMissionProviderResolutionHistory.execute, found, served]
  have serves : ∀ source ∈ [none, some (reader db.table)], ∀ request,
      GetMissionProviderResolutionHistory.execute db.missions source mission.id request =
        servePage mission.id request entries := by
    intro source known request
    rcases List.mem_cons.mp known with rfl | known
    · exact canonical request
    · obtain rfl := List.mem_singleton.mp known
      exact (agree request).trans (canonical request)
  have short : entries.length < mission.executionLog.length + 1 := by
    have lengths := congrArg List.length listing
    simp only [List.length_map, GetMissionProviderResolutionHistory.orderedEvents,
      (sortedBy_perm _ _).length_eq] at lengths
    have kept := List.length_filter_le (·.1.isProviderHistory) mission.executionLog.zipIdx
    rw [List.length_zipIdx] at kept
    omega
  refine ⟨GetMissionProviderResolutionHistory.orderedEvents mission, sortedBy_perm _ _,
    sortedBy_strict (zipIdx_keys_nodup mission.executionLog), ?_⟩
  intro limits bounds source known
  have reads := fun n => reads_of_served (serves source known) (bounds n)
  have gathered := Keyset.follow_eq sorted (mission.executionLog.length + 1) limits none (by simp)
    (fun n => (bounds n).1) reads (by rw [Option.map_none, Keyset.after_none]; exact short)
  rw [Option.map_none, Keyset.after_none] at gathered
  refine ⟨_, gathered, ?_⟩
  rw [List.map_map, ← listing]
  rfl

/-- A mission created with a log of two events at one instant, read in pages of one. -/
theorem written_pages_agree_and_cover_selection :
    ∃ places : List (ExecutionEvent × Nat),
      places.Perm (selectionLog.zipIdx.filter (·.1.isProviderHistory)) ∧
        ∀ source ∈ [none, some (reader (selectionRows 0 1))],
          ∃ items, Keyset.follow (readPage [selectionMission] source ⟨7⟩) (fun _ => 1) 3 none =
              some items ∧
            items.map Except.ok = places.map fun place => providerEventToHistoryItem place.1 := by
  have created : WrittenProjection ⟨[selectionMission], selectionRows 0 1⟩ :=
    @WrittenProjection.create [] _ _ _ .empty (by simp) (by unfold StoredMission; decide +kernel)
      (by decide +kernel)
  obtain ⟨-, cover⟩ := written_pages_agree_and_cover created ⟨7⟩
  obtain ⟨places, listed, -, reads⟩ := cover selectionMission (by simp) rfl
  exact ⟨places, listed, fun source known =>
    reads (fun _ => 1) (fun _ => ⟨le_rfl, by omega⟩) source known⟩

end PurchaseAgent
