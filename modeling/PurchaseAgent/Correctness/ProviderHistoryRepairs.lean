import PurchaseAgent.Correctness.EventFields
import PurchaseAgent.Correctness.EventStore
import PurchaseAgent.Correctness.ProviderHistoryPages

/-!
The tools that check and repair the provider history projection. A verification is
consistent exactly when the rows of the mission are the projections of its log, up
to the index that it does not compare. What the code itself writes verifies, and a
rebuild brings the same rows back whatever the table had become.
-/

namespace PurchaseAgent
open Collections SqlProviderHistory ProviderHistoryVerification

/-- What the verification compares of a projection, its sequence first. -/
def ProviderHistoryProjectionEvent.compared (event : ProviderHistoryProjectionEvent) :
    Nat × ProviderHistoryEventType × Time × ProviderHistoryPayload :=
  (event.sequence, event.eventType, event.occurredAt, event.payload)

/-- The report on a projection that shows `count` events as the log does. -/
def ProviderHistoryVerification.agreed (missionId : UUID) (count : Nat) :
    MissionProviderHistoryProjectionVerification :=
  ⟨missionId, .consistent, count, count, [], [], []⟩

theorem sequences_of_compared {xs ys : List ProviderHistoryProjectionEvent}
    (same : xs.map (·.compared) = ys.map (·.compared)) :
    xs.map (·.sequence) = ys.map (·.sequence) := by
  have first := congrArg (List.map Prod.fst) same
  rw [List.map_map, List.map_map] at first
  exact first

/-- Lists that compare alike hold alike projections under each sequence. -/
theorem bySequence_of_compared {xs ys : List ProviderHistoryProjectionEvent}
    (same : xs.map (·.compared) = ys.map (·.compared)) (sequence : Nat) :
    (bySequence xs sequence).map (·.compared) = (bySequence ys sequence).map (·.compared) := by
  induction xs generalizing ys with
  | nil =>
      cases ys with
      | nil => rfl
      | cons y later => cases same
  | cons x rest ih =>
      cases ys with
      | nil => cases same
      | cons y later =>
          obtain ⟨first, others⟩ := List.cons.inj same
          have number : x.sequence = y.sequence := congrArg Prod.fst first
          simp only [bySequence, List.find?_cons, number]
          split
          · exact congrArg some first
          · exact ih others

theorem mismatchFields_of_compared {expected actual : ProviderHistoryProjectionEvent}
    (same : expected.compared = actual.compared) : mismatchFields expected actual = [] := by
  simp only [ProviderHistoryProjectionEvent.compared, Prod.mk.injEq] at same
  obtain ⟨-, types, times, payloads⟩ := same
  simp [mismatchFields, types, times, payloads]

theorem mismatchAt_of_compared {canonical events : List ProviderHistoryProjectionEvent}
    (same : events.map (·.compared) = canonical.map (·.compared)) (sequence : Nat) :
    mismatchAt canonical events sequence = none := by
  have found := bySequence_of_compared same sequence
  cases expected : bySequence canonical sequence with
  | none => simp only [mismatchAt, expected]
  | some first =>
      cases actual : bySequence events sequence with
      | none => simp only [mismatchAt, expected, actual]
      | some second =>
          rw [expected, actual] at found
          have alike := mismatchFields_of_compared (Option.some.inj found).symm
          simp only [mismatchAt, expected, actual, alike, if_true]

/-- Rows that compare alike are reported as consistent. -/
theorem compare_agreed {missionId : UUID} {log : List ExecutionEvent}
    {canonical events : List ProviderHistoryProjectionEvent}
    (unique : (log.map (·.sequence)).Nodup)
    (projected : providerProjections missionId log.zipIdx = .ok canonical)
    (same : events.map (·.compared) = canonical.map (·.compared)) :
    compareProviderHistoryProjection missionId log events =
      .ok (agreed missionId canonical.length) := by
  have sequences := sequences_of_compared same
  have lengths : events.length = canonical.length := by
    simpa only [List.length_map] using congrArg List.length same
  have distinct : (canonical.map (·.sequence)).Nodup := by
    apply projection_sequences_nodup projected
    have events := congrArg (List.map ExecutionEvent.sequence) (List.zipIdx_map_fst 0 log)
    rw [List.map_map] at events
    exact events ▸ unique
  have none : ∀ xs : List Nat, xs.filter (· ∉ xs) = [] := by
    intro xs
    apply List.filter_eq_nil_iff.mpr
    simp
  have matched : ∀ xs : List Nat, xs.filterMap (mismatchAt canonical events) = [] := by
    intro xs
    apply List.filterMap_eq_nil_iff.mpr
    intro sequence _
    exact mismatchAt_of_compared same sequence
  simp only [compareProviderHistoryProjection, unique, sequences, distinct, projected, none, matched,
    bind, Except.bind, not_true_eq_false, if_false]
  simp [sortedBy, validateStatus, agreed, lengths]

/-- The canonical projections come in the order of their sequences. -/
theorem projections_sorted {missionId : UUID} {indexed : List (ExecutionEvent × Nat)}
    {projections : List ProviderHistoryProjectionEvent}
    (h : providerProjections missionId indexed = .ok projections)
    (increasing : indexed.Pairwise (·.1.sequence < ·.1.sequence)) :
    projections.Pairwise (·.sequence < ·.sequence) := by
  induction indexed generalizing projections with
  | nil =>
      obtain rfl := Except.ok.inj h
      exact .nil
  | cons x rest ih =>
      obtain ⟨event, index⟩ := x
      obtain ⟨least, increasing⟩ := List.pairwise_cons.mp increasing
      simp only [providerProjections] at h
      split at h
      · cases h
      · cases h
      · rename_i others first read
        obtain rfl := Except.ok.inj h
        exact ih read increasing
      · rename_i projection others first read
        obtain rfl := Except.ok.inj h
        apply List.pairwise_cons.mpr
        refine ⟨fun other member => ?_, ih read increasing⟩
        obtain ⟨-, item, shown, rfl⟩ := executionEventToProviderProjection_ok first
        obtain ⟨y, listed, read'⟩ := (providerProjections_ok read).2 other member
        obtain ⟨-, item', shown', rfl⟩ := executionEventToProviderProjection_ok read'
        have below := least y listed
        simp only [(providerEventToHistoryItem_ok shown).1, (providerEventToHistoryItem_ok shown').1]
        exact below

theorem projections_payload {missionId : UUID} {indexed : List (ExecutionEvent × Nat)}
    {projections : List ProviderHistoryProjectionEvent}
    (h : providerProjections missionId indexed = .ok projections) :
    ∀ projection ∈ projections, projection.payload.eventType = projection.eventType := by
  intro projection member
  obtain ⟨x, -, read⟩ := (providerProjections_ok h).2 projection member
  obtain ⟨-, item, -, rfl⟩ := executionEventToProviderProjection_ok read
  exact item.payload_type

theorem sorted_zipIdx {log : List ExecutionEvent}
    (increasing : log.Pairwise (·.sequence < ·.sequence)) :
    log.zipIdx.Pairwise (·.1.sequence < ·.1.sequence) := by
  have events := List.zipIdx_map_fst 0 log
  rw [← events, List.pairwise_map] at increasing
  exact increasing

/-- A consistent report means that the rows show what the log shows. -/
theorem compared_of_consistent {missionId : UUID} {log : List ExecutionEvent}
    {events : List ProviderHistoryProjectionEvent}
    {report : MissionProviderHistoryProjectionVerification}
    (increasing : log.Pairwise (·.sequence < ·.sequence))
    (sorted : events.Pairwise (·.sequence ≤ ·.sequence))
    (payloads : ∀ event ∈ events, event.payload.eventType = event.eventType)
    (h : compareProviderHistoryProjection missionId log events = .ok report)
    (consistent : report.status = .consistent) :
    ∃ canonical, providerProjections missionId log.zipIdx = .ok canonical ∧
      events.map (·.compared) = canonical.map (·.compared) := by
  obtain ⟨-, distinct, canonical, projected, shown, expected, agree⟩ :=
    compare_consistent h consistent
  have canonicalSorted := projections_sorted projected (sorted_zipIdx increasing)
  have canonicalDistinct : (canonical.map (·.sequence)).Nodup :=
    List.pairwise_map.mpr (canonicalSorted.imp Nat.ne_of_lt)
  have eventsSorted : events.Pairwise (·.sequence < ·.sequence) :=
    ((List.pairwise_map.mp distinct).and sorted).imp fun both => Nat.lt_of_le_of_ne both.2 both.1
  -- one sequence, one content
  have alike : ∀ a ∈ canonical, ∀ b ∈ events, a.sequence = b.sequence →
      a.compared = b.compared := by
    intro a ha b hb same
    have found : bySequence canonical a.sequence = some a := bySequence_self canonicalDistinct ha
    have found' : bySequence events a.sequence = some b := same ▸ bySequence_self distinct hb
    have fields := agree a.sequence
    simp only [mismatchAt, found, found', ite_eq_left_iff, reduceCtorEq, imp_false,
      not_not] at fields
    obtain ⟨types, times, contents⟩ :=
      eq_of_no_mismatch (projections_payload projected a ha) (payloads b hb) fields
    simp only [ProviderHistoryProjectionEvent.compared, same, types, times, contents]
  refine ⟨canonical, projected, ?_⟩
  apply @eq_of_same_members _ Nat _ Prod.fst
  · exact List.pairwise_map.mpr eventsSorted
  · exact List.pairwise_map.mpr canonicalSorted
  · intro content
    constructor
    · intro member
      obtain ⟨b, hb, rfl⟩ := List.mem_map.mp member
      obtain ⟨a, ha, same⟩ := expected b hb
      exact List.mem_map.mpr ⟨a, ha, alike a ha b hb same⟩
    · intro member
      obtain ⟨a, ha, rfl⟩ := List.mem_map.mp member
      obtain ⟨b, hb, same⟩ := shown a ha
      exact List.mem_map.mpr ⟨b, hb, (alike a ha b hb same.symm).symm⟩

theorem listAll_sorted {table : Table} {missionId : UUID}
    {events : List ProviderHistoryProjectionEvent}
    (read : listAllForMission table missionId = .ok events) :
    events.Pairwise (·.sequence ≤ ·.sequence) ∧
      ∀ event ∈ events, event.payload.eventType = event.eventType := by
  have pairs := forall₂_of_mapM read
  have sorted := sortedBy_pairwise (·.sequence) (rowsOf missionId table)
  clear read
  generalize sortedBy (·.sequence) (rowsOf missionId table) = rows at pairs sorted
  induction pairs with
  | nil => simp
  | @cons row event rows events first others ih =>
      obtain ⟨least, sorted⟩ := List.pairwise_cons.mp sorted
      obtain ⟨below, payloads⟩ := ih sorted
      have column := projectionFromModel_ok first
      refine ⟨List.pairwise_cons.mpr ⟨fun other member => ?_, below⟩, ?_⟩
      · obtain ⟨row', listed, read'⟩ := exists_of_forall₂ others.flip other member
        have above := least row' listed
        have column' := (projectionFromModel_ok read').2.1
        have own := column.2.1
        omega
      · exact List.forall_mem_cons.mpr ⟨column.2.2.2.2, payloads⟩

/-- The verification is exact: it is consistent when, and only when, the rows of the
mission show the provider events of its log, all of them and nothing else. -/
theorem verify_consistent_iff {repository : MissionReadRepository} {table : Table}
    {mission : Mission} (found : repository.get mission.id = some mission)
    (valid : validateEventSequence mission.executionLog mission.lastEventSequence = .ok ()) :
    (∃ report, verify repository table mission.id = .ok report ∧ report.status = .consistent) ↔
      ∃ canonical events,
        providerProjections mission.id mission.executionLog.zipIdx = .ok canonical ∧
          listAllForMission table mission.id = .ok events ∧
            events.map (·.compared) = canonical.map (·.compared) := by
  have increasing := (validateEventSequence_ok_iff.mp valid).1.increasing
  have unique : (mission.executionLog.map (·.sequence)).Nodup :=
    List.pairwise_map.mpr (increasing.imp Nat.ne_of_lt)
  constructor
  · intro accepted
    obtain ⟨report, verified, consistent⟩ := accepted
    simp only [verify, found] at verified
    cases read : listAllForMission table mission.id with
    | error error => simp [read, bind, Except.bind] at verified
    | ok events =>
        simp only [read, bind, Except.bind] at verified
        obtain ⟨sorted, payloads⟩ := listAll_sorted read
        obtain ⟨canonical, projected, same⟩ :=
          compared_of_consistent increasing sorted payloads verified consistent
        exact ⟨canonical, events, projected, rfl, same⟩
  · intro alike
    obtain ⟨canonical, events, projected, read, same⟩ := alike
    refine ⟨agreed mission.id canonical.length, ?_, rfl⟩
    simp only [verify, found, read, bind, Except.bind]
    exact compare_agreed unique projected same

/-- With the rows of the sample log, which then compare alike. -/
theorem verify_consistent_iff_selection :
    (∃ report, verify [selectionMission] (selectionRows 1 0) ⟨7⟩ = .ok report ∧
        report.status = .consistent) ↔
      ∃ canonical events,
        providerProjections ⟨7⟩ selectionLog.zipIdx = .ok canonical ∧
          listAllForMission (selectionRows 1 0) ⟨7⟩ = .ok events ∧
            events.map (·.compared) = canonical.map (·.compared) :=
  @verify_consistent_iff [selectionMission] (selectionRows 1 0) selectionMission rfl
    (by decide +kernel)

/-! What the code has written is verified. -/

theorem projections_length {missionId : UUID} {indexed : List (ExecutionEvent × Nat)}
    {projections : List ProviderHistoryProjectionEvent}
    (h : providerProjections missionId indexed = .ok projections) :
    projections.length = (indexed.filter (·.1.isProviderHistory)).length := by
  induction indexed generalizing projections with
  | nil =>
      obtain rfl := Except.ok.inj h
      rfl
  | cons x rest ih =>
      obtain ⟨event, index⟩ := x
      simp only [providerProjections] at h
      split at h
      · cases h
      · cases h
      · rename_i others first read
        obtain rfl := Except.ok.inj h
        have skipped : event.isProviderHistory = false := by
          by_contra provider
          simp only [executionEventToProviderProjection, provider, if_false] at first
          obtain ⟨item, -, same⟩ := exists_of_map_ok first
          cases same
        rw [List.filter_cons, skipped]
        exact ih read
      · rename_i projection others first read
        obtain rfl := Except.ok.inj h
        have kept := (executionEventToProviderProjection_ok first).1
        rw [List.filter_cons, kept, if_pos rfl, List.length_cons, List.length_cons, ih read]

/-- The number of provider events in a log. -/
def providerEventCount (log : List ExecutionEvent) : Nat :=
  (log.filter (·.isProviderHistory)).length

theorem projections_count {missionId : UUID} {log : List ExecutionEvent}
    {projections : List ProviderHistoryProjectionEvent}
    (h : providerProjections missionId log.zipIdx = .ok projections) :
    projections.length = providerEventCount log := by
  have events := congrArg (List.filter (·.isProviderHistory)) (List.zipIdx_map_fst 0 log)
  rw [List.filter_map] at events
  rw [projections_length h, providerEventCount, ← events, List.length_map]
  rfl

theorem Projected.listAll {db : ProviderHistoryDatabase} (projected : Projected db)
    {mission : Mission} (member : mission ∈ db.missions) :
    listAllForMission db.table mission.id = .ok (projectionsOf mission) := by
  have projects := projected.projects mission member
  have increasing := (validateEventSequence_ok_iff.mp (projected.stored mission member)).1.increasing
  have sorted := projections_sorted projects (sorted_zipIdx increasing)
  have inOrder : ((projectionsOf mission).map toModel).Pairwise (·.sequence ≤ ·.sequence) := by
    rw [List.pairwise_map]
    refine sorted.imp fun {a b} less => ?_
    have below : a.sequence < b.sequence := less
    simp only [toModel]
    omega
  rw [listAllForMission, projected.rows mission member, sortedBy_of_pairwise _ _ inOrder]
  have read : ∀ projection ∈ projectionsOf mission,
      projectionFromModel (toModel projection) = .ok projection := fun projection listed =>
    projectionFromModel_toModel (projections_payload projects projection listed)
  have reads : (projectionsOf mission).mapM (projectionFromModel ∘ toModel) =
      .ok ((projectionsOf mission).map id) := mapM_eq_ok read
  rw [List.map_id] at reads
  rwa [List.mapM_map]

theorem Projected.verifies {db : ProviderHistoryDatabase} (projected : Projected db)
    {mission : Mission} (member : mission ∈ db.missions) :
    verify db.missions db.table mission.id =
      .ok (agreed mission.id (providerEventCount mission.executionLog)) := by
  have found := get_of_mem projected.ids member
  have projects := projected.projects mission member
  have increasing := (validateEventSequence_ok_iff.mp (projected.stored mission member)).1.increasing
  have unique : (mission.executionLog.map (·.sequence)).Nodup :=
    List.pairwise_map.mpr (increasing.imp Nat.ne_of_lt)
  simp only [verify, found, projected.listAll member, bind, Except.bind]
  rw [compare_agreed unique projects rfl, projections_count projects]

/-! A rebuild. -/

theorem projects_of_readable {mission : Mission} (readable : ReadableLog mission.executionLog) :
    Projects mission := by
  have all : ∀ indexed : List (ExecutionEvent × Nat),
      (∀ x ∈ indexed, x.1 ∈ mission.executionLog) →
        ∃ projections, providerProjections mission.id indexed = .ok projections := by
    intro indexed inside
    induction indexed with
    | nil => exact ⟨[], rfl⟩
    | cons x rest ih =>
        obtain ⟨event, index⟩ := x
        obtain ⟨here, later⟩ := List.forall_mem_cons.mp inside
        obtain ⟨projections, read⟩ := ih later
        cases provider : event.isProviderHistory with
        | false =>
            refine ⟨projections, ?_⟩
            simp only [providerProjections, executionEventToProviderProjection, provider, if_true,
              read]
        | true =>
            obtain ⟨item, shown⟩ := readable event here provider
            have first : executionEventToProviderProjection mission.id event index =
                .ok (some ⟨mission.id, item.sequence, item.eventType, item.occurredAt,
                  item.payload, index, item.sequence_ge⟩) := by
              simp only [executionEventToProviderProjection, provider, Bool.true_eq_false,
                if_false, shown, Except.map]
            exact ⟨_, by simp only [providerProjections, first, read]; rfl⟩
  obtain ⟨projections, read⟩ := all mission.executionLog.zipIdx fun x member =>
    List.fst_mem_of_mem_zipIdx member
  have same : projectionsOf mission = projections := by simp only [projectionsOf, read]
  exact read.trans (congrArg Except.ok same.symm)

theorem readable_of_projects {mission : Mission} (projects : Projects mission) :
    ReadableLog mission.executionLog := by
  intro event member provider
  obtain ⟨index, indexed⟩ := exists_mem_zipIdx member
  obtain ⟨projection, read, -⟩ := (providerProjections_ok projects).1 _ indexed
  simp only [executionEventToProviderProjection, provider, Bool.true_eq_false, if_false] at read
  obtain ⟨item, shown, -⟩ := exists_of_map_ok read
  exact ⟨item, shown⟩

/-- The primary key of a row. -/
def rowKey (row : MissionProviderHistoryEventModel) : UUID × Int := (row.missionId, row.sequence)

/-- The batches of a rebuild meet no key twice. -/
theorem projectLoop_of_projects {table : Table} {pending : List ProviderHistoryProjectionEvent}
    {missions : List Mission} (projects : ∀ mission ∈ missions, Projects mission)
    (distinct : ((table ++ (pending ++ missions.flatMap projectionsOf).map toModel).map
      rowKey).Nodup) :
    projectLoop table pending missions =
      .ok (table ++ (pending ++ missions.flatMap projectionsOf).map toModel) := by
  induction missions generalizing table pending with
  | nil =>
      rw [List.flatMap_nil, List.append_nil] at distinct ⊢
      cases pending with
      | nil => simp [projectLoop]
      | cons first rest => exact if_pos distinct
  | cons mission rest ih =>
      obtain ⟨first, later⟩ := List.forall_mem_cons.mp projects
      rw [List.flatMap_cons, ← List.append_assoc] at distinct ⊢
      have read : providerProjections mission.id mission.executionLog.zipIdx =
          .ok (projectionsOf mission) := first
      simp only [projectLoop, read, bind, Except.bind]
      split
      · -- the batch is full and written
        have written : table ++ (pending ++ projectionsOf mission ++
            rest.flatMap projectionsOf).map toModel =
              (table ++ (pending ++ projectionsOf mission).map toModel) ++
                ([] ++ rest.flatMap projectionsOf).map toModel := by
          rw [List.nil_append, List.append_assoc table, ← List.map_append]
        rw [written] at distinct ⊢
        have batch : ((table ++ (pending ++ projectionsOf mission).map toModel).map
            fun row => (row.missionId, row.sequence)).Nodup := by
          rw [List.map_append] at distinct
          exact (List.nodup_append.mp distinct).1
        rw [appendMany, if_pos batch]
        exact ih later distinct
      · exact ih later distinct

theorem rowKeys_nodup {missions : List Mission} (ids : (missions.map (·.id)).Nodup)
    (stored : ∀ mission ∈ missions, StoredMission mission)
    (projects : ∀ mission ∈ missions, Projects mission) :
    (((missions.flatMap projectionsOf).map toModel).map rowKey).Nodup := by
  induction missions with
  | nil => exact .nil
  | cons mission rest ih =>
      obtain ⟨new, ids⟩ := List.nodup_cons.mp ids
      obtain ⟨valid, stored⟩ := List.forall_mem_cons.mp stored
      obtain ⟨first, projects⟩ := List.forall_mem_cons.mp projects
      rw [List.flatMap_cons, List.map_append, List.map_append, List.nodup_append]
      refine ⟨?_, ih ids stored projects, ?_⟩
      · have increasing := (validateEventSequence_ok_iff.mp valid).1.increasing
        have sorted := projections_sorted first (sorted_zipIdx increasing)
        rw [List.map_map, List.Nodup, List.pairwise_map]
        refine sorted.imp fun {a b} less same => ?_
        have sequences : (a.sequence : Int) = b.sequence := congrArg Prod.snd same
        have below : a.sequence < b.sequence := less
        omega
      · intro key here key' there same
        rw [List.map_map] at here there
        obtain ⟨a, ha, rfl⟩ := List.mem_map.mp here
        obtain ⟨b, hb, rfl⟩ := List.mem_map.mp there
        obtain ⟨other, inside, hb⟩ := List.mem_flatMap.mp hb
        have ids : a.missionId = b.missionId := congrArg Prod.fst same
        rw [first.missionId a ha, (projects other inside).missionId b hb] at ids
        exact new (List.mem_map.mpr ⟨other, inside, ids.symm⟩)

theorem projectAll_succeeds_iff {missions : List Mission} (ids : (missions.map (·.id)).Nodup)
    (stored : ∀ mission ∈ missions, StoredMission mission) :
    (∃ table, projectAll missions = .ok table) ↔
      ∀ mission ∈ missions, ReadableLog mission.executionLog := by
  have order := sortedBy_perm (fun mission : Mission => mission.id.int) missions
  constructor
  · intro rebuilt mission member
    obtain ⟨table, written⟩ := rebuilt
    exact readable_of_projects ((projectLoop_ok written).1 mission (order.mem_iff.mpr member))
  · intro readable
    have projects : ∀ mission ∈ sortedBy (fun mission : Mission => mission.id.int) missions,
        Projects mission := fun mission member =>
      projects_of_readable (readable mission (order.mem_iff.mp member))
    have distinct := rowKeys_nodup ((order.map (·.id)).nodup_iff.mpr ids)
      (fun mission member => stored mission (order.mem_iff.mp member)) projects
    exact ⟨_, projectLoop_of_projects projects distinct⟩

/-- Tables with the same rows of every mission have the same rows. -/
theorem perm_of_rows {missions : List Mission} {table table' : Table}
    (known : ∀ row ∈ table, row.missionId ∈ missions.map (·.id))
    (known' : ∀ row ∈ table', row.missionId ∈ missions.map (·.id))
    (same : ∀ mission ∈ missions, rowsOf mission.id table = rowsOf mission.id table') :
    table.Perm table' := by
  apply List.perm_iff_count.mpr
  intro row
  have own : ∀ rows : Table, rows.count row = (rowsOf row.missionId rows).count row := by
    intro rows
    apply Eq.symm
    apply List.count_filter
    exact decide_eq_true rfl
  by_cases listed : row.missionId ∈ missions.map (·.id)
  · obtain ⟨mission, member, id⟩ := List.mem_map.mp listed
    rw [own table, own table', ← id, same mission member]
  · rw [List.count_eq_zero_of_not_mem fun member => listed (known row member),
      List.count_eq_zero_of_not_mem fun member => listed (known' row member)]

/-- The rows of a rebuild are those that were written. -/
theorem projectAll_restores {missions : List Mission} (ids : (missions.map (·.id)).Nodup)
    (stored : ∀ mission ∈ missions, StoredMission mission) {written : Table}
    (history : WrittenProjection ⟨missions, written⟩) :
    ∃ table, projectAll missions = .ok table ∧ table.Perm written := by
  have before := history.projected
  obtain ⟨table, rebuilt⟩ := (projectAll_succeeds_iff ids stored).mpr fun mission member =>
    readable_of_projects (before.projects mission member)
  have after := Projected.rebuilt ids stored rebuilt
  refine ⟨table, rebuilt, perm_of_rows after.known before.known fun mission member => ?_⟩
  rw [after.rows mission member, before.rows mission member]

section
variable {fields : EventFields} {newIds : UUID → Nat → UUID × UUID}

/-- A rebuild reads the rows, and goes on from the missions that it has read. -/
theorem rebuildLoop_ok_iff {table table' : Table} {pending : List ProviderHistoryProjectionEvent}
    {rows : List PersistedMission} :
    rebuildLoop fields newIds table pending rows = .ok table' ↔
      ∃ missions, rows.mapM (SqlAlchemyMissionRepository.load fields newIds) = .ok missions ∧
        projectLoop table pending missions = .ok table' := by
  induction rows generalizing table pending with
  | nil =>
      rw [List.mapM_nil]
      simp only [pure, Except.pure, Except.ok.injEq, exists_eq_left']
      rfl
  | cons row rest ih =>
      rw [List.mapM_cons]
      cases loaded : SqlAlchemyMissionRepository.load fields newIds row with
      | error error => simp [rebuildLoop, loaded, bind, Except.bind]
      | ok mission =>
          have others : (∃ missions, (do
              let missions ← rest.mapM (SqlAlchemyMissionRepository.load fields newIds)
              pure (mission :: missions)) = .ok missions ∧
                projectLoop table pending missions = .ok table') ↔
              ∃ missions, rest.mapM (SqlAlchemyMissionRepository.load fields newIds) =
                .ok missions ∧ projectLoop table pending (mission :: missions) = .ok table' := by
            cases rest.mapM (SqlAlchemyMissionRepository.load fields newIds) with
            | error error => simp [bind, Except.bind]
            | ok missions => simp [bind, Except.bind, pure, Except.pure]
          refine Iff.trans ?_ others.symm
          simp only [rebuildLoop, projectLoop, loaded, bind, Except.bind]
          cases projected : providerProjections mission.id mission.executionLog.zipIdx with
          | error error => simp
          | ok events =>
              simp only
              split
              · cases appendMany table (pending ++ events) with
                | error error => simp
                | ok batch => exact ih
              · exact ih

/-- The order of the rows is the order of the missions. -/
theorem mapM_sortedBy_load {rows : List PersistedMission} {missions : List Mission}
    (loads : rows.mapM (SqlAlchemyMissionRepository.load fields newIds) = .ok missions) :
    (sortedBy (·.mission.id.int) rows).mapM (SqlAlchemyMissionRepository.load fields newIds) =
      .ok (sortedBy (·.id.int) missions) := by
  have each := mapM_ok_iff.1 ⟨missions, loads⟩
  cases rows with
  | nil =>
      obtain rfl : [] = missions := Except.ok.inj loads
      rfl
  | cons row rest =>
      have some : Nonempty Mission := ⟨row.mission⟩
      obtain ⟨read, reads⟩ := exists_values (SqlAlchemyMissionRepository.load fields newIds) each
      have listed := mapM_eq_ok reads
      obtain rfl := Except.ok.inj (loads.symm.trans listed)
      have sorted := mapM_eq_ok fun row member =>
        reads row ((mem_sortedBy (fun row : PersistedMission => row.mission.id.int) _).1 member)
      rw [sorted]
      congr 1
      apply List.map_insertionSort
      intro a ha b hb
      have left : (read a).id = a.mission.id := (missionFromModel_kept (reads a ha)).id
      have right : (read b).id = b.mission.id := (missionFromModel_kept (reads b hb)).id
      simp only [left, right]

theorem rebuild_ok_iff {rows : List PersistedMission} {table : Table} :
    rebuild fields newIds rows = .ok table ↔
      ∃ missions, rows.mapM (SqlAlchemyMissionRepository.load fields newIds) = .ok missions ∧
        projectAll missions = .ok table := by
  rw [rebuild, rebuildLoop_ok_iff]
  constructor
  · rintro ⟨sorted, loads, projected⟩
    have each := mapM_ok_iff.1 ⟨sorted, loads⟩
    obtain ⟨missions, listed⟩ := mapM_ok_iff.2 fun row member =>
      each row ((mem_sortedBy (fun row : PersistedMission => row.mission.id.int) rows).2 member)
    obtain rfl := Except.ok.inj (loads.symm.trans (mapM_sortedBy_load listed))
    exact ⟨missions, listed, projected⟩
  · rintro ⟨missions, loads, projected⟩
    exact ⟨_, mapM_sortedBy_load loads, projected⟩

/-- The log of a mission that was read is in sequence. -/
theorem stored_of_load {row : PersistedMission} {mission : Mission}
    (loaded : SqlAlchemyMissionRepository.load fields newIds row = .ok mission) :
    StoredMission mission := by
  rw [StoredMission, (missionFromModel_kept loaded).lastEventSequence]
  simp only [SqlAlchemyMissionRepository.load, missionFromModel, bind, Except.bind] at loaded
  split at loaded
  · cases loaded
  · rename_i log restored
    obtain ⟨-, sequenced⟩ := MissionJsonEventStore.deserialize_ok fields restored
    split at loaded
    · obtain rfl := Except.ok.inj loaded
      exact sequenced
    · obtain ⟨resolvedProviderId, reservationId, rfl⟩ := Mission.validate_ok loaded
      exact sequenced

/-- The missions that were read are those of the rows. -/
theorem stored_of_loads {rows : List PersistedMission} {missions : List Mission}
    (loads : rows.mapM (SqlAlchemyMissionRepository.load fields newIds) = .ok missions) :
    missions.map (·.id) = rows.map (·.mission.id) ∧
      ∀ mission ∈ missions, StoredMission mission := by
  have pairs := forall₂_of_mapM loads
  clear loads
  induction pairs with
  | nil => simp
  | cons first _ ih =>
      obtain ⟨ids, stored⟩ := ih
      refine ⟨?_, List.forall_mem_cons.2 ⟨stored_of_load first, stored⟩⟩
      rw [List.map_cons, List.map_cons, ids, (missionFromModel_kept first).id]

end

/-- A rebuild, from whatever the table had become. It succeeds unless some row or some
provider event cannot be read; then every mission verifies, and the rows are those that
the saves themselves would have written. -/
theorem rebuild_restores {fields : EventFields} {newIds : UUID → Nat → UUID × UUID}
    {rows : List PersistedMission} (ids : (rows.map (·.mission.id)).Nodup) :
    ((∃ table, rebuild fields newIds rows = .ok table) ↔
        ∀ row ∈ rows, ∃ mission, SqlAlchemyMissionRepository.load fields newIds row = .ok mission ∧
          ReadableLog mission.executionLog) ∧
      ∀ missions, rows.mapM (SqlAlchemyMissionRepository.load fields newIds) = .ok missions →
        (∀ table, rebuild fields newIds rows = .ok table → ∀ mission ∈ missions,
          verify missions table mission.id =
            .ok (agreed mission.id (providerEventCount mission.executionLog))) ∧
        ∀ written, WrittenProjection ⟨missions, written⟩ →
          ∃ table, rebuild fields newIds rows = .ok table ∧ table.Perm written := by
  refine ⟨⟨fun rebuilt row member => ?_, fun readable => ?_⟩, fun missions loads => ?_⟩
  · obtain ⟨table, rebuilt⟩ := rebuilt
    obtain ⟨missions, loads, projected⟩ := rebuild_ok_iff.1 rebuilt
    obtain ⟨same, stored⟩ := stored_of_loads loads
    obtain ⟨mission, listed, loaded⟩ := exists_of_forall₂ (forall₂_of_mapM loads) row member
    exact ⟨mission, loaded,
      (projectAll_succeeds_iff (same ▸ ids) stored).1 ⟨table, projected⟩ mission listed⟩
  · obtain ⟨missions, loads⟩ := mapM_ok_iff.2 fun row member =>
      (readable row member).imp fun _ read => read.1
    obtain ⟨same, stored⟩ := stored_of_loads loads
    obtain ⟨table, projected⟩ := (projectAll_succeeds_iff (same ▸ ids) stored).2
      fun mission listed => by
        obtain ⟨row, member, loaded⟩ := exists_of_forall₂ (forall₂_of_mapM loads).flip mission listed
        obtain ⟨again, read, shown⟩ := readable row member
        obtain rfl := Except.ok.inj (loaded.symm.trans read)
        exact shown
    exact ⟨table, rebuild_ok_iff.2 ⟨missions, loads, projected⟩⟩
  · obtain ⟨same, stored⟩ := stored_of_loads loads
    have distinct : (missions.map (·.id)).Nodup := same ▸ ids
    refine ⟨fun table rebuilt mission member => ?_, fun written history => ?_⟩
    · obtain ⟨read, loads', projected⟩ := rebuild_ok_iff.1 rebuilt
      obtain rfl := Except.ok.inj (loads.symm.trans loads')
      exact (Projected.rebuilt distinct stored projected).verifies member
    · obtain ⟨table, projected, restored⟩ := projectAll_restores distinct stored history
      exact ⟨table, rebuild_ok_iff.2 ⟨missions, loads, projected⟩, restored⟩

def selectionRow : PersistedMission :=
  ⟨selectionMission, MissionJsonEventStore.dumps (.plain fun _ _ => ⟨1⟩) selectionLog⟩

/-- The sample mission, whose rows are lost and then restored. -/
theorem rebuild_restores_selection :
    ∃ table, rebuild (.plain fun _ _ => ⟨1⟩) (fun _ _ => (⟨1⟩, ⟨1⟩)) [selectionRow] = .ok table ∧
      verify [selectionMission] table ⟨7⟩ = .ok selectionReport ∧
      table.Perm (selectionRows 0 1) := by
  have created : WrittenProjection ⟨[selectionMission], selectionRows 0 1⟩ :=
    @WrittenProjection.create [] _ _ _ .empty (by simp) (by unfold StoredMission; decide +kernel)
      (by decide +kernel)
  obtain ⟨-, restored⟩ := @rebuild_restores (.plain fun _ _ => ⟨1⟩) (fun _ _ => (⟨1⟩, ⟨1⟩))
    [selectionRow] (by simp)
  obtain ⟨verified, again⟩ := restored [selectionMission] (by decide +kernel)
  obtain ⟨table, rebuilt, same⟩ := again (selectionRows 0 1) created
  exact ⟨table, rebuilt, verified table rebuilt selectionMission (by simp), same⟩

end PurchaseAgent
