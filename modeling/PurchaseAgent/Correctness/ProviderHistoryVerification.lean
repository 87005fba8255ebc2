import PurchaseAgent.Correctness.ProviderHistory

/-!
What a verification that reports `CONSISTENT` says about the readers: the
increments always agree with the log, the pages exactly when the column that it
does not compare, `legacy_event_index`, is right as well.
-/

namespace PurchaseAgent
open Collections SqlProviderHistory ProviderHistoryVerification

theorem executionEventToProviderProjection_ok {missionId : UUID} {event : ExecutionEvent}
    {index : Nat} {projection : ProviderHistoryProjectionEvent}
    (h : executionEventToProviderProjection missionId event index = .ok (some projection)) :
    event.isProviderHistory ∧ ∃ item, providerEventToHistoryItem event = .ok item ∧
      projection = ⟨missionId, item.sequence, item.eventType, item.occurredAt, item.payload, index,
        item.sequence_ge⟩ := by
  unfold executionEventToProviderProjection at h
  split at h
  · cases h
  · rename_i provider
    obtain ⟨item, read, same⟩ := exists_of_map_ok h
    exact ⟨Bool.eq_true_of_not_eq_false provider, item, read, Option.some.inj same⟩

/-- The projections of a list of events, event by event. -/
theorem providerProjections_ok {missionId : UUID} {indexed : List (ExecutionEvent × Nat)}
    {projections : List ProviderHistoryProjectionEvent}
    (h : providerProjections missionId indexed = .ok projections) :
    (∀ x ∈ indexed, ∃ projection, executionEventToProviderProjection missionId x.1 x.2 =
        .ok projection ∧ ∀ kept ∈ projection, kept ∈ projections) ∧
      ∀ kept ∈ projections, ∃ x ∈ indexed,
        executionEventToProviderProjection missionId x.1 x.2 = .ok (some kept) := by
  induction indexed generalizing projections with
  | nil =>
      obtain rfl := Except.ok.inj h
      simp
  | cons x rest ih =>
      obtain ⟨event, index⟩ := x
      simp only [providerProjections] at h
      split at h
      · cases h
      · cases h
      · rename_i others first later
        obtain rfl := Except.ok.inj h
        obtain ⟨forward, backward⟩ := ih later
        refine ⟨?_, fun kept member => ?_⟩
        · rintro y (_ | ⟨_, member⟩)
          · exact ⟨none, first, by simp⟩
          · exact forward y member
        · obtain ⟨y, member', read⟩ := backward kept member
          exact ⟨y, List.mem_cons_of_mem _ member', read⟩
      · rename_i projection others first later
        obtain rfl := Except.ok.inj h
        obtain ⟨forward, backward⟩ := ih later
        refine ⟨?_, ?_⟩
        · rintro y (_ | ⟨_, member⟩)
          · exact ⟨some projection, first, by simp⟩
          · obtain ⟨found, read, inside⟩ := forward y member
            exact ⟨found, read, fun kept chosen => List.mem_cons_of_mem _ (inside kept chosen)⟩
        · rintro kept (_ | ⟨_, member⟩)
          · exact ⟨_, List.mem_cons_self, first⟩
          · obtain ⟨y, member', read⟩ := backward kept member
            exact ⟨y, List.mem_cons_of_mem _ member', read⟩

theorem projection_sequences_nodup {missionId : UUID} {indexed : List (ExecutionEvent × Nat)}
    {projections : List ProviderHistoryProjectionEvent}
    (h : providerProjections missionId indexed = .ok projections)
    (unique : (indexed.map (·.1.sequence)).Nodup) : (projections.map (·.sequence)).Nodup := by
  refine List.Nodup.sublist ?_ unique
  induction indexed generalizing projections with
  | nil =>
      obtain rfl := Except.ok.inj h
      exact .slnil
  | cons x rest ih =>
      obtain ⟨event, index⟩ := x
      have later := (List.nodup_cons.mp unique).2
      simp only [providerProjections] at h
      split at h
      · cases h
      · cases h
      · rename_i others first read
        obtain rfl := Except.ok.inj h
        exact (ih read later).cons _
      · rename_i projection others first read
        obtain rfl := Except.ok.inj h
        obtain ⟨-, item, shown, rfl⟩ := executionEventToProviderProjection_ok first
        simp only [List.map_cons, (providerEventToHistoryItem_ok shown).1]
        exact (ih read later).cons_cons _

/-- What is compared of two projections of one sequence. -/
theorem eq_of_no_mismatch {expected actual : ProviderHistoryProjectionEvent}
    (types : expected.payload.eventType = expected.eventType)
    (types' : actual.payload.eventType = actual.eventType)
    (h : mismatchFields expected actual = []) :
    expected.eventType = actual.eventType ∧ expected.occurredAt = actual.occurredAt ∧
      expected.payload = actual.payload := by
  simp only [mismatchFields, List.append_eq_nil_iff] at h
  obtain ⟨⟨eventType, occurredAt⟩, payload⟩ := h
  have eventType : expected.eventType = actual.eventType := by
    by_contra differs
    simp [differs] at eventType
  have occurredAt : expected.occurredAt = actual.occurredAt := by
    by_contra differs
    simp [differs] at occurredAt
  have dumps : expected.payload.dump = actual.payload.dump := by
    by_contra differs
    simp [differs] at payload
  refine ⟨eventType, occurredAt, ProviderHistoryPayload.dump_injective ?_ dumps⟩
  rw [types, types', eventType]

theorem exists_mem_zipIdx {log : List ExecutionEvent} {event : ExecutionEvent}
    (member : event ∈ log) : ∃ index, (event, index) ∈ log.zipIdx := by
  obtain ⟨index, found⟩ := List.mem_iff_getElem?.mp member
  exact ⟨index, List.mk_mem_zipIdx_iff_getElem?.mpr found⟩

/-- In a valid log an event is found by its sequence, at one index. -/
theorem place_eq_of_sequence {log : List ExecutionEvent}
    (increasing : log.Pairwise (·.sequence < ·.sequence)) {event event' : ExecutionEvent}
    {index index' : Nat} (h : (event, index) ∈ log.zipIdx) (h' : (event', index') ∈ log.zipIdx)
    (same : event.sequence = event'.sequence) : event = event' ∧ index = index' := by
  rw [List.mk_mem_zipIdx_iff_getElem?] at h h'
  obtain ⟨inside, rfl⟩ := List.getElem?_eq_some_iff.mp h
  obtain ⟨inside', rfl⟩ := List.getElem?_eq_some_iff.mp h'
  have place : index = index' := by
    rcases Nat.lt_trichotomy index index' with less | equal | more
    · have := List.pairwise_iff_getElem.mp increasing index index' inside inside' less
      omega
    · exact equal
    · have := List.pairwise_iff_getElem.mp increasing index' index inside' inside more
      omega
  subst place
  exact ⟨rfl, rfl⟩

theorem sortedBy_eq_nil {κ : Type} [LinearOrder κ] {key : Nat → κ} {xs : List Nat}
    (h : sortedBy key xs = []) : xs = [] := by
  have same := sortedBy_perm key xs
  rw [h] at same
  exact same.symm.eq_nil

theorem validateStatus_ok {verification report : MissionProviderHistoryProjectionVerification}
    (h : validateStatus verification = .ok report) : report = verification := by
  unfold validateStatus at h
  simp only at h
  split_ifs at h <;> exact (Except.ok.inj h).symm

/-- A consistent comparison pairs the projections of the log with the rows. -/
theorem compare_consistent {missionId : UUID} {log : List ExecutionEvent}
    {events : List ProviderHistoryProjectionEvent}
    {report : MissionProviderHistoryProjectionVerification}
    (h : compareProviderHistoryProjection missionId log events = .ok report)
    (consistent : report.status = .consistent) :
    (log.map (·.sequence)).Nodup ∧ (events.map (·.sequence)).Nodup ∧
      ∃ canonical, providerProjections missionId log.zipIdx = .ok canonical ∧
        (∀ expected ∈ canonical, ∃ actual ∈ events, actual.sequence = expected.sequence) ∧
        (∀ actual ∈ events, ∃ expected ∈ canonical, expected.sequence = actual.sequence) ∧
        ∀ sequence, mismatchAt canonical events sequence = none := by
  unfold compareProviderHistoryProjection at h
  split at h
  · cases h
  rename_i logUnique
  split at h
  · cases h
  rename_i rowsUnique
  cases projected : providerProjections missionId log.zipIdx with
  | error error => rw [projected] at h; cases h
  | ok canonical =>
      simp only [projected, bind, Except.bind] at h
      obtain rfl := validateStatus_ok h
      simp only at consistent
      split at consistent
      · cases consistent
      · rename_i same
        simp only [not_or, not_not] at same
        obtain ⟨missing, unexpected, mismatches⟩ := same
        have missing := List.filter_eq_nil_iff.mp (sortedBy_eq_nil missing)
        have unexpected := List.filter_eq_nil_iff.mp (sortedBy_eq_nil unexpected)
        refine ⟨not_not.mp logUnique, not_not.mp rowsUnique, canonical, rfl, ?_, ?_, ?_⟩
        · intro expected member
          have listed := missing expected.sequence (List.mem_map_of_mem member)
          simpa using listed
        · intro actual member
          have listed := unexpected actual.sequence (List.mem_map_of_mem member)
          simpa using listed
        · intro sequence
          by_contra found
          obtain ⟨mismatch, some⟩ := Option.ne_none_iff_exists'.mp found
          have listed : sequence ∈ sortedBy id ((canonical.map (·.sequence)).filter
              (· ∈ events.map (·.sequence))) := by
            unfold mismatchAt at some
            split at some
            · rename_i expected actual hc he
              rw [mem_sortedBy, List.mem_filter]
              have first : expected.sequence = sequence := by simpa using List.find?_some hc
              have second : actual.sequence = sequence := by simpa using List.find?_some he
              refine ⟨first ▸ List.mem_map_of_mem (List.mem_of_find?_eq_some hc), ?_⟩
              exact decide_eq_true (second ▸ List.mem_map_of_mem (List.mem_of_find?_eq_some he))
            · cases some
          have member := List.mem_filterMap.mpr ⟨sequence, listed, some⟩
          rw [mismatches] at member
          cases member

/-- The rows of a mission are read as the provider events of its log, up to the
indexes they carry. -/
structure Paired (log : List ExecutionEvent) (rows : Table) : Prop where
  readableLog : ReadableLog log
  readableRows : ReadableRows rows
  distinct : (rows.map (·.sequence)).Nodup
  rowOf : ∀ event ∈ log, event.isProviderHistory → ∀ item,
    providerEventToHistoryItem event = .ok item →
      ∃ row ∈ rows, ∃ index, rowEntry row = .ok (item, index)
  eventOf : ∀ row ∈ rows, ∀ entry, rowEntry row = .ok entry →
    ∃ event ∈ log, event.isProviderHistory ∧ providerEventToHistoryItem event = .ok entry.1

/-- In a list without repeated sequences the search finds the event itself. -/
theorem bySequence_self {xs : List ProviderHistoryProjectionEvent}
    {x : ProviderHistoryProjectionEvent} (unique : (xs.map (·.sequence)).Nodup) (member : x ∈ xs) :
    bySequence xs x.sequence = some x := by
  cases found : bySequence xs x.sequence with
  | none =>
      have missing := List.find?_eq_none.mp found x member
      simp at missing
  | some y =>
      have key : y.sequence = x.sequence := by simpa using List.find?_some found
      rw [List.inj_on_of_nodup_map unique (List.mem_of_find?_eq_some found) member key]

/-- The projections that match each other are shown as one item. -/
theorem item_eq_of_match {canonical events : List ProviderHistoryProjectionEvent}
    {expected actual : ProviderHistoryProjectionEvent} {item item' : ProviderResolutionHistoryItem}
    (canonicalUnique : (canonical.map (·.sequence)).Nodup)
    (eventsUnique : (events.map (·.sequence)).Nodup)
    (agree : ∀ sequence, mismatchAt canonical events sequence = none)
    (hc : expected ∈ canonical) (he : actual ∈ events)
    (same : expected.sequence = actual.sequence)
    (shown : projectionToHistoryItem expected = .ok item)
    (shown' : projectionToHistoryItem actual = .ok item') : item = item' := by
  have found : bySequence canonical actual.sequence = some expected := by
    rw [← same]
    exact bySequence_self canonicalUnique hc
  have found' : bySequence events actual.sequence = some actual := bySequence_self eventsUnique he
  have fields := agree actual.sequence
  simp only [mismatchAt, found, found', ite_eq_left_iff, reduceCtorEq, imp_false, not_not] at fields
  unfold projectionToHistoryItem at shown shown'
  split at shown
  · rename_i types
    split at shown'
    · rename_i types'
      obtain ⟨eventType, occurredAt, payload⟩ := eq_of_no_mismatch types types' fields
      obtain rfl := Except.ok.inj shown
      obtain rfl := Except.ok.inj shown'
      simp only [same, eventType, occurredAt, payload]
    · cases shown'
  · cases shown

theorem paired_of_consistent {repository : MissionReadRepository} {table : Table} {mission : Mission}
    {report : MissionProviderHistoryProjectionVerification}
    (found : repository.get mission.id = some mission)
    (h : verify repository table mission.id = .ok report)
    (consistent : report.status = .consistent) :
    Paired mission.executionLog (rowsOf mission.id table) := by
  simp only [verify, found] at h
  cases listed : listAllForMission table mission.id with
  | error error => rw [listed] at h; cases h
  | ok events =>
      simp only [listed, bind, Except.bind] at h
      obtain ⟨logUnique, eventsUnique, canonical, projected, covered, known, agree⟩ :=
        compare_consistent h consistent
      obtain ⟨forward, backward⟩ := providerProjections_ok projected
      have pairs := forall₂_of_mapM listed
      have ordered : ∀ row, row ∈ sortedBy (·.sequence) (rowsOf mission.id table) ↔
          row ∈ rowsOf mission.id table := fun row => mem_sortedBy _ _
      have readRow : ∀ row ∈ rowsOf mission.id table,
          ∃ event ∈ events, projectionFromModel row = .ok event :=
        fun row member => exists_of_forall₂ pairs row ((ordered row).mpr member)
      have canonicalSequences : (canonical.map (·.sequence)).Nodup :=
        projection_sequences_nodup projected (by
          have fst := congrArg (List.map ExecutionEvent.sequence)
            (List.zipIdx_map_fst 0 mission.executionLog)
          rw [List.map_map] at fst
          exact fst ▸ logUnique)
      refine ⟨?_, ?_, ?_, ?_, ?_⟩
      · intro event member provider
        obtain ⟨index, indexed⟩ := exists_mem_zipIdx member
        obtain ⟨projection, read, -⟩ := forward _ indexed
        simp only [executionEventToProviderProjection, provider, Bool.true_eq_false,
          if_false] at read
        obtain ⟨item, shown, -⟩ := exists_of_map_ok read
        exact ⟨item, shown⟩
      · intro row member
        obtain ⟨event, -, read⟩ := readRow row member
        obtain ⟨item, -, -, -, -, -, entered⟩ := projectionToHistoryItem_of_row read
        exact ⟨_, entered⟩
      · have columns : (sortedBy (·.sequence) (rowsOf mission.id table)).map (·.sequence) =
            events.map fun event => (event.sequence : Int) :=
          (List.forall₂_eq_eq_eq ▸ (List.forall₂_map_left_iff.mpr (List.forall₂_map_right_iff.mpr
            (pairs.imp fun row event read => (projectionFromModel_ok read).2.1.symm))) :)
        have distinct : (events.map fun event => (event.sequence : Int)).Nodup := by
          rw [List.Nodup, List.pairwise_map] at eventsUnique ⊢
          exact eventsUnique.imp fun differ same => differ (Int.ofNat_inj.mp same)
        rw [← columns] at distinct
        exact ((sortedBy_perm _ _).map _).nodup_iff.mp distinct
      · intro event member provider item shown
        obtain ⟨index, indexed⟩ := exists_mem_zipIdx member
        obtain ⟨projection, read, kept⟩ := forward _ indexed
        simp only [executionEventToProviderProjection, provider, Bool.true_eq_false, if_false,
          shown] at read
        obtain rfl := Except.ok.inj read
        obtain ⟨actual, listed', same⟩ := covered _ (kept _ rfl)
        obtain ⟨row, inside, readRow⟩ := exists_of_forall₂ pairs.flip actual listed'
        obtain ⟨item', shown', -, -, -, -, entered⟩ := projectionToHistoryItem_of_row readRow
        have equal := item_eq_of_match canonicalSequences eventsUnique agree (kept _ rfl) listed'
          same.symm (dif_pos item.payload_type) shown'
        exact ⟨row, (ordered row).mp inside, _, equal ▸ entered⟩
      · intro row member entry entered
        obtain ⟨actual, listed', read⟩ := readRow row member
        obtain ⟨_, read', shown', -⟩ := rowEntry_ok entered
        obtain rfl := Except.ok.inj (read.symm.trans read')
        obtain ⟨expected, kept, same⟩ := known actual listed'
        obtain ⟨⟨event, index⟩, indexed, projection⟩ := backward expected kept
        obtain ⟨provider, item, shown, rfl⟩ := executionEventToProviderProjection_ok projection
        have equal := item_eq_of_match canonicalSequences eventsUnique agree kept listed' same
          (dif_pos item.payload_type) shown'
        exact ⟨event, List.fst_mem_of_mem_zipIdx indexed, provider, shown.trans (congrArg _ equal)⟩

theorem head_take_one {α : Type} (xs : List α) : (xs.take 1).head? = xs.head? := by
  cases xs <;> rfl

/-- The rows carry the indexes that their events have in the log. -/
def IndexesMatch (log : List ExecutionEvent) (rows : Table) : Prop :=
  ∀ row ∈ rows, ∃ event index, (event, index) ∈ log.zipIdx ∧
    (event.sequence : Int) = row.sequence ∧ row.legacyEventIndex = index

/-- The readers give one answer with the projection and without it. -/
def ReadersAgree (repository : MissionReadRepository) (table : Table) (missionId : UUID) : Prop :=
  (∀ request, GetMissionProviderResolutionHistory.execute repository (some (reader table)) missionId
      request = GetMissionProviderResolutionHistory.execute repository none missionId request) ∧
    ∀ sinceSequence limit, 1 ≤ limit → limit ≤ 500 →
      GetMissionProviderResolutionIncrement.readIncrementOnce repository (some (reader table))
          missionId sinceSequence limit =
        GetMissionProviderResolutionIncrement.readIncrementOnce repository none missionId
          sinceSequence limit

section
variable {repository : MissionReadRepository} {table : Table} {mission : Mission}

theorem increments_agree (found : repository.get mission.id = some mission)
    (paired : Paired mission.executionLog (rowsOf mission.id table))
    (increasing : mission.executionLog.Pairwise (·.sequence < ·.sequence))
    (sinceSequence limit : Nat) :
    GetMissionProviderResolutionIncrement.readIncrementOnce repository (some (reader table))
        mission.id sinceSequence limit =
      GetMissionProviderResolutionIncrement.readIncrementOnce repository none mission.id
        sinceSequence limit := by
  obtain ⟨items, sorted, members, served⟩ := canonical_items paired.readableLog increasing
  obtain ⟨items', sorted', members', served'⟩ :=
    projected_items paired.readableRows paired.distinct
  have same : items' = items := by
    refine eq_of_same_members sorted' sorted fun item => ?_
    rw [members, members']
    constructor
    · rintro ⟨row, member, read⟩
      obtain ⟨entry, entered, rfl⟩ := exists_of_map_ok read
      exact paired.eventOf row member entry entered
    · rintro ⟨event, member, provider, shown⟩
      obtain ⟨row, inside, index, entered⟩ := paired.rowOf event member provider item shown
      refine ⟨row, inside, ?_⟩
      rw [entered]
      rfl
  simp only [GetMissionProviderResolutionIncrement.readIncrementOnce, found]
  exact (served' sinceSequence limit).trans (same ▸ (served sinceSequence limit).symm)

/-- Rows with the right indexes are the entries of the log. -/
theorem pages_agree (found : repository.get mission.id = some mission)
    (paired : Paired mission.executionLog (rowsOf mission.id table))
    (increasing : mission.executionLog.Pairwise (·.sequence < ·.sequence))
    (indexes : IndexesMatch mission.executionLog (rowsOf mission.id table))
    (request : ProviderResolutionHistoryPageRequest) :
    GetMissionProviderResolutionHistory.execute repository (some (reader table)) mission.id request =
      GetMissionProviderResolutionHistory.execute repository none mission.id request := by
  obtain ⟨entries, sorted, members, served, -⟩ := canonical_entries paired.readableLog
  obtain ⟨entries', sorted', distinct', members', served'⟩ := projected_entries paired.readableRows
  have shows : ∀ entry, entry ∈ entries' ↔ ShowsEvent mission.executionLog entry := by
    intro entry
    rw [members']
    constructor
    · rintro ⟨row, member, entered⟩
      obtain ⟨event, index, indexed, sequence, legacy⟩ := indexes row member
      obtain ⟨event', member', provider, shown⟩ := paired.eventOf row member entry entered
      obtain ⟨index', indexed'⟩ := exists_mem_zipIdx member'
      obtain ⟨projection, read, -, carried, -, sequence'⟩ := rowEntry_ok entered
      have column := (projectionFromModel_ok read).2.2.2.1
      have shows := (providerEventToHistoryItem_ok shown).1
      obtain ⟨rfl, rfl⟩ := place_eq_of_sequence increasing indexed' indexed (by omega)
      obtain rfl : entry.2 = index' := by omega
      exact ⟨event', indexed, provider, shown⟩
    · rintro ⟨event, indexed, provider, shown⟩
      obtain ⟨row, inside, carried, entered⟩ :=
        paired.rowOf event (List.fst_mem_of_mem_zipIdx indexed) provider entry.1 shown
      obtain ⟨event', index, indexed', sequence, legacy⟩ := indexes row inside
      obtain ⟨projection, read, -, carries, -, sequence'⟩ := rowEntry_ok entered
      have column := (projectionFromModel_ok read).2.2.2.1
      have shows := (providerEventToHistoryItem_ok shown).1
      simp only at carries sequence'
      obtain ⟨rfl, rfl⟩ := place_eq_of_sequence increasing indexed' indexed (by omega)
      obtain rfl : carried = entry.2 := by omega
      exact ⟨row, inside, entered⟩
  have same : entries' = entries := by
    have nodup : entries.Nodup := sorted.imp fun less => by rintro rfl; exact lt_irrefl _ less
    have nodup' : entries'.Nodup := (distinct' paired.distinct).of_map _
    refine ((List.perm_ext_iff_of_nodup nodup' nodup).mpr fun entry =>
      (shows entry).trans (members entry).symm).eq_of_pairwise ?_ sorted' (sorted.imp le_of_lt)
    -- entries with one key show one place of the log
    intro a b ha hb le ge
    have keys : a.key = b.key := le_antisymm le ge
    have place : a.2 = b.2 := Int.ofNat_inj.mp (congrArg (fun key => (ofLex key).2) keys)
    obtain ⟨event, indexed, -, shown⟩ := (shows a).mp ha
    obtain ⟨event', indexed', -, shown'⟩ := (members b).mp hb
    rw [List.mk_mem_zipIdx_iff_getElem?] at indexed indexed'
    rw [place, indexed'] at indexed
    obtain rfl := Option.some.inj indexed
    exact Prod.ext (Except.ok.inj (shown.symm.trans shown')) place
  simp only [GetMissionProviderResolutionHistory.execute, found, served, served', same]

/-- Pages of one item tell the entries behind any cursor apart by their first. -/
theorem indexes_match_of_pages_agree (found : repository.get mission.id = some mission)
    (paired : Paired mission.executionLog (rowsOf mission.id table))
    (increasing : mission.executionLog.Pairwise (·.sequence < ·.sequence))
    (agree : ∀ request,
      GetMissionProviderResolutionHistory.execute repository (some (reader table)) mission.id
          request =
        GetMissionProviderResolutionHistory.execute repository none mission.id request) :
    IndexesMatch mission.executionLog (rowsOf mission.id table) := by
  obtain ⟨entries, sorted, members, served, -⟩ := canonical_entries paired.readableLog
  obtain ⟨entries', sorted', distinct', members', served'⟩ := projected_entries paired.readableRows
  simp only [GetMissionProviderResolutionHistory.execute, found, served, served'] at agree
  have heads : ∀ cursor, (∀ c ∈ cursor,
      (∃ a ∈ entries, c = HistoryEntry.key a) ∨ ∃ b ∈ entries', c = HistoryEntry.key b) →
      (Keyset.after HistoryEntry.key cursor entries).head?.map (·.1.sequence) =
        (Keyset.after HistoryEntry.key cursor entries').head?.map (·.1.sequence) := by
    intro cursor known
    have reached : ∃ sent : Option ProviderHistoryCursor, sent.map (·.key) = cursor ∧
        ∀ c ∈ sent, c.missionId = mission.id := by
      cases cursor with
      | none => exact ⟨none, rfl, by simp⟩
      | some c =>
          have entry : ∃ entry : HistoryEntry, c = entry.key := by
            rcases known c rfl with ⟨entry, -, same⟩ | ⟨entry, -, same⟩ <;> exact ⟨entry, same⟩
          obtain ⟨entry, rfl⟩ := entry
          refine ⟨some ⟨mission.id, entry.1.occurredAt, entry.2⟩, rfl, ?_⟩
          rintro _ ⟨⟩
          rfl
    obtain ⟨sent, rfl, own⟩ := reached
    let request : ProviderResolutionHistoryPageRequest := ⟨1, sent, le_rfl, by omega⟩
    obtain ⟨page, ok, items, -⟩ := servePage_ok mission.id request entries own
    obtain ⟨page', ok', items', -⟩ := servePage_ok mission.id request entries' own
    obtain rfl := Except.ok.inj (ok'.symm.trans ((agree request).trans ok))
    have first := congrArg List.head? (items.symm.trans items')
    simp only [request, List.head?_map] at first
    rw [head_take_one, head_take_one] at first
    have sequences := congrArg (Option.map (·.sequence)) first
    rw [Option.map_map, Option.map_map] at sequences
    exact sequences
  intro row inside
  obtain ⟨entry', entered⟩ := paired.readableRows row inside
  obtain ⟨event, member, provider, shown⟩ := paired.eventOf row inside entry' entered
  obtain ⟨index, indexed⟩ := exists_mem_zipIdx member
  obtain ⟨projection, read, -, carried, -, sequence⟩ := rowEntry_ok entered
  have listed : ((entry'.1, index) : HistoryEntry) ∈ entries :=
    (members _).mpr ⟨event, indexed, provider, shown⟩
  have listed' : entry' ∈ entries' := (members' _).mpr ⟨row, inside, entered⟩
  have keys := Keyset.key_eq_of_heads (fun entry : HistoryEntry => entry.1.sequence)
    (fun entry : HistoryEntry => entry.1.sequence) sorted
    (fun a ha b hb same => by
      obtain ⟨first, placed, -, shows⟩ := (members a).mp ha
      obtain ⟨second, placed', -, shows'⟩ := (members b).mp hb
      have s := (providerEventToHistoryItem_ok shows).1
      have s' := (providerEventToHistoryItem_ok shows').1
      obtain ⟨rfl, place⟩ := place_eq_of_sequence increasing placed placed' (by omega)
      exact Prod.ext (Except.ok.inj (shows.symm.trans shows')) place)
    (fun a ha b hb same => List.inj_on_of_nodup_map (distinct' paired.distinct) ha hb same)
    heads listed listed' rfl
  have place : entry'.2 = index := Int.ofNat_inj.mp (congrArg (fun key => (ofLex key).2) keys)
  have column := (projectionFromModel_ok read).2.2.2.1
  have shows := (providerEventToHistoryItem_ok shown).1
  exact ⟨event, index, indexed, by omega, by omega⟩

/-- After a consistent verification the readers agree exactly when the column that
was not compared is right. -/
theorem verified_readers_agree_iff {report : MissionProviderHistoryProjectionVerification}
    (found : repository.get mission.id = some mission)
    (valid : validateEventSequence mission.executionLog mission.lastEventSequence = .ok ())
    (verified : verify repository table mission.id = .ok report)
    (consistent : report.status = .consistent) :
    ReadersAgree repository table mission.id ↔
      IndexesMatch mission.executionLog (rowsOf mission.id table) := by
  have increasing := (validateEventSequence_ok_iff.mp valid).1.increasing
  have paired := paired_of_consistent found verified consistent
  constructor
  · rintro ⟨pages, -⟩
    exact indexes_match_of_pages_agree found paired increasing pages
  · intro indexes
    exact ⟨pages_agree found paired increasing indexes, fun sinceSequence limit _ _ =>
      increments_agree found paired increasing sinceSequence limit⟩

end

/-- The first selection of a provider and its removal, at one instant. -/
def selectionLog : List ExecutionEvent :=
  [⟨⟨11⟩, ⟨11⟩, none, 1, 1785542400000000, "provider_selection_changed",
      "Mission provider selection changed.",
      [("previous_provider_id", .none), ("new_provider_id", .str "mock"),
        ("previous_selection_mode", .str "automatic"), ("new_selection_mode", .str "explicit")],
      ExecutionEvent.first_pos⟩,
    ⟨⟨12⟩, ⟨11⟩, some ⟨11⟩, 2, 1785542400000000, "provider_selection_changed",
      "Mission provider selection changed.",
      [("previous_provider_id", .str "mock"), ("new_provider_id", .none),
        ("previous_selection_mode", .str "explicit"), ("new_selection_mode", .str "automatic")],
      ExecutionEvent.second_pos⟩]

def selectionMission : Mission :=
  { Mission.new ⟨7⟩ "trip" [⟨9⟩] "mock_train"
      ⟨"Moscow", "Kazan", ⟨2026, 8, 1⟩, 1, none, none, none, none,
        TrainConstraints.single_pos⟩ with
    executionLog := selectionLog
    lastEventSequence := 2 }

/-- The rows of that log, with the given indexes. -/
def selectionRows (first second : Int) : Table :=
  [⟨⟨7⟩, 1, "provider_selection_changed", 1785542400000000,
      .dict [("previous_provider_id", .none), ("new_provider_id", .str "mock"),
        ("previous_selection_mode", .str "automatic"), ("new_selection_mode", .str "explicit")],
      first⟩,
    ⟨⟨7⟩, 2, "provider_selection_changed", 1785542400000000,
      .dict [("previous_provider_id", .str "mock"), ("new_provider_id", .none),
        ("previous_selection_mode", .str "explicit"), ("new_selection_mode", .str "automatic")],
      second⟩]

def selectionReport : MissionProviderHistoryProjectionVerification :=
  ⟨⟨7⟩, .consistent, 2, 2, [], [], []⟩

def firstPage : ProviderResolutionHistoryPageRequest :=
  ⟨50, none, Nat.le_of_ble_eq_true rfl, Nat.le_of_ble_eq_true rfl⟩

/-- Exchanged indexes pass the verification, and the page comes in another order. -/
theorem consistent_with_exchanged_indexes :
    verify [selectionMission] (selectionRows 1 0) ⟨7⟩ = .ok selectionReport ∧
      GetMissionProviderResolutionHistory.execute [selectionMission]
          (some (reader (selectionRows 1 0))) ⟨7⟩ firstPage ≠
        GetMissionProviderResolutionHistory.execute [selectionMission] none ⟨7⟩ firstPage := by
  constructor
  · decide +kernel
  · decide +kernel

theorem verified_readers_agree_iff_selection :
    ReadersAgree [selectionMission] (selectionRows 0 1) selectionMission.id ↔
      IndexesMatch selectionMission.executionLog
        (rowsOf selectionMission.id (selectionRows 0 1)) :=
  @verified_readers_agree_iff _ _ _ selectionReport (by decide +kernel) (by decide +kernel)
    (by decide +kernel) rfl

end PurchaseAgent
