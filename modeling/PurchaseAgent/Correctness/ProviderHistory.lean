import PurchaseAgent.Services.ProviderHistoryVerification

/-!
What the readers of the provider history show, whatever they are served from: a
list of entries in the order of their cursors for the pages, and a list of items
in the order of their sequences for the increments.
-/

namespace PurchaseAgent
open Collections

theorem mapM_eq_ok {α β ε : Type} {f : α → Except ε β} {g : α → β} {xs : List α}
    (h : ∀ x ∈ xs, f x = .ok (g x)) : xs.mapM f = .ok (xs.map g) := by
  induction xs with
  | nil => rfl
  | cons x rest ih =>
      obtain ⟨first, others⟩ := List.forall_mem_cons.mp h
      rw [List.mapM_cons, first, ih others]
      rfl

theorem mapM_ok_iff {α β ε : Type} {f : α → Except ε β} {xs : List α} :
    (∃ ys, xs.mapM f = .ok ys) ↔ ∀ x ∈ xs, ∃ y, f x = .ok y := by
  induction xs with
  | nil => simp [pure, Except.pure]
  | cons x xs ih =>
      rw [List.mapM_cons]
      cases own : f x with
      | error e =>
          simp only [bind, Except.bind, List.mem_cons, forall_eq_or_imp, own]
          simp
      | ok y =>
          simp only [List.mem_cons, forall_eq_or_imp, own, ← ih]
          cases rest : xs.mapM f with
          | error e => simp [bind, Except.bind]
          | ok ys => simp [bind, Except.bind, pure, Except.pure]

theorem forall₂_of_mapM {α β ε : Type} {f : α → Except ε β} {xs : List α} {ys : List β}
    (h : xs.mapM f = .ok ys) : List.Forall₂ (fun x y => f x = .ok y) xs ys := by
  induction xs generalizing ys with
  | nil =>
      obtain rfl : [] = ys := Except.ok.inj h
      exact .nil
  | cons x rest ih =>
      rw [List.mapM_cons] at h
      cases first : f x with
      | error error => rw [first] at h; cases h
      | ok y =>
          cases others : rest.mapM f with
          | error error => rw [first, others] at h; cases h
          | ok zs =>
              rw [first, others] at h
              obtain rfl : y :: zs = ys := Except.ok.inj h
              exact .cons first (ih others)

theorem exists_of_forall₂ {α β : Type} {r : α → β → Prop} {xs : List α} {ys : List β}
    (h : List.Forall₂ r xs ys) : ∀ x ∈ xs, ∃ y ∈ ys, r x y := by
  induction h with
  | nil => simp
  | cons first _ ih =>
      refine List.forall_mem_cons.mpr ⟨⟨_, List.mem_cons_self, first⟩, fun x member => ?_⟩
      obtain ⟨y, listed, related⟩ := ih x member
      exact ⟨y, List.mem_cons_of_mem _ listed, related⟩

/-- Reads that all succeed, as one function. -/
theorem exists_values {α β ε : Type} [Nonempty β] (f : α → Except ε β) {xs : List α}
    (h : ∀ x ∈ xs, ∃ y, f x = .ok y) : ∃ g : α → β, ∀ x ∈ xs, f x = .ok (g x) := by
  choose! g read using h
  exact ⟨g, read⟩

/-- Lists in strict key order are told apart by their members. -/
theorem eq_of_same_members {α κ : Type} [LinearOrder κ] {key : α → κ} {xs ys : List α}
    (sorted : xs.Pairwise fun a b => key a < key b)
    (sorted' : ys.Pairwise fun a b => key a < key b) (same : ∀ a, a ∈ xs ↔ a ∈ ys) : xs = ys := by
  have distinct : xs.Nodup := sorted.imp fun less => by rintro rfl; exact lt_irrefl _ less
  have distinct' : ys.Nodup := sorted'.imp fun less => by rintro rfl; exact lt_irrefl _ less
  refine ((List.perm_ext_iff_of_nodup distinct distinct').mpr same).eq_of_pairwise ?_ sorted sorted'
  intro a b _ _ less more
  exact absurd (less.trans more) (lt_irrefl _)

/-- A sort by keys that differ is strict. -/
theorem sortedBy_strict {α κ : Type} [LinearOrder κ] {key : α → κ} {xs : List α}
    (distinct : (xs.map key).Nodup) :
    (sortedBy key xs).Pairwise fun a b => key a < key b := by
  have distinct' : ((sortedBy key xs).map key).Nodup :=
    ((sortedBy_perm key xs).map key).nodup_iff.mpr distinct
  rw [List.Nodup, List.pairwise_map] at distinct'
  exact (distinct'.and (sortedBy_pairwise key xs)).imp fun both => lt_of_le_of_ne both.2 both.1

instance : Nonempty ProviderResolutionHistoryItem :=
  ⟨⟨1, .providerResolved, 0,
    .resolved ⟨⟨"mock", by decide, by decide⟩, .trainTicket, .automatic, none, by simp⟩, le_rfl,
    rfl⟩⟩

/-- An item and the index its cursor carries. -/
abbrev HistoryEntry := ProviderResolutionHistoryItem × Nat

namespace HistoryEntry

def key (entry : HistoryEntry) : Time ×ₗ Int := toLex (entry.1.occurredAt, (entry.2 : Int))

end HistoryEntry

/-- The page a reader gives that holds these entries. -/
def servePage (missionId : UUID) (request : ProviderResolutionHistoryPageRequest)
    (entries : List HistoryEntry) : Except PyException MissionProviderResolutionHistoryPage :=
  if ∃ cursor ∈ request.cursor, cursor.missionId ≠ missionId then
    .error (.other "InvalidProviderHistoryCursorError"
      "Provider history cursor does not belong to this mission")
  else
    GetMissionProviderResolutionHistory.page (fun entry => .ok entry.1) (·.1.occurredAt) (·.2)
      missionId request
      ((Keyset.after HistoryEntry.key (request.cursor.map (·.key)) entries).take (request.limit + 1))

/-- The increment a reader gives that holds these items. -/
def serveIncrement (missionId : UUID) (sinceSequence limit : Nat)
    (items : List ProviderResolutionHistoryItem) :
    Except PyException MissionProviderResolutionIncrement :=
  GetMissionProviderResolutionIncrement.increment .ok missionId sinceSequence limit
    ((items.filter fun item => sinceSequence < item.sequence).take (limit + 1))

theorem page_map {α : Type} {toItem : α → Except PyException ProviderResolutionHistoryItem}
    {occurredAt : α → Time} {eventIndex : α → Nat} {missionId : UUID}
    {request : ProviderResolutionHistoryPageRequest} {fetched : List α} {g : α → HistoryEntry}
    (shown : ∀ x ∈ fetched, toItem x = .ok (g x).1 ∧ occurredAt x = (g x).1.occurredAt ∧
      eventIndex x = (g x).2) :
    GetMissionProviderResolutionHistory.page toItem occurredAt eventIndex missionId request fetched =
      GetMissionProviderResolutionHistory.page (fun entry : HistoryEntry => .ok entry.1)
        (·.1.occurredAt) (·.2) missionId request (fetched.map g) := by
  have visible : ∀ x ∈ fetched.take request.limit, toItem x = .ok (g x).1 :=
    fun x member => (shown x (List.mem_of_mem_take member)).1
  have last : (fetched.take request.limit).getLast?.map
        (fun x => (⟨missionId, occurredAt x, eventIndex x⟩ : ProviderHistoryCursor)) =
      ((fetched.take request.limit).map g).getLast?.map
        (fun x => ⟨missionId, x.1.occurredAt, x.2⟩) := by
    rw [List.getLast?_map, Option.map_map]
    cases found : (fetched.take request.limit).getLast? with
    | none => rfl
    | some x =>
        obtain ⟨-, time, index⟩ :=
          shown x (List.mem_of_mem_take (List.mem_of_mem_getLast? found))
        simp only [Option.map_some, Function.comp_apply, time, index]
  have items : ((fetched.take request.limit).map g).mapM
        (fun entry : HistoryEntry => (.ok entry.1 : Except PyException _)) =
      .ok ((fetched.take request.limit).map fun x => (g x).1) := by
    rw [mapM_eq_ok (g := fun entry : HistoryEntry => entry.1) (fun _ _ => rfl), List.map_map]
    rfl
  simp only [GetMissionProviderResolutionHistory.page, List.length_map, ← List.map_take, last,
    mapM_eq_ok visible, items]

theorem increment_map {α : Type} {toItem : α → Except PyException ProviderResolutionHistoryItem}
    {missionId : UUID} {sinceSequence limit : Nat} {fetched : List α}
    {g : α → ProviderResolutionHistoryItem} (shown : ∀ x ∈ fetched, toItem x = .ok (g x)) :
    GetMissionProviderResolutionIncrement.increment toItem missionId sinceSequence limit fetched =
      GetMissionProviderResolutionIncrement.increment .ok missionId sinceSequence limit
        (fetched.map g) := by
  have items : ((fetched.take limit).map g).mapM
        (fun item => (.ok item : Except PyException ProviderResolutionHistoryItem)) =
      .ok ((fetched.take limit).map g) :=
    (mapM_eq_ok (g := id) fun _ _ => rfl).trans (congrArg Except.ok (List.map_id _))
  simp only [GetMissionProviderResolutionIncrement.increment, List.length_map, ← List.map_take,
    items, mapM_eq_ok fun x member => shown x (List.mem_of_mem_take member)]

/-- A reader answers every cursor of the mission, with the first entries behind it. -/
theorem servePage_ok (missionId : UUID) (request : ProviderResolutionHistoryPageRequest)
    (entries : List HistoryEntry) (own : ∀ cursor ∈ request.cursor, cursor.missionId = missionId) :
    ∃ page, servePage missionId request entries = .ok page ∧
      page.items = ((Keyset.after HistoryEntry.key (request.cursor.map (·.key)) entries).take
        request.limit).map (·.1) ∧
      page.nextCursor.map (·.key) =
        (if request.limit <
            (Keyset.after HistoryEntry.key (request.cursor.map (·.key)) entries).length then
          ((Keyset.after HistoryEntry.key (request.cursor.map (·.key)) entries).take
            request.limit).getLast?.map HistoryEntry.key
        else none) ∧
      ∀ cursor ∈ page.nextCursor, cursor.missionId = missionId := by
  have mine : ¬ ∃ cursor ∈ request.cursor, cursor.missionId ≠ missionId := by
    rintro ⟨cursor, chosen, other⟩
    exact other (own cursor chosen)
  generalize behind :
    Keyset.after HistoryEntry.key (request.cursor.map (·.key)) entries = remaining
  have visible : (remaining.take (request.limit + 1)).take request.limit =
      remaining.take request.limit := by
    rw [List.take_take, Nat.min_eq_left (Nat.le_succ _)]
  have ahead : request.limit < (remaining.take (request.limit + 1)).length ↔
      request.limit < remaining.length := by
    rw [List.length_take]
    omega
  have items : (remaining.take request.limit).mapM
        (fun entry : HistoryEntry => (.ok entry.1 : Except PyException _)) =
      .ok ((remaining.take request.limit).map (·.1)) := mapM_eq_ok fun _ _ => rfl
  have served : servePage missionId request entries =
      MissionProviderResolutionHistoryPage.validatePage
        ⟨missionId, (remaining.take request.limit).map (·.1), request.limit,
          decide (request.limit < remaining.length),
          if request.limit < remaining.length then
            (remaining.take request.limit).getLast?.map fun last =>
              ⟨missionId, last.1.occurredAt, last.2⟩
          else none⟩ := by
    simp only [servePage, if_neg mine, behind, GetMissionProviderResolutionHistory.page, visible,
      ahead, items, bind, Except.bind, decide_eq_true_eq]
  by_cases more : request.limit < remaining.length
  · cases found : (remaining.take request.limit).getLast? with
    | none =>
        have short := congrArg List.length (List.getLast?_eq_none_iff.mp found)
        have positive := request.limit_ge
        simp only [List.length_take, List.length_nil] at short
        omega
    | some last =>
        have valid : servePage missionId request entries = .ok
            ⟨missionId, (remaining.take request.limit).map (·.1), request.limit, true,
              some ⟨missionId, last.1.occurredAt, last.2⟩⟩ := by
          have shown : ((remaining.take request.limit).map (·.1)).getLast? = some last.1 := by
            rw [List.getLast?_map, found]
            rfl
          simp only [served, MissionProviderResolutionHistoryPage.validatePage, more, found, shown,
            decide_true, if_true, Option.map_some, ne_eq, not_true_eq_false, if_false]
        refine ⟨_, valid, rfl, ?_, ?_⟩
        · rw [if_pos more]
          rfl
        · rintro _ ⟨⟩
          rfl
  · have valid : servePage missionId request entries = .ok
        ⟨missionId, (remaining.take request.limit).map (·.1), request.limit, false, none⟩ := by
      rw [served]
      simp [MissionProviderResolutionHistoryPage.validatePage, more]
    refine ⟨_, valid, rfl, ?_, ?_⟩
    · rw [if_neg more]
      rfl
    · rintro _ ⟨⟩

theorem providerEventToHistoryItem_ok {event : ExecutionEvent}
    {item : ProviderResolutionHistoryItem} (h : providerEventToHistoryItem event = .ok item) :
    item.sequence = event.sequence ∧ item.occurredAt = event.timestamp ∧
      ProviderHistoryEventType.ofText event.type = some item.eventType ∧
        ProviderHistoryPayload.validate item.eventType event.metadata = .ok item.payload := by
  unfold providerEventToHistoryItem at h
  split at h
  · cases h
  · rename_i eventType known
    split at h
    · cases h
    · rename_i payload validated
      obtain rfl := Except.ok.inj h
      exact ⟨rfl, rfl, known, validated⟩

/-- Every provider event of the log carries a payload of its model. -/
def ReadableLog (log : List ExecutionEvent) : Prop :=
  ∀ event ∈ log, event.isProviderHistory → ∃ item, providerEventToHistoryItem event = .ok item

/-- An entry shows the event at an index of the log. -/
def ShowsEvent (log : List ExecutionEvent) (entry : HistoryEntry) : Prop :=
  ∃ event, (event, entry.2) ∈ log.zipIdx ∧ event.isProviderHistory ∧
    providerEventToHistoryItem event = .ok entry.1

theorem zipIdx_keys_nodup (log : List ExecutionEvent) :
    ((log.zipIdx.filter (·.1.isProviderHistory)).map historyEventKey).Nodup := by
  have indexes : (log.zipIdx.map (·.2)).Nodup := by
    rw [List.zipIdx_map_snd]
    exact List.nodup_range'
  rw [List.Nodup, List.pairwise_map] at indexes ⊢
  refine (indexes.sublist List.filter_sublist).imp fun differ same => differ ?_
  exact Int.ofNat_inj.mp (congrArg (fun key => (ofLex key).2) same)

theorem canonical_entries {mission : Mission} (readable : ReadableLog mission.executionLog) :
    ∃ entries : List HistoryEntry,
      entries.Pairwise (fun a b => a.key < b.key) ∧
        (∀ entry, entry ∈ entries ↔ ShowsEvent mission.executionLog entry) ∧
          (∀ request, GetMissionProviderResolutionHistory.readCanonicalPage mission request =
            servePage mission.id request entries) ∧
          entries.map (fun entry => .ok entry.1) =
            (GetMissionProviderResolutionHistory.orderedEvents mission).map fun indexed =>
              providerEventToHistoryItem indexed.1 := by
  let events := mission.executionLog.zipIdx.filter (·.1.isProviderHistory)
  have listed : ∀ x ∈ events, x.1 ∈ mission.executionLog ∧ x.1.isProviderHistory := by
    intro x member
    obtain ⟨indexed, provider⟩ := List.mem_filter.mp member
    exact ⟨List.fst_mem_of_mem_zipIdx indexed, provider⟩
  obtain ⟨g, shown⟩ := exists_values (fun x => providerEventToHistoryItem x.1)
    fun x member => readable x.1 (listed x member).1 (listed x member).2
  have keys : ∀ x ∈ events, HistoryEntry.key (g x, x.2) = historyEventKey x := fun x member => by
    simp only [HistoryEntry.key, historyEventKey,
      (providerEventToHistoryItem_ok (shown x member)).2.1]
  have ordered : ∀ x, x ∈ GetMissionProviderResolutionHistory.orderedEvents mission ↔ x ∈ events :=
    fun x => mem_sortedBy _ _
  refine ⟨(GetMissionProviderResolutionHistory.orderedEvents mission).map fun x => (g x, x.2),
    ?_, ?_, ?_, ?_⟩
  · rw [List.pairwise_map]
    refine (sortedBy_strict (zipIdx_keys_nodup mission.executionLog)).imp_of_mem ?_
    intro a b ha hb less
    rw [keys a ((ordered a).mp ha), keys b ((ordered b).mp hb)]
    exact less
  · rintro ⟨item, index⟩
    constructor
    · intro member
      obtain ⟨x, inside, same⟩ := List.mem_map.mp member
      obtain ⟨rfl, rfl⟩ := Prod.mk.inj same
      have inside := (ordered x).mp inside
      exact ⟨x.1, (List.mem_filter.mp inside).1, (listed x inside).2, shown x inside⟩
    · rintro ⟨event, indexed, provider, read⟩
      have inside : (event, index) ∈ events := List.mem_filter.mpr ⟨indexed, provider⟩
      refine List.mem_map.mpr ⟨(event, index), (ordered _).mpr inside, ?_⟩
      rw [Except.ok.inj ((shown _ inside).symm.trans read)]
  · intro request
    unfold GetMissionProviderResolutionHistory.readCanonicalPage servePage
    split
    · rfl
    · rw [Keyset.after_map fun x member => keys x ((ordered x).mp member), ← List.map_take]
      apply page_map
      intro x member
      have inside := (ordered x).mp
        ((Keyset.after_sublist _ _ _).subset (List.mem_of_mem_take member))
      exact ⟨shown x inside, (providerEventToHistoryItem_ok (shown x inside)).2.1.symm, rfl⟩
  · rw [List.map_map]
    exact List.map_congr_left fun x member => (shown x ((ordered x).mp member)).symm

theorem canonical_items {mission : Mission} (readable : ReadableLog mission.executionLog)
    (increasing : mission.executionLog.Pairwise (·.sequence < ·.sequence)) :
    ∃ items : List ProviderResolutionHistoryItem,
      items.Pairwise (fun a b => a.sequence < b.sequence) ∧
        (∀ item, item ∈ items ↔ ∃ event ∈ mission.executionLog, event.isProviderHistory ∧
          providerEventToHistoryItem event = .ok item) ∧
          ∀ sinceSequence limit,
            GetMissionProviderResolutionIncrement.increment providerEventToHistoryItem mission.id
                sinceSequence limit
                (GetMissionProviderResolutionIncrement.candidates sinceSequence (limit + 1)
                  mission.executionLog) =
              serveIncrement mission.id sinceSequence limit items := by
  let events := mission.executionLog.filter (·.isProviderHistory)
  obtain ⟨g, shown⟩ := exists_values providerEventToHistoryItem
    fun event member => readable event (List.mem_filter.mp member).1 (List.mem_filter.mp member).2
  have sequences : ∀ event ∈ events, (g event).sequence = event.sequence :=
    fun event member => (providerEventToHistoryItem_ok (shown event member)).1
  refine ⟨events.map g, ?_, ?_, ?_⟩
  · rw [List.pairwise_map]
    refine (increasing.sublist List.filter_sublist).imp_of_mem ?_
    intro a b ha hb less
    rw [sequences a ha, sequences b hb]
    exact less
  · intro item
    constructor
    · intro member
      obtain ⟨event, inside, rfl⟩ := List.mem_map.mp member
      exact ⟨event, (List.mem_filter.mp inside).1, (List.mem_filter.mp inside).2,
        shown event inside⟩
    · rintro ⟨event, member, provider, read⟩
      have inside : event ∈ events := List.mem_filter.mpr ⟨member, provider⟩
      exact List.mem_map.mpr ⟨event, inside, Except.ok.inj ((shown event inside).symm.trans read)⟩
  · intro sinceSequence limit
    rw [GetMissionProviderResolutionIncrement.candidates_eq, serveIncrement]
    have fetched : (mission.executionLog.filter fun event =>
          sinceSequence < event.sequence ∧ event.isProviderHistory) =
        events.filter fun event => sinceSequence < event.sequence := by
      simp only [events, List.filter_filter, Bool.decide_and, Bool.decide_eq_true]
    have moved : (events.map g).filter (fun item => sinceSequence < item.sequence) =
        (events.filter fun event => sinceSequence < event.sequence).map g := by
      rw [List.filter_map]
      congr 1
      apply List.filter_congr
      intro event member
      simp only [Function.comp_apply, sequences event member]
    rw [fetched, moved, ← List.map_take]
    exact increment_map fun event member =>
      shown event (List.mem_filter.mp (List.mem_of_mem_take member)).1

section Rows
open SqlProviderHistory

/-- The entry a row of the projection stands for. -/
def rowEntry (row : MissionProviderHistoryEventModel) : Except PyException HistoryEntry := do
  let event ← projectionFromModel row
  let item ← projectionToHistoryItem event
  return (item, event.legacyEventIndex)

theorem projectionFromModel_ok {row : MissionProviderHistoryEventModel}
    {event : ProviderHistoryProjectionEvent} (h : projectionFromModel row = .ok event) :
    event.missionId = row.missionId ∧ (event.sequence : Int) = row.sequence ∧
      event.occurredAt = row.occurredAt ∧ (event.legacyEventIndex : Int) = row.legacyEventIndex ∧
        event.payload.eventType = event.eventType := by
  unfold projectionFromModel at h
  split at h
  · cases h
  split at h
  · split at h
    · cases h
    rename_i payload validated
    split at h
    · rename_i sequence_ge
      split at h
      · rename_i index_ge
        obtain rfl := Except.ok.inj h
        refine ⟨rfl, ?_, rfl, Int.toNat_of_nonneg index_ge,
          ProviderHistoryPayload.eventType_of_validate validated⟩
        exact Int.toNat_of_nonneg (by omega)
      · cases h
    · cases h
  · cases h

/-- A row that is read is shown with its own columns. -/
theorem projectionToHistoryItem_of_row {row : MissionProviderHistoryEventModel}
    {event : ProviderHistoryProjectionEvent} (h : projectionFromModel row = .ok event) :
    ∃ item, projectionToHistoryItem event = .ok item ∧ item.sequence = event.sequence ∧
      item.eventType = event.eventType ∧ item.occurredAt = event.occurredAt ∧
        item.payload = event.payload ∧ rowEntry row = .ok (item, event.legacyEventIndex) := by
  have payload_type := (projectionFromModel_ok h).2.2.2.2
  have shown : projectionToHistoryItem event = .ok ⟨event.sequence, event.eventType,
      event.occurredAt, event.payload, event.sequence_ge, payload_type⟩ := dif_pos payload_type
  refine ⟨_, shown, rfl, rfl, rfl, rfl, ?_⟩
  simp only [rowEntry, h, bind, Except.bind, shown]
  rfl

/-- A row shows an entry. -/
theorem rowEntry_ok {row : MissionProviderHistoryEventModel} {entry : HistoryEntry}
    (h : rowEntry row = .ok entry) :
    ∃ event, projectionFromModel row = .ok event ∧ projectionToHistoryItem event = .ok entry.1 ∧
      event.legacyEventIndex = entry.2 ∧ entry.key = pageKey row ∧
        (entry.1.sequence : Int) = row.sequence := by
  cases read : projectionFromModel row with
  | error error => simp [rowEntry, read, bind, Except.bind] at h
  | ok event =>
      obtain ⟨item, shown, sequence, -, occurredAt, -, entered⟩ :=
        projectionToHistoryItem_of_row read
      obtain rfl := Except.ok.inj (entered.symm.trans h)
      obtain ⟨-, sequence', occurredAt', index, -⟩ := projectionFromModel_ok read
      refine ⟨event, rfl, shown, rfl, ?_, ?_⟩
      · simp only [HistoryEntry.key, pageKey, occurredAt, occurredAt', index]
      · rw [sequence, sequence']

/-- Every row can be read. -/
def ReadableRows (rows : Table) : Prop := ∀ row ∈ rows, ∃ entry, rowEntry row = .ok entry

/-- Rows that are read and then shown. -/
theorem exists_read {rows : Table} {g : MissionProviderHistoryEventModel → HistoryEntry}
    (shown : ∀ row ∈ rows, rowEntry row = .ok (g row)) :
    ∃ events : List ProviderHistoryProjectionEvent, rows.mapM projectionFromModel = .ok events ∧
      ∃ h : ProviderHistoryProjectionEvent → HistoryEntry, events.map h = rows.map g ∧
        ∀ event ∈ events, projectionToHistoryItem event = .ok (h event).1 ∧
          event.occurredAt = (h event).1.occurredAt ∧ event.legacyEventIndex = (h event).2 := by
  have : Nonempty ProviderHistoryProjectionEvent :=
    ⟨⟨.nil, 1, .providerResolved, 0, (Classical.arbitrary ProviderResolutionHistoryItem).payload,
      0, le_rfl⟩⟩
  obtain ⟨p, read⟩ := exists_values projectionFromModel fun row member => by
    obtain ⟨event, read, -⟩ := rowEntry_ok (shown row member)
    exact ⟨event, read⟩
  have parts : ∀ row ∈ rows, projectionToHistoryItem (p row) = .ok (g row).1 ∧
      (p row).occurredAt = (g row).1.occurredAt ∧ (p row).legacyEventIndex = (g row).2 := by
    intro row member
    obtain ⟨item, item_ok, -, -, occurredAt, -, entered⟩ :=
      projectionToHistoryItem_of_row (read row member)
    have same := Except.ok.inj (entered.symm.trans (shown row member))
    rw [← same]
    exact ⟨item_ok, occurredAt.symm, rfl⟩
  obtain ⟨q, items⟩ := exists_values projectionToHistoryItem
    fun event member => by
      obtain ⟨row, inside, rfl⟩ := List.mem_map.mp member
      exact ⟨_, (parts row inside).1⟩
  have shows : ∀ row ∈ rows, q (p row) = (g row).1 := fun row member =>
    Except.ok.inj ((items (p row) (List.mem_map_of_mem member)).symm.trans (parts row member).1)
  refine ⟨rows.map p, mapM_eq_ok read, fun event => (q event, event.legacyEventIndex), ?_, ?_⟩
  · rw [List.map_map]
    refine List.map_congr_left fun row member => ?_
    exact Prod.ext (shows row member) (parts row member).2.2
  · intro event member
    obtain ⟨row, inside, rfl⟩ := List.mem_map.mp member
    refine ⟨items _ member, ?_, rfl⟩
    rw [(parts row inside).2.1, ← shows row inside]

theorem page_rows {rows : Table} {g : MissionProviderHistoryEventModel → HistoryEntry}
    {missionId : UUID} {request : ProviderResolutionHistoryPageRequest}
    (shown : ∀ row ∈ rows, rowEntry row = .ok (g row)) :
    ((do
      let events ← rows.mapM projectionFromModel
      GetMissionProviderResolutionHistory.page projectionToHistoryItem (·.occurredAt)
        (·.legacyEventIndex) missionId request events) : Except PyException _) =
      GetMissionProviderResolutionHistory.page (fun entry : HistoryEntry => .ok entry.1)
        (·.1.occurredAt) (·.2) missionId request (rows.map g) := by
  obtain ⟨events, read, h, same, parts⟩ := exists_read shown
  simp only [read, bind, Except.bind]
  rw [page_map (g := h) parts, same]

theorem increment_rows {rows : Table} {g : MissionProviderHistoryEventModel → HistoryEntry}
    {missionId : UUID} {sinceSequence limit : Nat}
    (shown : ∀ row ∈ rows, rowEntry row = .ok (g row)) :
    ((do
      let events ← rows.mapM projectionFromModel
      GetMissionProviderResolutionIncrement.increment projectionToHistoryItem missionId
        sinceSequence limit events) : Except PyException _) =
      GetMissionProviderResolutionIncrement.increment .ok missionId sinceSequence limit
        (rows.map fun row => (g row).1) := by
  obtain ⟨events, read, h, same, parts⟩ := exists_read shown
  simp only [read, bind, Except.bind]
  rw [increment_map (g := fun event => (h event).1) fun event member => (parts event member).1]
  have items := congrArg (List.map Prod.fst) same
  simp only [List.map_map, Function.comp_def] at items
  rw [items]

theorem projected_entries {table : Table} {missionId : UUID}
    (readable : ReadableRows (rowsOf missionId table)) :
    ∃ entries : List HistoryEntry,
      entries.Pairwise (fun a b => a.key ≤ b.key) ∧
        (((rowsOf missionId table).map (·.sequence)).Nodup →
          (entries.map (·.1.sequence)).Nodup) ∧
        (∀ entry, entry ∈ entries ↔ ∃ row ∈ rowsOf missionId table, rowEntry row = .ok entry) ∧
          ∀ request, GetMissionProviderResolutionHistory.readProjectionPage (reader table) missionId
            request = servePage missionId request entries := by
  obtain ⟨g, shown⟩ := exists_values _ readable
  have keys : ∀ row ∈ rowsOf missionId table, (g row).key = pageKey row := fun row member => by
    obtain ⟨_, -, -, -, key, -⟩ := rowEntry_ok (shown row member)
    exact key
  have ordered : ∀ row, row ∈ sortedBy pageKey (rowsOf missionId table) ↔
      row ∈ rowsOf missionId table := fun row => mem_sortedBy _ _
  refine ⟨(sortedBy pageKey (rowsOf missionId table)).map g, ?_, ?_, ?_, ?_⟩
  · rw [List.pairwise_map]
    refine (sortedBy_pairwise pageKey (rowsOf missionId table)).imp_of_mem ?_
    intro a b ha hb le
    rw [keys a ((ordered a).mp ha), keys b ((ordered b).mp hb)]
    exact le
  · intro distinct
    have distinct := ((sortedBy_perm pageKey (rowsOf missionId table)).map
      (·.sequence)).nodup_iff.mpr distinct
    rw [List.Nodup, List.pairwise_map] at distinct
    rw [List.map_map, List.Nodup, List.pairwise_map]
    refine distinct.imp_of_mem fun {a b} ha hb differ same => differ ?_
    obtain ⟨_, -, -, -, -, first⟩ := rowEntry_ok (shown a ((ordered a).mp ha))
    obtain ⟨_, -, -, -, -, second⟩ := rowEntry_ok (shown b ((ordered b).mp hb))
    rw [← first, ← second]
    exact congrArg Nat.cast same
  · intro entry
    constructor
    · intro member
      obtain ⟨row, inside, rfl⟩ := List.mem_map.mp member
      exact ⟨row, (ordered row).mp inside, shown row ((ordered row).mp inside)⟩
    · rintro ⟨row, member, read⟩
      exact List.mem_map.mpr
        ⟨row, (ordered row).mpr member, Except.ok.inj ((shown row member).symm.trans read)⟩
  · intro request
    unfold GetMissionProviderResolutionHistory.readProjectionPage servePage
    split
    · rfl
    · -- the rows are filtered before they are sorted, the entries after
      have fetched : (sortedBy pageKey (Keyset.after pageKey (request.cursor.map (·.key))
            (rowsOf missionId table))) =
          Keyset.after pageKey (request.cursor.map (·.key))
            (sortedBy pageKey (rowsOf missionId table)) :=
        (filter_sortedBy _ _ _).symm
      have inside : ∀ row ∈ (Keyset.after pageKey (request.cursor.map (·.key))
          (sortedBy pageKey (rowsOf missionId table))).take (request.limit + 1),
          row ∈ rowsOf missionId table := fun row member =>
        (ordered row).mp ((Keyset.after_sublist _ _ _).subset (List.mem_of_mem_take member))
      rw [Keyset.after_map fun row member => keys row ((ordered row).mp member), ← List.map_take]
      simp only [reader, listPage, fetched]
      exact page_rows fun row member => shown row (inside row member)

theorem projected_items {table : Table} {missionId : UUID}
    (readable : ReadableRows (rowsOf missionId table))
    (distinct : ((rowsOf missionId table).map (·.sequence)).Nodup) :
    ∃ items : List ProviderResolutionHistoryItem,
      items.Pairwise (fun a b => a.sequence < b.sequence) ∧
        (∀ item, item ∈ items ↔
          ∃ row ∈ rowsOf missionId table, (rowEntry row).map (·.1) = .ok item) ∧
          ∀ sinceSequence limit,
            ((do
              let events ← listSince table missionId sinceSequence (limit + 1)
              GetMissionProviderResolutionIncrement.increment projectionToHistoryItem missionId
                sinceSequence limit events) : Except PyException _) =
              serveIncrement missionId sinceSequence limit items := by
  obtain ⟨g, shown⟩ := exists_values _ readable
  have sequences : ∀ row ∈ rowsOf missionId table, ((g row).1.sequence : Int) = row.sequence :=
    fun row member => by
      obtain ⟨_, -, -, -, -, sequence⟩ := rowEntry_ok (shown row member)
      exact sequence
  have ordered : ∀ row, row ∈ sortedBy (·.sequence) (rowsOf missionId table) ↔
      row ∈ rowsOf missionId table := fun row => mem_sortedBy _ _
  refine ⟨(sortedBy (·.sequence) (rowsOf missionId table)).map fun row => (g row).1, ?_, ?_, ?_⟩
  · rw [List.pairwise_map]
    refine (sortedBy_strict distinct).imp_of_mem ?_
    intro a b ha hb less
    have first := sequences a ((ordered a).mp ha)
    have second := sequences b ((ordered b).mp hb)
    omega
  · intro item
    constructor
    · intro member
      obtain ⟨row, inside, rfl⟩ := List.mem_map.mp member
      refine ⟨row, (ordered row).mp inside, ?_⟩
      rw [shown row ((ordered row).mp inside)]
      rfl
    · rintro ⟨row, member, read⟩
      rw [shown row member] at read
      exact List.mem_map.mpr ⟨row, (ordered row).mpr member, Except.ok.inj read⟩
  · intro sinceSequence limit
    have fetched : sortedBy (·.sequence)
          ((rowsOf missionId table).filter ((sinceSequence : Int) < ·.sequence)) =
        (sortedBy (·.sequence) (rowsOf missionId table)).filter
          ((sinceSequence : Int) < ·.sequence) := (filter_sortedBy _ _ _).symm
    have moved : ((sortedBy (·.sequence) (rowsOf missionId table)).map fun row => (g row).1).filter
          (fun item => sinceSequence < item.sequence) =
        ((sortedBy (·.sequence) (rowsOf missionId table)).filter
          ((sinceSequence : Int) < ·.sequence)).map fun row => (g row).1 := by
      rw [List.filter_map]
      congr 1
      apply List.filter_congr
      intro row member
      have same := sequences row ((ordered row).mp member)
      simp only [Function.comp_apply, decide_eq_decide]
      omega
    simp only [listSince, fetched, serveIncrement, moved, ← List.map_take]
    refine increment_rows fun row member => shown row ?_
    exact (ordered row).mp (List.mem_filter.mp (List.mem_of_mem_take member)).1

end Rows

end PurchaseAgent
