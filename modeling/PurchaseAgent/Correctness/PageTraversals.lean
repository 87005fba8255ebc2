import PurchaseAgent.Api.KeysetPages
import PurchaseAgent.Collections.Traversal
import PurchaseAgent.Correctness.EventFields
import PurchaseAgent.Correctness.OutboxRows
import PurchaseAgent.Correctness.ProviderHistory
import PurchaseAgent.Correctness.StatisticsTruth

/-!
Following the pages of the missions, the identities and the outbox while their
tables change: no row comes twice, none is missed that is there all along, and the
pages come to an end when no rows are added any more.
-/

namespace PurchaseAgent

open Collections

/-- A table at the requests of a traversal. Rows come, go and change; an id is never
given to another row, and the sort key of a row stays. -/
structure TableSchedule {ρ K : Type} (rowId : ρ → UUID) (key : ρ → K) where
  tables : Nat → List ρ
  unique : ∀ n, ((tables n).map rowId).Nodup
  fixed : ∀ m n, ∀ a ∈ tables m, ∀ b ∈ tables n, rowId a = rowId b → key a = key b

/-- From request `stop` on, no row is added. -/
def TableSchedule.StopsAt {ρ K : Type} {rowId : ρ → UUID} {key : ρ → K}
    (schedule : TableSchedule rowId key) (stop : Nat) : Prop :=
  ∀ n, stop ≤ n → ∀ row ∈ schedule.tables (n + 1), ∃ old ∈ schedule.tables n, rowId old = rowId row

/-- What a client takes from an answer: the items, and the next cursor while
`has_more` holds. -/
def takePage {ι : Type} (answer : Except ApiException (KeysetPage ι)) :
    Option (List ι × Option String) :=
  match answer with
  | .error _ => none
  | .ok page => some (page.items, if page.hasMore then page.nextCursor else none)

/-- The items gathered by following the cursors from the first page on, and whether the
last answer said that there is no more. -/
def followPages {ι : Type} (request : Nat → Option String → Except ApiException (KeysetPage ι))
    (requests : Nat) : List ι × Bool :=
  Keyset.traverse (fun n cursor => takePage (request n cursor)) requests 0 none

/-- The pages show every row that fits throughout, in order and once, and end. -/
structure ExactTraversal {ρ ι K : Type} [LinearOrder K] {rowId : ρ → UUID} {key : ρ → K}
    (schedule : TableSchedule rowId key) (fits : ρ → Bool) (toItem : ρ → ι) (itemId : ι → UUID)
    (itemKey : ι → K) (request : Nat → Option String → Except ApiException (KeysetPage ι)) :
    Prop where
  distinct : ∀ requests, ((followPages request requests).1.map itemId).Nodup
  ordered : ∀ requests, (followPages request requests).1.Pairwise fun a b => itemKey a < itemKey b
  shown : ∀ requests, ∀ item ∈ (followPages request requests).1, ∃ n, n < requests ∧
    ∃ row ∈ schedule.tables n, fits row = true ∧ toItem row = item
  covered : ∀ requests, (followPages request requests).2 = true → ∀ id,
    (∀ n, n < requests → ∃ row ∈ schedule.tables n, rowId row = id ∧ fits row = true) →
      ∃ item ∈ (followPages request requests).1, itemId item = id
  ends : ∀ stop, schedule.StopsAt stop → ∃ requests, (followPages request requests).2 = true

theorem UUID.ext_int {a b : UUID} (same : a.int = b.int) : a = b := congrArg UUID.mk same

section Codecs
variable {κ : Type} (library : CursorLibrary)

/-- What a codec writes it reads back. -/
def CursorCodec.RoundTrips (codec : CursorCodec κ) : Prop :=
  ∀ cursor, codec.decode library (codec.encode library cursor) = .ok cursor

theorem cursorPayload_version {texts : List (String × String)} (apart : ∀ entry ∈ texts, entry.1 ≠ "v") :
    Dict.get? (cursorPayload texts) "v" = some (.int 1) := by
  induction texts with
  | nil => rfl
  | cons entry rest ih =>
      have other : ("v" == entry.1) = false := beq_false_of_ne (apart entry List.mem_cons_self).symm
      have later := ih fun entry member => apart entry (List.mem_cons_of_mem _ member)
      simp only [Dict.get?, cursorPayload, List.map_cons, List.cons_append, List.lookup_cons,
        other] at later ⊢
      exact later

theorem cursorPayload_fields {texts : List (String × String)} (apart : ∀ entry ∈ texts, entry.1 ≠ "v") :
    Dict.erase (cursorPayload texts) "v" = texts.map fun entry => (entry.1, .str entry.2) := by
  rw [Dict.erase, cursorPayload, List.filter_append]
  have kept : (texts.map fun entry => (entry.1, PyValue.str entry.2)).filter
      (fun entry => entry.1 ≠ "v") = texts.map fun entry => (entry.1, PyValue.str entry.2) := by
    apply List.filter_eq_self.mpr
    intro field member
    obtain ⟨entry, inside, rfl⟩ := List.mem_map.mp member
    exact decide_eq_true (apart entry inside)
  rw [kept]
  exact List.append_nil _

theorem CursorCodec.roundTrips {codec : CursorCodec κ}
    (named : ∀ cursor, ∀ entry ∈ codec.texts cursor, entry.1 ∈ codec.names)
    (apart : "v" ∉ codec.names)
    (valid : ∀ cursor, codec.validate
      ((codec.texts cursor).map fun entry => (entry.1, .str entry.2)) = .ok cursor) :
    codec.RoundTrips library := by
  intro cursor
  have unversioned : ∀ entry ∈ codec.texts cursor, entry.1 ≠ "v" := fun entry member same =>
    apart (same ▸ named cursor entry member)
  have known : ¬ ((codec.texts cursor).map fun entry => (entry.1, PyValue.str entry.2)).any
      (fun field => !codec.names.contains field.1) = true := by
    intro unknown
    obtain ⟨field, member, other⟩ := List.any_eq_true.mp unknown
    obtain ⟨entry, inside, rfl⟩ := List.mem_map.mp member
    simp [named cursor entry inside] at other
  rw [CursorCodec.decode, CursorCodec.encode, library.loads_dumps]
  dsimp only
  rw [cursorPayload_version unversioned, if_neg (by decide), cursorPayload_fields unversioned,
    if_neg known, valid]
  rfl

theorem missionCursor_roundTrips : (MissionCursorCodec library).RoundTrips library := by
  apply CursorCodec.roundTrips
  · intro cursor entry member
    obtain rfl := List.mem_singleton.mp member
    exact List.mem_cons_self
  · simp [MissionCursorCodec]
  · intro cursor
    change library.parseUUID (.str cursor.missionId.str) >>= _ = _
    rw [library.parseUUID_str]
    rfl

theorem identityCursor_roundTrips : (IdentityCursorCodec library).RoundTrips library := by
  apply CursorCodec.roundTrips
  · intro cursor entry member
    obtain rfl := List.mem_singleton.mp member
    exact List.mem_cons_self
  · simp [IdentityCursorCodec]
  · intro cursor
    change library.parseUUID (.str cursor.identityId.str) >>= _ = _
    rw [library.parseUUID_str]
    rfl

theorem outboxCursor_roundTrips : (NotificationOutboxCursorCodec library).RoundTrips library := by
  apply CursorCodec.roundTrips
  · intro cursor entry member
    have names : entry.1 ∈ ["message_id", "occurred_at"] := List.mem_map_of_mem member
    simpa [NotificationOutboxCursorCodec, or_comm] using names
  · simp [NotificationOutboxCursorCodec]
  · intro cursor
    change (library.parseDatetime (.str (library.isoformat cursor.occurredAt)) >>= _) = _
    rw [library.parseDatetime_isoformat]
    change (library.parseUUID (.str cursor.messageId.str) >>= _) = _
    rw [library.parseUUID_str]
    rfl

end Codecs

section Selection
variable {ρ α K : Type} [LinearOrder K]

theorem filter_sorted_after {key : ρ → K} {rows : List ρ} {fits select : ρ → Bool}
    {cursor : Option K}
    (both : ∀ row, select row = (fits row && decide (∀ c ∈ cursor, c < key row))) :
    (sortedBy key rows).filter select = Keyset.after key cursor (sortedBy key (rows.filter fits)) := by
  rw [Keyset.after, ← filter_sortedBy, List.filter_filter]
  apply List.filter_congr
  intro row _
  rw [both, Bool.and_comm]

theorem sorted_filter_after {key : ρ → K} {rows : List ρ} {fits select : ρ → Bool}
    {cursor : Option K}
    (both : ∀ row, select row = (fits row && decide (∀ c ∈ cursor, c < key row))) :
    sortedBy key (rows.filter select) = Keyset.after key cursor (sortedBy key (rows.filter fits)) := by
  rw [← filter_sortedBy, filter_sorted_after both]

theorem sorted_keys {rowId : ρ → UUID} {key : ρ → K} {rows : List ρ}
    (unique : (rows.map rowId).Nodup) (apart : ∀ a b, key a = key b → rowId a = rowId b)
    (fits : ρ → Bool) :
    (sortedBy key (rows.filter fits)).Pairwise fun a b => key a < key b := by
  have different := (List.pairwise_map.mp unique).sublist (List.filter_sublist (p := fits))
  apply sortedBy_strict
  apply List.pairwise_map.mpr
  exact different.imp fun other same => other (apart _ _ same)

end Selection

section Requests
variable {α ι κ K : Type} [LinearOrder K] (library : CursorLibrary) (codec : CursorCodec κ)
  (cursorKey : κ → K) (base : K)

/-- The sort key that the text of a cursor stands for. -/
def tokenKey (token : String) : K :=
  match codec.decode library token with
  | .error _ => base
  | .ok cursor => cursorKey cursor

/-- The text was written by the codec. -/
def CursorCodec.Wrote (token : String) : Prop :=
  ∃ cursor, token = codec.encode library cursor

variable {library codec}

omit [LinearOrder K] in
theorem tokenKey_encode (trips : codec.RoundTrips library) (cursor : κ) :
    tokenKey library codec cursorKey base (codec.encode library cursor) = cursorKey cursor := by
  rw [tokenKey, trips cursor]

omit [LinearOrder K] in
theorem decoded_cursor (trips : codec.RoundTrips library) {cursor : Option String}
    (wrote : ∀ token ∈ cursor, codec.Wrote library token) :
    ∃ decoded, cursor.mapM (codec.decode library) = .ok decoded ∧
      cursor.map (tokenKey library codec cursorKey base) = decoded.map cursorKey := by
  cases cursor with
  | none => exact ⟨none, rfl, rfl⟩
  | some token =>
      obtain ⟨written, rfl⟩ := wrote token rfl
      refine ⟨some written, ?_, congrArg some (tokenKey_encode cursorKey base trips written)⟩
      rw [Option.mapM_some, trips written]
      rfl

theorem keysetPage_reads (trips : codec.RoundTrips library) {viewKey : α → K} {cursorOf : α → κ}
    (cursorKeys : ∀ a, cursorKey (cursorOf a) = viewKey a) (shown : α → ι) (code message : String)
    {xs : List α} {candidates : Option κ → Nat → Except PyException (List α)}
    (selects : ∀ cursor limit, 0 < limit → candidates cursor limit =
      .ok ((Keyset.after viewKey (cursor.map cursorKey) xs).take limit)) (limit : Nat) :
    Keyset.Reads viewKey (tokenKey library codec cursorKey base) (codec.Wrote library) shown xs
      (fun cursor _ => takePage (keysetPage library codec code message candidates cursorOf shown
        limit cursor)) limit := by
  intro cursor wrote
  obtain ⟨decoded, read, keys⟩ := decoded_cursor cursorKey base trips wrote
  rw [keys]
  have found := selects decoded (limit + 1) (Nat.succ_pos limit)
  generalize Keyset.after viewKey (decoded.map cursorKey) xs = rows at found ⊢
  have more : limit < (rows.take (limit + 1)).length ↔ limit < rows.length := by
    rw [List.length_take]
    omega
  have visible : (rows.take (limit + 1)).take limit = rows.take limit := by
    rw [List.take_take, Nat.min_eq_left (Nat.le_succ limit)]
  have page : keysetPage library codec code message candidates cursorOf shown limit cursor =
      .ok ⟨(rows.take limit).map shown, decide (limit < rows.length),
        if decide (limit < rows.length) = true then (rows.take limit).getLast?.map fun last =>
          codec.encode library (cursorOf last) else none⟩ := by
    unfold keysetPage
    rw [read]
    simp only [Except.mapError, bind, Except.bind, pure, Except.pure, found, more, visible]
  refine ⟨if limit < rows.length then (rows.take limit).getLast?.map fun last =>
    codec.encode library (cursorOf last) else none, ?_, ?_, ?_⟩
  · simp only [page, takePage, decide_eq_true_eq]
    split
    · rfl
    · rfl
  · split
    · rw [Option.map_map]
      congr 1
      funext last
      exact (tokenKey_encode cursorKey base trips _).trans (cursorKeys last)
    · rfl
  · intro token chosen
    split at chosen
    · obtain ⟨last, -, rfl⟩ := Option.map_eq_some_iff.mp chosen
      exact ⟨_, rfl⟩
    · cases chosen

end Requests

section Exact
variable {ρ α ι κ K : Type} [LinearOrder K] {library : CursorLibrary} {codec : CursorCodec κ}
  {rowId : ρ → UUID} {key : ρ → K}

/-- The rows that fit at a request, in the order of the pages. -/
def TableSchedule.listed (schedule : TableSchedule rowId key) (fits : ρ → Bool) (n : Nat) : List ρ :=
  sortedBy key ((schedule.tables n).filter fits)

theorem TableSchedule.mem_listed {schedule : TableSchedule rowId key} {fits : ρ → Bool} {n : Nat}
    {row : ρ} : row ∈ schedule.listed fits n ↔ row ∈ schedule.tables n ∧ fits row = true := by
  rw [listed, mem_sortedBy, List.mem_filter]

section Along
variable {schedule : TableSchedule rowId key} {fits : ρ → Bool} {view : ρ → α} {shown : α → ι}
  {viewKey : α → K}

/-- A row that is gathered fitted in the table of one of the requests. -/
theorem row_of_gathered {requests : Nat} {rows : List α} {result : List ι × Bool}
    (all : Keyset.Gathered viewKey shown (fun n => (schedule.listed fits n).map view) requests 0 none
      rows result) {a : α} (member : a ∈ rows) :
    ∃ n, n < requests ∧ ∃ row ∈ schedule.tables n, fits row = true ∧ view row = a := by
  obtain ⟨n, -, bound, inside⟩ := all.held a member
  obtain ⟨row, there, rfl⟩ := List.mem_map.mp inside
  obtain ⟨listed, fitting⟩ := TableSchedule.mem_listed.mp there
  exact ⟨n, by omega, row, listed, fitting, rfl⟩

/-- A row that fits throughout is gathered by a traversal that ends. -/
theorem gathered_throughout (apart : ∀ a b, key a = key b → rowId a = rowId b)
    (viewKeys : ∀ row, viewKey (view row) = key row) {requests : Nat} {rows : List α}
    {result : List ι × Bool}
    (all : Keyset.Gathered viewKey shown (fun n => (schedule.listed fits n).map view) requests 0 none
      rows result) (ended : result.2 = true) (some : 0 < requests) {id : UUID}
    (throughout : ∀ n < requests, ∃ row ∈ schedule.tables n, rowId row = id ∧ fits row = true) :
    ∃ row, view row ∈ rows ∧ rowId row = id := by
  obtain ⟨first, there, rfl, -⟩ := throughout 0 some
  obtain ⟨a, member, same⟩ := all.covered ended (key first) (by simp) (by
    intro m _ bound
    obtain ⟨row, here, same, fitting⟩ := throughout m (by omega)
    exact ⟨view row, List.mem_map_of_mem (TableSchedule.mem_listed.mpr ⟨here, fitting⟩),
      (viewKeys row).trans (schedule.fixed m 0 row here first there same)⟩)
  obtain ⟨n, -, row, -, -, rfl⟩ := row_of_gathered all member
  exact ⟨row, member, apart row first ((viewKeys row).symm.trans same)⟩

omit [LinearOrder K] in
/-- Once no row comes in, the keys of the views are those of the request before. -/
theorem views_settled (viewKeys : ∀ row, viewKey (view row) = key row) {stop : Nat}
    (still : ∀ n, stop ≤ n → ∀ row ∈ schedule.tables (n + 1), ∃ old ∈ schedule.tables n,
      rowId old = rowId row) :
    ∀ n, stop ≤ n → ∀ a ∈ (schedule.tables (n + 1)).map view,
      ∃ old ∈ (schedule.tables n).map view, viewKey old = viewKey a := by
  intro n late a member
  obtain ⟨row, inside, rfl⟩ := List.mem_map.mp member
  obtain ⟨old, there, same⟩ := still n late row inside
  refine ⟨view old, List.mem_map_of_mem there, ?_⟩
  rw [viewKeys, viewKeys]
  exact schedule.fixed n (n + 1) old there row inside same

theorem views_stored (n : Nat) :
    ∀ a ∈ (schedule.listed fits n).map view, a ∈ (schedule.tables n).map view := by
  intro a member
  obtain ⟨row, inside, rfl⟩ := List.mem_map.mp member
  exact List.mem_map_of_mem (TableSchedule.mem_listed.mp inside).1

theorem views_sorted (apart : ∀ a b, key a = key b → rowId a = rowId b)
    (viewKeys : ∀ row, viewKey (view row) = key row) (n : Nat) :
    ((schedule.listed fits n).map view).Pairwise fun a b => viewKey a < viewKey b := by
  apply List.pairwise_map.mpr
  apply (sorted_keys (schedule.unique n) apart fits).imp
  intro a b less
  rwa [viewKeys, viewKeys]

end Along

/-- What a repository selects behind a cursor makes the traversal exact. -/
theorem exactTraversal_of_selects (trips : codec.RoundTrips library)
    (schedule : TableSchedule rowId key) (apart : ∀ a b, key a = key b → rowId a = rowId b)
    (fits : ρ → Bool) (view : ρ → α) (shown : α → ι) (viewKey : α → K) (cursorKey : κ → K) (base : K)
    (viewKeys : ∀ row, viewKey (view row) = key row)
    {cursorOf : α → κ} (cursorKeys : ∀ a, cursorKey (cursorOf a) = viewKey a)
    {itemKey : ι → K} (itemKeys : ∀ a, itemKey (shown a) = viewKey a)
    {itemId : ι → UUID} (itemIds : ∀ row, itemId (shown (view row)) = rowId row)
    (code message : String) {limits : Nat → Nat} (positive : ∀ n, 0 < limits n)
    {candidates : Nat → Option κ → Nat → Except PyException (List α)}
    (selects : ∀ n cursor limit, 0 < limit → candidates n cursor limit =
      .ok ((Keyset.after viewKey (cursor.map cursorKey)
        ((schedule.listed fits n).map view)).take limit)) :
    ExactTraversal schedule fits (fun row => shown (view row)) itemId itemKey fun n cursor =>
      keysetPage library codec code message (candidates n) cursorOf shown (limits n) cursor := by
  have along : Keyset.ReadsAlong viewKey (tokenKey library codec cursorKey base)
      (codec.Wrote library) shown (fun n => (schedule.listed fits n).map view) limits
      (fun n cursor => takePage (keysetPage library codec code message (candidates n) cursorOf shown
        (limits n) cursor)) := by
    refine ⟨views_sorted apart viewKeys, positive, ?_⟩
    intro n
    exact keysetPage_reads cursorKey base trips cursorKeys shown code message (selects n) (limits n)
  have gathered (requests : Nat) := along.gathered requests 0 none (by simp)
  have ordered (requests : Nat) : (followPages (fun n cursor => keysetPage library codec code message
      (candidates n) cursorOf shown (limits n) cursor) requests).1.Pairwise
        fun a b => itemKey a < itemKey b := by
    obtain ⟨rows, all⟩ := gathered requests
    rw [followPages, all.shown]
    apply List.pairwise_map.mpr
    apply all.ordered.imp
    intro a b less
    rwa [itemKeys, itemKeys]
  have shownRows (requests : Nat) : ∀ item ∈ (followPages (fun n cursor => keysetPage library codec
      code message (candidates n) cursorOf shown (limits n) cursor) requests).1,
        ∃ n, n < requests ∧ ∃ row ∈ schedule.tables n, fits row = true ∧ shown (view row) = item := by
    intro item member
    obtain ⟨rows, all⟩ := gathered requests
    rw [followPages, all.shown] at member
    obtain ⟨a, inside, rfl⟩ := List.mem_map.mp member
    obtain ⟨n, bound, row, there, fitting, rfl⟩ := row_of_gathered all inside
    exact ⟨n, bound, row, there, fitting, rfl⟩
  refine ⟨?_, ordered, shownRows, ?_, ?_⟩
  · intro requests
    apply List.pairwise_map.mpr
    apply (ordered requests).imp_of_mem
    intro a b first second less same
    obtain ⟨m, -, row, there, -, rfl⟩ := shownRows requests a first
    obtain ⟨n, -, other, there', -, rfl⟩ := shownRows requests b second
    rw [itemIds, itemIds] at same
    have keys := schedule.fixed m n row there other there' same
    rw [itemKeys, itemKeys, viewKeys, viewKeys, keys] at less
    exact lt_irrefl _ less
  · intro requests ended id throughout
    obtain ⟨rows, all⟩ := gathered requests
    have some : 0 < requests := by
      cases requests with
      | zero => cases ended
      | succ fuel => exact Nat.succ_pos fuel
    obtain ⟨row, member, same⟩ := gathered_throughout apart viewKeys all ended some throughout
    refine ⟨shown (view row), ?_, (itemIds row).trans same⟩
    rw [followPages, all.shown]
    exact List.mem_map_of_mem member
  · intro stop still
    exact along.ends views_stored stop (views_settled viewKeys still) stop 0 (by omega) none (by simp)

end Exact

theorem all_cursor {κ : Type} (number : κ → Nat) (cursor : Option κ) (key : Nat) :
    cursor.all (fun behind => number behind < key) =
      decide (∀ c ∈ cursor.map number, c < key) := by
  cases cursor <;> simp

section Missions

/-- The rows that the filters of a mission page let through. -/
def MissionFilter.fits (filter : MissionFilter) (row : StoredMissionRow) : Bool :=
  filter.status.all (row.mission.status = ·) && filter.missionType.all (row.mission.type = ·)

theorem after_summaries (cursor : Option Nat) (rows : List StoredMissionRow) :
    Keyset.after (·.id.int) cursor (rows.map MissionSummary.fromMission) =
      (Keyset.after (·.mission.id.int) cursor rows).map MissionSummary.fromMission :=
  Keyset.after_map fun _ _ => rfl

theorem missionCandidates_select (store : PageStore) (rows : List StoredMissionRow)
    (filter : MissionFilter) (cursor : Option MissionCursor) (limit : Nat) (positive : 0 < limit) :
    store.missionCandidates rows filter cursor limit =
      .ok ((Keyset.after (·.id.int) (cursor.map (·.missionId.int))
        ((sortedBy (·.mission.id.int) (rows.filter filter.fits)).map
          MissionSummary.fromMission)).take limit) := by
  rw [after_summaries]
  cases store with
  | memory =>
      simp only [PageStore.missionCandidates, InMemoryMissionRepository.listSummaryPageCandidates]
      rw [if_neg (Nat.not_le_of_lt positive), filter_sorted_after]
      intro row
      rw [all_cursor, Bool.and_assoc, Bool.and_comm]
      rfl
  | database =>
      simp only [PageStore.missionCandidates, SqlAlchemyMissionRepository.listSummaryPageCandidates]
      rw [if_neg (Nat.not_le_of_lt positive), sorted_filter_after, List.map_take]
      intro row
      simp only [all_cursor, MissionStatus.value_eq_iff, MissionFilter.fits]

end Missions

section Identities

/-- The rows that the search of a repository finds. -/
def PageStore.finds (search : TextSearch) (query : Option String) (row : IdentityRow) :
    PageStore → Bool
  | .memory => (query.map fun text => search.casefold (strip text)).all fun text =>
      [row.displayName, row.firstName, row.lastName].any fun value =>
        contains text.toList (search.casefold value).toList
  | .database =>
      (query.map fun text => SqlAlchemyIdentityRepository.searchPattern (strip text)).all fun text =>
        search.ilike row.displayName text || search.ilike row.firstName text ||
          search.ilike row.lastName text

theorem after_identities (cursor : Option Nat) (rows : List IdentityRow) :
    Keyset.after (·.id.int) cursor (rows.map IdentitySummary.fromIdentity) =
      (Keyset.after (·.id.int) cursor rows).map IdentitySummary.fromIdentity :=
  Keyset.after_map fun _ _ => rfl

theorem identitySearchPattern_ok {query : Option String} (given : ∀ text ∈ query, strip text ≠ "") :
    SqlAlchemyIdentityRepository.identitySearchPattern (query.map strip) =
      .ok (query.map fun text => SqlAlchemyIdentityRepository.searchPattern (strip text)) := by
  cases query with
  | none => rfl
  | some text =>
      have kept : strip (strip text) ≠ "" := by
        rw [strip_strip]
        exact given text rfl
      rw [Option.map_some, SqlAlchemyIdentityRepository.identitySearchPattern, if_neg kept,
        strip_strip]
      rfl

theorem identityCandidates_select (store : PageStore) (search : TextSearch)
    (rows : List IdentityRow) {query : Option String} (given : ∀ text ∈ query, strip text ≠ "")
    (cursor : Option IdentityCursor) (limit : Nat) (positive : 0 < limit) :
    store.identityCandidates search rows (query.map strip) cursor limit =
      .ok ((Keyset.after (·.id.int) (cursor.map (·.identityId.int))
        ((sortedBy (·.id.int) (rows.filter (store.finds search query ·))).map
          IdentitySummary.fromIdentity)).take limit) := by
  rw [after_identities]
  cases store with
  | memory =>
      have searched : (query.map strip).map (fun text => search.casefold (strip text)) =
          query.map fun text => search.casefold (strip text) := by
        cases query with
        | none => rfl
        | some text => simp
      have found : query.map (fun text => search.casefold (strip text)) ≠ some "" := by
        intro blank
        obtain ⟨text, rfl, empty⟩ := Option.map_eq_some_iff.mp blank
        exact given text rfl (search.casefold_eq_empty _ empty)
      simp only [PageStore.identityCandidates, InMemoryIdentityRepository.listSummaryPageCandidates,
        searched, all_cursor]
      rw [if_neg (Nat.not_le_of_lt positive), if_neg found, filter_sorted_after]
      intro row
      exact Bool.and_comm _ _
  | database =>
      simp only [PageStore.identityCandidates, identitySearchPattern_ok given,
        SqlAlchemyIdentityRepository.listSummaryPageCandidates, all_cursor]
      rw [if_neg (Nat.not_le_of_lt positive), List.map_take, sorted_filter_after]
      intro row
      rfl

end Identities

section Outbox

def OutboxFilter.fits (filter : OutboxFilter) (message : NotificationOutboxMessage) : Bool :=
  filter.status.all (message.status = ·) && filter.missionId.all (message.missionId = ·)

/-- What a cursor of the outbox compares with the keys of the messages. -/
def NotificationOutboxCursor.pageKey (cursor : NotificationOutboxCursor) : (Time ×ₗ Nat)ᵒᵈ :=
  OrderDual.toDual (toLex (cursor.occurredAt, cursor.messageId.int))

theorem pageKey_lt {cursor : NotificationOutboxCursor} {message : NotificationOutboxMessage} :
    cursor.pageKey < message.pageKey ↔ message.occurredAt < cursor.occurredAt ∨
      message.occurredAt = cursor.occurredAt ∧ message.id.int < cursor.messageId.int := by
  rw [NotificationOutboxCursor.pageKey, NotificationOutboxMessage.pageKey, OrderDual.toDual_lt_toDual,
    Prod.Lex.toLex_lt_toLex]

theorem pageKey_apart (a b : NotificationOutboxMessage) (same : a.pageKey = b.pageKey) :
    a.id = b.id := by
  have pair : (a.occurredAt, a.id.int) = (b.occurredAt, b.id.int) :=
    toLex.injective (OrderDual.toDual.injective same)
  obtain ⟨-, ids⟩ := Prod.mk.inj pair
  exact UUID.ext_int ids

theorem messageCandidates_select (rows : List NotificationOutboxMessage) (filter : OutboxFilter)
    (cursor : Option NotificationOutboxCursor) (limit : Nat) (positive : 0 < limit) :
    SqlAlchemyNotificationOutboxRepository.listMessagePageCandidates rows filter cursor limit =
      .ok ((Keyset.after (·.pageKey) (cursor.map (·.pageKey))
        ((sortedBy (·.pageKey) (rows.filter filter.fits)).map id)).take limit) := by
  simp only [SqlAlchemyNotificationOutboxRepository.listMessagePageCandidates, List.map_id]
  rw [if_neg (Nat.not_lt_of_le positive), sorted_filter_after]
  intro message
  rw [OutboxFilter.fits]
  congr 1
  cases cursor with
  | none => simp
  | some cursor => simp [pageKey_lt]

end Outbox

section Pages
variable (library : CursorLibrary) (search : TextSearch) (store : PageStore) {limits : Nat → Nat}
  (positive : ∀ n, 0 < limits n)
include positive

theorem mission_pages_exact (filter : MissionFilter)
    (schedule : TableSchedule (fun row : StoredMissionRow => row.mission.id) (·.mission.id.int)) :
    ExactTraversal schedule filter.fits .fromMission MissionSummary.id (·.id.int)
      fun n cursor => pageMissionSummaries library
        (store.missionCandidates (schedule.tables n)) filter (limits n) cursor :=
  exactTraversal_of_selects (missionCursor_roundTrips library) schedule
    (fun _ _ => UUID.ext_int) filter.fits MissionSummary.fromMission id
    (fun item => item.id.int) (fun behind => behind.missionId.int) 0
    (fun _ => rfl) (fun _ => rfl) (fun _ => rfl) (fun _ => rfl) _ _ positive fun n cursor limit =>
      missionCandidates_select store (schedule.tables n) filter cursor limit

theorem identity_pages_exact {query : Option String} (given : ∀ text ∈ query, strip text ≠ "")
    (schedule : TableSchedule IdentityRow.id (·.id.int)) :
    ExactTraversal schedule (store.finds search query ·) .fromIdentity IdentitySummary.id (·.id.int)
      fun n cursor => pageIdentitySummaries library
        (store.identityCandidates search (schedule.tables n)) query (limits n) cursor := by
  have accepted : normalizedQuery query = .ok (query.map strip) := by
    apply if_neg
    intro blank
    obtain ⟨text, rfl, empty⟩ := Option.map_eq_some_iff.mp blank
    exact given text rfl empty
  simp only [pageIdentitySummaries, accepted]
  exact exactTraversal_of_selects (identityCursor_roundTrips library) schedule
    (fun _ _ => UUID.ext_int) (store.finds search query ·) IdentitySummary.fromIdentity
    id (fun item => item.id.int) (fun behind => behind.identityId.int) 0 (fun _ => rfl)
    (fun _ => rfl) (fun _ => rfl) (fun _ => rfl) _ _ positive fun n cursor limit =>
      identityCandidates_select store search (schedule.tables n) given cursor limit

theorem message_pages_exact (filter : OutboxFilter)
    (schedule : TableSchedule NotificationOutboxMessage.id NotificationOutboxMessage.pageKey) :
    ExactTraversal schedule filter.fits .fromMessage NotificationOutboxMessageSummary.id
      NotificationOutboxMessageSummary.pageKey
      fun n cursor => pageNotificationOutboxEndpoint library
        (SqlAlchemyNotificationOutboxRepository.listMessagePageCandidates (schedule.tables n))
        filter (limits n) cursor :=
  exactTraversal_of_selects (outboxCursor_roundTrips library) schedule pageKey_apart
    filter.fits id NotificationOutboxMessageSummary.fromMessage NotificationOutboxMessage.pageKey
    NotificationOutboxCursor.pageKey (OrderDual.toDual (toLex (0, 0)))
    (fun _ => rfl) (fun _ => rfl) (fun _ => rfl) (fun _ => rfl) _ _ positive fun n cursor limit =>
      messageCandidates_select (schedule.tables n) filter cursor limit

end Pages

/-- Whatever rows come and go, the pages of missions, identities and outbox messages
show each row that fits throughout, once and in order, and end. -/
theorem page_traversals_exact (library : CursorLibrary) (search : TextSearch)
    {limits : Nat → Nat} (positive : ∀ n, 0 < limits n) :
    (∀ (store : PageStore) (filter : MissionFilter)
      (schedule : TableSchedule (fun row : StoredMissionRow => row.mission.id) (·.mission.id.int)),
      ExactTraversal schedule filter.fits .fromMission MissionSummary.id (·.id.int)
        fun n cursor => pageMissionSummaries library
          (store.missionCandidates (schedule.tables n)) filter (limits n) cursor) ∧
    (∀ (store : PageStore) (query : Option String), (∀ text ∈ query, strip text ≠ "") →
      ∀ schedule : TableSchedule IdentityRow.id (·.id.int),
      ExactTraversal schedule (store.finds search query ·) .fromIdentity IdentitySummary.id (·.id.int)
        fun n cursor => pageIdentitySummaries library
          (store.identityCandidates search (schedule.tables n)) query (limits n) cursor) ∧
    (∀ (filter : OutboxFilter)
      (schedule : TableSchedule NotificationOutboxMessage.id NotificationOutboxMessage.pageKey),
      ExactTraversal schedule filter.fits .fromMessage NotificationOutboxMessageSummary.id
        NotificationOutboxMessageSummary.pageKey
        fun n cursor => pageNotificationOutboxEndpoint library
          (SqlAlchemyNotificationOutboxRepository.listMessagePageCandidates (schedule.tables n))
          filter (limits n) cursor) := by
  refine ⟨?_, ?_, ?_⟩
  · intro store filter schedule
    exact mission_pages_exact library store positive filter schedule
  · intro store query given schedule
    exact identity_pages_exact library search store positive given schedule
  · intro filter schedule
    exact message_pages_exact library positive filter schedule

/-! JSON objects of texts, with a version behind them. -/

namespace CursorLibrary

def escape (c : Char) : List Char := if c = '"' ∨ c = '\\' then ['\\', c] else [c]

def quoted (text : String) (rest : List Char) : List Char :=
  '"' :: (text.toList.flatMap escape ++ '"' :: rest)

/-- The text up to the closing quotation mark, and what follows it. -/
def readText : Bool → List Char → List Char × List Char
  | _, [] => ([], [])
  | true, c :: rest => (c :: (readText false rest).1, (readText false rest).2)
  | false, c :: rest =>
    if c = '"' then ([], rest)
    else if c = '\\' then readText true rest
    else (c :: (readText false rest).1, (readText false rest).2)

theorem readText_escaped (text rest : List Char) :
    readText false (text.flatMap escape ++ '"' :: rest) = (text, rest) := by
  induction text with
  | nil => rfl
  | cons c text ih =>
      rw [List.flatMap_cons, List.append_assoc, escape]
      by_cases special : c = '"' ∨ c = '\\'
      · rw [if_pos special]
        change (c :: (readText false (text.flatMap escape ++ '"' :: rest)).1,
          (readText false (text.flatMap escape ++ '"' :: rest)).2) = _
        rw [ih]
      · rw [if_neg special]
        obtain ⟨quote, backslash⟩ := not_or.mp special
        rw [List.singleton_append, readText, if_neg quote, if_neg backslash, ih]

def writeFields : Dict String PyValue → List Char
  | [] => []
  | (name, .str text) :: rest => quoted name (':' :: quoted text (',' :: writeFields rest))
  | (name, _) :: _ => quoted name [':', '1', '}']

/-- The fields of an object, read with some fuel. -/
def readFields : Nat → List Char → Dict String PyValue
  | 0, _ => []
  | fuel + 1, text =>
    let name := readText false text.tail
    match name.2 with
    | ':' :: '"' :: rest =>
      let value := readText false rest
      (String.ofList name.1, .str (String.ofList value.1)) :: readFields fuel value.2.tail
    | _ => [(String.ofList name.1, .int 1)]

theorem readFields_payload (texts : List (String × String)) (fuel : Nat)
    (enough : texts.length < fuel) :
    readFields fuel (writeFields (cursorPayload texts)) = cursorPayload texts := by
  induction texts generalizing fuel with
  | nil =>
      obtain ⟨fuel, rfl⟩ := Nat.exists_eq_add_one_of_ne_zero (Nat.ne_of_gt enough)
      change readFields (fuel + 1) (quoted "v" [':', '1', '}']) = _
      rw [readFields, quoted, List.tail_cons, readText_escaped]
      rfl
  | cons entry rest ih =>
      obtain ⟨fuel, rfl⟩ := Nat.exists_eq_add_one_of_ne_zero
        (Nat.ne_of_gt (Nat.lt_of_le_of_lt (Nat.zero_le _) enough))
      have fewer : rest.length < fuel := Nat.lt_of_succ_lt_succ enough
      change readFields (fuel + 1) (quoted entry.1 (':' :: quoted entry.2
        (',' :: writeFields (cursorPayload rest)))) = _
      rw [readFields, quoted, List.tail_cons, readText_escaped]
      simp only [quoted, readText_escaped, List.tail_cons, String.ofList_toList, ih fuel fewer]
      rfl

theorem length_writeFields (texts : List (String × String)) :
    texts.length < (writeFields (cursorPayload texts)).length := by
  induction texts with
  | nil => decide
  | cons entry rest ih =>
      change rest.length + 1 < (quoted entry.1 (':' :: quoted entry.2
        (',' :: writeFields (cursorPayload rest)))).length
      simp only [quoted, List.length_cons, List.length_append]
      omega

theorem readFields_written (texts : List (String × String)) :
    readFields (String.ofList (writeFields (cursorPayload texts))).toList.length
      (String.ofList (writeFields (cursorPayload texts))).toList = cursorPayload texts := by
  rw [String.toList_ofList]
  exact readFields_payload texts _ (length_writeFields texts)

/-- The texts as they are, without base64. -/
def plain : CursorLibrary where
  dumps payload := String.ofList (writeFields payload)
  loads text := .ok (.dict (readFields text.toList.length text.toList))
  isoformat := timestampText
  parseUUID := (EventFields.plain fun id _ => id).parseUUID
  parseDatetime := (EventFields.plain fun id _ => id).parseDatetime
  loads_dumps texts := congrArg (fun payload => Except.ok (PyValue.dict payload)) (readFields_written texts)
  parseUUID_str := (EventFields.plain fun id _ => id).parseUUID_str
  parseDatetime_isoformat := (EventFields.plain fun id _ => id).parseDatetime_dump

end CursorLibrary

/-! Tables of two rows, which gain a third after the first request. -/

namespace GrowingTables

theorem participants_ne : Sample.mission.participantIds ≠ [] := List.cons_ne_nil _ _

theorem attempts_ge : 1 ≤ Sample.mission.maxExecutionAttempts := by decide

def stored (number : Nat) : StoredMissionRow :=
  ⟨{ Sample.mission with id := ⟨number⟩ }, participants_ne, attempts_ge⟩

def passenger (number : Nat) : IdentityRow := ⟨⟨number⟩, "Ann", "Ann", "Lee"⟩

def message (number : Nat) : NotificationOutboxMessage :=
  NotificationContent.message ⟨⟨7⟩, ⟨8⟩, "mission_completed", 0, [], [⟨9⟩]⟩ ⟨number⟩

def grown {ρ : Type} (rows : List ρ) (n : Nat) : List ρ := rows.take (n + 2)

theorem grown_unique {ρ : Type} {rowId : ρ → UUID} {rows : List ρ}
    (apart : (rows.map rowId).Nodup) (n : Nat) : ((grown rows n).map rowId).Nodup := by
  rw [grown, List.map_take]
  exact apart.sublist (List.take_sublist _ _)

theorem grown_fixed {ρ K : Type} {rowId : ρ → UUID} {key : ρ → K} {rows : List ρ}
    (apart : (rows.map rowId).Nodup) (m n : Nat) (x : ρ) (left : x ∈ grown rows m) (y : ρ)
    (right : y ∈ grown rows n) (same : rowId x = rowId y) : key x = key y :=
  congrArg key (List.inj_on_of_nodup_map apart (List.mem_of_mem_take left)
    (List.mem_of_mem_take right) same)

def schedule {ρ K : Type} (rowId : ρ → UUID) (key : ρ → K) (rows : List ρ)
    (apart : (rows.map rowId).Nodup) : TableSchedule rowId key :=
  ⟨grown rows, grown_unique apart, grown_fixed apart⟩

theorem missions_apart : (([1, 2, 3].map stored).map (·.mission.id)).Nodup := by decide

theorem identities_apart : (([1, 2, 3].map passenger).map (·.id)).Nodup := by decide

theorem messages_apart : (([3, 2, 1].map message).map (·.id)).Nodup := by decide

def missions : TableSchedule (fun row : StoredMissionRow => row.mission.id) (·.mission.id.int) :=
  schedule _ _ ([1, 2, 3].map stored) missions_apart

def identities : TableSchedule IdentityRow.id (·.id.int) :=
  schedule _ _ ([1, 2, 3].map passenger) identities_apart

def messages : TableSchedule NotificationOutboxMessage.id NotificationOutboxMessage.pageKey :=
  schedule _ _ ([3, 2, 1].map message) messages_apart

def search : TextSearch where
  casefold := id
  ilike value pattern := contains (pattern.toList.drop 1).dropLast value.toList
  casefold_eq_empty _ empty := empty

theorem query_given (text : String) (query : text ∈ some " Ann ") : strip text ≠ "" := by
  cases query
  decide

end GrowingTables

theorem page_traversals_exact_grown :
    ExactTraversal GrowingTables.missions (MissionFilter.mk (some .created) none).fits .fromMission
      MissionSummary.id (·.id.int) (fun n cursor => pageMissionSummaries .plain
        (PageStore.memory.missionCandidates (GrowingTables.missions.tables n))
        ⟨some .created, none⟩ 1 cursor) ∧
    ExactTraversal GrowingTables.identities
      (PageStore.database.finds GrowingTables.search (some " Ann ") ·) .fromIdentity
      IdentitySummary.id (·.id.int) (fun n cursor => pageIdentitySummaries .plain
        (PageStore.database.identityCandidates GrowingTables.search
          (GrowingTables.identities.tables n)) (some " Ann ") 1 cursor) ∧
    ExactTraversal GrowingTables.messages (OutboxFilter.mk none none).fits .fromMessage
      NotificationOutboxMessageSummary.id NotificationOutboxMessageSummary.pageKey
      fun n cursor => pageNotificationOutboxEndpoint .plain
        (SqlAlchemyNotificationOutboxRepository.listMessagePageCandidates
          (GrowingTables.messages.tables n)) ⟨none, none⟩ 1 cursor :=
  ⟨(page_traversals_exact .plain GrowingTables.search fun _ => Nat.one_pos).1 .memory _ _,
    (page_traversals_exact .plain GrowingTables.search fun _ => Nat.one_pos).2.1 .database _
      GrowingTables.query_given _,
    (page_traversals_exact .plain GrowingTables.search fun _ => Nat.one_pos).2.2 _ _⟩

end PurchaseAgent
