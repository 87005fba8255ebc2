import PurchaseAgent.Services.NotificationOutbox

/-!
The life of one message of the outbox: whatever is done to the outbox moves
each row by one of eight steps or leaves it alone.
-/

namespace PurchaseAgent

open Cooperative Collections SqlAlchemyNotificationOutboxRepository

variable {σ : Type} {env : OutboxEnvironment σ} {t : TaskId} {w : OutboxWorld σ}

/-- The steps of the row with the given id. -/
inductive RowStep (id : UUID) :
    OutboxOp → Option NotificationOutboxMessage → Option NotificationOutboxMessage → Prop
  | kept (o : OutboxOp) (row : Option NotificationOutboxMessage) : RowStep id o row row
  | added (content : NotificationContent) :
      RowStep id (.add content) none (some (content.message id))
  | claimed (currentTime : Time) (limit : Int) (row : NotificationOutboxMessage)
      (pending : row.status = .pending) :
      RowStep id (.claimPending currentTime limit) (some row) (some (row.claimed currentTime))
  | delivered (deliveredAt : Time) (row : NotificationOutboxMessage)
      (processing : row.status = .processing) :
      RowStep id (.markDelivered id deliveredAt) (some row) (some (row.delivered deliveredAt))
  | recovered (currentTime : Time) (claimTimeout : TimeDelta) (limit : Int)
      (row : NotificationOutboxMessage) (processing : row.status = .processing) :
      RowStep id (.recoverStaleClaims currentTime claimTimeout limit) (some row)
        (some (row.recovered currentTime))
  | attemptFailed (failedAt retryAt : Time) (error : String) (maxAttempts : Int)
      (row : NotificationOutboxMessage) (processing : row.status = .processing) :
      RowStep id (.markDeliveryFailed id failedAt retryAt error maxAttempts) (some row)
        (some (row.attemptFailed retryAt error maxAttempts))
  | requeued (currentTime : Time) (row : NotificationOutboxMessage)
      (failed : row.status = .failed) :
      RowStep id (.requeueFailed id currentTime) (some row) (some (row.requeued currentTime))
  | pruned (cutoff : Time) (limit : Int) (row : NotificationOutboxMessage)
      (delivered : row.status = .delivered) :
      RowStep id (.pruneDeliveredBefore cutoff limit false) (some row) none

/-- Rows lie under their ids, each id once, and ids still to be drawn are new. -/
structure OutboxWorld.WellFormed (env : OutboxEnvironment σ) (w : OutboxWorld σ) : Prop where
  keys : (w.rows.map (·.1)).Nodup
  ids : ∀ entry ∈ w.rows, entry.2.id = entry.1
  fresh : ∀ n, w.idsDrawn ≤ n → w.rows.get? (env.newId n) = none

theorem OutboxWorld.WellFormed.messageIds_nodup (h : w.WellFormed env) :
    ((w.rows.map (·.2)).map (·.id)).Nodup := by
  have same : (w.rows.map (·.2)).map (·.id) = w.rows.map (·.1) := by
    rw [List.map_map]
    exact List.map_congr_left h.ids
  rw [same]
  exact h.keys

section Selection
variable {rows : Dict UUID NotificationOutboxMessage} {ids : List UUID}
  {change : NotificationOutboxMessage → NotificationOutboxMessage} {id : UUID}

theorem get?_updateRows (rows : Dict UUID NotificationOutboxMessage) (ids : List UUID)
    (change : NotificationOutboxMessage → NotificationOutboxMessage) (id : UUID) :
    (updateRows rows ids change).get? id =
      (rows.get? id).map fun row => if id ∈ ids then change row else row := by
  refine Eq.trans ?_ (Dict.get?_map rows (fun key row => if key ∈ ids then change row else row) id)
  refine congrArg (Dict.get? · id) (List.map_congr_left fun entry _ => ?_)
  split
  · rfl
  · rfl

theorem mem_updateRows {entry : UUID × NotificationOutboxMessage}
    (h : entry ∈ updateRows rows ids change) :
    ∃ row, (entry.1, row) ∈ rows ∧ (entry.2 = row ∨ entry.2 = change row) := by
  obtain ⟨old, member, rfl⟩ := List.mem_map.mp h
  split
  · exact ⟨old.2, member, .inr rfl⟩
  · exact ⟨old.2, member, .inl rfl⟩

theorem keys_updateRows (rows : Dict UUID NotificationOutboxMessage) (ids : List UUID)
    (change : NotificationOutboxMessage → NotificationOutboxMessage) :
    (updateRows rows ids change).map (·.1) = rows.map (·.1) := by
  unfold updateRows
  rw [List.map_map]
  refine List.map_congr_left fun entry _ => ?_
  show (if entry.1 ∈ ids then (entry.1, change entry.2) else entry).1 = entry.1
  split
  · rfl
  · rfl

variable {view : TableView} {p : NotificationOutboxMessage → Bool}
  {first second : NotificationOutboxMessage → Int} {limit : Int}

/-- What is selected is in the table and satisfies the condition. -/
theorem get?_of_selected (h : w.WellFormed env) {row : NotificationOutboxMessage}
    (selected : row ∈ selectForUpdate view w.rows p first second limit) :
    w.rows.get? row.id = some row ∧ p row = true := by
  have member := List.mem_of_mem_take selected
  rw [mem_sortedBy, mem_sortedBy, mem_sortedBy, List.mem_filter, Bool.and_eq_true] at member
  obtain ⟨row', stored, rfl⟩ := List.mem_map.mp member.1
  rw [h.ids _ stored]
  exact ⟨Dict.get?_of_mem h.keys stored, member.2.1⟩

theorem selected_nodup (h : w.WellFormed env) :
    ((selectForUpdate view w.rows p first second limit).map (·.id)).Nodup := by
  refine List.Nodup.sublist ((List.take_sublist _ _).map _) ?_
  have perm := ((sortedBy_perm first _).trans (sortedBy_perm second _)).trans
    (sortedBy_perm (fun row => view.rank row.id) ((w.rows.map (·.2)).filter fun row =>
      p row && !view.locked row.id))
  refine (perm.map _).nodup_iff.mpr (h.messageIds_nodup.sublist ?_)
  exact List.filter_sublist.map _

end Selection

/-- A method that changes the selected rows. -/
theorem rowStep_of_selected (h : w.WellFormed env) {o : OutboxOp} {view : TableView}
    {p : NotificationOutboxMessage → Bool} {first second : NotificationOutboxMessage → Int}
    {limit : Int} {change : NotificationOutboxMessage → NotificationOutboxMessage} (id : UUID)
    (step : ∀ row, p row = true → RowStep id o (some row) (some (change row))) :
    RowStep id o (w.rows.get? id) ((updateRows w.rows
      ((selectForUpdate view w.rows p first second limit).map (·.id)) change).get? id) := by
  rw [get?_updateRows]
  cases found : w.rows.get? id with
  | none => exact .kept _ _
  | some row =>
      rw [Option.map_some]
      split
      · rename_i member
        obtain ⟨row', selected, rfl⟩ := List.mem_map.mp member
        obtain ⟨stored, holds⟩ := get?_of_selected h selected
        obtain rfl := Option.some.inj (stored.symm.trans found)
        exact step row' holds
      · exact .kept _ _

/-- A method that changes one row. -/
theorem rowStep_of_set {o : OutboxOp} {rows : Dict UUID NotificationOutboxMessage}
    {messageId : UUID} {row row' : NotificationOutboxMessage}
    (found : rows.get? messageId = some row) (id : UUID)
    (step : RowStep messageId o (some row) (some row')) :
    RowStep id o (rows.get? id) ((rows.set messageId row').get? id) := by
  by_cases same : id = messageId
  · subst same
    rw [Dict.get?_set_self, found]
    exact step
  · rw [Dict.get?_set_of_ne _ same]
    exact .kept _ _

/-- What an operation does to the table: nothing, a change of the selected rows or of one row,
a deletion, or a row under a new id. -/
inductive TableStep (env : OutboxEnvironment σ) (w : OutboxWorld σ) (o : OutboxOp)
    (w' : OutboxWorld σ) : Prop
  | kept (rows : w'.rows = w.rows) (drawn : w'.idsDrawn = w.idsDrawn)
  | selected (view : TableView) (p : NotificationOutboxMessage → Bool)
      (first second : NotificationOutboxMessage → Int) (limit : Int)
      (change : NotificationOutboxMessage → NotificationOutboxMessage)
      (rows : w'.rows = updateRows w.rows
        ((selectForUpdate view w.rows p first second limit).map (·.id)) change)
      (drawn : w'.idsDrawn = w.idsDrawn) (same : ∀ row, (change row).id = row.id)
      (step : ∀ id row, p row = true → RowStep id o (some row) (some (change row)))
  | changed (messageId : UUID) (row row' : NotificationOutboxMessage)
      (found : w.rows.get? messageId = some row) (rows : w'.rows = w.rows.set messageId row')
      (drawn : w'.idsDrawn = w.idsDrawn) (same : row'.id = row.id)
      (step : RowStep messageId o (some row) (some row'))
  | removed (stays : UUID × NotificationOutboxMessage → Bool)
      (rows : w'.rows = w.rows.filter stays) (drawn : w'.idsDrawn = w.idsDrawn)
      (step : ∀ id row, stays (id, row) = false → RowStep id o (some row) none)
  | added (content : NotificationContent) (add : o = .add content)
      (rows : w'.rows =
        w.rows.set (env.newId w.idsDrawn) (content.message (env.newId w.idsDrawn)))
      (drawn : w'.idsDrawn = w.idsDrawn + 1)

/-- The branches of the methods, once. -/
theorem exec_table (o : OutboxOp) : TableStep env w o (exec env t o w).2 := by
  cases o with
  | claimPending currentTime limit =>
      simp only [exec, claimPending]
      split
      · exact .kept rfl rfl
      · refine .selected _ _ _ _ _ _ rfl rfl (fun _ => rfl) fun id row available => ?_
        exact .claimed _ _ _ (of_decide_eq_true available).1
  | markDelivered messageId deliveredAt =>
      simp only [exec, markDelivered]
      split
      · exact .kept rfl rfl
      · rename_i row found
        split
        · rename_i processing
          exact .changed _ row _ found rfl rfl rfl (.delivered _ _ processing)
        · exact .kept rfl rfl
  | recoverStaleClaims currentTime claimTimeout limit =>
      simp only [exec, recoverStaleClaims]
      split
      · exact .kept rfl rfl
      · split
        · exact .kept rfl rfl
        · split
          · exact .kept rfl rfl
          · refine .selected _ _ _ _ _ _ rfl rfl (fun _ => rfl) fun id row stale => ?_
            exact .recovered _ _ _ _ (of_decide_eq_true stale).1
  | markDeliveryFailed messageId failedAt retryAt error maxAttempts =>
      simp only [exec, markDeliveryFailed]
      split
      · exact .kept rfl rfl
      · split
        · exact .kept rfl rfl
        · split
          · exact .kept rfl rfl
          · rename_i row found
            split
            · exact .kept rfl rfl
            · rename_i processing
              exact .changed _ row _ found rfl rfl rfl
                (.attemptFailed _ _ _ _ _ (not_not.mp processing))
  | requeueFailed messageId currentTime =>
      simp only [exec, requeueFailed]
      split
      · exact .kept rfl rfl
      · rename_i row found
        split
        · exact .kept rfl rfl
        · rename_i failed
          exact .changed _ row _ found rfl rfl rfl (.requeued _ _ (not_not.mp failed))
  | pruneDeliveredBefore cutoff limit dryRun =>
      simp only [exec, pruneDeliveredBefore]
      split
      · exact .kept rfl rfl
      · cases dryRun with
        | true => exact .kept rfl rfl
        | false =>
            refine .removed _ rfl rfl fun id row removed => ?_
            simp only [Bool.not_eq_false', Bool.and_eq_true, decide_eq_true_eq] at removed
            exact .pruned _ _ _ removed.2
  | add content => exact .added content rfl rfl rfl
  | deliver message => exact .kept rfl rfl

/-- Every operation moves every row by a step. -/
theorem exec_row (h : w.WellFormed env) (o : OutboxOp) (id : UUID) :
    RowStep id o (w.rows.get? id) ((exec env t o w).2.rows.get? id) := by
  cases exec_table o with
  | kept rows drawn =>
      rw [rows]
      exact .kept _ _
  | selected view p first second limit change rows drawn same step =>
      rw [rows]
      exact rowStep_of_selected h id (step id)
  | changed messageId row row' found rows drawn same step =>
      rw [rows]
      exact rowStep_of_set found id step
  | removed stays rows drawn step =>
      rw [rows, Dict.get?_filter h.keys]
      cases found : w.rows.get? id with
      | none => exact .kept _ _
      | some row =>
          rw [Option.filter_some]
          split
          · exact .kept _ _
          · rename_i removed
            exact step id row (Bool.eq_false_of_not_eq_true removed)
  | added content add rows drawn =>
      subst add
      rw [rows]
      by_cases same : id = env.newId w.idsDrawn
      · subst same
        rw [Dict.get?_set_self, h.fresh _ le_rfl]
        exact .added content
      · rw [Dict.get?_set_of_ne _ same]
        exact .kept _ _

/-- Rows may go or change but no other id comes in. -/
theorem OutboxWorld.WellFormed.of_rows (h : w.WellFormed env) {w' : OutboxWorld σ}
    (keys : (w'.rows.map (·.1)).Nodup) (ids : ∀ entry ∈ w'.rows, entry.2.id = entry.1)
    (stays : ∀ id, w.rows.get? id = none → w'.rows.get? id = none)
    (drawn : w'.idsDrawn = w.idsDrawn) : w'.WellFormed env :=
  ⟨keys, ids, fun n later => stays _ (h.fresh n (drawn ▸ later))⟩

/-- The methods keep the keys; only `add` draws an id. -/
theorem exec_wellFormed (h : w.WellFormed env) (o : OutboxOp) :
    (exec env t o w).2.WellFormed env := by
  cases exec_table o with
  | kept rows drawn =>
      refine h.of_rows ?_ ?_ ?_ drawn
      · exact rows ▸ h.keys
      · exact rows ▸ h.ids
      · exact fun id none => rows ▸ none
  | selected view p first second limit change rows drawn same step =>
      refine h.of_rows ?_ (fun entry member => ?_) (fun id none => ?_) drawn
      · rw [rows, keys_updateRows]
        exact h.keys
      · rw [rows] at member
        obtain ⟨row, stored, changed⟩ := mem_updateRows member
        cases changed with
        | inl eq => exact eq ▸ h.ids _ stored
        | inr eq => exact eq ▸ (same row).trans (h.ids _ stored)
      · rw [rows, get?_updateRows, none]
        rfl
  | changed messageId row row' found rows drawn same step =>
      refine h.of_rows ?_ (fun entry member => ?_) (fun id none => ?_) drawn
      · rw [rows]
        exact Dict.nodup_set h.keys _ _
      · rw [rows] at member
        cases Dict.mem_set member with
        | inl new =>
            rw [new]
            exact same.trans (h.ids _ (Dict.mem_of_get? found))
        | inr old => exact h.ids _ old
      · have differs : id ≠ messageId := by
          intro eq
          subst eq
          cases none.symm.trans found
        rw [rows, Dict.get?_set_of_ne _ differs]
        exact none
  | removed stays rows drawn step =>
      refine h.of_rows ?_ (fun entry member => ?_) (fun id none => ?_) drawn
      · rw [rows]
        exact h.keys.sublist (List.filter_sublist.map _)
      · rw [rows] at member
        exact h.ids _ (List.mem_of_mem_filter member)
      · rw [rows, Dict.get?_filter h.keys, none]
        rfl
  | added content add rows drawn =>
      refine ⟨?_, fun entry member => ?_, fun n later => ?_⟩
      · rw [rows]
        exact Dict.nodup_set h.keys _ _
      · rw [rows] at member
        cases Dict.mem_set member with
        | inl new =>
            rw [new]
            rfl
        | inr old => exact h.ids _ old
      · rw [drawn] at later
        have differs : env.newId n ≠ env.newId w.idsDrawn := by
          intro same
          have := env.newId_injective same
          omega
        rw [rows, Dict.get?_set_of_ne _ differs]
        exact h.fresh n (by omega)

/-- Ids that have been drawn stay drawn. -/
theorem exec_idsDrawn (env : OutboxEnvironment σ) (t : TaskId) (o : OutboxOp) (w : OutboxWorld σ) :
    w.idsDrawn ≤ (exec env t o w).2.idsDrawn := by
  have table : TableStep env w o (exec env t o w).2 := exec_table o
  cases table with
  | kept rows drawn => exact drawn.ge
  | selected view p first second limit change rows drawn same step => exact drawn.ge
  | changed messageId row row' found rows drawn same step => exact drawn.ge
  | removed stays rows drawn step => exact drawn.ge
  | added content add rows drawn => omega

end PurchaseAgent
