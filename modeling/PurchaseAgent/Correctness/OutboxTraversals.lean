import Mathlib.Logic.Relation
import PurchaseAgent.Correctness.PageTraversals

/-!
The outbox at the requests of a traversal: its operations bring no row back and leave
the sort keys as they are, so the pages that are read between them are exact.
-/

namespace PurchaseAgent

open Collections Cooperative SqlAlchemyNotificationOutboxRepository

section
variable {σ : Type} {env : OutboxEnvironment σ} {t : TaskId} {w w' w'' : OutboxWorld σ}

/-- The operations on the outbox leave the sort keys as they are. -/
theorem RowStep.pageKey_eq {id : UUID} {o : OutboxOp} {row row' : NotificationOutboxMessage}
    (step : RowStep id o (some row) (some row')) : row'.pageKey = row.pageKey := by
  cases step <;> rfl

/-- The id is not to be drawn any more. -/
def OutboxWorld.Spent (env : OutboxEnvironment σ) (w : OutboxWorld σ) (id : UUID) : Prop :=
  ∀ n, w.idsDrawn ≤ n → env.newId n ≠ id

theorem spent_of_stored (h : w.WellFormed env) {id : UUID} {row : NotificationOutboxMessage}
    (found : w.rows.get? id = some row) : w.Spent env id := by
  intro n later same
  have fresh := h.fresh n later
  rw [same, found] at fresh
  cases fresh

/-- What a later state holds under a spent id was there before, with its sort key. -/
structure OutboxWorld.Follows (env : OutboxEnvironment σ) (w w' : OutboxWorld σ) : Prop where
  drawn : w.idsDrawn ≤ w'.idsDrawn
  kept : ∀ id, w.Spent env id → ∀ row', w'.rows.get? id = some row' →
    ∃ row, w.rows.get? id = some row ∧ row.pageKey = row'.pageKey

theorem OutboxWorld.Follows.trans (first : w.Follows env w') (second : w'.Follows env w'') :
    w.Follows env w'' where
  drawn := Nat.le_trans first.drawn second.drawn
  kept := by
    intro id spent row'' found
    have still : w'.Spent env id := fun n later => spent n (Nat.le_trans first.drawn later)
    obtain ⟨row', found', key'⟩ := second.kept id still row'' found
    obtain ⟨row, found, key⟩ := first.kept id spent row' found'
    exact ⟨row, found, key.trans key'⟩

/-- One operation. -/
theorem exec_follows (h : w.WellFormed env) (o : OutboxOp) :
    w.Follows env (exec env t o w).2 where
  drawn := exec_idsDrawn env t o w
  kept := by
    intro id spent row' found
    have step : RowStep id o (w.rows.get? id) ((exec env t o w).2.rows.get? id) := exec_row h o id
    cases before : w.rows.get? id with
    | some row =>
        rw [before, found] at step
        exact ⟨row, rfl, step.pageKey_eq.symm⟩
    | none =>
        rw [before, found] at step
        cases step with
        | added content =>
            -- a row comes in under an id that is drawn for it
            have other : id ≠ env.newId w.idsDrawn := (spent w.idsDrawn (Nat.le_refl _)).symm
            have same : (exec env t (.add content) w).2.rows.get? id = w.rows.get? id :=
              Dict.get?_set_of_ne _ other _
            rw [same, before] at found
            cases found

/-- The states that the operations of any sessions lead to. -/
def OutboxWorld.Later (env : OutboxEnvironment σ) : OutboxWorld σ → OutboxWorld σ → Prop :=
  Relation.ReflTransGen fun w w' => ∃ t o, w' = (exec env t o w).2

theorem OutboxWorld.Later.wellFormed (later : w.Later env w') (h : w.WellFormed env) :
    w'.WellFormed env := by
  induction later with
  | refl => exact h
  | tail _ step ih =>
      obtain ⟨t, o, rfl⟩ := step
      exact exec_wellFormed ih o

/-- Every run of operations. -/
theorem OutboxWorld.Later.follows (later : w.Later env w') (h : w.WellFormed env) :
    w.Follows env w' := by
  induction later with
  | refl => exact ⟨Nat.le_refl _, fun _ _ row found => ⟨row, found, rfl⟩⟩
  | tail run step ih =>
      obtain ⟨t, o, rfl⟩ := step
      exact ih.trans (exec_follows (OutboxWorld.Later.wellFormed run h) o)

end

section Schedule
variable {σ : Type} {env : OutboxEnvironment σ} {worlds : Nat → OutboxWorld σ}

/-- The messages of the table. -/
def OutboxWorld.messages (w : OutboxWorld σ) : List NotificationOutboxMessage :=
  w.rows.map (·.2)

theorem mem_messages {w : OutboxWorld σ} (h : w.WellFormed env) {row : NotificationOutboxMessage} :
    row ∈ w.messages ↔ w.rows.get? row.id = some row := by
  constructor
  · intro member
    obtain ⟨entry, stored, rfl⟩ := List.mem_map.mp member
    rw [h.ids entry stored]
    exact Dict.get?_of_mem h.keys stored
  · intro found
    exact List.mem_map.mpr ⟨_, Dict.mem_of_get? found, rfl⟩

variable (start : (worlds 0).WellFormed env) (later : ∀ n, (worlds n).Later env (worlds (n + 1)))
include start later

theorem worlds_wellFormed (n : Nat) : (worlds n).WellFormed env := by
  induction n with
  | zero => exact start
  | succ n ih => exact (later n).wellFormed ih

theorem worlds_follow (m k : Nat) : (worlds m).Follows env (worlds (m + k)) := by
  induction k with
  | zero => exact ⟨Nat.le_refl _, fun _ _ row found => ⟨row, found, rfl⟩⟩
  | succ k ih => exact ih.trans ((later (m + k)).follows (worlds_wellFormed start later (m + k)))

theorem messages_unique (n : Nat) : ((worlds n).messages.map (·.id)).Nodup :=
  (worlds_wellFormed start later n).messageIds_nodup

theorem messages_keep_keys (m k : Nat) (a : NotificationOutboxMessage)
    (first : a ∈ (worlds m).messages) (b : NotificationOutboxMessage)
    (second : b ∈ (worlds (m + k)).messages) (same : a.id = b.id) : a.pageKey = b.pageKey := by
  have h := worlds_wellFormed start later m
  have found := (mem_messages h).mp first
  have found' := (mem_messages (worlds_wellFormed start later (m + k))).mp second
  rw [← same] at found'
  obtain ⟨row, stored, key⟩ :=
    (worlds_follow start later m k).kept a.id (spent_of_stored h found) b found'
  obtain rfl := Option.some.inj (found.symm.trans stored)
  exact key

theorem messages_fixed (m n : Nat) (a : NotificationOutboxMessage) (first : a ∈ (worlds m).messages)
    (b : NotificationOutboxMessage) (second : b ∈ (worlds n).messages) (same : a.id = b.id) :
    a.pageKey = b.pageKey := by
  rcases Nat.le_total m n with early | late
  · obtain ⟨k, rfl⟩ := Nat.exists_eq_add_of_le early
    exact messages_keep_keys start later m k a first b second same
  · obtain ⟨k, rfl⟩ := Nat.exists_eq_add_of_le late
    exact (messages_keep_keys start later n k b second a first same.symm).symm

omit start later in
/-- The outbox as the requests find it, any operations between them. -/
def outboxSchedule (start : (worlds 0).WellFormed env)
    (later : ∀ n, (worlds n).Later env (worlds (n + 1))) :
    TableSchedule NotificationOutboxMessage.id NotificationOutboxMessage.pageKey where
  tables n := (worlds n).messages
  unique := messages_unique start later
  fixed := messages_fixed start later

/-- The pages of the outbox are exact while messages are added, claimed, delivered,
recovered, requeued and pruned. -/
theorem outbox_run_pages_exact (library : CursorLibrary) {limits : Nat → Nat}
    (positive : ∀ n, 0 < limits n) (filter : OutboxFilter) :
    ExactTraversal (outboxSchedule start later) filter.fits .fromMessage
      NotificationOutboxMessageSummary.id NotificationOutboxMessageSummary.pageKey
      fun n cursor => pageNotificationOutboxEndpoint library
        (listMessagePageCandidates (worlds n).messages) filter (limits n) cursor :=
  message_pages_exact library positive filter (outboxSchedule start later)

end Schedule
end PurchaseAgent
