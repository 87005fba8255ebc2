import PurchaseAgent.Collections.Dict
import PurchaseAgent.Cooperative.RelyGuarantee

/-!
Idempotency receipts. A task begins its work under a key, which leaves an
unfinished receipt, completes the receipt with a result or aborts it. The tasks
share the table of receipts; the work itself is a program of another machine. A
log remembers how far each task has come.
-/

namespace Cooperative.Receipts

open Collections

/-- What is kept under a key: the request and, once it is there, the result. -/
structure Receipt (P R : Type) where
  request : P
  result : Option R
deriving DecidableEq

/-- Why a request is refused. -/
inductive Refusal where
  | conflict
  | inProgress
deriving DecidableEq

abbrev Table (K P R : Type) := Dict K (Receipt P R)

namespace Table
variable {K P R : Type} [DecidableEq K] [DecidableEq P] (table : Table K P R)

/-- A new key is taken, a known one answers with its result. -/
def begin (key : K) (request : P) : Except Refusal (Option R) × Table K P R :=
  match table.get? key with
  | none => (.ok none, table.set key ⟨request, none⟩)
  | some receipt =>
    if receipt.request ≠ request then (.error .conflict, table)
    else
      match receipt.result with
      | none => (.error .inProgress, table)
      | some result => (.ok (some result), table)

/-- The result is stored; the answer is false if the key is not there. -/
def complete (key : K) (result : R) : Bool × Table K P R :=
  match table.get? key with
  | none => (false, table)
  | some receipt => (true, table.set key ⟨receipt.request, some result⟩)

/-- An unfinished receipt of the request is removed. -/
def abort (key : K) (request : P) : Table K P R :=
  match table.get? key with
  | some ⟨stored, none⟩ => if stored = request then table.erase key else table
  | _ => table

end Table

/-- How far a task has come with its request. -/
inductive Stage (R : Type) where
  | begun
  | refused (reason : Refusal)
  | replayed (result : R)
  | succeeded (result : R)
  | failed
  | completed (result : R)
  | aborted

/-- The task has an unfinished receipt. -/
def Stage.isOpen {R : Type} : Stage R → Bool
  | .begun | .succeeded _ | .failed => true
  | .refused _ | .replayed _ | .completed _ | .aborted => false

/-- The result the task leaves with. -/
def Stage.result? {R : Type} : Stage R → Option R
  | .replayed result | .completed result => some result
  | .begun | .refused _ | .succeeded _ | .failed | .aborted => none

structure World (K P R S : Type) where
  table : Table K P R
  inner : S
  log : List (TaskId × Stage R)

inductive Op (K P R : Type) (F : Signature) where
  | begin (key : K) (request : P)
  | complete (key : K) (result : R)
  | abort (key : K) (request : P)
  /-- The work has ended, with a result or without one. -/
  | left (result : Option R)
  /-- An operation of the work. -/
  | inner (o : F.Op)

abbrev Op.Answer {K P R : Type} {F : Signature} : Op K P R F → Type
  | .begin _ _ => Except Refusal (Option R)
  | .complete _ _ => Bool
  | .abort _ _ => Unit
  | .left _ => Unit
  | .inner o => F.Answer o

abbrev signature (K P R : Type) (F : Signature) : Signature where
  Op := Op K P R F
  Answer := Op.Answer

namespace World
variable {K P R S : Type} (w : World K P R S)

def note (t : TaskId) (stage : Stage R) : World K P R S := { w with log := w.log ++ [(t, stage)] }

/-- The stage the task has reached, if it has begun. -/
def stage (t : TaskId) : Option (Stage R) :=
  (w.log.reverse.find? fun entry => entry.1 = t).map (·.2)

/-- The task has an unfinished receipt. -/
def Open (t : TaskId) : Prop := ∃ stage, w.stage t = some stage ∧ stage.isOpen = true

@[simp] theorem stage_note_self (t : TaskId) (stage : Stage R) :
    (w.note t stage).stage t = some stage := by
  simp [World.stage, note]

@[simp] theorem stage_note_of_ne {t other : TaskId} (h : other ≠ t) (stage : Stage R) :
    (w.note t stage).stage other = w.stage other := by
  have differs : decide (t = other) = false := decide_eq_false fun same => h same.symm
  simp [World.stage, note, differs]

@[simp] theorem note_table (t : TaskId) (stage : Stage R) : (w.note t stage).table = w.table := rfl
@[simp] theorem note_inner (t : TaskId) (stage : Stage R) : (w.note t stage).inner = w.inner := rfl

theorem mem_note {t t' : TaskId} {stage stage' : Stage R} :
    (t', stage') ∈ (w.note t stage).log ↔ (t', stage') ∈ w.log ∨ (t' = t ∧ stage' = stage) := by
  simp [note]

end World

section Machine
variable {K P R S : Type} [DecidableEq K] [DecidableEq P] {F : Signature}

/-- What `abort` remembers: there is nothing to abort after a replay. -/
def abortedStage : Option (Stage R) → Stage R
  | some (.replayed result) => .replayed result
  | _ => .aborted

/-- What `begin` remembers. -/
def begunStage : Except Refusal (Option R) → Stage R
  | .ok none => .begun
  | .ok (some result) => .replayed result
  | .error reason => .refused reason

def exec (M : Machine F S) (t : TaskId) :
    (o : Op K P R F) → World K P R S → o.Answer × World K P R S
  | .begin key request, w =>
      ((w.table.begin key request).1, { w with table := (w.table.begin key request).2 }.note t
        (begunStage (w.table.begin key request).1))
  | .complete key result, w =>
      ((w.table.complete key result).1, { w with table := (w.table.complete key result).2 }.note t
        (.completed result))
  | .abort key request, w =>
      ((), { w with table := w.table.abort key request }.note t (abortedStage (w.stage t)))
  | .left (some result), w => ((), w.note t (.succeeded result))
  | .left none, w => ((), w.note t .failed)
  | .inner o, w => ((M.exec t o w.inner).1, { w with inner := (M.exec t o w.inner).2 })

/-- The machine of tasks with receipts over the machine of their work. -/
def machine (K P R : Type) [DecidableEq K] [DecidableEq P] (M : Machine F S) :
    Machine (signature K P R F) (World K P R S) where
  awaits
    | .begin _ _ | .complete _ _ | .abort _ _ => true
    | .left _ => false
    | .inner o => M.awaits o
  ready
    | t, .inner o, w => M.ready t o w.inner
    | _, _, _ => true
  exec := exec M

/-- A program of the work, among the receipts. -/
def embed {α : Type} : Prog F α → Prog (signature K P R F) α
  | .pure a => .pure a
  | .op o next => .op (Op.inner o : Op K P R F) fun answer => embed (next answer)

/-- Among the receipts the work does what it does alone. -/
theorem eval_embed {α : Type} (M : Machine F S) (t : TaskId) (p : Prog F α)
    (w : World K P R S) :
    (embed p : Prog (signature K P R F) α).eval (machine K P R M) t w =
      ((p.eval M t w.inner).1, { w with inner := (p.eval M t w.inner).2 }) := by
  induction p generalizing w with
  | pure a => rfl
  | op o next ih => exact ih _ _

end Machine

section Protocol
variable {K P R S : Type} [DecidableEq K] {F : Signature} (requests : TaskId → K × P)

/-- Unfinished receipts belong to one task each, and the result of a success is
kept or still to be stored. -/
structure Sound (w : World K P R S) : Prop where
  held : ∀ t, w.Open t → w.table.get? (requests t).1 = some ⟨(requests t).2, none⟩
  exclusive : ∀ t t', w.Open t → w.Open t' → (requests t).1 = (requests t').1 → t = t'
  owned : ∀ key request, w.table.get? key = some ⟨request, none⟩ →
    ∃ t, w.Open t ∧ (requests t).1 = key
  settled : ∀ t r, (t, Stage.succeeded r) ∈ w.log → w.stage t = some (.succeeded r) ∨
    w.table.get? (requests t).1 = some ⟨(requests t).2, some r⟩
  answers : ∀ t stage r, w.stage t = some stage → stage.result? = some r →
    w.table.get? (requests t).1 = some ⟨(requests t).2, some r⟩
  once : w.log.Pairwise fun a b => ∀ r r', a.2 = .succeeded r → b.2 = .succeeded r' →
    (requests a.1).1 ≠ (requests b.1).1

/-- Finished receipts stay. -/
def Kept (w w' : World K P R S) : Prop :=
  ∀ key request r, w.table.get? key = some ⟨request, some r⟩ →
    w'.table.get? key = some ⟨request, some r⟩

variable {requests} {w : World K P R S} {t : TaskId}

section Stages
omit [DecidableEq K]

theorem World.Open.of_stage {stage : Stage R} (h : w.stage t = some stage)
    (opened : stage.isOpen = true) : w.Open t := ⟨stage, h, opened⟩

theorem World.not_open_of_none (h : w.stage t = none) : ¬ w.Open t := by
  rintro ⟨s, reached, -⟩
  cases h.symm.trans reached

theorem World.not_open_of_stage {stage : Stage R} (h : w.stage t = some stage)
    (closed : stage.isOpen = false) : ¬ w.Open t := by
  rintro ⟨s, reached, opened⟩
  cases h.symm.trans reached
  cases closed.symm.trans opened

theorem World.open_note {stage : Stage R} {t' : TaskId} :
    (w.note t stage).Open t' ↔ if t' = t then stage.isOpen = true else w.Open t' := by
  unfold World.Open
  split
  · rename_i same
    subst same
    simp
  · rename_i differs
    rw [World.stage_note_of_ne _ differs]

end Stages

theorem Kept.refl (w : World K P R S) : Kept w w := fun _ _ _ => id

theorem Kept.trans {w₁ w₂ w₃ : World K P R S} (h : Kept w₁ w₂) (k : Kept w₂ w₃) : Kept w₁ w₃ :=
  fun key request r stored => k key request r (h key request r stored)

/-- A change under one key that leaves a finished receipt there alone. -/
theorem Kept.of_others {w w' : World K P R S} {own : K}
    (others : ∀ key, key ≠ own → w'.table.get? key = w.table.get? key)
    (kept : ∀ request r, w.table.get? own = some ⟨request, some r⟩ →
      w'.table.get? own = some ⟨request, some r⟩) : Kept w w' := by
  intro key request r stored
  by_cases same : key = own
  · subst same
    exact kept request r stored
  · exact (others key same).trans stored

/-- Where a task holds an unfinished receipt no other task does. -/
theorem Sound.alone (h : Sound requests w) (o : w.Open t) {t' : TaskId} (o' : w.Open t')
    (same : (requests t').1 = (requests t).1) : t' = t := h.exclusive t' t o' o same

/-- A task moves on and changes at most the receipt under its own key, which no
other task holds. -/
theorem Sound.moved (h : Sound requests w) {table : Table K P R} {stage : Stage R}
    (others : ∀ key, key ≠ (requests t).1 → table.get? key = w.table.get? key)
    (kept : ∀ request r, w.table.get? (requests t).1 = some ⟨request, some r⟩ →
      table.get? (requests t).1 = some ⟨request, some r⟩)
    (alone : ∀ t', w.Open t' → (requests t').1 = (requests t).1 → t' = t)
    (coherent : if stage.isOpen then table.get? (requests t).1 = some ⟨(requests t).2, none⟩
      else ∀ request, table.get? (requests t).1 ≠ some ⟨request, none⟩)
    (settles : ∀ r, w.stage t = some (.succeeded r) →
      table.get? (requests t).1 = some ⟨(requests t).2, some r⟩)
    (answer : ∀ r, stage.result? = some r →
      table.get? (requests t).1 = some ⟨(requests t).2, some r⟩)
    (first : ∀ r, stage = .succeeded r → ∀ t' r', (t', Stage.succeeded r') ∈ w.log →
      (requests t').1 ≠ (requests t).1) :
    Sound requests ({ w with table := table }.note t stage) := by
  have opened : ∀ t', ({ w with table := table }.note t stage).Open t' ↔
      if t' = t then stage.isOpen = true else w.Open t' := fun _ => World.open_note
  have reached : ∀ t', t' ≠ t → ({ w with table := table }.note t stage).stage t' = w.stage t' :=
    fun _ differs => World.stage_note_of_ne _ differs _
  have apart : ∀ t', t' ≠ t → w.Open t' → (requests t').1 ≠ (requests t).1 :=
    fun t' differs o same => differs (alone t' o same)
  have finished : Kept w { w with table := table } := Kept.of_others others kept
  refine ⟨fun t' o => ?_, fun t₁ t₂ o₁ o₂ same => ?_, fun key request found => ?_,
    fun t' r member => ?_, fun t' reached' r at_end ended => ?_, ?_⟩
  · rw [opened] at o
    split at o
    · rename_i same
      subst same
      rw [if_pos o] at coherent
      exact coherent
    · rename_i differs
      exact (others _ (apart t' differs o)).trans (h.held t' o)
  · rw [opened] at o₁ o₂
    split at o₁ <;> split at o₂ <;> rename_i eq₁ eq₂
    · rw [eq₁, eq₂]
    · exact absurd (eq₁ ▸ same.symm) (apart t₂ eq₂ o₂)
    · exact absurd (eq₂ ▸ same) (apart t₁ eq₁ o₁)
    · exact h.exclusive t₁ t₂ o₁ o₂ same
  · by_cases own : key = (requests t).1
    · subst own
      refine ⟨t, (opened t).mpr ?_, rfl⟩
      rw [if_pos rfl]
      by_contra closed
      rw [if_neg closed] at coherent
      exact coherent request found
    · obtain ⟨owner, o, same⟩ := h.owned key request ((others key own).symm.trans found)
      refine ⟨owner, (opened owner).mpr ?_, same⟩
      rw [if_neg]
      · exact o
      · rintro rfl
        exact own same.symm
  · rcases (World.mem_note _).mp member with old | ⟨rfl, new⟩
    · rcases h.settled t' r old with pending | stored
      · by_cases same : t' = t
        · subst same
          exact .inr (settles r pending)
        · exact .inl ((reached t' same).trans pending)
      · exact .inr (finished _ _ _ stored)
    · subst new
      exact .inl (World.stage_note_self _ _ _)
  · by_cases same : t' = t
    · subst same
      rw [World.stage_note_self] at at_end
      cases at_end
      exact answer r ended
    · exact finished _ _ _ (h.answers t' reached' r ((reached t' same).symm.trans at_end) ended)
  · refine List.pairwise_append.mpr ⟨h.once, List.pairwise_singleton _ _, ?_⟩
    rintro ⟨t', s⟩ member _ last r r' success success'
    obtain rfl := List.mem_singleton.mp last
    obtain rfl : s = .succeeded r := success
    exact first r' success' t' r member

/-- A task without an unfinished receipt goes on without one. -/
theorem Sound.aside (h : Sound requests w) {stage : Stage R} (before : ¬ w.Open t)
    (closed : stage.isOpen = false)
    (answer : ∀ r, stage.result? = some r →
      w.table.get? (requests t).1 = some ⟨(requests t).2, some r⟩) :
    Sound requests (w.note t stage) := by
  have opened : ∀ t', (w.note t stage).Open t' ↔ w.Open t' := by
    intro t'
    rw [World.open_note]
    split
    · rename_i same
      subst same
      rw [closed]
      exact ⟨fun impossible => absurd impossible Bool.false_ne_true, fun o => absurd o before⟩
    · exact Iff.rfl
  have reached : ∀ t', t' ≠ t → (w.note t stage).stage t' = w.stage t' :=
    fun _ differs => World.stage_note_of_ne _ differs _
  refine ⟨fun t' o => h.held t' ((opened t').mp o),
    fun t₁ t₂ o₁ o₂ => h.exclusive t₁ t₂ ((opened t₁).mp o₁) ((opened t₂).mp o₂),
    fun key request found => ?_, fun t' r member => ?_, fun t' reached' r at_end ended => ?_, ?_⟩
  · obtain ⟨owner, o, same⟩ := h.owned key request found
    exact ⟨owner, (opened owner).mpr o, same⟩
  · rcases (World.mem_note _).mp member with old | ⟨-, new⟩
    · refine (h.settled t' r old).imp_left fun pending => ?_
      have differs : t' ≠ t := by
        rintro rfl
        exact before (.of_stage pending rfl)
      exact (reached t' differs).trans pending
    · subst new
      cases closed
  · by_cases same : t' = t
    · subst same
      rw [World.stage_note_self] at at_end
      cases at_end
      exact answer r ended
    · exact h.answers t' reached' r ((reached t' same).symm.trans at_end) ended
  · refine List.pairwise_append.mpr ⟨h.once, List.pairwise_singleton _ _, ?_⟩
    rintro ⟨t', s⟩ - _ last r r' - success'
    obtain rfl := List.mem_singleton.mp last
    obtain rfl : stage = .succeeded r' := success'
    cases closed

/-- While a task works no success under its key is on record. -/
theorem Sound.unsettled (h : Sound requests w) (o : w.Open t)
    (working : ∀ r, w.stage t ≠ some (.succeeded r)) {t' : TaskId} {r : R}
    (member : (t', Stage.succeeded r) ∈ w.log) : (requests t').1 ≠ (requests t).1 := by
  intro same
  rcases h.settled t' r member with pending | stored
  · obtain rfl := h.alone o (.of_stage pending rfl) same
    exact working r pending
  · rw [same, h.held t o] at stored
    simp at stored

section Steps
variable [DecidableEq P] {M : Machine F S} {key : K} {request : P} {result : R}

/-! What the operations do to the table. -/

theorem begin_of_free {table : Table K P R} (free : table.get? key = none) :
    table.begin key request = (.ok none, table.set key ⟨request, none⟩) := by
  simp only [Table.begin, free]

theorem begin_of_taken {table : Table K P R}
    (taken : table.get? key = some ⟨request, none⟩) :
    table.begin key request = (.error .inProgress, table) := by
  simp only [Table.begin, taken, ne_eq, not_true_eq_false, if_false]

theorem begin_of_finished {table : Table K P R}
    (finished : table.get? key = some ⟨request, some result⟩) :
    table.begin key request = (.ok (some result), table) := by
  simp only [Table.begin, finished, ne_eq, not_true_eq_false, if_false]

theorem begin_of_other {table : Table K P R} {receipt : Receipt P R}
    (stored : table.get? key = some receipt) (other : receipt.request ≠ request) :
    table.begin key request = (.error .conflict, table) := by
  simp only [Table.begin, stored, ne_eq, other, not_false_eq_true, if_true]

/-- A receipt that is there stays as it is. -/
theorem begin_of_stored {table : Table K P R} {receipt : Receipt P R}
    (stored : table.get? key = some receipt) : (table.begin key request).2 = table := by
  by_cases same : receipt.request = request
  · subst same
    obtain ⟨request, _ | result⟩ := receipt
    · rw [begin_of_taken stored]
    · rw [begin_of_finished stored]
  · rw [begin_of_other stored same]

omit [DecidableEq P] in
theorem complete_of_held {table : Table K P R}
    (held : table.get? key = some ⟨request, none⟩) :
    table.complete key result = (true, table.set key ⟨request, some result⟩) := by
  simp only [Table.complete, held]

theorem abort_of_held {table : Table K P R} (held : table.get? key = some ⟨request, none⟩) :
    table.abort key request = table.erase key := by
  simp only [Table.abort, held, if_true]

theorem abort_of_finished {table : Table K P R}
    (finished : table.get? key = some ⟨request, some result⟩) :
    table.abort key request = table := by
  simp only [Table.abort, finished]

/-! What they do to a sound world. -/

theorem Sound.begin (h : Sound requests w) (fresh : w.stage t = none) :
    Sound requests (exec M t (.begin (requests t).1 (requests t).2) w).2 ∧
      Kept w (exec M t (.begin (requests t).1 (requests t).2) w).2 := by
  have notOpen := World.not_open_of_none fresh
  simp only [exec]
  cases stored : w.table.get? (requests t).1 with
  | none =>
      rw [begin_of_free stored]
      have others : ∀ key, key ≠ (requests t).1 →
          (w.table.set (requests t).1 ⟨(requests t).2, none⟩).get? key = w.table.get? key :=
        fun key differs => Dict.get?_set_of_ne _ differs _
      have kept : ∀ request r, w.table.get? (requests t).1 = some ⟨request, some r⟩ →
          (w.table.set (requests t).1 ⟨(requests t).2, none⟩).get? (requests t).1 =
            some ⟨request, some r⟩ :=
        fun request r finished => by cases stored.symm.trans finished
      refine ⟨h.moved others kept (fun t' o same => ?_) ?_ (fun r pending => ?_)
        (fun _ impossible => nomatch impossible) (fun _ impossible => nomatch impossible),
        .of_others others kept⟩
      · have held := h.held t' o
        rw [same, stored] at held
        cases held
      · exact Dict.get?_set_self _ _ _
      · cases fresh.symm.trans pending
  | some receipt =>
      have table : (w.table.begin (requests t).1 (requests t).2).2 = w.table :=
        begin_of_stored stored
      rw [table]
      refine ⟨h.aside notOpen ?_ ?_, Kept.refl w⟩
      all_goals
        by_cases same : receipt.request = (requests t).2
        · obtain ⟨request, _ | result⟩ := receipt
          · subst same
            simp [begin_of_taken stored, begunStage, Stage.isOpen, Stage.result?]
          · subst same
            simp [begin_of_finished stored, begunStage, Stage.isOpen, Stage.result?, stored]
        · simp [begin_of_other stored same, begunStage, Stage.isOpen, Stage.result?]

theorem Sound.left (h : Sound requests w) (working : w.stage t = some .begun)
    (result : Option R) :
    Sound requests (exec M t (.left result : Op K P R F) w).2 ∧
      Kept w (exec M t (.left result : Op K P R F) w).2 := by
  have o : w.Open t := .of_stage working rfl
  have pending : ∀ r, w.stage t ≠ some (.succeeded r) := fun r later => by
    cases working.symm.trans later
  have settles : ∀ r, w.stage t = some (.succeeded r) →
      w.table.get? (requests t).1 = some ⟨(requests t).2, some r⟩ :=
    fun r later => absurd later (pending r)
  cases result with
  | none =>
      exact ⟨h.moved (fun _ _ => rfl) (fun _ _ => id) (fun _ => h.alone o) (h.held t o) settles
        (fun _ impossible => nomatch impossible) (fun _ impossible => nomatch impossible),
        Kept.refl w⟩
  | some r =>
      exact ⟨h.moved (fun _ _ => rfl) (fun _ _ => id) (fun _ => h.alone o) (h.held t o) settles
        (fun _ impossible => nomatch impossible)
        (fun _ _ _ _ member => h.unsettled o pending member), Kept.refl w⟩

theorem Sound.complete (h : Sound requests w) (success : w.stage t = some (.succeeded result)) :
    Sound requests (exec M t (.complete (requests t).1 result) w).2 ∧
      Kept w (exec M t (.complete (requests t).1 result : Op K P R F) w).2 := by
  have o : w.Open t := .of_stage success rfl
  have held := h.held t o
  simp only [exec, complete_of_held held]
  have others : ∀ key, key ≠ (requests t).1 →
      (w.table.set (requests t).1 ⟨(requests t).2, some result⟩).get? key = w.table.get? key :=
    fun key differs => Dict.get?_set_of_ne _ differs _
  have kept : ∀ request r, w.table.get? (requests t).1 = some ⟨request, some r⟩ →
      (w.table.set (requests t).1 ⟨(requests t).2, some result⟩).get? (requests t).1 =
        some ⟨request, some r⟩ := by
    intro request r finished
    rw [held] at finished
    simp at finished
  refine ⟨h.moved others kept (fun _ => h.alone o) ?_ (fun r pending => ?_) (fun r same => ?_)
    (fun _ impossible => nomatch impossible), .of_others others kept⟩
  · intro request
    rw [Dict.get?_set_self]
    simp
  · cases success.symm.trans pending
    exact Dict.get?_set_self _ _ _
  · cases same
    exact Dict.get?_set_self _ _ _

theorem Sound.abort (h : Sound requests w) (failure : w.stage t = some .failed) :
    Sound requests (exec M t (.abort (requests t).1 (requests t).2 : Op K P R F) w).2 ∧
      Kept w (exec M t (.abort (requests t).1 (requests t).2 : Op K P R F) w).2 := by
  have o : w.Open t := .of_stage failure rfl
  have held := h.held t o
  simp only [exec, abort_of_held held, failure, abortedStage]
  have others : ∀ key, key ≠ (requests t).1 →
      (w.table.erase (requests t).1).get? key = w.table.get? key :=
    fun key differs => Dict.get?_erase_of_ne _ differs
  have kept : ∀ request r, w.table.get? (requests t).1 = some ⟨request, some r⟩ →
      (w.table.erase (requests t).1).get? (requests t).1 = some ⟨request, some r⟩ := by
    intro request r finished
    rw [held] at finished
    simp at finished
  refine ⟨h.moved others kept (fun _ => h.alone o) ?_ (fun r pending => ?_)
    (fun _ impossible => nomatch impossible) (fun _ impossible => nomatch impossible),
    .of_others others kept⟩
  · intro request
    rw [Dict.get?_erase_self]
    exact fun impossible => nomatch impossible
  · cases failure.symm.trans pending

/-- After a replay there is nothing to abort. -/
theorem Sound.abort_replayed (h : Sound requests w)
    (replayed : w.stage t = some (.replayed result)) :
    Sound requests (exec M t (.abort (requests t).1 (requests t).2 : Op K P R F) w).2 ∧
      Kept w (exec M t (.abort (requests t).1 (requests t).2 : Op K P R F) w).2 := by
  have finished := h.answers t _ result replayed rfl
  simp only [exec, abort_of_finished finished, replayed, abortedStage]
  refine ⟨h.aside (World.not_open_of_stage replayed rfl) rfl fun r same => ?_, Kept.refl w⟩
  cases same
  exact finished

end Steps

end Protocol
end Cooperative.Receipts
