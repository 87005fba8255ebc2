import Mathlib.Logic.Function.Basic
import Mathlib.Logic.Relation

/-!
Optimistic concurrency on one row. A request reads the row, in one statement or
in two, decides on a write, and writes under the version it has read. A write
locks the row until its transaction commits or rolls back; a repository without
transactions commits as it writes.
-/

namespace Transactions

open Relation

/-- The requests `ρ` on a record of type `α`. -/
structure Protocol (α ρ : Type) where
  version : α → Nat
  /-- What the second statement makes of the record the first one read. -/
  reread : α → Option α → α
  /-- The write a request decides on, from the row it will find; `none` deletes. -/
  decide : ρ → α → Option (α → Option α)

/-- Every write raises the version by one, and reading twice shows no other record
unless the row has changed. -/
structure Protocol.Lawful {α ρ : Type} (P : Protocol α ρ) : Prop where
  raises : ∀ {request a write row row'}, P.decide request a = some write →
    write row = some row' → P.version row' = P.version row + 1
  reread_version : ∀ a found, P.version (P.reread a found) = P.version a
  reread_self : ∀ a, P.reread a (some a) = a

inductive Stage (α : Type) where
  | idle
  | reading (a : α)
  | loaded (a : α)
  | writing
  | accepted
  | refused

/-- A write, with the record that the request had read. -/
structure Accepted (α ρ : Type) where
  request : ρ
  read : α
  before : α
  after : Option α

/-- The committed row, the write under way, the accepted writes, and the requests
that have come to nothing on the record that they had read. -/
structure Config (α ρ : Type) where
  committed : Option α
  pending : Option (Nat × Accepted α ρ)
  stage : Nat → Stage α
  history : List (Accepted α ρ)
  lost : List (ρ × α)

variable {α ρ : Type}

def Config.start (row : Option α) : Config α ρ := ⟨row, none, fun _ => .idle, [], []⟩

def Config.enter (c : Config α ρ) (i : Nat) (stage : Stage α) : Config α ρ :=
  { c with stage := Function.update c.stage i stage }

def Config.refuse (c : Config α ρ) (i : Nat) (request : ρ) (a : α) : Config α ρ :=
  { c.enter i .refused with lost := c.lost ++ [(request, a)] }

def Config.commit (c : Config α ρ) (i : Nat) (x : Accepted α ρ) : Config α ρ :=
  { c.enter i .accepted with committed := x.after, pending := none, history := c.history ++ [x] }

/-- One statement of a request, or the end of its transaction. -/
inductive Step (P : Protocol α ρ) (requests : Nat → ρ) : Config α ρ → Config α ρ → Prop
  | read {c : Config α ρ} {i : Nat} {a : α} (idle : c.stage i = .idle)
      (found : c.committed = some a) : Step P requests c (c.enter i (.reading a))
  | missed {c : Config α ρ} {i : Nat} (idle : c.stage i = .idle) (absent : c.committed = none) :
      Step P requests c (c.enter i .refused)
  | reread {c : Config α ρ} {i : Nat} {a : α} (reading : c.stage i = .reading a) :
      Step P requests c (c.enter i (.loaded (P.reread a c.committed)))
  | declined {c : Config α ρ} {i : Nat} {a : α} (loaded : c.stage i = .loaded a)
      (none : P.decide (requests i) a = none) : Step P requests c (c.refuse i (requests i) a)
  | conflict {c : Config α ρ} {i : Nat} {a : α} {write : α → Option α}
      (loaded : c.stage i = .loaded a) (decided : P.decide (requests i) a = some write)
      (free : c.pending = none) (moved : ∀ row ∈ c.committed, P.version row ≠ P.version a) :
      Step P requests c (c.refuse i (requests i) a)
  | write {c : Config α ρ} {i : Nat} {a row : α} {write : α → Option α}
      (loaded : c.stage i = .loaded a) (decided : P.decide (requests i) a = some write)
      (free : c.pending = none) (found : c.committed = some row)
      (version : P.version row = P.version a) :
      Step P requests c
        { c.enter i .writing with pending := some (i, ⟨requests i, a, row, write row⟩) }
  | save {c : Config α ρ} {i : Nat} {a row : α} {write : α → Option α}
      (loaded : c.stage i = .loaded a) (decided : P.decide (requests i) a = some write)
      (free : c.pending = none) (found : c.committed = some row)
      (version : P.version row = P.version a) :
      Step P requests c (c.commit i ⟨requests i, a, row, write row⟩)
  | commit {c : Config α ρ} {i : Nat} {x : Accepted α ρ} (pending : c.pending = some (i, x)) :
      Step P requests c (c.commit i x)
  | rollback {c : Config α ρ} {i : Nat} {x : Accepted α ρ} (pending : c.pending = some (i, x)) :
      Step P requests c { c.refuse i x.request x.read with pending := none }

/-- A request reads the row that it finds. -/
theorem Step.loads {P : Protocol α ρ} {requests : Nat → ρ} {c : Config α ρ} {i : Nat} {a : α}
    (idle : c.stage i = .idle) (found : c.committed = some a) :
    ReflTransGen (Step P requests) c
      ((c.enter i (.reading a)).enter i (.loaded (P.reread a c.committed))) := by
  have reading : (c.enter i (.reading a)).stage i = .reading a := Function.update_self _ _ _
  exact .tail (.single (.read idle found)) (.reread reading)

namespace Protocol
variable (P : Protocol α ρ)

/-- The write is what its request decides on for exactly the row that it replaces,
and raises the version by one. -/
structure Serial (x : Accepted α ρ) : Prop where
  read : x.read = x.before
  decided : ∃ write, P.decide x.request x.before = some write ∧ x.after = write x.before
  raised : ∀ row ∈ x.after, P.version row = P.version x.before + 1

/-- The writes follow each other from one row to another. -/
def Chained : Option α → List (Accepted α ρ) → Option α → Prop
  | start, [], final => final = start
  | start, x :: rest, final => start = some x.before ∧ P.Serial x ∧ Chained x.after rest final

variable {P}

theorem Chained.append {start final : Option α} {history : List (Accepted α ρ)}
    {x : Accepted α ρ} (h : P.Chained start history final) (serial : P.Serial x)
    (before : final = some x.before) : P.Chained start (history ++ [x]) x.after := by
  induction history generalizing start with
  | nil =>
      obtain rfl : final = start := h
      exact ⟨before, serial, rfl⟩
  | cons first rest ih => exact ⟨h.1, h.2.1, ih h.2.2⟩

/-- What every write preserves holds of the last row. -/
theorem Chained.preserves {holds : α → Prop} {history : List (Accepted α ρ)} {start : Option α}
    {final : Option α} (h : P.Chained start history final)
    (step : ∀ x ∈ history, P.Serial x → holds x.before → ∀ row ∈ x.after, holds row)
    (first : ∀ row ∈ start, holds row) : ∀ row ∈ final, holds row := by
  induction history generalizing start with
  | nil =>
      obtain rfl : final = start := h
      exact first
  | cons x rest ih =>
      obtain ⟨before, serial, rest⟩ := h
      exact ih rest (fun y member => step y (List.mem_cons_of_mem _ member))
        (step x List.mem_cons_self serial (first _ before))

variable (P) in
/-- A record that was read: an old one, or the row as it is. -/
def Seen (committed : Option α) (a : α) : Prop :=
  ∀ row ∈ committed, P.version a ≤ P.version row ∧ (P.version a = P.version row → a = row)

variable (P) in
structure Sound (requests : Nat → ρ) (start : Option α) (c : Config α ρ) : Prop where
  chained : P.Chained start c.history c.committed
  reading : ∀ i a, c.stage i = .reading a → P.Seen c.committed a
  loaded : ∀ i a, c.stage i = .loaded a → P.Seen c.committed a
  pending : ∀ i x, c.pending = some (i, x) → c.committed = some x.before ∧ P.Serial x

theorem sound_start (requests : Nat → ρ) (row : Option α) :
    P.Sound requests row (Config.start row) := by
  refine ⟨rfl, ?_, ?_, ?_⟩
  · intro i a reading
    cases reading
  · intro i a loaded
    cases loaded
  · intro i x pending
    cases pending

namespace Sound
variable {requests : Nat → ρ} {start : Option α} {c : Config α ρ}

/-- A request goes on to a stage in which it knows no record, or knows a seen one. -/
theorem enter (h : P.Sound requests start c) (i : Nat) {stage : Stage α}
    (reading : ∀ a, stage = .reading a → P.Seen c.committed a)
    (loaded : ∀ a, stage = .loaded a → P.Seen c.committed a) :
    P.Sound requests start (c.enter i stage) := by
  refine ⟨h.chained, ?_, ?_, h.pending⟩
  · intro j a entered
    by_cases own : j = i
    · subst own
      exact reading a (by simpa [Config.enter] using entered)
    · exact h.reading j a (by simpa [Config.enter, own] using entered)
  · intro j a entered
    by_cases own : j = i
    · subst own
      exact loaded a (by simpa [Config.enter] using entered)
    · exact h.loaded j a (by simpa [Config.enter, own] using entered)

/-- A write that fits the row is serial. -/
theorem serial (lawful : P.Lawful) (h : P.Sound requests start c) {i : Nat} {a row : α}
    {write : α → Option α} (loaded : c.stage i = .loaded a)
    (decided : P.decide (requests i) a = some write) (found : c.committed = some row)
    (version : P.version row = P.version a) : P.Serial ⟨requests i, a, row, write row⟩ := by
  have same : a = row := (h.loaded i a loaded row found).2 version.symm
  subst same
  refine ⟨rfl, ⟨write, decided, rfl⟩, ?_⟩
  intro after written
  exact lawful.raises decided written

/-- What was seen before a write is an old record after it. -/
theorem seen_after {x : Accepted α ρ} {a : α} (serial : P.Serial x)
    (seen : P.Seen (some x.before) a) : P.Seen x.after a := by
  intro row after
  have raised := serial.raised row after
  have old := (seen x.before rfl).1
  refine ⟨by omega, fun same => ?_⟩
  omega

theorem commit (h : P.Sound requests start c) (i : Nat) {x : Accepted α ρ}
    (before : c.committed = some x.before) (serial : P.Serial x) :
    P.Sound requests start (c.commit i x) := by
  have entered : P.Sound requests start (c.enter i .accepted) := by
    apply h.enter
    · intro a same
      cases same
    · intro a same
      cases same
  refine ⟨h.chained.append serial before, ?_, ?_, ?_⟩
  · intro j a reading
    have seen : P.Seen c.committed a := entered.reading j a reading
    exact seen_after serial (before ▸ seen)
  · intro j a loaded
    have seen : P.Seen c.committed a := entered.loaded j a loaded
    exact seen_after serial (before ▸ seen)
  · intro j y pending
    cases pending

theorem step (lawful : P.Lawful) (h : P.Sound requests start c) {c' : Config α ρ}
    (step : Step P requests c c') : P.Sound requests start c' := by
  have silent : ∀ (i : Nat) {stage : Stage α}, (∀ a, stage ≠ .reading a) →
      (∀ a, stage ≠ .loaded a) → P.Sound requests start (c.enter i stage) :=
    fun i stage notReading notLoaded =>
      h.enter i (fun a same => absurd same (notReading a)) fun a same => absurd same (notLoaded a)
  cases step with
  | @read i a idle found =>
      apply h.enter
      · intro b same row there
        obtain rfl := Stage.reading.inj same
        obtain rfl := Option.some.inj (found.symm.trans there)
        exact ⟨Nat.le_refl _, fun _ => rfl⟩
      · intro b same
        cases same
  | @reread i a reading =>
      apply h.enter
      · intro b same
        cases same
      · intro b same row there
        obtain rfl := Stage.loaded.inj same
        obtain ⟨old, current⟩ := h.reading i a reading row there
        rw [lawful.reread_version]
        refine ⟨old, fun same => ?_⟩
        obtain rfl := current same
        rw [there]
        exact lawful.reread_self a
  | missed => exact silent _ (by simp) (by simp)
  | @declined i | @conflict i =>
      have entered : P.Sound requests start (c.enter i .refused) := silent i (by simp) (by simp)
      exact ⟨entered.chained, entered.reading, entered.loaded, entered.pending⟩
  | @write i a row write loaded decided free found version =>
      have entered : P.Sound requests start (c.enter i .writing) :=
        silent i (by simp) (by simp)
      refine ⟨entered.chained, entered.reading, entered.loaded, ?_⟩
      intro j x pending
      obtain ⟨rfl, rfl⟩ := Prod.mk.inj (Option.some.inj pending)
      exact ⟨found, h.serial lawful loaded decided found version⟩
  | save loaded decided free found version =>
      exact h.commit _ found (h.serial lawful loaded decided found version)
  | commit pending =>
      obtain ⟨before, serial⟩ := h.pending _ _ pending
      exact h.commit _ before serial
  | @rollback i x pending =>
      have entered : P.Sound requests start (c.enter i .refused) :=
        silent i (by simp) (by simp)
      refine ⟨entered.chained, entered.reading, entered.loaded, ?_⟩
      intro j y other
      cases other

/-- A step leaves the committed row, or replaces it by what its request makes of it. -/
theorem committed (lawful : P.Lawful) (h : P.Sound requests start c) {c' : Config α ρ}
    (step : Step P requests c c') :
    c'.committed = c.committed ∨
      ∃ x, P.Serial x ∧ c.committed = some x.before ∧ c'.committed = x.after := by
  cases step with
  | save loaded decided free found version =>
      exact .inr ⟨_, h.serial lawful loaded decided found version, found, rfl⟩
  | commit pending =>
      obtain ⟨before, serial⟩ := h.pending _ _ pending
      exact .inr ⟨_, serial, before, rfl⟩
  | read | missed | reread | declined | conflict | write | rollback => exact .inl rfl

theorem run (lawful : P.Lawful) (h : P.Sound requests start c) {c' : Config α ρ}
    (run : ReflTransGen (Step P requests) c c') : P.Sound requests start c' := by
  induction run with
  | refl => exact h
  | tail _ step ih => exact ih.step lawful step

/-- What the requests keep of the row, a run keeps from any state on. -/
theorem preserves {holds : Option α → Prop} (lawful : P.Lawful) (h : P.Sound requests start c)
    (keep : ∀ x, P.Serial x → holds (some x.before) → holds x.after) {c' : Config α ρ}
    (run : ReflTransGen (Step P requests) c c') (first : holds c.committed) :
    holds c'.committed := by
  induction run with
  | refl => exact first
  | tail run step ih =>
      rcases (h.run lawful run).committed lawful step with same | ⟨x, serial, before, after⟩
      · exact same ▸ ih
      · rw [after]
        exact keep x serial (before ▸ ih)

end Sound

/-- The accepted writes of any interleaving follow each other. -/
theorem Lawful.chained (lawful : P.Lawful) {requests : Nat → ρ} {row : Option α}
    {c : Config α ρ} (run : ReflTransGen (Step P requests) (Config.start row) c) :
    P.Chained row c.history c.committed :=
  ((sound_start requests row).run lawful run).chained

/-- The requests behind the history of a run. -/
theorem requested {requests : Nat → ρ} {row : Option α} {c : Config α ρ} (run : ReflTransGen (Step P requests) (Config.start row) c) :
    (∀ i x, c.pending = some (i, x) → ∃ j, x.request = requests j) ∧
      ∀ x ∈ c.history, ∃ j, x.request = requests j := by
  induction run with
  | refl =>
      refine ⟨?_, ?_⟩
      · intro i x impossible
        cases impossible
      · intro x impossible
        cases impossible
  | tail _ step ih =>
      obtain ⟨pending, history⟩ := ih
      cases step with
      | read | missed | reread | declined | conflict => exact ⟨pending, history⟩
      | @write i =>
          refine ⟨?_, history⟩
          intro j x same
          obtain ⟨rfl, rfl⟩ := Prod.mk.inj (Option.some.inj same)
          exact ⟨i, rfl⟩
      | @save i =>
          refine ⟨?_, ?_⟩
          · intro j x impossible
            cases impossible
          · intro x member
            rcases List.mem_append.1 member with old | new
            · exact history x old
            · obtain rfl := List.mem_singleton.1 new
              exact ⟨i, rfl⟩
      | @commit i y held =>
          refine ⟨?_, ?_⟩
          · intro j x impossible
            cases impossible
          · intro x member
            rcases List.mem_append.1 member with old | new
            · exact history x old
            · obtain rfl := List.mem_singleton.1 new
              exact pending i x held
      | rollback =>
          refine ⟨?_, history⟩
          intro j x impossible
          cases impossible

end Protocol
end Transactions
