import PurchaseAgent.Transactions.VersionedRow

/-!
Requests that act before they write. A request that acts on the record it has read
cannot take back what it has done, so it may not come to nothing: no write of another
request is accepted between its read and its own write, and its transaction is not
rolled back.
-/

namespace Transactions

open Relation

variable {α ρ : Type} {P : Protocol α ρ} {requests : Nat → ρ} {acts : ρ → α → Prop}
  {row : Option α} {c : Config α ρ}

/-- No request but this one has read a record on which it acts. -/
def Config.Apart (requests : Nat → ρ) (acts : ρ → α → Prop) (c : Config α ρ) (i : Nat) : Prop :=
  ∀ j, j ≠ i → ∀ a, c.stage j = .reading a ∨ c.stage j = .loaded a → ¬ acts (requests j) a

/-- A step at which no write passes a request that acts, and none that acts is undone. -/
inductive ApartStep (P : Protocol α ρ) (requests : Nat → ρ) (acts : ρ → α → Prop) :
    Config α ρ → Config α ρ → Prop
  | quiet {c c' : Config α ρ} (step : Step P requests c c') (same : c'.committed = c.committed)
      (steady : c.pending = none ∨ c'.pending = c.pending) : ApartStep P requests acts c c'
  | saved {c : Config α ρ} {i : Nat} {x : Accepted α ρ} (apart : c.Apart requests acts i)
      (step : Step P requests c (c.commit i x)) : ApartStep P requests acts c (c.commit i x)
  | rollback {c : Config α ρ} {i : Nat} {x : Accepted α ρ} (pending : c.pending = some (i, x))
      (passive : ¬ acts x.request x.read) :
      ApartStep P requests acts c { c.refuse i x.request x.read with pending := none }

theorem ApartStep.step {c' : Config α ρ} (h : ApartStep P requests acts c c') :
    Step P requests c c' := by
  cases h with
  | quiet step => exact step
  | saved apart step => exact step
  | rollback pending passive => exact .rollback pending

theorem ApartStep.run {c c' : Config α ρ} (run : ReflTransGen (ApartStep P requests acts) c c') :
    ReflTransGen (Step P requests) c c' := by
  induction run with
  | refl => exact .refl
  | tail _ step ih => exact ih.tail step.step

/-- A request that acts has read the row as it is, and none that acts has come to nothing. -/
structure Acting (requests : Nat → ρ) (acts : ρ → α → Prop) (c : Config α ρ) : Prop where
  current : ∀ j a, c.stage j = .reading a ∨ c.stage j = .loaded a → acts (requests j) a →
    c.committed = some a
  lost : ∀ x ∈ c.lost, ¬ acts x.1 x.2

namespace Acting

theorem start (row : Option α) : Acting requests acts (Config.start row) where
  current j a known := by
    rcases known with impossible | impossible <;> cases impossible
  lost x impossible := by cases impossible

/-- A request goes on to a stage in which it knows no record, or knows the row. -/
theorem enter (h : Acting requests acts c) (i : Nat) {stage : Stage α}
    (current : ∀ a, stage = .reading a ∨ stage = .loaded a → acts (requests i) a →
      c.committed = some a) : Acting requests acts (c.enter i stage) where
  current j a known acting := by
    by_cases own : j = i
    · subst own
      exact current a (by simpa [Config.enter] using known) acting
    · exact h.current j a (by simpa [Config.enter, own] using known) acting
  lost := h.lost

/-- A request that does not act may come to nothing. -/
theorem refuse (h : Acting requests acts c) (i : Nat) {request : ρ} {a : α}
    (passive : ¬ acts request a) : Acting requests acts (c.refuse i request a) := by
  have refused : Acting requests acts (c.enter i .refused) := h.enter i (by simp)
  refine ⟨refused.current, ?_⟩
  intro x member
  rcases List.mem_append.1 member with old | new
  · exact h.lost x old
  · obtain rfl := List.mem_singleton.1 new
    exact passive

theorem commit (h : Acting requests acts c) {i : Nat} (apart : c.Apart requests acts i)
    (x : Accepted α ρ) : Acting requests acts (c.commit i x) where
  current j a known acting := by
    by_cases own : j = i
    · subst own
      simp [Config.commit, Config.enter] at known
    · exact absurd acting (apart j own a (by simpa [Config.commit, Config.enter, own] using known))
  lost := h.lost

theorem step (reread : ∀ a found, P.reread a found = a)
    (decides : ∀ i a, c.committed = some a → acts (requests i) a → P.decide (requests i) a ≠ none)
    (h : Acting requests acts c) {c' : Config α ρ} (step : ApartStep P requests acts c c') :
    Acting requests acts c' := by
  cases step with
  | saved apart step => exact h.commit apart _
  | @rollback i x pending passive =>
      have refused := h.refuse i passive
      exact ⟨refused.current, refused.lost⟩
  | quiet step same steady =>
      cases step with
      | @read i a idle found =>
          refine h.enter i fun b known _ => ?_
          rcases known with reading | loaded
          · exact Stage.reading.inj reading ▸ found
          · cases loaded
      | missed => exact h.enter _ (by simp)
      | @reread i a reading =>
          rw [reread]
          refine h.enter i fun b known acting => ?_
          rcases known with impossible | loaded
          · cases impossible
          · obtain rfl := Stage.loaded.inj loaded
            exact h.current i a (.inl reading) acting
      | @declined i a loaded none =>
          refine h.refuse i fun acting => ?_
          exact decides i a (h.current i a (.inr loaded) acting) acting none
      | @conflict i a write loaded decided free moved =>
          refine h.refuse i fun acting => ?_
          exact moved a (h.current i a (.inr loaded) acting) rfl
      | @write i a row write loaded decided free found version =>
          have writing : Acting requests acts (c.enter i .writing) := h.enter i (by simp)
          exact ⟨writing.current, writing.lost⟩
      | @save i a row write loaded decided free found version =>
          have accepted : Acting requests acts (c.enter i .accepted) := h.enter i (by simp)
          exact ⟨fun j b known acting => same.trans (accepted.current j b known acting),
            accepted.lost⟩
      | @commit i x pending =>
          have accepted : Acting requests acts (c.enter i .accepted) := h.enter i (by simp)
          exact ⟨fun j b known acting => same.trans (accepted.current j b known acting),
            accepted.lost⟩
      | @rollback i x pending =>
          rcases steady with free | kept
          · cases pending.symm.trans free
          · cases pending.symm.trans kept.symm

/-- No request that acts comes to nothing, where what holds of the row makes it decide
on a write. -/
theorem run (lawful : P.Lawful) (reread : ∀ a found, P.reread a found = a) {holds : α → Prop}
    (keep : ∀ i x, x.request = requests i → P.Serial x → holds x.before →
      ∀ row ∈ x.after, holds row)
    (first : ∀ a ∈ row, holds a)
    (decides : ∀ i a, holds a → acts (requests i) a → P.decide (requests i) a ≠ none)
    (run : ReflTransGen (ApartStep P requests acts) (Config.start row) c) :
    Acting requests acts c := by
  induction run with
  | refl => exact start row
  | tail before step ih =>
      have steps := ApartStep.run before
      have held := (lawful.chained steps).preserves (fun x member => by
        obtain ⟨i, own⟩ := (Protocol.requested steps).2 x member
        exact keep i x own) first
      exact ih.step reread (fun i a found => decides i a (held a found)) step

end Acting
end Transactions
