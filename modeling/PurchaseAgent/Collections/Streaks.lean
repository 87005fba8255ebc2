import Mathlib.Data.List.Infix

/-!
Streaks of one value in a list: how long they get is followed from the left by
the value that came last and how often it has come in a row.
-/

namespace Collections
variable {α : Type}

/-- From `start` on, the value stands `n` times in a row. -/
def Streak (n : Nat) (values : List α) (value : α) (start : Nat) : Prop :=
  ∀ i < n, values[start + i]? = some value

theorem streak_of_infix {n : Nat} {values : List α} {value : α}
    (inside : List.replicate n value <:+: values) : ∃ start, Streak n values value start := by
  obtain ⟨front, back, rfl⟩ := inside
  refine ⟨front.length, ?_⟩
  intro i small
  rw [List.append_assoc, List.getElem?_append_right (Nat.le_add_right _ _),
    Nat.add_sub_cancel_left, List.getElem?_append_left (by simpa using small),
    List.getElem?_replicate, if_pos small]

theorem not_streak_of_length_lt {n : Nat} {values : List α} (short : values.length < n) (value : α)
    (start : Nat) : ¬ Streak n values value start := by
  intro streak
  have last := streak (n - 1) (by omega)
  have inside := (List.getElem?_eq_some_iff.mp last).1
  omega

/-- A streak that is too short and another value do not make a streak longer. -/
theorem not_streak_append {n k : Nat} (short : k < n) {other value : α} (differs : other ≠ value)
    {rest : List α} (below : ∀ v start, ¬ Streak n (value :: rest) v start) (v : α) (start : Nat) :
    ¬ Streak n (List.replicate k other ++ value :: rest) v start := by
  intro streak
  obtain before | later := Nat.lt_or_ge start k
  · have first := streak 0 (by omega)
    rw [Nat.add_zero, List.getElem?_append_left (by simpa using before), List.getElem?_replicate,
      if_pos before] at first
    have second := streak (k - start) (by omega)
    rw [Nat.add_sub_cancel' (Nat.le_of_lt before), List.getElem?_append_right (by simp),
      List.length_replicate, Nat.sub_self] at second
    exact differs ((Option.some.inj first).trans (Option.some.inj second).symm)
  · apply below v (start - k)
    intro i small
    have found := streak i small
    rw [List.getElem?_append_right (by simpa using Nat.le_add_right_of_le later),
      List.length_replicate] at found
    rwa [Nat.sub_add_comm later] at found

end Collections
