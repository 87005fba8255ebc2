import Mathlib.Data.List.Sort
import Mathlib.Data.Prod.Lex

/-!
Stable sorting by a key, as the `sorted` builtin does it, with the facts that
say which elements come first.
-/

namespace Collections
variable {α κ : Type} [LinearOrder κ]

/-- `sorted(xs, key=key)`. -/
def sortedBy (key : α → κ) (xs : List α) : List α :=
  xs.insertionSort fun a b => key a ≤ key b

variable (key : α → κ) (xs : List α)

theorem sortedBy_perm : (sortedBy key xs).Perm xs := List.perm_insertionSort _ xs

@[simp] theorem mem_sortedBy {a : α} : a ∈ sortedBy key xs ↔ a ∈ xs :=
  (sortedBy_perm key xs).mem_iff

theorem sortedBy_pairwise : (sortedBy key xs).Pairwise fun a b => key a ≤ key b := by
  have : Std.Total fun a b : α => key a ≤ key b := ⟨fun a b => le_total (key a) (key b)⟩
  have : IsTrans α fun a b => key a ≤ key b := ⟨fun _ _ _ => le_trans⟩
  exact List.pairwise_insertionSort _ xs

theorem sortedBy_of_pairwise (sorted : xs.Pairwise fun a b => key a ≤ key b) :
    sortedBy key xs = xs := by
  have : Std.Total fun a b : α => key a ≤ key b := ⟨fun a b => le_total (key a) (key b)⟩
  have : IsTrans α fun a b => key a ≤ key b := ⟨fun _ _ _ => le_trans⟩
  exact sorted.insertionSort_eq

private theorem filter_insert (p : α → Bool) (a : α) (xs : List α)
    (sorted : xs.Pairwise fun a b => key a ≤ key b) :
    (xs.orderedInsert (fun a b => key a ≤ key b) a).filter p =
      if p a then (xs.filter p).orderedInsert (fun a b => key a ≤ key b) a else xs.filter p := by
  induction xs with
  | nil => cases kept : p a <;> simp [kept]
  | cons b rest ih =>
      obtain ⟨least, sorted⟩ := List.pairwise_cons.mp sorted
      by_cases first : key a ≤ key b
      · rw [List.orderedInsert_cons, if_pos first, List.filter_cons]
        cases kept : p a with
        | false => simp
        | true =>
            simp only [if_true]
            -- whatever is kept of the rest still lies above `a`
            cases split : (b :: rest).filter p with
            | nil => rfl
            | cons c others =>
                have member : c ∈ b :: rest :=
                  (List.mem_filter.mp (split ▸ List.mem_cons_self)).1
                have above : key a ≤ key c := by
                  cases member with
                  | head => exact first
                  | tail _ later => exact first.trans (least c later)
                rw [List.orderedInsert_cons, if_pos above]
      · rw [List.orderedInsert_cons, if_neg first, List.filter_cons, List.filter_cons, ih sorted]
        cases kept : p a <;> cases kept' : p b <;> simp [List.orderedInsert_cons, first]

/-- A stable sort may be filtered before or after. -/
theorem filter_sortedBy (p : α → Bool) :
    (sortedBy key xs).filter p = sortedBy key (xs.filter p) := by
  induction xs with
  | nil => rfl
  | cons a rest ih =>
      change ((sortedBy key rest).orderedInsert _ a).filter p = _
      rw [filter_insert key p a _ (sortedBy_pairwise key rest), ih]
      cases kept : p a <;> simp [kept, sortedBy, List.insertionSort_cons]

/-- The first match in key order has the least key of all matches. -/
theorem find_sortedBy_le {p : α → Bool} {best : α} (found : (sortedBy key xs).find? p = some best) :
    ∀ other ∈ xs, p other → key best ≤ key other := by
  obtain ⟨-, before, after, split, none⟩ := List.find?_eq_some_iff_append.mp found
  intro other member ok
  have sorted := sortedBy_pairwise key xs
  rw [← mem_sortedBy key xs, split, List.mem_append, List.mem_cons] at member
  rw [split, List.pairwise_append, List.pairwise_cons] at sorted
  rcases member with early | rfl | late
  · have := none other early
    simp_all
  · exact le_refl _
  · exact sorted.2.1.1 other late

end Collections
