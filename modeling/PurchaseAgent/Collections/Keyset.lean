import Mathlib.Data.List.Basic
import Mathlib.Order.Lattice

/-!
Keyset pagination: a page is what lies behind a cursor, cut after `limit`
elements, and its own cursor is the key of its last element. Following the
cursors visits every element once, in key order.
-/

namespace Collections.Keyset
variable {α β κ : Type} [LinearOrder κ]

/-- The elements behind the cursor. -/
def after (key : α → κ) (cursor : Option κ) (xs : List α) : List α :=
  xs.filter fun x => decide (∀ c ∈ cursor, c < key x)

@[simp] theorem after_none (key : α → κ) (xs : List α) : after key none xs = xs := by
  simp [after]

theorem mem_after {key : α → κ} {cursor : Option κ} {xs : List α} {x : α} :
    x ∈ after key cursor xs ↔ x ∈ xs ∧ ∀ c ∈ cursor, c < key x := by
  simp [after, List.mem_filter]

theorem after_sublist (key : α → κ) (cursor : Option κ) (xs : List α) :
    (after key cursor xs).Sublist xs := List.filter_sublist

theorem after_map {f : α → β} {key : α → κ} {key' : β → κ} {cursor : Option κ} {xs : List α}
    (keys : ∀ x ∈ xs, key' (f x) = key x) :
    after key' cursor (xs.map f) = (after key cursor xs).map f := by
  rw [after, after, List.filter_map]
  congr 1
  apply List.filter_congr
  intro x member
  simp only [Function.comp_apply, keys x member]

/-- In a strictly sorted list the cursor of an element splits the list there. -/
theorem after_split {key : α → κ} {before rest : List α} {x : α}
    (sorted : (before ++ x :: rest).Pairwise fun a b => key a < key b) :
    after key (some (key x)) (before ++ x :: rest) = rest := by
  rw [List.pairwise_append, List.pairwise_cons] at sorted
  obtain ⟨-, ⟨later, -⟩, earlier⟩ := sorted
  have dropped : before.filter (fun a => decide (∀ c ∈ some (key x), c < key a)) = [] := by
    apply List.filter_eq_nil_iff.mpr
    intro a member
    have below := earlier a member x List.mem_cons_self
    simpa using below.le
  have kept : rest.filter (fun a => decide (∀ c ∈ some (key x), c < key a)) = rest := by
    apply List.filter_eq_self.mpr
    intro a member
    simpa using later a member
  rw [after, List.filter_append, dropped, List.nil_append, List.filter_cons, if_neg (by simp),
    kept]

/-- The cursor of the last element of a page points behind that page. -/
theorem after_last {key : α → κ} {cursor : Option κ} {xs : List α} {limit : Nat} {last : α}
    (sorted : xs.Pairwise fun a b => key a < key b)
    (found : ((after key cursor xs).take limit).getLast? = some last) :
    after key (some (key last)) xs = (after key cursor xs).drop limit := by
  obtain ⟨front, page⟩ := List.getLast?_eq_some_iff.mp found
  have split : after key cursor xs = front ++ last :: (after key cursor xs).drop limit := by
    conv_lhs => rw [← List.take_append_drop limit (after key cursor xs), page]
    simp
  have inside : ∀ c ∈ cursor, c < key last := by
    have member : last ∈ after key cursor xs := by
      rw [split]
      simp
    exact (mem_after.mp member).2
  -- behind the later cursor there is nothing that the earlier one hides
  have narrowed : after key (some (key last)) xs =
      after key (some (key last)) (after key cursor xs) := by
    simp only [after, List.filter_filter]
    apply List.filter_congr
    intro a _
    simp only [Option.mem_some_iff, forall_eq', ← Bool.decide_and, decide_eq_decide]
    exact ⟨fun behind => ⟨behind, fun c chosen => (inside c chosen).trans behind⟩, And.left⟩
  have sorted' := sorted.sublist (after_sublist key cursor xs)
  rw [split] at sorted'
  rw [narrowed]
  exact (congrArg (after key (some (key last))) split).trans (after_split sorted')

/-- What a client gathers that starts at `cursor` and follows the cursors of the
pages; `none` when a page cannot be read or the fuel runs out. -/
def follow {γ ι : Type} (read : Option γ → Nat → Option (List ι × Option γ)) (limits : Nat → Nat) :
    Nat → Option γ → Option (List ι)
  | 0, _ => none
  | fuel + 1, cursor =>
    match read cursor (limits 0) with
    | none => none
    | some (items, none) => some items
    | some (items, some next) =>
      (follow read (fun n => limits (n + 1)) fuel (some next)).map (items ++ ·)

/-- A page shows the first elements behind a cursor of the list, and leads on from
its last one when there are more. -/
def Reads {γ ι : Type} (key : α → κ) (keyOf : γ → κ) (own : γ → Prop) (toItem : α → ι)
    (xs : List α) (read : Option γ → Nat → Option (List ι × Option γ)) (limit : Nat) : Prop :=
  ∀ cursor : Option γ, (∀ c ∈ cursor, own c) → ∃ next,
    read cursor limit = some (((after key (cursor.map keyOf) xs).take limit).map toItem, next) ∧
      next.map keyOf =
        (if limit < (after key (cursor.map keyOf) xs).length then
          ((after key (cursor.map keyOf) xs).take limit).getLast?.map key
        else none) ∧
      ∀ c ∈ next, own c

theorem follow_eq {γ ι : Type} {key : α → κ} {keyOf : γ → κ} {own : γ → Prop} {toItem : α → ι}
    {xs : List α} {read : Option γ → Nat → Option (List ι × Option γ)}
    (sorted : xs.Pairwise fun a b => key a < key b) (fuel : Nat) (limits : Nat → Nat)
    (cursor : Option γ) (mine : ∀ c ∈ cursor, own c) (limits_pos : ∀ n, 0 < limits n)
    (reads : ∀ n, Reads key keyOf own toItem xs read (limits n))
    (enough : (after key (cursor.map keyOf) xs).length < fuel) :
    follow read limits fuel cursor = some ((after key (cursor.map keyOf) xs).map toItem) := by
  induction fuel generalizing limits cursor with
  | zero => omega
  | succ fuel ih =>
      obtain ⟨next, page, leads, own⟩ := reads 0 cursor mine
      have positive := limits_pos 0
      simp only [follow, page]
      by_cases more : limits 0 < (after key (cursor.map keyOf) xs).length
      · rw [if_pos more] at leads
        cases chosen : ((after key (cursor.map keyOf) xs).take (limits 0)).getLast? with
        | none =>
            have empty := List.getLast?_eq_none_iff.mp chosen
            have short := congrArg List.length empty
            simp only [List.length_take, List.length_nil] at short
            omega
        | some last =>
            rw [chosen] at leads
            obtain ⟨next, rfl, behind⟩ := Option.map_eq_some_iff.mp leads
            have rest := after_last sorted chosen
            have goal := ih (fun n => limits (n + 1)) (some next) own (fun n => limits_pos (n + 1))
              (fun n => reads (n + 1)) (by
                rw [Option.map_some, behind, rest, List.length_drop]
                omega)
            simp only [goal, Option.map_some, behind, rest, ← List.map_append,
              List.take_append_drop]
      · rw [if_neg more] at leads
        obtain rfl := Option.map_eq_none_iff.mp leads
        simp only [List.take_of_length_le (Nat.le_of_not_lt more)]

/-- The cursor in front of an element. -/
theorem exists_cursor {key : α → κ} {xs : List α} {x : α}
    (sorted : xs.Pairwise fun a b => key a < key b) (member : x ∈ xs) :
    ∃ cursor, (∀ c ∈ cursor, ∃ a ∈ xs, c = key a) ∧ (after key cursor xs).head? = some x := by
  obtain ⟨before, rest, rfl⟩ := List.append_of_mem member
  rcases List.eq_nil_or_concat before with rfl | ⟨front, previous, rfl⟩
  · exact ⟨none, by simp, by simp⟩
  · refine ⟨some (key previous), ?_, ?_⟩
    · rintro _ ⟨⟩
      exact ⟨previous, by simp, rfl⟩
    · rw [List.concat_eq_append, List.append_assoc, List.singleton_append] at sorted ⊢
      rw [after_split sorted]
      rfl

/-- A later cursor leaves the first element in front as long as it lies behind. -/
theorem head_after {key : α → κ} {earlier : Option κ} {later : κ} {xs : List α} {x : α}
    (first : (after key earlier xs).head? = some x) (le : ∀ c ∈ earlier, c ≤ later)
    (behind : later < key x) : (after key (some later) xs).head? = some x := by
  have narrowed : after key (some later) xs = after key (some later) (after key earlier xs) := by
    simp only [after, List.filter_filter]
    apply List.filter_congr
    intro a _
    simp only [Option.mem_some_iff, forall_eq', ← Bool.decide_and, decide_eq_decide]
    exact ⟨fun less => ⟨less, fun c chosen => (le c chosen).trans_lt less⟩, And.left⟩
  rw [narrowed]
  cases kept : after key earlier xs with
  | nil => rw [kept] at first; cases first
  | cons y rest =>
      rw [kept] at first
      obtain rfl := Option.some.inj first
      rw [after, List.filter_cons, if_pos (by simpa using behind)]
      rfl

/-- Two lists whose first elements behind every cursor carry the same label give
every label the same key. -/
theorem key_eq_of_heads {ι : Type} {key : α → κ} {key' : β → κ} (label : α → ι) (label' : β → ι)
    {xs : List α} {ys : List β} (sorted : xs.Pairwise fun a b => key a < key b)
    (distinct : ∀ a ∈ xs, ∀ b ∈ xs, label a = label b → a = b)
    (distinct' : ∀ a ∈ ys, ∀ b ∈ ys, label' a = label' b → a = b)
    (heads : ∀ cursor, (∀ c ∈ cursor, (∃ a ∈ xs, c = key a) ∨ ∃ b ∈ ys, c = key' b) →
      (after key cursor xs).head?.map label = (after key' cursor ys).head?.map label')
    {x : α} {y : β} (hx : x ∈ xs) (hy : y ∈ ys) (same : label x = label' y) : key' y = key x := by
  obtain ⟨cursor, known, first⟩ := exists_cursor sorted hx
  have first' : (after key' cursor ys).head? = some y := by
    have both := heads cursor fun c chosen => .inl (known c chosen)
    rw [first] at both
    obtain ⟨z, found, labels⟩ := Option.map_eq_some_iff.mp both.symm
    have member := (after_sublist key' cursor ys).subset (List.mem_of_mem_head? found)
    rw [found, distinct' z member y hy (labels.trans same)]
  have behind := (mem_after.mp (List.mem_of_mem_head? first)).2
  have behind' := (mem_after.mp (List.mem_of_mem_head? first')).2
  rcases lt_trichotomy (key' y) (key x) with below | equal | above
  · -- behind the key of `y` only the first list still starts with this label
    have left := head_after first (fun c chosen => (behind' c chosen).le) below
    have both := heads (some (key' y)) fun c chosen => .inr ⟨y, hy, (Option.some.inj chosen).symm⟩
    rw [left] at both
    obtain ⟨z, found, labels⟩ := Option.map_eq_some_iff.mp both.symm
    obtain ⟨member, later⟩ := mem_after.mp (List.mem_of_mem_head? found)
    rw [distinct' z member y hy (labels.trans same)] at later
    exact absurd (later _ rfl) (lt_irrefl _)
  · exact equal
  · have right := head_after first' (fun c chosen => (behind c chosen).le) above
    have both := heads (some (key x)) fun c chosen => .inl ⟨x, hx, (Option.some.inj chosen).symm⟩
    rw [right] at both
    obtain ⟨z, found, labels⟩ := Option.map_eq_some_iff.mp both
    obtain ⟨member, later⟩ := mem_after.mp (List.mem_of_mem_head? found)
    rw [distinct z member x hx (labels.trans same.symm)] at later
    exact absurd (later _ rfl) (lt_irrefl _)

end Collections.Keyset
