import Mathlib.Data.Finset.Card
import PurchaseAgent.Collections.Keyset

/-!
Following the cursors of a table that changes between the requests. Every page is
cut from the rows of its own moment; what the pages have in common is the order of
the keys, and that each cursor is the key of the last row shown.
-/

namespace Collections.Keyset
variable {α κ γ ι : Type} [LinearOrder κ]

/-- What a client gathers in at most `fuel` requests, the next of them the request
`n`, and whether the last page said that there is no more. -/
def traverse (read : Nat → Option γ → Option (List ι × Option γ)) :
    Nat → Nat → Option γ → List ι × Bool
  | 0, _, _ => ([], false)
  | fuel + 1, n, cursor =>
    match read n cursor with
    | none => ([], false)
    | some (items, none) => (items, true)
    | some (items, some next) =>
      let rest := traverse read fuel (n + 1) (some next)
      (items ++ rest.1, rest.2)

/-- The requests are answered with pages of the table of their moment. -/
structure ReadsAlong (key : α → κ) (keyOf : γ → κ) (own : γ → Prop) (toItem : α → ι)
    (xs : Nat → List α) (limits : Nat → Nat)
    (read : Nat → Option γ → Option (List ι × Option γ)) : Prop where
  sorted : ∀ n, (xs n).Pairwise fun a b => key a < key b
  positive : ∀ n, 0 < limits n
  reads : ∀ n, Reads key keyOf own toItem (xs n) (fun cursor _ => read n cursor) (limits n)

/-- The rows that were gathered behind a cursor, from request `n` on. -/
structure Gathered (key : α → κ) (toItem : α → ι) (xs : Nat → List α) (fuel n : Nat)
    (cursor : Option κ) (rows : List α) (result : List ι × Bool) : Prop where
  shown : result.1 = rows.map toItem
  ordered : rows.Pairwise fun a b => key a < key b
  behind : ∀ row ∈ rows, ∀ c ∈ cursor, c < key row
  held : ∀ row ∈ rows, ∃ m, n ≤ m ∧ m < n + fuel ∧ row ∈ xs m
  covered : result.2 = true → ∀ k, (∀ c ∈ cursor, c < k) →
    (∀ m, n ≤ m → m < n + fuel → ∃ row ∈ xs m, key row = k) → ∃ row ∈ rows, key row = k

variable {key : α → κ} {keyOf : γ → κ} {own : γ → Prop} {toItem : α → ι} {xs : Nat → List α}
  {limits : Nat → Nat} {read : Nat → Option γ → Option (List ι × Option γ)}

/-- A page leads on from its last row, which it shows, or shows all there is. -/
theorem ReadsAlong.page (along : ReadsAlong key keyOf own toItem xs limits read) (n : Nat)
    (cursor : Option γ) (mine : ∀ c ∈ cursor, own c) :
    read n cursor = some ((after key (cursor.map keyOf) (xs n)).map toItem, none) ∨
    ∃ next front last, read n cursor = some ((front ++ [last]).map toItem, some next) ∧
      own next ∧ keyOf next = key last ∧
      after key (cursor.map keyOf) (xs n) = front ++ last :: after key (some (key last)) (xs n) := by
  obtain ⟨next, page, leads, mine⟩ := along.reads n cursor mine
  change read n cursor = _ at page
  by_cases more : limits n < (after key (cursor.map keyOf) (xs n)).length
  · rw [if_pos more] at leads
    cases chosen : ((after key (cursor.map keyOf) (xs n)).take (limits n)).getLast? with
    | none =>
        have short := congrArg List.length (List.getLast?_eq_none_iff.mp chosen)
        have positive := along.positive n
        simp only [List.length_take, List.length_nil] at short
        omega
    | some last =>
        rw [chosen] at leads
        obtain ⟨next, rfl, same⟩ := Option.map_eq_some_iff.mp leads
        obtain ⟨front, visible⟩ := List.getLast?_eq_some_iff.mp chosen
        have rest := after_last (along.sorted n) chosen
        refine .inr ⟨next, front, last, ?_, mine next rfl, same, ?_⟩
        · rw [page]
          exact congrArg (fun shown => some (List.map toItem shown, some next)) visible
        · rw [rest]
          conv_lhs =>
            rw [← List.take_append_drop (limits n) (after key (cursor.map keyOf) (xs n)), visible]
          simp
  · rw [if_neg more] at leads
    obtain rfl := Option.map_eq_none_iff.mp leads
    refine .inl ?_
    rw [page, List.take_of_length_le (Nat.le_of_not_lt more)]

theorem Gathered.last {n fuel : Nat} {cursor : Option κ} {result : List ι × Bool}
    (sorted : (xs n).Pairwise fun a b => key a < key b)
    (shown : result.1 = (after key cursor (xs n)).map toItem) :
    Gathered key toItem xs (fuel + 1) n cursor (after key cursor (xs n)) result where
  shown := shown
  ordered := sorted.sublist (after_sublist _ _ _)
  behind row member := (mem_after.mp member).2
  held row member := ⟨n, Nat.le_refl n, by omega, (mem_after.mp member).1⟩
  covered _ k later throughout := by
    obtain ⟨row, member, rfl⟩ := throughout n (Nat.le_refl n) (by omega)
    exact ⟨row, mem_after.mpr ⟨member, later⟩, rfl⟩

/-- A page in front of what the further requests gather. -/
theorem Gathered.cons {n fuel : Nat} {cursor : Option κ} {front rows : List α} {last : α}
    {result : List ι × Bool} (sorted : (xs n).Pairwise fun a b => key a < key b)
    (split : after key cursor (xs n) = front ++ last :: after key (some (key last)) (xs n))
    (rest : Gathered key toItem xs fuel (n + 1) (some (key last)) rows result) :
    Gathered key toItem xs (fuel + 1) n cursor (front ++ [last] ++ rows)
      ((front ++ [last]).map toItem ++ result.1, result.2) := by
  have visible : ∀ row ∈ front ++ [last], row ∈ after key cursor (xs n) := by
    intro row member
    rw [split]
    rw [List.mem_append, List.mem_singleton] at member
    rcases member with early | rfl
    · exact List.mem_append_left _ early
    · exact List.mem_append_right _ List.mem_cons_self
  have ordered := sorted.sublist (after_sublist key cursor (xs n))
  rw [split, List.append_cons, List.pairwise_append] at ordered
  have upTo : ∀ row ∈ front ++ [last], key row ≤ key last := by
    have whole := (List.pairwise_append.mp ordered.1).2.2
    intro row member
    rw [List.mem_append, List.mem_singleton] at member
    rcases member with early | rfl
    · exact (whole row early last (List.mem_singleton_self last)).le
    · exact le_refl _
  have inside := (mem_after.mp (visible last (by simp))).2
  constructor
  · rw [rest.shown]
    exact List.map_append.symm
  · apply List.pairwise_append.mpr
    refine ⟨ordered.1, rest.ordered, ?_⟩
    intro row member later further
    exact (upTo row member).trans_lt (rest.behind later further _ rfl)
  · intro row member c chosen
    obtain now | later := List.mem_append.mp member
    · exact (mem_after.mp (visible row now)).2 c chosen
    · exact (inside c chosen).trans (rest.behind row later _ rfl)
  · intro row member
    obtain now | later := List.mem_append.mp member
    · exact ⟨n, Nat.le_refl n, by omega, (mem_after.mp (visible row now)).1⟩
    · obtain ⟨m, from_n, to_m, found⟩ := rest.held row later
      exact ⟨m, by omega, by omega, found⟩
  · intro ended k later throughout
    by_cases beyond : key last < k
    · obtain ⟨row, member, same⟩ := rest.covered ended k
        (fun c chosen => Option.mem_some_iff.mp chosen ▸ beyond)
        (fun m from_n to_m => throughout m (by omega) (by omega))
      exact ⟨row, List.mem_append_right _ member, same⟩
    · obtain ⟨row, member, rfl⟩ := throughout n (Nat.le_refl n) (by omega)
      have here := mem_after.mpr ⟨member, later⟩
      rw [split, List.append_cons] at here
      obtain now | further := List.mem_append.mp here
      · exact ⟨row, List.mem_append_left _ now, rfl⟩
      · exact absurd ((mem_after.mp further).2 _ rfl) beyond

/-- Whatever happens to the table, the pages show rows in key order and miss no row
that is there at every request. -/
theorem ReadsAlong.gathered (along : ReadsAlong key keyOf own toItem xs limits read)
    (fuel n : Nat) (cursor : Option γ) (mine : ∀ c ∈ cursor, own c) :
    ∃ rows, Gathered key toItem xs fuel n (cursor.map keyOf) rows (traverse read fuel n cursor) := by
  induction fuel generalizing n cursor with
  | zero =>
      refine ⟨[], rfl, List.Pairwise.nil, by simp, by simp, ?_⟩
      intro ended
      cases ended
  | succ fuel ih =>
      obtain page | ⟨next, front, last, page, own, same, split⟩ := along.page n cursor mine
      · refine ⟨_, Gathered.last (along.sorted n) ?_⟩
        rw [traverse, page]
      · obtain ⟨rows, rest⟩ := ih (n + 1) (some next) (fun c chosen =>
          Option.mem_some_iff.mp chosen ▸ own)
        rw [Option.map_some, same] at rest
        refine ⟨front ++ [last] ++ rows, ?_⟩
        rw [traverse, page]
        exact rest.cons (along.sorted n) split

section Ends
variable {table : Nat → List α}

/-- The keys of a table that lie behind a cursor. -/
def keysBehind (key : α → κ) (cursor : Option κ) (rows : List α) : Finset κ :=
  ((after key cursor rows).map key).toFinset

theorem mem_keysBehind {cursor : Option κ} {rows : List α} {k : κ} :
    k ∈ keysBehind key cursor rows ↔ (∃ row ∈ rows, key row = k) ∧ ∀ c ∈ cursor, c < k := by
  simp only [keysBehind, List.mem_toFinset, List.mem_map, mem_after]
  constructor
  · intro ⟨row, ⟨member, later⟩, same⟩
    exact ⟨⟨row, member, same⟩, same ▸ later⟩
  · intro ⟨⟨row, member, same⟩, later⟩
    exact ⟨row, ⟨member, same ▸ later⟩, same⟩

/-- Once no key is added, every page leaves fewer keys behind its cursor. -/
theorem ReadsAlong.ends_after (along : ReadsAlong key keyOf own toItem xs limits read)
    (shown : ∀ n, ∀ row ∈ xs n, row ∈ table n) (stop : Nat)
    (still : ∀ n, stop ≤ n → ∀ row ∈ table (n + 1), ∃ old ∈ table n, key old = key row)
    (fuel n : Nat) (late : stop ≤ n) (cursor : Option γ) (mine : ∀ c ∈ cursor, own c)
    (enough : (keysBehind key (cursor.map keyOf) (table n)).card < fuel) :
    (traverse read fuel n cursor).2 = true := by
  induction fuel generalizing n cursor with
  | zero => omega
  | succ fuel ih =>
      obtain page | ⟨next, front, last, page, own, same, split⟩ := along.page n cursor mine
      · rw [traverse, page]
      · rw [traverse, page]
        have member : last ∈ after key (cursor.map keyOf) (xs n) := by
          rw [split]
          exact List.mem_append_right _ List.mem_cons_self
        obtain ⟨there, inside⟩ := mem_after.mp member
        apply ih (n + 1) (by omega) (some next) (fun c chosen =>
          Option.mem_some_iff.mp chosen ▸ own)
        rw [Option.map_some, same]
        have fewer : keysBehind key (some (key last)) (table (n + 1)) ⊂
            keysBehind key (cursor.map keyOf) (table n) := by
          apply Finset.ssubset_iff_subset_ne.mpr
          refine ⟨?_, ?_⟩
          · intro k found
            obtain ⟨⟨row, inTable, rfl⟩, later⟩ := mem_keysBehind.mp found
            refine mem_keysBehind.mpr ⟨still n late row inTable, ?_⟩
            intro c chosen
            exact (inside c chosen).trans (later _ rfl)
          · intro equal
            have kept : key last ∈ keysBehind key (some (key last)) (table (n + 1)) := by
              rw [equal]
              exact mem_keysBehind.mpr ⟨⟨last, shown n last there, rfl⟩, inside⟩
            exact lt_irrefl _ ((mem_keysBehind.mp kept).2 _ rfl)
        have smaller := Finset.card_lt_card fewer
        omega

/-- Once no key is added any more, the traversal comes to an end. -/
theorem ReadsAlong.ends (along : ReadsAlong key keyOf own toItem xs limits read)
    (shown : ∀ n, ∀ row ∈ xs n, row ∈ table n) (stop : Nat)
    (still : ∀ n, stop ≤ n → ∀ row ∈ table (n + 1), ∃ old ∈ table n, key old = key row)
    (rounds n : Nat) (late : stop ≤ n + rounds) (cursor : Option γ) (mine : ∀ c ∈ cursor, own c) :
    ∃ fuel, (traverse read fuel n cursor).2 = true := by
  induction rounds generalizing n cursor with
  | zero =>
      exact ⟨_, along.ends_after shown stop still _ n late cursor mine (Nat.lt_succ_self _)⟩
  | succ rounds ih =>
      obtain page | ⟨next, front, last, page, own, -, -⟩ := along.page n cursor mine
      · refine ⟨1, ?_⟩
        rw [traverse, page]
      · obtain ⟨fuel, ended⟩ := ih (n + 1) (by omega) (some next) (fun c chosen =>
          Option.mem_some_iff.mp chosen ▸ own)
        refine ⟨fuel + 1, ?_⟩
        rw [traverse, page]
        exact ended

end Ends
end Collections.Keyset
