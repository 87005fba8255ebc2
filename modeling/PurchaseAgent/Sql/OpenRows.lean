import Mathlib.Data.List.Induction
import Mathlib.Logic.Function.Basic

/-!
Records that are opened and closed under a key. A table holds the records of all keys
and changes the open ones of a key wherever they are; a ledger holds a sequence for each
key and changes its last entry. They tell the same as long as only a last entry is open,
which an index that is unique among the open rows of a key sees to.
-/

namespace Sql.OpenRows
variable {ρ ν κ : Type}

section
variable (isOpen : ρ → Bool) (change : ρ → ρ) {entries : List ρ}

def changeOpen (row : ρ) : ρ := if isOpen row then change row else row

/-- The last entry changes if it is open. -/
def updateLast (entries : List ρ) : List ρ :=
  match entries.getLast? with
  | none => entries
  | some last => if isOpen last then entries.dropLast ++ [change last] else entries

/-- No entry is open but the last one. -/
def ClosedBeforeLast (entries : List ρ) : Prop := ∀ entry ∈ entries.dropLast, isOpen entry = false

variable {isOpen change}

theorem closedBeforeLast_snoc {front : List ρ} {last : ρ} :
    ClosedBeforeLast isOpen (front ++ [last]) ↔ ∀ entry ∈ front, isOpen entry = false := by
  simp [ClosedBeforeLast]

theorem map_changeOpen_of_closed (closed : ∀ entry ∈ entries, isOpen entry = false) :
    entries.map (changeOpen isOpen change) = entries := by
  refine (List.map_congr_left fun entry member => ?_).trans (List.map_id entries)
  simp [changeOpen, closed entry member]

theorem map_changeOpen (closed : ClosedBeforeLast isOpen entries) :
    entries.map (changeOpen isOpen change) = updateLast isOpen change entries := by
  induction entries using List.reverseRecOn with
  | nil => rfl
  | append_singleton front last _ =>
    have kept : front.map (changeOpen isOpen change) = front :=
      map_changeOpen_of_closed (closedBeforeLast_snoc.mp closed)
    cases opened : isOpen last with
    | true => simp [updateLast, changeOpen, opened, kept]
    | false => simp [updateLast, changeOpen, opened, kept]

theorem any_open_iff (closed : ClosedBeforeLast isOpen entries) :
    entries.any isOpen = entries.getLast?.any isOpen := by
  induction entries using List.reverseRecOn with
  | nil => rfl
  | append_singleton front last _ =>
    have none : front.any isOpen = false := by
      simpa using closedBeforeLast_snoc.mp closed
    simp [none]

theorem ClosedBeforeLast.updateLast (closed : ClosedBeforeLast isOpen entries) :
    ClosedBeforeLast isOpen (updateLast isOpen change entries) := by
  induction entries using List.reverseRecOn with
  | nil => exact closed
  | append_singleton front last _ =>
    cases opened : isOpen last with
    | true =>
      simpa [OpenRows.updateLast, opened] using
        closedBeforeLast_snoc.mpr (closedBeforeLast_snoc.mp closed)
    | false => simpa [OpenRows.updateLast, opened] using closed

/-- The same change, seen through a map of the entries. -/
theorem map_updateLast {isOpen' : ν → Bool} {change' : ν → ν} {f : ρ → ν}
    (opened : ∀ entry, isOpen' (f entry) = isOpen entry)
    (changed : ∀ entry, f (change entry) = change' (f entry)) :
    (updateLast isOpen change entries).map f = updateLast isOpen' change' (entries.map f) := by
  unfold updateLast
  rw [List.getLast?_map]
  cases entries.getLast? with
  | none => rfl
  | some last =>
    simp only [Option.map_some, opened]
    split
    · simp [changed, List.map_dropLast]
    · rfl

end

section
variable [DecidableEq κ] (key : ρ → κ) (isOpen : ρ → Bool)

/-- `UPDATE ... SET change WHERE key = k AND open`. -/
def updateOpen (k : κ) (change : ρ → ρ) (table : List ρ) : List ρ :=
  table.map fun row => if key row = k then changeOpen isOpen change row else row

/-- The table and the ledger hold the same records. -/
structure Agree (table : List ρ) (ledger : κ → List ρ) : Prop where
  rows : ∀ k, table.filter (key · = k) = ledger k
  closed : ∀ k, ClosedBeforeLast isOpen (ledger k)

variable {key isOpen} {table : List ρ} {ledger : κ → List ρ} {k : κ}

theorem agree_nil : Agree key isOpen [] fun _ => [] where
  rows _ := rfl
  closed _ _ member := nomatch member

theorem filter_updateOpen {change : ρ → ρ} (keeps : ∀ row, key (change row) = key row) (other : κ) :
    (updateOpen key isOpen k change table).filter (key · = other) =
      if other = k then (table.filter (key · = k)).map (changeOpen isOpen change)
      else table.filter (key · = other) := by
  have kept : ∀ row, key (changeOpen isOpen change row) = key row := by
    intro row
    unfold changeOpen
    split
    · exact keeps row
    · rfl
  unfold updateOpen
  induction table with
  | nil => split <;> rfl
  | cons row rest ih =>
    simp only [List.map_cons, List.filter_cons]
    by_cases own : key row = k <;> by_cases same : other = k
    · subst same
      simpa [own, kept] using ih
    · have apart : ¬ k = other := fun equal => same equal.symm
      simpa [own, kept, same, apart] using ih
    · subst same
      simpa [own] using ih
    · simp only [own, same, if_false] at ih ⊢
      rw [ih]

theorem Agree.updateOpen (h : Agree key isOpen table ledger) {change : ρ → ρ}
    (keeps : ∀ row, key (change row) = key row) :
    Agree key isOpen (updateOpen key isOpen k change table)
      (Function.update ledger k (updateLast isOpen change (ledger k))) where
  rows other := by
    rw [filter_updateOpen keeps, h.rows, h.rows, map_changeOpen (h.closed k)]
    by_cases same : other = k
    · subst same
      simp
    · simp [same]
  closed other := by
    by_cases same : other = k
    · subst same
      simpa using (h.closed other).updateLast
    · simpa [same] using h.closed other

theorem Agree.insert (h : Agree key isOpen table ledger) {row : ρ} (own : key row = k)
    (closed : ∀ entry ∈ ledger k, isOpen entry = false) :
    Agree key isOpen (table ++ [row]) (Function.update ledger k (ledger k ++ [row])) where
  rows other := by
    rw [List.filter_append, h.rows]
    by_cases same : other = k
    · subst same
      simp [own]
    · have apart : ¬ k = other := fun equal => same equal.symm
      simp [own, same, apart]
  closed other := by
    by_cases same : other = k
    · subst same
      simpa using closedBeforeLast_snoc.mpr closed
    · simpa [same] using h.closed other

/-- The table finds an open row of a key just when the last entry is open. -/
theorem Agree.any_open (h : Agree key isOpen table ledger) :
    (table.any fun row => decide (key row = k) && isOpen row) = (ledger k).getLast?.any isOpen := by
  rw [← any_open_iff (h.closed k), ← h.rows k, List.any_filter]

/-- A closed row is never changed. -/
theorem mem_updateOpen_of_closed {change : ρ → ρ} {row : ρ} (member : row ∈ table)
    (closed : isOpen row = false) : row ∈ updateOpen key isOpen k change table :=
  List.mem_map.mpr ⟨row, member, by simp [changeOpen, closed]⟩

end

end Sql.OpenRows
