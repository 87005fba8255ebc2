import Mathlib.Data.List.Basic

/-!
Dictionaries that keep the order in which their keys were first set.
-/

namespace Collections

abbrev Dict (κ ν : Type) := List (κ × ν)

namespace Dict
variable {κ ν : Type} [DecidableEq κ]

/-- `d.get(key)`. -/
def get? (d : Dict κ ν) (key : κ) : Option ν := List.lookup key d

/-- `d[key] = value`. -/
def set (d : Dict κ ν) (key : κ) (value : ν) : Dict κ ν :=
  match d with
  | [] => [(key, value)]
  | (other, old) :: rest =>
    if other = key then (key, value) :: rest else (other, old) :: set rest key value

/-- `del d[key]`. -/
def erase (d : Dict κ ν) (key : κ) : Dict κ ν := d.filter fun entry => entry.1 ≠ key

@[simp] theorem get?_erase_self (d : Dict κ ν) (key : κ) : (d.erase key).get? key = none := by
  induction d with
  | nil => rfl
  | cons entry rest ih =>
      obtain ⟨other, value⟩ := entry
      by_cases same : other = key
      · subst same
        simpa [erase, get?] using ih
      · have differs : (key == other) = false := beq_false_of_ne fun h => same h.symm
        simpa [erase, get?, same, List.lookup_cons, differs] using ih

@[simp] theorem get?_erase_of_ne (d : Dict κ ν) {key other : κ} (h : other ≠ key) :
    (d.erase key).get? other = d.get? other := by
  induction d with
  | nil => rfl
  | cons entry rest ih =>
      obtain ⟨k, value⟩ := entry
      simp only [erase, get?] at ih ⊢
      by_cases same : k = key
      · subst same
        have differs : (other == k) = false := beq_false_of_ne h
        simpa [List.lookup_cons, differs] using ih
      · simp only [List.filter_cons, same, decide_true, not_false_eq_true, ne_eq, if_true,
          List.lookup_cons, ih]

@[simp] theorem get?_set_self (d : Dict κ ν) (key : κ) (value : ν) :
    (d.set key value).get? key = some value := by
  induction d with
  | nil => simp [set, get?]
  | cons entry rest ih =>
      obtain ⟨other, old⟩ := entry
      simp only [set]
      split
      · simp [get?]
      · rename_i differs
        have : (key == other) = false := by simpa using fun h => differs h.symm
        simpa [get?, List.lookup_cons, this] using ih

@[simp] theorem get?_set_of_ne (d : Dict κ ν) {key other : κ} (h : other ≠ key) (value : ν) :
    (d.set key value).get? other = d.get? other := by
  induction d with
  | nil =>
      have : (other == key) = false := by simpa using h
      simp [set, get?, List.lookup_cons, this]
  | cons entry rest ih =>
      obtain ⟨k, old⟩ := entry
      simp only [set]
      split
      · rename_i same
        subst same
        have : (other == k) = false := by simpa using h
        simp [get?, List.lookup_cons, this]
      · simp only [get?, List.lookup_cons] at ih ⊢
        cases other == k
        · exact ih
        · rfl

def setDefault (d : Dict κ ν) (key : κ) (value : ν) : Dict κ ν :=
  if (d.get? key).isSome then d else d.set key value

theorem get?_setDefault_self (d : Dict κ ν) (key : κ) (value : ν) :
    (d.setDefault key value).get? key = some ((d.get? key).getD value) := by
  unfold setDefault
  cases found : d.get? key with
  | none => simp
  | some old => simpa using found

theorem get?_setDefault_of_ne (d : Dict κ ν) {key other : κ} (h : other ≠ key) (value : ν) :
    (d.setDefault key value).get? other = d.get? other := by
  unfold setDefault
  split
  · rfl
  · exact get?_set_of_ne d h value

theorem setDefault_of_isSome {d : Dict κ ν} {key : κ} (h : (d.get? key).isSome) (value : ν) :
    d.setDefault key value = d :=
  if_pos h

/-- Setting a key to the value it has changes nothing. -/
theorem set_of_get? (d : Dict κ ν) {key : κ} {value : ν} (h : d.get? key = some value) :
    d.set key value = d := by
  induction d with
  | nil => simp [get?] at h
  | cons entry rest ih =>
      obtain ⟨other, old⟩ := entry
      simp only [set]
      split
      · rename_i same
        subst same
        simp only [get?, List.lookup_cons, beq_self_eq_true] at h
        rw [Option.some.inj h]
      · rename_i differs
        have : (key == other) = false := by simpa using fun h => differs h.symm
        simp only [get?, List.lookup_cons, this] at h
        rw [ih h]

theorem mem_of_get? {d : Dict κ ν} {key : κ} {value : ν} (h : d.get? key = some value) :
    (key, value) ∈ d := by
  obtain ⟨before, after, split, -⟩ := List.lookup_eq_some_iff.mp h
  simp [split]

theorem get?_of_mem {d : Dict κ ν} (keys : (d.map (·.1)).Nodup) {key : κ} {value : ν}
    (h : (key, value) ∈ d) : d.get? key = some value := by
  induction d with
  | nil => cases h
  | cons entry rest ih =>
      obtain ⟨other, old⟩ := entry
      simp only [List.map_cons, List.nodup_cons] at keys
      rcases List.mem_cons.mp h with same | later
      · cases same
        simp [get?]
      · have differs : (key == other) = false := by
          refine beq_false_of_ne fun same => keys.1 ?_
          exact same ▸ List.mem_map_of_mem later
        simpa [get?, List.lookup_cons, differs] using ih keys.2 later

/-- What `set` adds. -/
theorem mem_set {d : Dict κ ν} {key : κ} {value : ν} {entry : κ × ν} (h : entry ∈ d.set key value) :
    entry = (key, value) ∨ entry ∈ d := by
  induction d with
  | nil => exact .inl (List.mem_singleton.mp h)
  | cons first rest ih =>
      obtain ⟨other, old⟩ := first
      simp only [set] at h
      split at h
      · exact (List.mem_cons.mp h).imp_right (List.mem_cons_of_mem _)
      · rcases List.mem_cons.mp h with same | later
        · exact .inr (same ▸ List.mem_cons_self)
        · exact (ih later).imp_right (List.mem_cons_of_mem _)

theorem nodup_set {d : Dict κ ν} (keys : (d.map (·.1)).Nodup) (key : κ) (value : ν) :
    ((d.set key value).map (·.1)).Nodup := by
  induction d with
  | nil => exact List.pairwise_singleton _ _
  | cons first rest ih =>
      obtain ⟨other, old⟩ := first
      obtain ⟨fresh, keys⟩ := List.nodup_cons.mp keys
      simp only [set]
      split
      · rename_i same
        subst same
        exact List.nodup_cons.mpr ⟨fresh, keys⟩
      · rename_i differs
        refine List.nodup_cons.mpr ⟨fun member => ?_, ih keys⟩
        obtain ⟨entry, later, same⟩ := List.mem_map.mp member
        rcases mem_set later with rfl | old
        · exact differs same.symm
        · exact fresh (same ▸ List.mem_map_of_mem old)

/-- Values that change key by key. -/
theorem get?_map (d : Dict κ ν) (change : κ → ν → ν) (key : κ) :
    get? (d.map fun entry => (entry.1, change entry.1 entry.2)) key =
      (d.get? key).map (change key) := by
  induction d with
  | nil => rfl
  | cons first rest ih =>
      obtain ⟨other, old⟩ := first
      simp only [get?, List.map_cons, List.lookup_cons] at ih ⊢
      by_cases same : key = other
      · subst same
        simp
      · rw [beq_false_of_ne same]
        exact ih

/-- The entries that are left where every key occurs once. -/
theorem get?_filter {d : Dict κ ν} (keys : (d.map (·.1)).Nodup) (p : κ × ν → Bool) (key : κ) :
    get? (d.filter p) key = (d.get? key).filter fun value => p (key, value) := by
  induction d with
  | nil => rfl
  | cons first rest ih =>
      obtain ⟨other, old⟩ := first
      obtain ⟨fresh, keys⟩ := List.nodup_cons.mp keys
      simp only [get?] at ih ⊢
      rw [List.filter_cons]
      by_cases same : key = other
      · subst same
        have none : get? (rest.filter p) key = none := by
          cases found : get? (rest.filter p) key with
          | none => rfl
          | some value =>
              have member := List.mem_of_mem_filter (mem_of_get? found)
              exact absurd (List.mem_map_of_mem (f := (·.1)) member) fresh
        have found : List.lookup key ((key, old) :: rest) = some old := by simp
        rw [found]
        cases kept : p (key, old) with
        | true => simp [Option.filter, kept]
        | false =>
            rw [if_neg Bool.false_ne_true]
            simp only [Option.filter, kept, Bool.false_eq_true, if_false]
            exact none
      · have differs : (key == other) = false := beq_false_of_ne same
        split
        · simpa [List.lookup_cons, differs] using ih keys
        · simpa [List.lookup_cons, differs] using ih keys

end Dict
end Collections
