import PurchaseAgent.Collections.Dict

/-!
Keys at the end of a dictionary: new ones are appended, and do not change what is found
for the others.
-/

namespace Collections.Dict

variable {κ ν : Type} [DecidableEq κ] {d : Dict κ ν} {key other : κ}

theorem get?_eq_none_iff : d.get? key = none ↔ key ∉ d.map (·.1) := by
  rw [get?, List.lookup_eq_none_iff]
  constructor
  · intro absent member
    obtain ⟨entry, listed, same⟩ := List.mem_map.mp member
    exact absurd same.symm (bne_iff_ne.mp (absent entry listed))
  · intro absent entry listed
    exact bne_iff_ne.mpr fun same => absent (same ▸ List.mem_map_of_mem listed)

theorem get?_snoc_self (absent : key ∉ d.map (·.1)) (value : ν) :
    get? (d ++ [(key, value)]) key = some value := by
  have before : List.lookup key d = none := get?_eq_none_iff.mpr absent
  rw [get?, List.lookup_append, before]
  simp

theorem get?_snoc_of_ne (differs : other ≠ key) (value : ν) :
    get? (d ++ [(key, value)]) other = d.get? other := by
  have last : List.lookup other [(key, value)] = none := by
    simp [List.lookup_cons, beq_false_of_ne differs]
  rw [get?, List.lookup_append, last, Option.or_none, get?]

/-- A key is erased from the end. -/
theorem erase_snoc_self (absent : key ∉ d.map (·.1)) (value : ν) :
    erase (d ++ [(key, value)]) key = d := by
  have others : ∀ entry ∈ d, decide (entry.1 ≠ key) = true :=
    fun entry member => decide_eq_true fun same => absent (same ▸ List.mem_map_of_mem member)
  rw [erase, List.filter_append, List.filter_eq_self.mpr others, List.filter_cons_of_neg (by simp),
    List.filter_nil, List.append_nil]

theorem set_of_absent (absent : key ∉ d.map (·.1)) (value : ν) :
    d.set key value = d ++ [(key, value)] := by
  induction d with
  | nil => rfl
  | cons first rest ih =>
      rw [List.map_cons, List.mem_cons, not_or] at absent
      rw [set, if_neg fun same => absent.1 same.symm, ih absent.2]
      rfl

/-- A key that was absent is set, and nothing that was found is lost. -/
theorem get?_set_of_absent {value old : ν} (absent : d.get? key = none)
    (found : d.get? other = some old) : (d.set key value).get? other = some old := by
  have differs : other ≠ key := fun same => by rw [same, absent] at found; cases found
  rw [get?_set_of_ne d differs, found]

theorem found_of_set {value : ν} (found : (d.set key value).get? other ≠ none) :
    other = key ∨ d.get? other ≠ none := by
  by_cases same : other = key
  · exact .inl same
  · rw [get?_set_of_ne d same] at found
    exact .inr found

end Collections.Dict
