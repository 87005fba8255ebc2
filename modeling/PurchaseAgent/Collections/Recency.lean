import Mathlib.Data.List.Nodup
import Mathlib.Data.List.Pairwise

/-!
Keys in the order in which they were last used: a use moves its key to the end, and the key
in front is the one that was not used for the longest time.
-/

namespace Collections.Recency

variable {κ : Type} {used : List κ} {a b c : κ}

/-- The last use of `a` came before the last use of `b`. -/
def UsedBefore (used : List κ) (a b : κ) : Prop :=
  ∃ earlier later, used = earlier ++ later ∧ a ∈ earlier ∧ a ∉ later ∧ b ∈ later

theorem UsedBefore.ne (h : UsedBefore used a b) : a ≠ b := by
  obtain ⟨earlier, later, -, -, absent, present⟩ := h
  intro same
  exact absent (same ▸ present)

theorem UsedBefore.snoc (h : UsedBefore used a b) (other : a ≠ c) :
    UsedBefore (used ++ [c]) a b := by
  obtain ⟨earlier, later, rfl, first, absent, present⟩ := h
  refine ⟨earlier, later ++ [c], List.append_assoc .., first, ?_, List.mem_append_left _ present⟩
  intro member
  cases List.mem_append.mp member with
  | inl inside => exact absent inside
  | inr last => exact other (List.mem_singleton.mp last)

theorem usedBefore_last (member : a ∈ used) (other : a ≠ c) : UsedBefore (used ++ [c]) a c :=
  ⟨used, [c], rfl, member, fun last => other (List.mem_singleton.mp last), List.mem_singleton_self c⟩

/-- The keys are used ones, those used longest ago in front. -/
structure Ordered (used keys : List κ) : Prop where
  known : ∀ key ∈ keys, key ∈ used
  pairwise : keys.Pairwise (UsedBefore used)

namespace Ordered
variable {keys : List κ}

theorem nil : Ordered ([] : List κ) [] := ⟨fun _ member => absurd member List.not_mem_nil, .nil⟩

theorem nodup (h : Ordered used keys) : keys.Nodup := h.pairwise.imp UsedBefore.ne

theorem sublist {fewer : List κ} (h : Ordered used keys) (sub : fewer.Sublist keys) :
    Ordered used fewer :=
  ⟨fun key member => h.known key (sub.subset member), h.pairwise.sublist sub⟩

/-- A use puts its key behind the others. -/
theorem use (h : Ordered used keys) (absent : c ∉ keys) : Ordered (used ++ [c]) (keys ++ [c]) where
  known := by
    intro key member
    cases List.mem_append.mp member with
    | inl old => exact List.mem_append_left _ (h.known key old)
    | inr last => exact List.mem_append_right _ last
  pairwise := by
    have others : ∀ key ∈ keys, key ≠ c := fun key member same => absent (same ▸ member)
    refine List.pairwise_append.mpr ⟨?_, List.pairwise_singleton _ _, ?_⟩
    · exact h.pairwise.imp_of_mem fun first _ before => before.snoc (others _ first)
    · intro key member last is_last
      rw [List.mem_singleton.mp is_last]
      exact usedBefore_last (h.known key member) (others key member)

end Ordered
end Collections.Recency
