import Mathlib.Data.List.Nodup
import Mathlib.Logic.Relation

/-!
Records under keys and versions. Where every step that changes a record raises its
version, a version tells the states of the record apart over a whole run.
-/

namespace Transactions

open Relation

section
variable {S α κ : Type} (rows : S → List α) (key : α → κ) (version : α → Nat)

/-- Every record stays, as it is or with a higher version. -/
def Raises (s s' : S) : Prop :=
  ∀ row ∈ rows s, ∃ row' ∈ rows s', key row' = key row ∧
    (row' = row ∨ version row < version row')

variable {rows key version} {s s' s'' : S}

theorem raises_refl (s : S) : Raises rows key version s s := by
  intro row member
  exact ⟨row, member, rfl, .inl rfl⟩

theorem Raises.trans (first : Raises rows key version s s')
    (second : Raises rows key version s' s'') : Raises rows key version s s'' := by
  intro row member
  obtain ⟨row', member', same, raised⟩ := first row member
  obtain ⟨row'', member'', same', raised'⟩ := second row' member'
  refine ⟨row'', member'', same'.trans same, ?_⟩
  cases raised with
  | inl equal => exact equal ▸ raised'
  | inr later =>
      cases raised' with
      | inl equal => exact .inr (equal ▸ later)
      | inr last => exact .inr (Nat.lt_trans later last)

theorem raises_of_run {Step : S → S → Prop} {Inv : S → Prop}
    (keeps : ∀ s s', Inv s → Step s s' → Inv s')
    (raises : ∀ s s', Inv s → Step s s' → Raises rows key version s s') (start : Inv s)
    (run : ReflTransGen Step s s') : Inv s' ∧ Raises rows key version s s' := by
  induction run with
  | refl => exact ⟨start, raises_refl s⟩
  | tail _ step ih => exact ⟨keeps _ _ ih.1 step, ih.2.trans (raises _ _ ih.1 step)⟩

/-- A record that is met again at its version is the same. -/
theorem Raises.eq_of_version (raises : Raises rows key version s s')
    (unique : ((rows s').map key).Nodup) {row row' : α} (before : row ∈ rows s)
    (after : row' ∈ rows s') (same : key row' = key row) (level : version row' = version row) :
    row' = row := by
  obtain ⟨kept, member, own, raised⟩ := raises row before
  obtain rfl : row' = kept :=
    List.inj_on_of_nodup_map unique after member (same.trans own.symm)
  cases raised with
  | inl equal => exact equal
  | inr later => omega

end

end Transactions
