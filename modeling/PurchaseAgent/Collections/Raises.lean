import Mathlib.Logic.Basic

/-!
The errors a fallible computation can end with: a predicate on errors is carried
through the steps of the computation.
-/

namespace Collections

variable {ε α β : Type} {p q : ε → Prop}

/-- Every error the computation ends with satisfies `p`. -/
def Raises (p : ε → Prop) (computation : Except ε α) : Prop :=
  ∀ error, computation = .error error → p error

namespace Raises

@[simp] theorem ok {value : α} : Raises p (.ok value : Except ε α) := by
  intro error impossible
  cases impossible

@[simp] theorem error_iff {error : ε} : Raises p (.error error : Except ε α) ↔ p error := by
  constructor
  · intro raises
    exact raises error rfl
  · intro holds other same
    cases same
    exact holds

theorem mono {computation : Except ε α} (weaker : ∀ error, p error → q error)
    (raises : Raises p computation) : Raises q computation :=
  fun error failed => weaker error (raises error failed)

theorem bind {computation : Except ε α} {next : α → Except ε β} (first : Raises p computation)
    (second : ∀ value, Raises p (next value)) :
    Raises p (computation >>= next) := by
  cases ran : computation with
  | error error => exact error_iff.mpr (first error ran)
  | ok value => exact second value

theorem map {computation : Except ε α} (change : α → β) (raises : Raises p computation) :
    Raises p (computation.map change) := by
  cases ran : computation with
  | error error => exact error_iff.mpr (raises error ran)
  | ok value => exact ok

end Raises
end Collections
