import Mathlib.Data.List.Count
import Mathlib.Data.List.Dedup

/-!
Conditions over nullable values. A comparison with NULL is unknown, the connectives
are Kleene's, and a row is selected where its condition is true.
-/

namespace Sql
variable {α β ρ κ : Type}

/-- A truth value; `none` is unknown. -/
abbrev Truth := Option Bool

namespace Truth

def and : Truth → Truth → Truth
  | some false, _ => some false
  | _, some false => some false
  | some true, some true => some true
  | _, _ => none

def or : Truth → Truth → Truth
  | some true, _ => some true
  | _, some true => some true
  | some false, some false => some false
  | _, _ => none

def isTrue (t : Truth) : Bool := t = some true

end Truth

/-- A comparison, which is unknown where one side is NULL. -/
def compare (p : α → β → Bool) (a : Option α) (b : Option β) : Truth :=
  a.bind fun a => b.map fun b => p a b

def isNull (a : Option α) : Truth := some a.isNone

def isNotNull (a : Option α) : Truth := some a.isSome

/-- `sum(...)`, which is NULL over no rows. -/
def sum : List Nat → Option Nat
  | [] => none
  | values => some (values.foldr Nat.add 0)

end Sql
