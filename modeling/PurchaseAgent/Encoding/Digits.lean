import Mathlib.Algebra.Group.Nat.Defs

/-!
Numbers in texts: decimals of a fixed width, hexadecimal numbers, and groups of digits
between dashes.
-/

namespace Encoding

/-- `f"{n:0{width}d}"`, for numbers of that width. -/
def fixedDecimal : Nat → Nat → List Char
  | 0, _ => []
  | width + 1, n => fixedDecimal width (n / 10) ++ [Nat.digitChar (n % 10)]

/-- A decimal of the given width, and the text behind it. -/
def readFixed (width : Nat) (text : List Char) : Option (Nat × List Char) :=
  if (text.take width).length = width && (text.take width).all Char.isDigit then
    some (Nat.ofDigitChars 10 (text.take width) 0, text.drop width)
  else none

theorem length_fixedDecimal (width n : Nat) : (fixedDecimal width n).length = width := by
  induction width generalizing n with
  | zero => rfl
  | succ width ih => rw [fixedDecimal, List.length_append, ih, List.length_singleton]

theorem isDigit_fixedDecimal {width n : Nat} {c : Char} (member : c ∈ fixedDecimal width n) :
    c.isDigit = true := by
  induction width generalizing n with
  | zero => cases member
  | succ width ih =>
      cases List.mem_append.mp member with
      | inl front => exact ih front
      | inr last =>
          rw [List.mem_singleton.mp last, Nat.isDigit_digitChar]
          exact decide_eq_true (Nat.mod_lt n (by decide))

theorem ofDigitChars_fixedDecimal {width n : Nat} (below : n < 10 ^ width) :
    Nat.ofDigitChars 10 (fixedDecimal width n) 0 = n := by
  induction width generalizing n with
  | zero =>
      rw [Nat.pow_zero, Nat.lt_one_iff] at below
      rw [below]
      rfl
  | succ width ih =>
      have front : n / 10 < 10 ^ width := Nat.div_lt_of_lt_mul (by rwa [Nat.mul_comm, ← Nat.pow_succ])
      rw [fixedDecimal, Nat.ofDigitChars_append, ih front,
        Nat.ofDigitChars_cons_digitChar_of_lt_ten (Nat.mod_lt n (by decide)),
        Nat.ofDigitChars_nil]
      omega

theorem readFixed_fixedDecimal {width n : Nat} (below : n < 10 ^ width) (rest : List Char) :
    readFixed width (fixedDecimal width n ++ rest) = some (n, rest) := by
  have length := length_fixedDecimal width n
  have front : (fixedDecimal width n ++ rest).take width = fixedDecimal width n :=
    List.take_left' length
  have digits : (fixedDecimal width n).all Char.isDigit = true :=
    List.all_eq_true.mpr fun _ => isDigit_fixedDecimal
  rw [readFixed, front, length, digits, ofDigitChars_fixedDecimal below, List.drop_left' length]
  simp

/-- The text behind a character that must come next. -/
def readChar (c : Char) : List Char → Option (List Char)
  | [] => none
  | d :: rest => if d = c then some rest else none

theorem readChar_cons (c : Char) (rest : List Char) : readChar c (c :: rest) = some rest :=
  if_pos rfl

/-- The value of a hexadecimal digit. -/
def hexValue (c : Char) : Option Nat :=
  if '0' ≤ c ∧ c ≤ '9' then some (c.toNat - 48)
  else if 'a' ≤ c ∧ c ≤ 'f' then some (c.toNat - 87)
  else if 'A' ≤ c ∧ c ≤ 'F' then some (c.toNat - 55)
  else none

def hexNumberFrom (n : Nat) : List Char → Option Nat
  | [] => some n
  | c :: rest => (hexValue c).bind fun d => hexNumberFrom (16 * n + d) rest

/-- A hexadecimal number. -/
def hexNumber (text : List Char) : Option Nat := hexNumberFrom 0 text

theorem hexValue_digitChar {d : Nat} (below : d < 16) : hexValue d.digitChar = some d := by
  have all : ∀ d < 16, hexValue d.digitChar = some d := by decide
  exact all d below

theorem hexNumberFrom_append (n : Nat) (front back : List Char) :
    hexNumberFrom n (front ++ back) =
      (hexNumberFrom n front).bind fun m => hexNumberFrom m back := by
  induction front generalizing n with
  | nil => rfl
  | cons c front ih =>
      rw [List.cons_append, hexNumberFrom, hexNumberFrom]
      cases hexValue c with
      | none => rfl
      | some d => exact ih (16 * n + d)

theorem hexNumberFrom_zeros (k : Nat) : hexNumberFrom 0 (List.replicate k '0') = some 0 := by
  induction k with
  | zero => rfl
  | succ k ih => exact ih

theorem hexNumber_toDigits (n : Nat) : hexNumber (Nat.toDigits 16 n) = some n := by
  induction n using Nat.base_induction 16 (by decide) with
  | single m below =>
      rw [Nat.toDigits_of_lt_base below, hexNumber, hexNumberFrom, hexValue_digitChar below,
        Option.bind_some, Nat.mul_zero, Nat.zero_add, hexNumberFrom]
  | digit m k below positive ih =>
      rw [hexNumber] at ih ⊢
      rw [← Nat.toDigits_append_toDigits (by decide) positive below, hexNumberFrom_append, ih,
        Nat.toDigits_of_lt_base below, Option.bind_some, hexNumberFrom, hexValue_digitChar below,
        Option.bind_some, hexNumberFrom]

/-- Leading zeros do not count. -/
theorem hexNumber_padded (k n : Nat) :
    hexNumber (List.replicate k '0' ++ Nat.toDigits 16 n) = some n := by
  rw [hexNumber, hexNumberFrom_append, hexNumberFrom_zeros]
  exact hexNumber_toDigits n

/-- The digits of groups of these lengths, with dashes between them. -/
def readGroups : List Nat → List Char → Option (List Char)
  | [], _ => none
  | [length], text => if text.length = length then some text else none
  | length :: next :: lengths, text =>
    if (text.take length).length = length then
      (readChar '-' (text.drop length)).bind fun rest =>
        (readGroups (next :: lengths) rest).map (text.take length ++ ·)
    else none

theorem readGroups_cons {length next : Nat} {lengths : List Nat} {group : List Char}
    (same : group.length = length) (rest : List Char) :
    readGroups (length :: next :: lengths) (group ++ '-' :: rest) =
      (readGroups (next :: lengths) rest).map (group ++ ·) := by
  rw [readGroups, List.take_left' same, List.drop_left' same, if_pos same, readChar_cons]
  rfl

end Encoding
