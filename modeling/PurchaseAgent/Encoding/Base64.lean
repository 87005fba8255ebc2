import Mathlib.Data.List.DropRight

/-!
Url-safe base64 as the standard library writes and reads it. Reading skips what is no digit,
stops at the padding that completes a group, and refuses a text that breaks off within one.
-/

namespace Encoding.Base64

/-- The digit of a value below 64. -/
def digit (value : Nat) : Char :=
  if value < 26 then Char.ofNat (65 + value)
  else if value < 52 then Char.ofNat (71 + value)
  else if value < 62 then Char.ofNat (value - 4)
  else if value = 62 then '-'
  else '_'

/-- The value of a digit, of either alphabet. -/
def value (c : Char) : Option Nat :=
  if 'A' ≤ c ∧ c ≤ 'Z' then some (c.toNat - 65)
  else if 'a' ≤ c ∧ c ≤ 'z' then some (c.toNat - 71)
  else if '0' ≤ c ∧ c ≤ '9' then some (c.toNat + 4)
  else if c = '-' ∨ c = '+' then some 62
  else if c = '_' ∨ c = '/' then some 63
  else none

/-- The digits of the bytes, without padding. -/
def digits : List UInt8 → List Char
  | [] => []
  | [a] => [digit (a.toNat / 4), digit (a.toNat % 4 * 16)]
  | [a, b] =>
    [digit (a.toNat / 4), digit (a.toNat % 4 * 16 + b.toNat / 16), digit (b.toNat % 16 * 4)]
  | a :: b :: c :: rest =>
    digit (a.toNat / 4) :: digit (a.toNat % 4 * 16 + b.toNat / 16) ::
      digit (b.toNat % 16 * 4 + c.toNat / 64) :: digit (c.toNat % 64) :: digits rest

/-- `"=" * (-n % 4)`. -/
def padding (n : Nat) : List Char := List.replicate ((4 - n % 4) % 4) '='

/-- `base64.urlsafe_b64encode`. -/
def encode (bytes : List UInt8) : List Char := digits bytes ++ padding (digits bytes).length

/-- `binascii.a2b_base64`: the position in the group, the bits that are left of the last
digit, and the padding that was seen since. -/
def decodeFrom (position left pads : Nat) : List Char → Option (List UInt8)
  | [] => if position = 0 then some [] else none
  | c :: rest =>
    if c = '=' then
      if position < 2 then decodeFrom position left pads rest
      else if 4 ≤ position + (pads + 1) then some []
      else decodeFrom position left (pads + 1) rest
    else
      match value c with
      | none => decodeFrom position left pads rest
      | some v =>
        match position with
        | 0 => decodeFrom 1 v 0 rest
        | 1 => (decodeFrom 2 (v % 16) 0 rest).map (UInt8.ofNat (left * 4 + v / 16) :: ·)
        | 2 => (decodeFrom 3 (v % 4) 0 rest).map (UInt8.ofNat (left * 16 + v / 4) :: ·)
        | _ => (decodeFrom 0 0 0 rest).map (UInt8.ofNat (left * 64 + v) :: ·)

/-- `base64.urlsafe_b64decode` of a text, which must be ASCII. -/
def decode (text : List Char) : Option (List UInt8) :=
  if text.all fun c => c.toNat < 128 then decodeFrom 0 0 0 text else none

theorem value_digit {v : Nat} (below : v < 64) : value (digit v) = some v := by
  have all : ∀ v < 64, value (digit v) = some v := by decide
  exact all v below

theorem digit_ne_pad {v : Nat} (below : v < 64) : digit v ≠ '=' := by
  have all : ∀ v < 64, digit v ≠ '=' := by decide
  exact all v below

theorem digit_ascii {v : Nat} (below : v < 64) : (digit v).toNat < 128 := by
  have all : ∀ v < 64, (digit v).toNat < 128 := by decide
  exact all v below

/-- Every digit stands for a value below 64. -/
theorem mem_digits {bytes : List UInt8} {c : Char} (member : c ∈ digits bytes) :
    ∃ v < 64, c = digit v := by
  induction bytes using digits.induct with
  | case1 => cases member
  | case2 a =>
      have := a.toNat_lt
      simp only [digits, List.mem_cons, List.not_mem_nil, or_false] at member
      cases member with
      | inl first => exact ⟨_, by omega, first⟩
      | inr second => exact ⟨_, by omega, second⟩
  | case3 a b =>
      have := a.toNat_lt
      have := b.toNat_lt
      simp only [digits, List.mem_cons, List.not_mem_nil, or_false] at member
      rcases member with first | second | third
      · exact ⟨_, by omega, first⟩
      · exact ⟨_, by omega, second⟩
      · exact ⟨_, by omega, third⟩
  | case4 a b c rest ih =>
      have := a.toNat_lt
      have := b.toNat_lt
      have := c.toNat_lt
      simp only [digits, List.mem_cons] at member
      rcases member with first | second | third | fourth | later
      · exact ⟨_, by omega, first⟩
      · exact ⟨_, by omega, second⟩
      · exact ⟨_, by omega, third⟩
      · exact ⟨_, by omega, fourth⟩
      · exact ih later

section Steps
variable {v left pads : Nat} {rest : List Char}

theorem decodeFrom_zero (below : v < 64) :
    decodeFrom 0 left pads (digit v :: rest) = decodeFrom 1 v 0 rest := by
  rw [decodeFrom, if_neg (digit_ne_pad below), value_digit below]
  rfl

theorem decodeFrom_one (below : v < 64) : decodeFrom 1 left pads (digit v :: rest) =
    (decodeFrom 2 (v % 16) 0 rest).map (UInt8.ofNat (left * 4 + v / 16) :: ·) := by
  rw [decodeFrom, if_neg (digit_ne_pad below), value_digit below]
  rfl

theorem decodeFrom_two (below : v < 64) : decodeFrom 2 left pads (digit v :: rest) =
    (decodeFrom 3 (v % 4) 0 rest).map (UInt8.ofNat (left * 16 + v / 4) :: ·) := by
  rw [decodeFrom, if_neg (digit_ne_pad below), value_digit below]
  rfl

theorem decodeFrom_three (below : v < 64) : decodeFrom 3 left pads (digit v :: rest) =
    (decodeFrom 0 0 0 rest).map (UInt8.ofNat (left * 64 + v) :: ·) := by
  rw [decodeFrom, if_neg (digit_ne_pad below), value_digit below]
  rfl

end Steps

theorem ofNat_eq {n : Nat} {byte : UInt8} (same : n = byte.toNat) : UInt8.ofNat n = byte := by
  rw [same, UInt8.ofNat_toNat]

/-- Reading undoes writing, for every number of bytes modulo three. -/
theorem decodeFrom_encode (bytes : List UInt8) : decodeFrom 0 0 0 (encode bytes) = some bytes := by
  induction bytes using digits.induct with
  | case1 => rfl
  | case2 a =>
      have := a.toNat_lt
      have pads : encode [a] = [digit (a.toNat / 4), digit (a.toNat % 4 * 16), '=', '='] := rfl
      rw [pads, decodeFrom_zero (by omega), decodeFrom_one (by omega)]
      have ends : decodeFrom 2 (a.toNat % 4 * 16 % 16) 0 ['=', '='] = some [] := rfl
      rw [ends, ofNat_eq (by omega : _ = a.toNat)]
      rfl
  | case3 a b =>
      have := a.toNat_lt
      have := b.toNat_lt
      have pads : encode [a, b] = [digit (a.toNat / 4),
        digit (a.toNat % 4 * 16 + b.toNat / 16), digit (b.toNat % 16 * 4), '='] := rfl
      rw [pads, decodeFrom_zero (by omega), decodeFrom_one (by omega), decodeFrom_two (by omega)]
      have ends : decodeFrom 3 (b.toNat % 16 * 4 % 4) 0 ['='] = some [] := rfl
      rw [ends, ofNat_eq (by omega : _ = a.toNat), Option.map_some, ofNat_eq (by omega : _ = b.toNat)]
      rfl
  | case4 a b c rest ih =>
      have := a.toNat_lt
      have := b.toNat_lt
      have := c.toNat_lt
      have length : padding (digits (a :: b :: c :: rest)).length = padding (digits rest).length := by
        simp only [padding, digits, List.length_cons]
        congr 2
        omega
      have split : encode (a :: b :: c :: rest) = digit (a.toNat / 4) ::
          digit (a.toNat % 4 * 16 + b.toNat / 16) :: digit (b.toNat % 16 * 4 + c.toNat / 64) ::
            digit (c.toNat % 64) :: encode rest := by
        rw [encode, length]
        rfl
      rw [split, decodeFrom_zero (by omega), decodeFrom_one (by omega), decodeFrom_two (by omega),
        decodeFrom_three (by omega), ih]
      simp only [Option.map_some]
      rw [ofNat_eq (by omega : _ = a.toNat), ofNat_eq (by omega : _ = b.toNat),
        ofNat_eq (by omega : _ = c.toNat)]

theorem decode_encode (bytes : List UInt8) : decode (encode bytes) = some bytes := by
  have ascii : (encode bytes).all (fun c => c.toNat < 128) = true := by
    refine List.all_eq_true.mpr fun c member => decide_eq_true ?_
    cases List.mem_append.mp member with
    | inl inside =>
        obtain ⟨v, below, rfl⟩ := mem_digits inside
        exact digit_ascii below
    | inr pad =>
        rw [List.eq_of_mem_replicate pad]
        decide
  rw [decode, if_pos ascii, decodeFrom_encode]

/-- `text.rstrip("=")`. -/
def stripPadding (text : List Char) : List Char := text.rdropWhile (· = '=')

theorem stripPadding_encode (bytes : List UInt8) : stripPadding (encode bytes) = digits bytes := by
  rw [stripPadding, encode, padding]
  generalize (4 - (digits bytes).length % 4) % 4 = n
  induction n with
  | zero =>
      rw [List.replicate_zero, List.append_nil]
      refine List.rdropWhile_eq_self_iff.mpr fun nonempty pad => ?_
      obtain ⟨v, below, same⟩ := mem_digits (List.getLast_mem nonempty)
      exact digit_ne_pad below (same.symm.trans (of_decide_eq_true pad))
  | succ n ih =>
      rw [List.replicate_succ', ← List.append_assoc, List.rdropWhile_concat_pos _ _ _ (by decide)]
      exact ih

/-- The padding that was stripped is restored from the length. -/
theorem decode_stripped (bytes : List UInt8) :
    decode (stripPadding (encode bytes) ++ padding (stripPadding (encode bytes)).length) =
      some bytes := by
  rw [stripPadding_encode]
  exact decode_encode bytes

end Encoding.Base64
