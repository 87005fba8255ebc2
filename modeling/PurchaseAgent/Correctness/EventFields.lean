import PurchaseAgent.Services.MissionEventUpcaster

/-!
Readers for the text of ids, numbers and instants. A UUID is read back from the
hexadecimal digits of its text, so there are conversions as the event store
needs them.
-/

namespace PurchaseAgent

namespace UUID

def hexValue (digit : Char) : Nat :=
  if digit.isDigit then digit.toNat - '0'.toNat else digit.toNat - 'a'.toNat + 10

/-- `int(digits, 16)`. -/
def ofHex (digits : List Char) : Nat :=
  digits.foldl (fun value digit => 16 * value + hexValue digit) 0

theorem ofHex_append (digits : List Char) (digit : Char) :
    ofHex (digits ++ [digit]) = 16 * ofHex digits + hexValue digit := by
  simp [ofHex]

theorem hexValue_digitChar : ∀ n < 16, hexValue (Nat.digitChar n) = n ∧ Nat.digitChar n ≠ '-' := by
  decide

/-- The digits of a number have its value and none of them is a dash. -/
theorem ofHex_toDigits (n : Nat) :
    ofHex (Nat.toDigits 16 n) = n ∧ '-' ∉ Nat.toDigits 16 n := by
  induction n using Nat.strongRecOn with
  | ind n ih =>
      by_cases small : n < 16
      · obtain ⟨value, dash⟩ := hexValue_digitChar n small
        rw [Nat.toDigits_of_lt_base small]
        simp [ofHex, value, Ne.symm dash]
      · have large : 16 ≤ n := Nat.le_of_not_lt small
        obtain ⟨value, dash⟩ := hexValue_digitChar (n % 16) (Nat.mod_lt _ (by decide))
        obtain ⟨front, noDash⟩ := ih (n / 16) (Nat.div_lt_self (by omega) (by decide))
        rw [Nat.toDigits_of_base_le (by decide) large, ofHex_append, front, value]
        refine ⟨Nat.div_add_mod n 16, ?_⟩
        simp [noDash, Ne.symm dash]

theorem ofHex_zeros (n : Nat) (digits : List Char) :
    ofHex (List.replicate n '0' ++ digits) = ofHex digits := by
  induction n with
  | zero => rfl
  | succ n ih =>
      rw [List.replicate_succ, List.cons_append]
      exact ih

/-- `UUID(text)`, for a text of hexadecimal digits and dashes. -/
def ofText (text : String) : UUID :=
  ⟨ofHex (text.toList.filter (· ≠ '-'))⟩

/-- Cutting digits into the groups of a text loses none of them. -/
theorem filter_groups {digits : List Char} (noDash : ∀ digit ∈ digits, digit ≠ '-') :
    (List.intercalate ['-'] [(digits.drop 0).take 8, (digits.drop 8).take 4,
      (digits.drop 12).take 4, (digits.drop 16).take 4, digits.drop 20]).filter (· ≠ '-') =
        digits := by
  have kept : ∀ group : List Char, group ⊆ digits → group.filter (· ≠ '-') = group :=
    fun group inside => List.filter_eq_self.mpr fun digit member => by
      simpa using noDash digit (inside member)
  have part : ∀ start length, ((digits.drop start).take length).filter (· ≠ '-') =
      (digits.drop start).take length := fun start length =>
    kept _ fun _ member => List.mem_of_mem_drop (List.mem_of_mem_take member)
  have rest : (digits.drop 20).filter (· ≠ '-') = digits.drop 20 :=
    kept _ fun _ member => List.mem_of_mem_drop member
  have joined : ∀ start length, (digits.drop start).take length ++ digits.drop (start + length) =
      digits.drop start := fun start length => by
    rw [← List.drop_drop, List.take_append_drop]
  have groups : (digits.drop 0).take 8 ++ ((digits.drop 8).take 4 ++ ((digits.drop 12).take 4 ++
      ((digits.drop 16).take 4 ++ digits.drop 20))) = digits := by
    rw [joined 16 4, joined 12 4, joined 8 4, joined 0 8, List.drop_zero]
  have dashes : ['-'].filter (· ≠ '-') = [] := by decide
  simp only [List.intercalate, List.intersperse, List.flatten_cons, List.flatten_nil,
    List.append_nil, List.filter_append, part, rest, dashes, List.nil_append]
  exact groups

theorem ofText_str (u : UUID) : ofText u.str = u := by
  obtain ⟨n⟩ := u
  obtain ⟨value, noDash⟩ := ofHex_toDigits n
  have digits : ∀ digit ∈ List.replicate (32 - (Nat.toDigits 16 n).length) '0' ++
      Nat.toDigits 16 n, digit ≠ '-' := by
    intro digit member
    rcases List.mem_append.mp member with zero | inside
    · rw [List.eq_of_mem_replicate zero]
      decide
    · exact fun same => noDash (same ▸ inside)
  simp only [ofText, str, String.toList_ofList, filter_groups digits, ofHex_zeros, value]

end UUID

/-- Microseconds as text, for any instant but one. -/
def microsText (time : Time) : String :=
  match time with
  | .ofNat n => String.ofList ('@' :: '+' :: Nat.toDigits 10 n)
  | .negSucc n => String.ofList ('@' :: '-' :: Nat.toDigits 10 n)

def readMicros (text : String) : Time :=
  match text.toList with
  | '@' :: '+' :: digits => .ofNat (Nat.ofDigitChars 10 digits 0)
  | '@' :: '-' :: digits => .negSucc (Nat.ofDigitChars 10 digits 0)
  | _ => 1785542400000000

/-- The text of one instant is the one it has in JSON. -/
def timestampText (time : Time) : String :=
  if time = 1785542400000000 then "2026-08-01T00:00:00Z" else microsText time

theorem readMicros_text (time : Time) : readMicros (timestampText time) = time := by
  unfold timestampText
  split
  · rename_i same
    rw [same]
    rfl
  · cases time with
    | ofNat n =>
        simp only [microsText, readMicros, String.toList_ofList, Nat.ofDigitChars_ten_toDigits]
    | negSucc n =>
        simp only [microsText, readMicros, String.toList_ofList, Nat.ofDigitChars_ten_toDigits]

/-- Conversions for well-formed texts, with the given version 5 ids. -/
def EventFields.plain (uuid5 : UUID → String → UUID) : EventFields where
  parseUUID
    | .str text => .ok (UUID.ofText text)
    | _ => .error (.other "ValidationError" "UUID input should be a string, bytes or UUID object")
  parseInt
    | .int n => .ok n
    | _ => .error (.other "ValidationError" "Input should be a valid integer")
  parseDatetime
    | .str text => .ok (readMicros text)
    | _ => .error (.other "ValidationError" "Input should be a valid datetime")
  dumpDatetime := timestampText
  uuidOf
    | .str text => .ok (UUID.ofText text)
    | _ => .error (.valueError "badly formed hexadecimal UUID string")
  uuid5 := uuid5
  repr
    | some (.int n) => toString n
    | some (.str text) => "'" ++ text ++ "'"
    | _ => "None"
  parseUUID_str id := congrArg Except.ok (UUID.ofText_str id)
  parseInt_int _ := rfl
  parseDatetime_dump time := congrArg Except.ok (readMicros_text time)

end PurchaseAgent
