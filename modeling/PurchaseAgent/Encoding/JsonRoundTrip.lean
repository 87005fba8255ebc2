import PurchaseAgent.Collections.DictKeys
import PurchaseAgent.Encoding.Json

/-!
Objects of plain texts and numbers are read as they were written: no character of a plain
text is escaped, and a number ends where no digit follows.
-/

namespace Encoding.Json

open Collections

/-- A printable ASCII character that is not escaped. -/
def IsPlain (c : Char) : Prop := 32 ≤ c.toNat ∧ c.toNat ≤ 126 ∧ c ≠ '"' ∧ c ≠ '\\'

def Plain (text : List Char) : Prop := ∀ c ∈ text, IsPlain c

def PlainScalar : Scalar → Prop
  | .str text => Plain text
  | .number _ => True

section Texts

theorem escaped_of_plain {c : Char} (plain : IsPlain c) : escaped c = [c] := by
  obtain ⟨least, most, quote, backslash⟩ := plain
  have line : c ≠ '\n' := by
    intro same
    rw [same] at least
    exact absurd least (by decide)
  have carriage : c ≠ '\r' := by
    intro same
    rw [same] at least
    exact absurd least (by decide)
  have tab : c ≠ '\t' := by
    intro same
    rw [same] at least
    exact absurd least (by decide)
  rw [escaped, if_neg quote, if_neg backslash, if_neg line, if_neg carriage, if_neg tab,
    if_neg (by omega), if_neg (by omega), if_pos ⟨least, most⟩]

theorem flatMap_escaped {text : List Char} (plain : Plain text) : text.flatMap escaped = text := by
  induction text with
  | nil => rfl
  | cons c text ih =>
      obtain ⟨first, others⟩ := List.forall_mem_cons.mp plain
      rw [List.flatMap_cons, escaped_of_plain first, ih others]
      rfl

theorem scanUnits_plain {text : List Char} (plain : Plain text) (rest : List Char) :
    scanUnits (text ++ '"' :: rest) = some (codePoints text, rest) := by
  induction text with
  | nil => rfl
  | cons c text ih =>
      obtain ⟨⟨least, -, quote, backslash⟩, others⟩ := List.forall_mem_cons.mp plain
      have low : ¬ c.toNat < 32 := Nat.not_lt.mpr least
      rw [List.cons_append, scanUnits]
      · simp only [low, backslash, decide_false, Bool.or_self, Bool.false_eq_true, if_false,
          ih others, Option.map_some]
        rfl
      · exact quote
      · intro a b c d more same
        exact fun _ => backslash same
      · exact fun _ _ same _ => backslash same

theorem joinSurrogates_of_low {units : List Nat} (low : ∀ unit ∈ units, unit < 55296) :
    joinSurrogates units = units := by
  fun_induction joinSurrogates units with
  | case1 high next rest pair ih =>
      have := low high List.mem_cons_self
      omega
  | case2 high next rest single ih =>
      rw [ih fun unit member => low unit (List.mem_cons_of_mem _ member)]
  | case3 units other => rfl

theorem scanString_plain {text : List Char} (plain : Plain text) (rest : List Char) :
    scanString (text ++ '"' :: rest) = some (codePoints text, rest) := by
  have low : ∀ unit ∈ codePoints text, unit < 55296 := by
    intro unit member
    obtain ⟨c, inside, rfl⟩ := List.mem_map.mp member
    have := (plain c inside).2.1
    omega
  rw [scanString, scanUnits_plain plain, Option.map_some, joinSurrogates_of_low low]

end Texts

section Numbers

/-- What follows a number in an object. -/
def Ends (rest : List Char) : Prop := ∃ c more, rest = c :: more ∧ (c = ',' ∨ c = '}')

theorem toDigits_head_ne_zero {n : Nat} (positive : 0 < n) :
    (Nat.toDigits 10 n).head? ≠ some '0' := by
  induction n using Nat.base_induction 10 (by decide) with
  | single m below =>
      rw [Nat.toDigits_of_lt_base below, List.head?_cons, ne_eq, Option.some_inj,
        Nat.digitChar_eq_zero]
      omega
  | digit m k below first ih =>
      rw [← Nat.toDigits_append_toDigits (by decide) first below,
        List.head?_append_of_ne_nil _ Nat.toDigits_ne_nil]
      exact ih first

theorem takeWhile_digits {digits rest : List Char} (all : ∀ c ∈ digits, c.isDigit = true)
    (ends : Ends rest) : (digits ++ rest).takeWhile Char.isDigit = digits := by
  obtain ⟨c, more, rfl, which⟩ := ends
  have stop : c.isDigit = false := by
    rcases which with rfl | rfl <;> decide
  rw [List.takeWhile_append_of_pos all, List.takeWhile_cons_of_neg (by simp [stop]),
    List.append_nil]

theorem isDigit_of_mem {n : Nat} : ∀ c ∈ Nat.toDigits 10 n, c.isDigit = true :=
  fun _ member => Nat.isDigit_of_mem_toDigits (by decide) (by decide) member

theorem integerDigits_toDigits (n : Nat) {rest : List Char} (ends : Ends rest) :
    integerDigits (Nat.toDigits 10 n ++ rest) = Nat.toDigits 10 n := by
  have head : (Nat.toDigits 10 n ++ rest).head? = (Nat.toDigits 10 n).head? :=
    List.head?_append_of_ne_nil _ Nat.toDigits_ne_nil
  cases n with
  | zero => rfl
  | succ n =>
      rw [integerDigits, head, if_neg (toDigits_head_ne_zero (Nat.succ_pos n)),
        takeWhile_digits isDigit_of_mem ends]

theorem fraction_of_ends {rest : List Char} (ends : Ends rest) : fraction rest = [] := by
  obtain ⟨c, more, rfl, rfl | rfl⟩ := ends
  · rfl
  · rfl

theorem exponent_of_ends {rest : List Char} (ends : Ends rest) : exponent rest = [] := by
  obtain ⟨c, more, rfl, rfl | rfl⟩ := ends
  · rfl
  · rfl

theorem scanUnsigned_toDigits (n : Nat) {rest : List Char} (ends : Ends rest) :
    scanUnsigned false (Nat.toDigits 10 n ++ rest) = some (.int n, rest) := by
  have nonempty : (Nat.toDigits 10 n).isEmpty = false :=
    List.isEmpty_eq_false_iff.mpr Nat.toDigits_ne_nil
  simp only [scanUnsigned, integerDigits_toDigits n ends, nonempty, List.drop_left,
    fraction_of_ends ends, List.length_nil, List.drop_zero, exponent_of_ends ends,
    List.append_nil, List.isEmpty_nil, Nat.ofDigitChars_ten_toDigits, if_true,
    Bool.false_eq_true, if_false]

theorem scanAtom_digit {c : Char} (digit : c.isDigit = true) (rest : List Char) :
    scanAtom (c :: rest) = scanUnsigned false (c :: rest) := by
  have differs (d : Char) (other : d.isDigit = false) : (d == c) = false := by
    refine beq_false_of_ne fun same => ?_
    rw [same, digit] at other
    cases other
  have literal (name : List Char) (other : name.head?.any (! ·.isDigit) = true) :
      ¬ name.isPrefixOf (c :: rest) = true := by
    cases name with
    | nil => cases other
    | cons d more =>
        rw [List.isPrefixOf, differs d (by simpa using other), Bool.false_and]
        exact Bool.false_ne_true
  have minus : ¬ (c :: rest).head? = some '-' := by
    intro same
    cases Option.some.inj same
    cases digit
  rw [scanAtom, if_neg (literal _ (by decide)), if_neg (literal _ (by decide)),
    if_neg (literal _ (by decide)), if_neg (literal _ (by decide)),
    if_neg (literal _ (by decide)), if_neg (literal _ (by decide)), if_neg minus]

theorem scanAtom_toDigits (n : Nat) {rest : List Char} (ends : Ends rest) :
    scanAtom (Nat.toDigits 10 n ++ rest) = some (.int n, rest) := by
  rw [← scanUnsigned_toDigits n ends]
  cases digits : Nat.toDigits 10 n with
  | nil => exact absurd digits Nat.toDigits_ne_nil
  | cons c more => exact scanAtom_digit (isDigit_of_mem c (digits ▸ List.mem_cons_self)) _

end Numbers

section Objects

theorem skipBlanks_cons {c : Char} (visible : isBlank c = false) (rest : List Char) :
    skipBlanks (c :: rest) = c :: rest :=
  List.dropWhile_cons_of_neg (by simp [visible])

theorem isBlank_digit {c : Char} (digit : c.isDigit = true) : isBlank c = false := by
  have differs (d : Char) (other : d.isDigit = false) : c ≠ d := by
    intro same
    rw [same, other] at digit
    cases digit
  simp [isBlank, differs ' ' (by decide), differs '\t' (by decide), differs '\n' (by decide),
    differs '\r' (by decide)]

theorem quoted_plain {text : List Char} (plain : Plain text) : quoted text = '"' :: (text ++ ['"']) := by
  rw [quoted, flatMap_escaped plain]

/-- A value that was written, with what follows it. -/
theorem scanValue_scalarText {scalar : Scalar} (plain : PlainScalar scalar) (fuel : Nat)
    {rest : List Char} (ends : Ends rest) :
    scanValue (fuel + 1) (skipBlanks (scalarText scalar ++ rest)) =
      some (ofScalar scalar, rest) := by
  cases scalar with
  | str text =>
      have plain : Plain text := plain
      rw [scalarText, quoted_plain plain, List.cons_append, skipBlanks_cons (by decide), scanValue,
        List.append_assoc, List.singleton_append, scanString_plain plain]
      rfl
  | number n =>
      cases digits : Nat.toDigits 10 n with
      | nil => exact absurd digits Nat.toDigits_ne_nil
      | cons c more =>
          have digit : c.isDigit = true := isDigit_of_mem c (digits ▸ List.mem_cons_self)
          have atom := scanAtom_toDigits n ends
          rw [digits, List.cons_append] at atom
          rw [scalarText, digits, List.cons_append, skipBlanks_cons (isBlank_digit digit), scanValue]
          · exact atom
          · intro tail same
            cases same
            cases digit
          · intro tail same
            cases same
            cases digit
          · intro tail same
            cases same
            cases digit

/-- Members whose names and texts are plain. -/
def PlainMembers (members : List (List Char × Scalar)) : Prop :=
  ∀ member ∈ members, Plain member.1 ∧ PlainScalar member.2

def readMember (member : List Char × Scalar) : List Nat × Json :=
  (codePoints member.1, ofScalar member.2)

/-- Another member, behind a comma. -/
def nextMember (member : List Char × Scalar) : List Char := ',' :: memberText member

theorem memberText_append {member : List Char × Scalar} (plain : Plain member.1)
    (rest : List Char) : memberText member ++ rest =
      '"' :: (member.1 ++ '"' :: ':' :: (scalarText member.2 ++ rest)) := by
  rw [memberText, quoted_plain plain]
  simp

section Member
variable {member : List Char × Scalar} (plain : Plain member.1 ∧ PlainScalar member.2)
  (fields : List (List Nat × Json)) (fuel : Nat)
include plain

theorem scanMembers_last (tail : List Char) :
    scanMembers (fuel + 2) fields (memberText member ++ '}' :: tail) =
      some (Dict.set fields (readMember member).1 (readMember member).2, tail) := by
  have value := scanValue_scalarText plain.2 fuel (⟨'}', tail, rfl, .inr rfl⟩ : Ends ('}' :: tail))
  rw [memberText_append plain.1, scanMembers, readChar_cons, Option.bind_some,
    scanString_plain plain.1, Option.bind_some, skipBlanks_cons (by decide), readChar_cons,
    Option.bind_some, value, Option.bind_some]
  simp only [skipBlanks_cons (by decide : isBlank '}' = false)]
  rfl

theorem scanMembers_next (more : List Char) :
    scanMembers (fuel + 2) fields (memberText member ++ ',' :: more) =
      scanMembers (fuel + 1) (Dict.set fields (readMember member).1 (readMember member).2)
        (skipBlanks more) := by
  have value := scanValue_scalarText plain.2 fuel (⟨',', more, rfl, .inl rfl⟩ : Ends (',' :: more))
  rw [memberText_append plain.1, scanMembers, readChar_cons, Option.bind_some,
    scanString_plain plain.1, Option.bind_some, skipBlanks_cons (by decide), readChar_cons,
    Option.bind_some, value, Option.bind_some]
  simp only [skipBlanks_cons (by decide : isBlank ',' = false)]
  rfl

end Member

/-- All members, by one level of fuel for each of them. -/
theorem scanMembers_members (members : List (List Char × Scalar)) {first : List Char × Scalar}
    (plain : PlainMembers (first :: members)) (fields : List (List Nat × Json)) {fuel : Nat}
    (enough : members.length + 2 ≤ fuel) (tail : List Char) :
    scanMembers fuel fields (memberText first ++ (members.flatMap nextMember ++ '}' :: tail)) =
      some (((first :: members).map readMember).foldl
        (fun fields member => Dict.set fields member.1 member.2) fields, tail) := by
  obtain ⟨first_plain, others_plain⟩ := List.forall_mem_cons.mp plain
  induction members generalizing first fields fuel with
  | nil =>
      obtain ⟨fuel, rfl⟩ := Nat.exists_eq_add_of_le' enough
      exact scanMembers_last first_plain fields fuel tail
  | cons second others ih =>
      rw [List.length_cons] at enough
      obtain ⟨fuel, rfl⟩ := Nat.exists_eq_add_of_le' (by omega : 2 ≤ fuel)
      obtain ⟨second_plain, later⟩ := List.forall_mem_cons.mp others_plain
      have start : skipBlanks (memberText second ++ (others.flatMap nextMember ++ '}' :: tail)) =
          memberText second ++ (others.flatMap nextMember ++ '}' :: tail) := by
        rw [memberText_append second_plain.1]
        exact skipBlanks_cons (by decide) _
      rw [List.flatMap_cons, nextMember, List.cons_append, List.cons_append, List.append_assoc,
        scanMembers_next first_plain, start]
      exact ih others_plain _ (by omega) second_plain later

theorem intercalate_members (first : List Char × Scalar) (members : List (List Char × Scalar)) :
    List.intercalate [','] ((first :: members).map memberText) =
      memberText first ++ members.flatMap nextMember := by
  induction members generalizing first with
  | nil => simp
  | cons second others ih =>
      rw [List.map_cons, List.map_cons, List.intercalate_cons_cons, ← List.map_cons, ih second,
        List.flatMap_cons, nextMember, List.append_assoc]
      rfl

theorem foldl_set {fields members : List (List Nat × Json)}
    (distinct : ((fields ++ members).map (·.1)).Nodup) :
    members.foldl (fun fields member => Dict.set fields member.1 member.2) fields =
      fields ++ members := by
  induction members generalizing fields with
  | nil => rw [List.append_nil]; rfl
  | cons first rest ih =>
      have fresh : first.1 ∉ fields.map (·.1) := by
        rw [List.map_append] at distinct
        intro member
        exact (List.nodup_append.mp distinct).2.2 _ member _ List.mem_cons_self rfl
      rw [List.foldl_cons, Dict.set_of_absent fresh]
      have joined : fields ++ first :: rest = fields ++ [first] ++ rest := by simp
      rw [joined] at distinct ⊢
      exact ih distinct

theorem length_le_flatMap (members : List (List Char × Scalar)) :
    members.length ≤ (members.flatMap nextMember).length := by
  induction members with
  | nil => exact Nat.le_refl 0
  | cons first rest ih =>
      rw [List.flatMap_cons, List.length_append, nextMember, List.length_cons, List.length_cons]
      omega

/-- An object of plain texts and numbers, with distinct names in their order. -/
theorem loads_dumps {members : List (List Char × Scalar)} (nonempty : members ≠ [])
    (plain : PlainMembers members)
    (sorted : members.Pairwise fun left right => codePoints left.1 ≤ codePoints right.1)
    (distinct : (members.map fun member => codePoints member.1).Nodup) :
    loads (dumps members) = some (.object (members.map readMember)) := by
  have order : members.mergeSort (fun left right => codePoints left.1 ≤ codePoints right.1) =
      members := List.mergeSort_of_pairwise (sorted.imp decide_eq_true)
  cases members with
  | nil => exact absurd rfl nonempty
  | cons first rest =>
      have text : dumps (first :: rest) =
          '{' :: (memberText first ++ (rest.flatMap nextMember ++ '}' :: [])) := by
        rw [dumps, order, intercalate_members, List.append_assoc]
      have enough : rest.length + 2 ≤ 2 * (dumps (first :: rest)).length := by
        have := length_le_flatMap rest
        rw [text, List.length_cons, List.length_append, List.length_append, List.length_cons]
        omega
      have start := (List.forall_mem_cons.mp plain).1.1
      have members := scanMembers_members rest plain [] enough []
      rw [foldl_set (by simpa [readMember, Function.comp_def] using distinct)] at members
      rw [loads]
      -- the fuel mentions the text that is rewritten next
      generalize 2 * (dumps (first :: rest)).length = fuel at members
      rw [text, skipBlanks_cons (by decide), scanValue]
      rw [memberText_append start] at members ⊢
      rw [skipBlanks_cons (by decide), members]
      rfl

end Objects

end Encoding.Json
