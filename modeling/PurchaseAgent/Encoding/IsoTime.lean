import PurchaseAgent.Encoding.Digits

/-!
Aware datetimes whose offset is a whole number of minutes: `isoformat()`, and a reader of
the texts of that form.
-/

namespace Encoding

/-- The fields of a datetime, with the offset in minutes. -/
structure DateTimeFields where
  year : Nat
  month : Nat
  day : Nat
  hour : Nat
  minute : Nat
  second : Nat
  microsecond : Nat
  utcoffset : Int
deriving DecidableEq, Repr

def isLeapYear (year : Int) : Bool := year % 4 = 0 ∧ (year % 100 ≠ 0 ∨ year % 400 = 0)

def daysInMonth (year month : Int) : Int :=
  if month = 2 then (if isLeapYear year then 29 else 28)
  else if month ∈ [4, 6, 9, 11] then 30 else 31

theorem daysInMonth_le (year month : Int) : daysInMonth year month ≤ 31 := by
  rw [daysInMonth]
  split
  · split
    · decide
    · decide
  · split
    · decide
    · decide

/-- What the constructors of `datetime`, `time` and `timezone` check. -/
structure DateTimeFields.Valid (fields : DateTimeFields) : Prop where
  year_pos : 1 ≤ fields.year
  year_le : fields.year ≤ 9999
  month_pos : 1 ≤ fields.month
  month_le : fields.month ≤ 12
  day_pos : 1 ≤ fields.day
  day_le : fields.day ≤ daysInMonth fields.year fields.month
  hour_lt : fields.hour < 24
  minute_lt : fields.minute < 60
  second_lt : fields.second < 60
  microsecond_lt : fields.microsecond < 1000000
  utcoffset_gt : -1440 < fields.utcoffset
  utcoffset_lt : fields.utcoffset < 1440

structure AwareDateTime where
  fields : DateTimeFields
  valid : fields.Valid

def DateTimeFields.isValid (fields : DateTimeFields) : Bool :=
  (1 ≤ fields.year && fields.year ≤ 9999) && (1 ≤ fields.month && fields.month ≤ 12) &&
    (1 ≤ fields.day && fields.day ≤ daysInMonth fields.year fields.month) &&
    (fields.hour < 24 && fields.minute < 60 && fields.second < 60) &&
    fields.microsecond < 1000000 && (-1440 < fields.utcoffset && fields.utcoffset < 1440)

theorem DateTimeFields.isValid_iff {fields : DateTimeFields} :
    fields.isValid = true ↔ fields.Valid := by
  simp only [isValid, Bool.and_eq_true, decide_eq_true_eq]
  constructor
  · intro checked
    exact ⟨checked.1.1.1.1.1.1, checked.1.1.1.1.1.2, checked.1.1.1.1.2.1, checked.1.1.1.1.2.2,
      checked.1.1.1.2.1, checked.1.1.1.2.2, checked.1.1.2.1.1, checked.1.1.2.1.2,
      checked.1.1.2.2, checked.1.2, checked.2.1, checked.2.2⟩
  · intro valid
    exact ⟨⟨⟨⟨⟨⟨valid.year_pos, valid.year_le⟩, valid.month_pos, valid.month_le⟩,
      valid.day_pos, valid.day_le⟩, ⟨valid.hour_lt, valid.minute_lt⟩, valid.second_lt⟩,
      valid.microsecond_lt⟩, valid.utcoffset_gt, valid.utcoffset_lt⟩

theorem DateTimeFields.valid_of_isValid {fields : DateTimeFields} (checked : fields.isValid = true) :
    fields.Valid := isValid_iff.mp checked

namespace IsoTime

def fractionText (microsecond : Nat) : List Char :=
  if microsecond = 0 then [] else '.' :: fixedDecimal 6 microsecond

/-- `_format_offset`. -/
def offsetText (utcoffset : Int) : List Char :=
  (if utcoffset < 0 then '-' else '+') ::
    (fixedDecimal 2 (utcoffset.natAbs / 60) ++ ':' :: fixedDecimal 2 (utcoffset.natAbs % 60))

def timeText (fields : DateTimeFields) : List Char :=
  fixedDecimal 2 fields.hour ++ ':' :: (fixedDecimal 2 fields.minute ++ ':' ::
    (fixedDecimal 2 fields.second ++
      (fractionText fields.microsecond ++ offsetText fields.utcoffset)))

/-- `isoformat()`. -/
def isoformat (fields : DateTimeFields) : List Char :=
  fixedDecimal 4 fields.year ++ '-' :: (fixedDecimal 2 fields.month ++ '-' ::
    (fixedDecimal 2 fields.day ++ 'T' :: timeText fields))

def readFraction : List Char → Option (Nat × List Char)
  | '.' :: rest => readFixed 6 rest
  | rest => some (0, rest)

/-- The minutes of an offset at the end of a text. -/
def readMinutes (text : List Char) : Option Nat := do
  let hours ← readFixed 2 text
  let rest ← readChar ':' hours.2
  let minutes ← readFixed 2 rest
  if minutes.1 < 60 ∧ minutes.2 = [] then some (hours.1 * 60 + minutes.1) else none

def readOffset : List Char → Option Int
  | '+' :: rest => (readMinutes rest).map fun (minutes : Nat) => (minutes : Int)
  | '-' :: rest => (readMinutes rest).map fun (minutes : Nat) => -(minutes : Int)
  | _ => none

/-- A text of the form that `isoformat()` writes. -/
def read (text : List Char) : Option DateTimeFields := do
  let year ← readFixed 4 text
  let text ← readChar '-' year.2
  let month ← readFixed 2 text
  let text ← readChar '-' month.2
  let day ← readFixed 2 text
  let text ← readChar 'T' day.2
  let hour ← readFixed 2 text
  let text ← readChar ':' hour.2
  let minute ← readFixed 2 text
  let text ← readChar ':' minute.2
  let second ← readFixed 2 text
  let microsecond ← readFraction second.2
  let utcoffset ← readOffset microsecond.2
  some ⟨year.1, month.1, day.1, hour.1, minute.1, second.1, microsecond.1, utcoffset⟩

theorem readMinutes_text {minutes : Nat} (below : minutes < 1440) :
    readMinutes (fixedDecimal 2 (minutes / 60) ++ ':' :: fixedDecimal 2 (minutes % 60)) =
      some minutes := by
  have last := readFixed_fixedDecimal (by omega : minutes % 60 < 10 ^ 2) []
  rw [List.append_nil] at last
  simp only [readMinutes, bind, readFixed_fixedDecimal (by omega : minutes / 60 < 10 ^ 2),
    Option.bind_some, readChar_cons, last]
  have parts : minutes / 60 * 60 + minutes % 60 = minutes := Nat.div_add_mod' minutes 60
  rw [parts, if_pos ⟨Nat.mod_lt minutes (by decide), trivial⟩]

theorem readOffset_text {utcoffset : Int} (least : -1440 < utcoffset) (most : utcoffset < 1440) :
    readOffset (offsetText utcoffset) = some utcoffset := by
  have minutes := readMinutes_text (by omega : utcoffset.natAbs < 1440)
  rw [offsetText]
  by_cases negative : utcoffset < 0
  · rw [if_pos negative, readOffset, minutes, Option.map_some]
    congr 1
    omega
  · rw [if_neg negative, readOffset, minutes, Option.map_some]
    congr 1
    omega

theorem readFraction_text {microsecond : Nat} (below : microsecond < 1000000) (utcoffset : Int) :
    readFraction (fractionText microsecond ++ offsetText utcoffset) =
      some (microsecond, offsetText utcoffset) := by
  rw [fractionText]
  by_cases whole : microsecond = 0
  · rw [if_pos whole, whole, List.nil_append, offsetText]
    split
    · rfl
    · rfl
  · rw [if_neg whole, List.cons_append, readFraction]
    exact readFixed_fixedDecimal below _

/-- Reading undoes writing. -/
theorem read_isoformat {fields : DateTimeFields} (valid : fields.Valid) :
    read (isoformat fields) = some fields := by
  have month := valid.month_le
  have day : fields.day ≤ 31 := by
    have last := Int.le_trans valid.day_le (daysInMonth_le fields.year fields.month)
    omega
  have hour := valid.hour_lt
  have minute := valid.minute_lt
  have second := valid.second_lt
  have year := valid.year_le
  simp only [read, isoformat, timeText, bind,
    readFixed_fixedDecimal (by omega : fields.year < 10 ^ 4),
    readFixed_fixedDecimal (by omega : fields.month < 10 ^ 2),
    readFixed_fixedDecimal (by omega : fields.day < 10 ^ 2),
    readFixed_fixedDecimal (by omega : fields.hour < 10 ^ 2),
    readFixed_fixedDecimal (by omega : fields.minute < 10 ^ 2),
    readFixed_fixedDecimal (by omega : fields.second < 10 ^ 2), Option.bind_some, readChar_cons,
    readFraction_text valid.microsecond_lt,
    readOffset_text valid.utcoffset_gt valid.utcoffset_lt]

end IsoTime

/-! The canonical text of a UUID. -/

/-- `str(uuid)`, from its 32 hexadecimal digits. -/
def uuidGroups (digits : List Char) : List Char :=
  List.intercalate ['-'] [(digits.drop 0).take 8, (digits.drop 8).take 4, (digits.drop 12).take 4,
    (digits.drop 16).take 4, digits.drop 20]

def readUuid (text : List Char) : Option Nat := (readGroups [8, 4, 4, 4, 12] text).bind hexNumber

theorem readGroups_uuidGroups {digits : List Char} (length : digits.length = 32) :
    readGroups [8, 4, 4, 4, 12] (uuidGroups digits) = some digits := by
  have first : (digits.take 8).length = 8 := by simp [length]
  have group (start : Nat) (inside : start + 4 ≤ 32) : ((digits.drop start).take 4).length = 4 := by
    simp only [List.length_take, List.length_drop, length]
    omega
  have last : (digits.drop 20).length = 12 := by simp [length]
  have text : uuidGroups digits = digits.take 8 ++ '-' :: ((digits.drop 8).take 4 ++ '-' ::
      ((digits.drop 12).take 4 ++ '-' :: ((digits.drop 16).take 4 ++ '-' :: digits.drop 20))) := by
    simp [uuidGroups]
  rw [text, readGroups_cons first, readGroups_cons (group 8 (by decide)),
    readGroups_cons (group 12 (by decide)), readGroups_cons (group 16 (by decide)), readGroups,
    if_pos last]
  simp only [Option.map_some]
  have join (start : Nat) : (digits.drop start).take 4 ++ digits.drop (start + 4) =
      digits.drop start := by
    rw [← List.drop_drop]
    exact List.take_append_drop 4 _
  rw [join 16, join 12, join 8, List.take_append_drop]

end Encoding
