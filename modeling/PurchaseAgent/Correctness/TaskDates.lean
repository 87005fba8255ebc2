import PurchaseAgent.Services.TaskIntentParser

/-!
A date without a year as the next occurrence of its day. The year is that of today
before it is known whether the day exists in it, so a leap day of the next year is lost.
-/

namespace PurchaseAgent

/-- The day one year later, as far as it exists; it bounds the following twelve months. -/
def Date.anniversary (date : Date) : Date := { date with year := date.year + 1 }

/-- The first date from today on with the day and the month, within twelve months. -/
structure NextOccurrence (today : Date) (month day : Int) (date : Date) : Prop where
  valid : date.IsValid
  sameMonth : date.month = month
  sameDay : date.day = day
  onward : ¬ date.before today
  within : ¬ today.anniversary.before date
  earliest : ∀ other : Date, other.IsValid → other.month = month → other.day = day →
    ¬ other.before today → ¬ other.before date

/-- The date is the next occurrence, or there is none and it is reported invalid. -/
def ExtractedDate.Next (extracted : ExtractedDate) (today : Date) (month day : Int) : Prop :=
  (∀ date, extracted.date = some date ↔ NextOccurrence today month day date) ∧
    (extracted.invalid = true ↔ ¬ ∃ date, NextOccurrence today month day date)

/-- The leap day of the next year, which lies within the following twelve months. -/
def NextLeapDay (today : Date) (month day : Int) : Prop :=
  month = 2 ∧ day = 29 ∧ 3 ≤ today.month ∧ today.year < 9999 ∧ Encoding.isLeapYear (today.year + 1) = true

section
variable {today date : Date} {month day : Int}

theorem Date.make?_eq_some {year : Int} {made : Date} :
    Date.make? year month day = some made ↔
      Date.IsValid ⟨year, month, day⟩ ∧ made = ⟨year, month, day⟩ := by
  rw [Date.make?]
  split
  · next valid => simp [valid, eq_comm]
  · next invalid => simp [invalid]

theorem Date.make?_eq_none {year : Int} :
    Date.make? year month day = none ↔ ¬ Date.IsValid ⟨year, month, day⟩ := by
  rw [Date.make?]
  split
  · next valid => simp [valid]
  · next invalid => simp [invalid]

/-- An occurrence lies in the year of today or in the next one. -/
theorem NextOccurrence.cases (next : NextOccurrence today month day date) :
    date = ⟨today.year, month, day⟩ ∨
      date = ⟨today.year + 1, month, day⟩ ∧
        (month < today.month ∨ month = today.month ∧ day ≤ today.day) := by
  obtain ⟨year, m, d⟩ := date
  obtain rfl : m = month := next.sameMonth
  obtain rfl : d = day := next.sameDay
  have onward := next.onward
  have within := next.within
  simp only [Date.before, Date.anniversary] at onward within
  have same : year = today.year ∨ year = today.year + 1 := by omega
  cases same with
  | inl same => exact .inl (by rw [same])
  | inr later => exact .inr ⟨by rw [later], by omega⟩

/-- A day that today's year still has is the next occurrence. -/
theorem nextOccurrence_this_year (valid : Date.IsValid ⟨today.year, month, day⟩)
    (onward : ¬ Date.before ⟨today.year, month, day⟩ today) :
    NextOccurrence today month day ⟨today.year, month, day⟩ := by
  refine ⟨valid, rfl, rfl, onward, ?_, ?_⟩
  · simp only [Date.before, Date.anniversary]
    omega
  · intro other _ sameMonth sameDay later
    simp only [Date.before] at onward later ⊢
    omega

/-- A day that has passed in today's year, or that it does not have, is met again in the
next one. -/
theorem nextOccurrence_next_year (valid : Date.IsValid ⟨today.year + 1, month, day⟩)
    (passed : ¬ Date.IsValid ⟨today.year, month, day⟩ ∨
      Date.before ⟨today.year, month, day⟩ today)
    (within : month < today.month ∨ month = today.month ∧ day ≤ today.day) :
    NextOccurrence today month day ⟨today.year + 1, month, day⟩ := by
  refine ⟨valid, rfl, rfl, ?_, ?_, ?_⟩
  · simp only [Date.before]
    omega
  · simp only [Date.before, Date.anniversary]
    omega
  · intro other otherValid sameMonth sameDay later earlier
    obtain ⟨year, m, d⟩ := other
    obtain rfl : m = month := sameMonth
    obtain rfl : d = day := sameDay
    simp only [Date.before] at later earlier passed
    have same : year = today.year := by omega
    subst same
    cases passed with
    | inl missing => exact missing otherValid
    | inr before => omega

/-- Only the leap day comes and goes from one year to the next. -/
theorem leap_day_of_next_year (missing : ¬ Date.IsValid ⟨today.year, month, day⟩)
    (found : Date.IsValid ⟨today.year + 1, month, day⟩) (valid : today.IsValid) :
    month = 2 ∧ day = 29 ∧ today.year < 9999 ∧ Encoding.isLeapYear (today.year + 1) = true := by
  simp only [Date.IsValid, Encoding.daysInMonth] at missing found valid
  by_cases february : month = 2
  · simp only [february, if_true] at missing found
    by_cases leap : Encoding.isLeapYear (today.year + 1) = true
    · simp only [leap, if_true] at found
      refine ⟨february, ?_, by omega, leap⟩
      by_contra other
      apply missing
      split <;> omega
    · rw [if_neg leap] at found
      exfalso
      apply missing
      split <;> omega
  · simp only [february, if_false] at missing found
    exfalso
    apply missing
    omega

theorem not_isLeap_of_next {year : Int} (leap : Encoding.isLeapYear (year + 1) = true) :
    Encoding.isLeapYear year = false := by
  simp only [Encoding.isLeapYear, decide_eq_true_eq, decide_eq_false_iff_not] at leap ⊢
  omega

theorem isValid_leap_day {year : Int} :
    Date.IsValid ⟨year, 2, 29⟩ ↔ (1 ≤ year ∧ year ≤ 9999) ∧ Encoding.isLeapYear year = true := by
  simp only [Date.IsValid, Encoding.daysInMonth, if_true]
  by_cases leap : Encoding.isLeapYear year = true
  · simp [leap]
  · simp [leap]

/-- What is parsed without a year: the day in today's year, or in the next one if it has
passed. -/
def yearlessDate (today : Date) (month day : Int) : Option Date :=
  (Date.make? today.year month day).bind fun parsed =>
    if parsed.before today then Date.make? (today.year + 1) parsed.month parsed.day
    else some parsed

theorem extractRussianDate_yearless {casefold : String → String}
    {search : String → Option RussianDateMatch} {value : String} {found : RussianDateMatch}
    (matched : search value = some found) (yearless : found.year = none) {index : Nat}
    (named : russianMonths.idxOf? (casefold found.month) = some index) :
    ∃ extracted, extractRussianDate casefold search value today = .ok extracted ∧
      extracted.date = yearlessDate today (index + 1) found.day ∧
      extracted.invalid = (yearlessDate today (index + 1) found.day).isNone := by
  simp only [extractRussianDate, matched, named, yearless, Option.map_none, Option.getD_none,
    true_and]
  have parsed : (Date.make? today.year (index + 1) found.day).bind (fun parsed =>
      if parsed.before today then Date.make? (today.year + 1) parsed.month parsed.day
      else some parsed) = yearlessDate today (index + 1) found.day := rfl
  rw [parsed]
  cases yearlessDate today (index + 1) found.day with
  | none => exact ⟨_, rfl, rfl, rfl⟩
  | some date => exact ⟨_, rfl, rfl, rfl⟩

theorem yearlessDate_missing (missing : ¬ Date.IsValid ⟨today.year, month, day⟩) :
    yearlessDate today month day = none := by
  rw [yearlessDate, Date.make?_eq_none.2 missing]
  rfl

theorem yearlessDate_found (valid : Date.IsValid ⟨today.year, month, day⟩) :
    yearlessDate today month day =
      if Date.before ⟨today.year, month, day⟩ today then Date.make? (today.year + 1) month day
      else some ⟨today.year, month, day⟩ := by
  rw [yearlessDate, Date.make?_eq_some.2 ⟨valid, rfl⟩]
  rfl

theorem NextOccurrence.unique {other : Date} (next : NextOccurrence today month day date)
    (alsoNext : NextOccurrence today month day other) : date = other := by
  have first := next.earliest other alsoNext.valid alsoNext.sameMonth alsoNext.sameDay
    alsoNext.onward
  have second := alsoNext.earliest date next.valid next.sameMonth next.sameDay next.onward
  obtain ⟨year, m, d⟩ := date
  obtain ⟨year', m', d'⟩ := other
  obtain rfl : m = m' := next.sameMonth.trans alsoNext.sameMonth.symm
  obtain rfl : d = d' := next.sameDay.trans alsoNext.sameDay.symm
  simp only [Date.before] at first second
  have same : year = year' := by omega
  rw [same]

/-- Unless the leap day of the next year is meant, what is parsed is the next occurrence. -/
theorem yearlessDate_next (valid : today.IsValid) (other : ¬ NextLeapDay today month day) :
    yearlessDate today month day = some date ↔ NextOccurrence today month day date := by
  by_cases found : Date.IsValid ⟨today.year, month, day⟩
  · rw [yearlessDate_found found]
    by_cases passed : Date.before ⟨today.year, month, day⟩ today
    · rw [if_pos passed, Date.make?_eq_some]
      have within : month < today.month ∨ month = today.month ∧ day ≤ today.day := by
        simp only [Date.before] at passed
        omega
      constructor
      · intro made
        obtain ⟨later, rfl⟩ := made
        exact nextOccurrence_next_year later (.inr passed) within
      · intro next
        cases next.cases with
        | inl same => exact absurd passed (same ▸ next.onward)
        | inr later => exact ⟨later.1 ▸ next.valid, later.1⟩
    · rw [if_neg passed]
      have this := nextOccurrence_this_year found passed
      constructor
      · intro same
        exact Option.some.inj same ▸ this
      · intro next
        rw [this.unique next]
  · rw [yearlessDate_missing found]
    constructor
    · intro impossible
      cases impossible
    · intro next
      cases next.cases with
      | inl same => exact absurd (same ▸ next.valid) found
      | inr later =>
          obtain ⟨same, within⟩ := later
          have leapDay := leap_day_of_next_year found (same ▸ next.valid) valid
          obtain ⟨february, last, bounded, leap⟩ := leapDay
          refine absurd ⟨february, last, ?_, bounded, leap⟩ other
          have common := not_isLeap_of_next leap
          have short := valid.2.2.2
          simp only [Encoding.daysInMonth, common] at short
          by_contra early
          have same : today.month = 2 := by omega
          simp only [same, if_true, Bool.false_eq_true, if_false] at short
          omega

theorem nextLeapDay_lost (valid : today.IsValid) (leapDay : NextLeapDay today month day) :
    yearlessDate today month day = none ∧ ∃ date, NextOccurrence today month day date := by
  obtain ⟨rfl, rfl, late, bounded, leap⟩ := leapDay
  have common := not_isLeap_of_next leap
  have missing : ¬ Date.IsValid ⟨today.year, 2, 29⟩ := by
    intro found
    rw [(isValid_leap_day.1 found).2] at common
    cases common
  have first := valid.1.1
  have found : Date.IsValid ⟨today.year + 1, 2, 29⟩ :=
    isValid_leap_day.2 ⟨by omega, leap⟩
  exact ⟨yearlessDate_missing missing, _,
    nextOccurrence_next_year found (.inl missing) (.inl (by omega))⟩

end

/-- A date without a year is the next occurrence of its day, and invalid where there is
none, if and only if the leap day of the next year is not meant. -/
theorem russian_date_next_iff {casefold : String → String}
    {search : String → Option RussianDateMatch} {value : String} {found : RussianDateMatch}
    (matched : search value = some found) (yearless : found.year = none) {index : Nat}
    (named : russianMonths.idxOf? (casefold found.month) = some index) {today : Date}
    (valid : today.IsValid) :
    (∃ extracted, extractRussianDate casefold search value today = .ok extracted ∧
      extracted.Next today (index + 1) found.day) ↔
        ¬ NextLeapDay today (index + 1) found.day := by
  obtain ⟨extracted, run, date, invalid⟩ := extractRussianDate_yearless matched yearless named
  constructor
  · intro right leapDay
    obtain ⟨other, same, next, -⟩ := right
    obtain rfl : extracted = other := Except.ok.inj (run.symm.trans same)
    obtain ⟨lost, meant, occurrence⟩ := nextLeapDay_lost valid leapDay
    rw [← next, date, lost] at occurrence
    cases occurrence
  · intro other
    refine ⟨extracted, run, ?_, ?_⟩
    · intro meant
      rw [date]
      exact yearlessDate_next valid other
    · rw [invalid, Option.isNone_iff_eq_none, Option.eq_none_iff_forall_ne_some]
      constructor
      · intro none occurrence
        obtain ⟨meant, next⟩ := occurrence
        exact none meant ((yearlessDate_next valid other).2 next)
      · intro none meant same
        exact none ⟨meant, (yearlessDate_next valid other).1 same⟩

namespace LeapDay

/-- The pattern has matched the whole of the instruction. -/
def wholeMatch (text month : String) (day : Nat) (value : String) : Option RussianDateMatch :=
  if value = text then some ⟨"", day, month, none, ""⟩ else none

end LeapDay

theorem russian_date_next_of_may :
    (∃ extracted, extractRussianDate id (LeapDay.wholeMatch "5 мая" "мая" 5) "5 мая" ⟨2023, 5, 6⟩ =
      .ok extracted ∧ extracted.Next ⟨2023, 5, 6⟩ (4 + 1) 5) ↔
        ¬ NextLeapDay ⟨2023, 5, 6⟩ (4 + 1) 5 :=
  @russian_date_next_iff id (LeapDay.wholeMatch "5 мая" "мая" 5) "5 мая" ⟨"", 5, "мая", none, ""⟩
    (if_pos rfl) rfl 4 (by decide) ⟨2023, 5, 6⟩ (by decide)

/-- On 1 March 2023 the 29th of February is reported invalid, although it is less than a
year away. -/
theorem leap_day_invalid :
    extractRussianDate id (LeapDay.wholeMatch "29 февраля" "февраля" 29) "29 февраля" ⟨2023, 3, 1⟩ =
      .ok ⟨none, "29 февраля", true⟩ ∧
    NextOccurrence ⟨2023, 3, 1⟩ 2 29 ⟨2024, 2, 29⟩ := by
  refine ⟨by decide, ?_⟩
  exact @nextOccurrence_next_year ⟨2023, 3, 1⟩ 2 29 (by decide) (.inl (by decide)) (by decide)

end PurchaseAgent
