import PurchaseAgent.Domain.AgentTask
import PurchaseAgent.Encoding.IsoTime

/-!
Dates in the instruction of a task. A date in words has a day, the name of a month, and
a year or none.
-/

namespace PurchaseAgent

namespace Date

/-- What `datetime.date` can hold. -/
def IsValid (date : Date) : Prop :=
  (1 ≤ date.year ∧ date.year ≤ 9999) ∧ (1 ≤ date.month ∧ date.month ≤ 12) ∧
    (1 ≤ date.day ∧ date.day ≤ Encoding.daysInMonth date.year date.month)

instance (date : Date) : Decidable date.IsValid := inferInstanceAs (Decidable (_ ∧ _ ∧ _))

/-- `date(year, month, day)`; `none` stands for a `ValueError`. -/
def make? (year month day : Int) : Option Date :=
  if IsValid ⟨year, month, day⟩ then some ⟨year, month, day⟩ else none

/-- `date < other`. -/
def before (date other : Date) : Prop :=
  date.year < other.year ∨ date.year = other.year ∧
    (date.month < other.month ∨ date.month = other.month ∧ date.day < other.day)

instance (date other : Date) : Decidable (date.before other) :=
  inferInstanceAs (Decidable (_ ∨ _ ∧ (_ ∨ _ ∧ _)))

end Date

/-- `_RUSSIAN_MONTHS`, from the first. -/
def russianMonths : List String :=
  ["января", "февраля", "марта", "апреля", "мая", "июня", "июля", "августа", "сентября",
    "октября", "ноября", "декабря"]

/-- A match of `_RUSSIAN_DATE_PATTERN`, with the text before and behind it. -/
structure RussianDateMatch where
  front : String
  day : Nat
  month : String
  year : Option Nat
  back : String

/-- What `_extract_date` returns. -/
structure ExtractedDate where
  date : Option Date
  instruction : String
  invalid : Bool
deriving DecidableEq, Repr

/-- `_extract_russian_date`, with `casefold`, the search for the pattern and the day that
`reference_date or date.today()` is. -/
def extractRussianDate (casefold : String → String) (search : String → Option RussianDateMatch)
    (value : String) (today : Date) : Except PyException ExtractedDate :=
  match search value with
  | none => .ok ⟨none, value, false⟩
  | some found =>
    match russianMonths.idxOf? (casefold found.month) with
    | none => .error (.other "KeyError" (casefold found.month))
    | some index =>
      let year := (found.year.map Int.ofNat).getD today.year
      let parsed := (Date.make? year (index + 1) found.day).bind fun parsed =>
        if found.year = none ∧ parsed.before today then
          Date.make? (year + 1) parsed.month parsed.day
        else some parsed
      match parsed with
      | none => .ok ⟨none, value, true⟩
      | some parsed => .ok ⟨some parsed, found.front ++ " " ++ found.back, false⟩

end PurchaseAgent
