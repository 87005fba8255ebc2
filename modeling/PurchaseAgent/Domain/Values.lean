import Mathlib.Data.List.DropRight

/-!
Scalars and dynamic values of the program. Aware datetimes are instants in
microseconds; identifiers are the integers behind UUIDs, without an upper bound
so that a run may draw as many fresh ones as it needs. `PyValue` stands for
what a field annotated `Any` can hold.
-/

namespace PurchaseAgent

structure UUID where
  int : Nat
deriving DecidableEq, Repr

namespace UUID

def nil : UUID := ⟨0⟩

/-- The text of `str(uuid)`: 32 hexadecimal digits in groups of 8-4-4-4-12. -/
def str (u : UUID) : String :=
  let digits := Nat.toDigits 16 u.int
  let padded := List.replicate (32 - digits.length) '0' ++ digits
  let group (start length : Nat) := (padded.drop start).take length
  String.ofList (List.intercalate ['-']
    [group 0 8, group 8 4, group 12 4, group 16 4, padded.drop 20])

/-- Counting up draws no id twice. -/
theorem count_injective (m n : Nat) (h : (⟨m + 1⟩ : UUID) = ⟨n + 1⟩) : m = n :=
  Nat.succ.inj (mk.inj h)

end UUID

/-- An aware `datetime`, in microseconds since the Unix epoch. -/
abbrev Time := Int

/-- A `timedelta`, in microseconds. -/
abbrev TimeDelta := Int

def seconds (n : Int) : TimeDelta := n * 1000000

/-- `datetime.min` in UTC. -/
def datetimeMin : Time := -62135596800000000

/-- `datetime.max` in UTC. -/
def datetimeMax : Time := 253402300799999999

/-- `timedelta.max`. -/
def timedeltaMax : TimeDelta := 86399999999999999999

/-- `time + delta`, with the exception's text. -/
def Time.add (time : Time) (delta : TimeDelta) : Except String Time :=
  if datetimeMin ≤ time + delta ∧ time + delta ≤ datetimeMax then .ok (time + delta)
  else .error "date value out of range"

/-- `delta * n`, with the exception's text. -/
def TimeDelta.mul (delta : TimeDelta) (n : Int) : Except String TimeDelta :=
  if -timedeltaMax ≤ delta * n ∧ delta * n ≤ timedeltaMax then .ok (delta * n)
  else .error "days; must have magnitude <= 999999999"

/-- A `datetime` that is only carried as data: wall-clock microseconds and the
offset when it is aware. -/
structure DateTime where
  wall : Int
  utcoffset : Option Int
deriving DecidableEq, Repr

structure Date where
  year : Int
  month : Int
  day : Int
deriving DecidableEq, Repr

/-- The proleptic Gregorian date that lies `days` days after 1970-01-01. -/
def Date.ofDays (days : Int) : Date :=
  let z := days + 719468
  let era := z / 146097
  let dayOfEra := z % 146097
  let yearOfEra :=
    (dayOfEra - dayOfEra / 1460 + dayOfEra / 36524 - dayOfEra / 146096) / 365
  let dayOfYear := dayOfEra - (365 * yearOfEra + yearOfEra / 4 - yearOfEra / 100)
  let shifted := (5 * dayOfYear + 2) / 153
  let month := if shifted < 10 then shifted + 3 else shifted - 9
  { year := yearOfEra + era * 400 + (if month ≤ 2 then 1 else 0)
    month := month
    day := dayOfYear - (153 * shifted + 2) / 5 + 1 }

private def zeroPadded (width : Nat) (n : Int) : String :=
  let digits := Nat.toDigits 10 n.toNat
  String.ofList (List.replicate (width - digits.length) '0' ++ digits)

/-- `isoformat()` of an aware datetime in UTC. -/
def isoformat (t : Time) : String :=
  let date := Date.ofDays (t / 86400000000)
  let micros := t % 86400000000
  let fraction := micros % 1000000
  zeroPadded 4 date.year ++ "-" ++ zeroPadded 2 date.month ++ "-" ++ zeroPadded 2 date.day ++
    "T" ++ zeroPadded 2 (micros / 3600000000) ++ ":" ++ zeroPadded 2 (micros / 60000000 % 60) ++
    ":" ++ zeroPadded 2 (micros / 1000000 % 60) ++
    (if fraction = 0 then "" else "." ++ zeroPadded 6 fraction) ++ "+00:00"

example : isoformat 1785542400000000 = "2026-08-01T00:00:00+00:00" := by decide

inductive PyValue where
  | none
  | bool (b : Bool)
  | int (n : Int)
  | str (s : String)
  | list (xs : List PyValue)
  | tuple (xs : List PyValue)
  | dict (fields : List (String × PyValue))
  /-- A value of any other class, known only by its class and identity. -/
  | object (className : String) (identity : Nat)
deriving Repr

namespace PyValue

mutual
/-- Equality of dynamic values, decided by their structure. -/
def decEq (a b : PyValue) : Decidable (a = b) :=
  match a with
  | .none =>
    match b with
    | .none => isTrue rfl
    | .bool _ | .int _ | .str _ | .list _ | .tuple _ | .dict _ | .object _ _ =>
      isFalse nofun
  | .bool x =>
    match b with
    | .bool y => decidable_of_iff (x = y) (by simp)
    | .none | .int _ | .str _ | .list _ | .tuple _ | .dict _ | .object _ _ =>
      isFalse nofun
  | .int x =>
    match b with
    | .int y => decidable_of_iff (x = y) (by simp)
    | .none | .bool _ | .str _ | .list _ | .tuple _ | .dict _ | .object _ _ =>
      isFalse nofun
  | .str x =>
    match b with
    | .str y => decidable_of_iff (x = y) (by simp)
    | .none | .bool _ | .int _ | .list _ | .tuple _ | .dict _ | .object _ _ =>
      isFalse nofun
  | .list xs =>
    match b with
    | .list ys => match decEqList xs ys with
      | isTrue h => isTrue (congrArg list h)
      | isFalse h => isFalse fun e => h (list.inj e)
    | .none | .bool _ | .int _ | .str _ | .tuple _ | .dict _ | .object _ _ =>
      isFalse nofun
  | .tuple xs =>
    match b with
    | .tuple ys => match decEqList xs ys with
      | isTrue h => isTrue (congrArg tuple h)
      | isFalse h => isFalse fun e => h (tuple.inj e)
    | .none | .bool _ | .int _ | .str _ | .list _ | .dict _ | .object _ _ =>
      isFalse nofun
  | .dict xs =>
    match b with
    | .dict ys => match decEqFields xs ys with
      | isTrue h => isTrue (congrArg dict h)
      | isFalse h => isFalse fun e => h (dict.inj e)
    | .none | .bool _ | .int _ | .str _ | .list _ | .tuple _ | .object _ _ =>
      isFalse nofun
  | .object c i =>
    match b with
    | .object d j => decidable_of_iff (c = d ∧ i = j) (by simp)
    | .none | .bool _ | .int _ | .str _ | .list _ | .tuple _ | .dict _ =>
      isFalse nofun

def decEqList (xs ys : List PyValue) : Decidable (xs = ys) :=
  match xs, ys with
  | [], [] => isTrue rfl
  | [], _ :: _ | _ :: _, [] => isFalse nofun
  | x :: xs, y :: ys =>
    match decEq x y, decEqList xs ys with
    | isTrue h, isTrue k => isTrue (by rw [h, k])
    | isFalse h, _ => isFalse fun e => h (List.cons.inj e).1
    | _, isFalse k => isFalse fun e => k (List.cons.inj e).2

def decEqFields (xs ys : List (String × PyValue)) : Decidable (xs = ys) :=
  match xs, ys with
  | [], [] => isTrue rfl
  | [], _ :: _ | _ :: _, [] => isFalse nofun
  | (name, x) :: xs, (name', y) :: ys =>
    match decEq x y, decEqFields xs ys with
    | isTrue h, isTrue k => decidable_of_iff (name = name') (by simp [h, k])
    | isFalse h, _ => isFalse fun e => h (Prod.mk.inj (List.cons.inj e).1).2
    | _, isFalse k => isFalse fun e => k (List.cons.inj e).2
end

instance : DecidableEq PyValue := decEq

/-- An optional string in event metadata. -/
def ofText (text : Option String) : PyValue :=
  match text with
  | .some text => .str text
  | .none => .none

/-- An optional flag. -/
def ofBool (value : Option Bool) : PyValue :=
  match value with
  | .some b => .bool b
  | .none => .none

/-- An optional datetime in event metadata. -/
def ofTime (time : Option Time) : PyValue := ofText (time.map isoformat)

end PyValue

/-- Characters that `str.strip` removes. -/
def isSpace (c : Char) : Bool :=
  [9, 10, 11, 12, 13, 28, 29, 30, 31, 32, 133, 160, 5760, 8192, 8193, 8194, 8195, 8196, 8197,
    8198, 8199, 8200, 8201, 8202, 8232, 8233, 8239, 8287, 12288].contains c.toNat

/-- `str.strip()`. -/
def strip (s : String) : String :=
  String.ofList ((s.toList.dropWhile isSpace).rdropWhile isSpace)

private theorem dropWhile_rdropWhile (p : Char → Bool) (xs : List Char)
    (front : xs.dropWhile p = xs) : (xs.rdropWhile p).dropWhile p = xs.rdropWhile p := by
  rw [List.dropWhile_eq_self_iff] at front ⊢
  intro nonempty
  have shorter : 0 < xs.length :=
    Nat.lt_of_lt_of_le nonempty (List.rdropWhile_prefix p xs).length_le
  have same : (xs.rdropWhile p)[0] = xs[0] :=
    (List.rdropWhile_prefix p xs).getElem nonempty
  rw [same]
  exact front shorter

@[simp] theorem strip_strip (s : String) : strip (strip s) = strip s := by
  simp only [strip, String.toList_ofList]
  rw [dropWhile_rdropWhile isSpace _ (List.dropWhile_idempotent isSpace _),
    List.rdropWhile_idempotent]

example : strip " mock_train\t" = "mock_train" := by decide

end PurchaseAgent
