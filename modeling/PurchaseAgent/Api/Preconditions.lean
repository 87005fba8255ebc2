import PurchaseAgent.Api.Exceptions
import PurchaseAgent.Domain.Mission

/-!
ETags and `If-Match`: the version of a mission is its last event sequence.
-/

namespace PurchaseAgent

def missionEtag (mission : Mission) : String := "\"" ++ toString mission.lastEventSequence ++ "\""

/-- The digits of `int(text)` from the left; single underscores may stand between
digits. -/
def digitsValue (value : Nat) (afterDigit : Bool) : List Char → Option Nat
  | [] => if afterDigit then some value else none
  | '_' :: rest => if afterDigit then digitsValue value false rest else none
  | c :: rest =>
    if c.isDigit then digitsValue (value * 10 + (c.toNat - '0'.toNat)) true rest else none

/-- `int(text)` for the characters a header can hold, or nothing when it raises
`ValueError`. -/
def pyInt (text : String) : Option Int :=
  let chars := (strip text).toList
  if 4300 < (chars.filter Char.isDigit).length then none
  else
    match chars with
    | '-' :: digits => (digitsValue 0 false digits).map fun n => -(n : Int)
    | '+' :: digits => (digitsValue 0 false digits).map fun n => (n : Int)
    | digits => (digitsValue 0 false digits).map fun n => (n : Int)

/-- `int(if_match.strip().strip('"'))`. -/
def expectedSequence (ifMatch : String) : Option Int :=
  let isQuote (c : Char) : Bool := c.toNat = 34
  pyInt (String.ofList (((strip ifMatch).toList.dropWhile isQuote).rdropWhile isQuote))

example : expectedSequence " \"12\"" = some 12 := by decide

def invalidMissionVersion : HTTPException :=
  .coded 422 "invalid_mission_version" "If-Match must contain a non-negative Mission version."

def missionVersionConflict (current : Nat) (expected : Int) : HTTPException :=
  .coded 409 "mission_version_conflict"
    "Mission changed since the requested version. Reload it and try again."
    [("details", .dict [("current_version", .int current), ("expected_version", .int expected)])]

end PurchaseAgent
