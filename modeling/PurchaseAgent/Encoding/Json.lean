import Mathlib.Data.List.Lex
import PurchaseAgent.Collections.Dict
import PurchaseAgent.Encoding.Digits

/-!
JSON as the standard library writes flat objects of texts and numbers, with sorted keys and
compact separators, and as it reads any text. A text that was read is a list of code points,
which may be lone surrogates.
-/

namespace Encoding

open Collections

inductive Json where
  | null
  | bool (b : Bool)
  | int (n : Int)
  /-- A number with a fraction or an exponent, as it is written, or one of the constants. -/
  | float (literal : List Char)
  | str (codePoints : List Nat)
  | array (items : List Json)
  | object (fields : List (List Nat × Json))

/-- A value of the objects that are written. -/
inductive Scalar where
  | str (text : List Char)
  | number (n : Nat)

namespace Json

def codePoints (text : List Char) : List Nat := text.map Char.toNat

/-- A scalar as it is read. -/
def ofScalar : Scalar → Json
  | .str text => .str (codePoints text)
  | .number n => .int n

section Write

def fixedHex (n : Nat) : List Char :=
  [n / 4096 % 16, n / 256 % 16, n / 16 % 16, n % 16].map Nat.digitChar

/-- A UTF-16 unit as an escape. -/
def unitEscape (n : Nat) : List Char := '\\' :: 'u' :: fixedHex n

/-- `ESCAPE_ASCII`. -/
def escaped (c : Char) : List Char :=
  if c = '"' then ['\\', '"']
  else if c = '\\' then ['\\', '\\']
  else if c = '\n' then ['\\', 'n']
  else if c = '\r' then ['\\', 'r']
  else if c = '\t' then ['\\', 't']
  else if c.toNat = 12 then ['\\', 'f']
  else if c.toNat = 8 then ['\\', 'b']
  else if 32 ≤ c.toNat ∧ c.toNat ≤ 126 then [c]
  else if c.toNat < 65536 then unitEscape c.toNat
  else
    unitEscape (55296 + (c.toNat - 65536) / 1024) ++ unitEscape (56320 + (c.toNat - 65536) % 1024)

/-- `py_encode_basestring_ascii`. -/
def quoted (text : List Char) : List Char := '"' :: (text.flatMap escaped ++ ['"'])

def scalarText : Scalar → List Char
  | .str text => quoted text
  | .number n => Nat.toDigits 10 n

def memberText (member : List Char × Scalar) : List Char :=
  quoted member.1 ++ ':' :: scalarText member.2

/-- `json.dumps` with `sort_keys=True` and `separators=(",", ":")`. -/
def dumps (members : List (List Char × Scalar)) : List Char :=
  let sorted := members.mergeSort fun left right => codePoints left.1 ≤ codePoints right.1
  '{' :: (List.intercalate [','] (sorted.map memberText) ++ ['}'])

end Write

section Read

def isBlank (c : Char) : Bool := c = ' ' || c = '\t' || c = '\n' || c = '\r'

def skipBlanks (text : List Char) : List Char := text.dropWhile isBlank

def simpleEscape (c : Char) : Option Nat :=
  if c = '"' then some 34
  else if c = '\\' then some 92
  else if c = '/' then some 47
  else if c = 'b' then some 8
  else if c = 'f' then some 12
  else if c = 'n' then some 10
  else if c = 'r' then some 13
  else if c = 't' then some 9
  else none

/-- The code points and surrogates of a string, behind its opening quote. -/
def scanUnits : List Char → Option (List Nat × List Char)
  | [] => none
  | '"' :: rest => some ([], rest)
  | '\\' :: 'u' :: a :: b :: c :: d :: rest =>
    (hexNumber [a, b, c, d]).bind fun unit =>
      (scanUnits rest).map fun scanned => (unit :: scanned.1, scanned.2)
  | '\\' :: c :: rest =>
    (simpleEscape c).bind fun unit =>
      (scanUnits rest).map fun scanned => (unit :: scanned.1, scanned.2)
  | c :: rest =>
    if c.toNat < 32 || c = '\\' then none
    else (scanUnits rest).map fun scanned => (c.toNat :: scanned.1, scanned.2)

/-- Two surrogates that make up a code point, which only escapes can give. -/
def joinSurrogates : List Nat → List Nat
  | high :: low :: rest =>
    if 55296 ≤ high ∧ high ≤ 56319 ∧ 56320 ≤ low ∧ low ≤ 57343 then
      (65536 + (high - 55296) * 1024 + (low - 56320)) :: joinSurrogates rest
    else high :: joinSurrogates (low :: rest)
  | units => units

def scanString (text : List Char) : Option (List Nat × List Char) :=
  (scanUnits text).map fun scanned => (joinSurrogates scanned.1, scanned.2)

def integerDigits (text : List Char) : List Char :=
  if text.head? = some '0' then ['0'] else text.takeWhile Char.isDigit

def fraction : List Char → List Char
  | '.' :: rest =>
    if (rest.takeWhile Char.isDigit).isEmpty then [] else '.' :: rest.takeWhile Char.isDigit
  | _ => []

def exponent : List Char → List Char
  | e :: rest =>
    if e = 'e' || e = 'E' then
      let sign := rest.take 1 |>.filter fun c => c = '-' || c = '+'
      let digits := (rest.drop sign.length).takeWhile Char.isDigit
      if digits.isEmpty then [] else e :: (sign ++ digits)
    else []
  | [] => []

/-- `NUMBER_RE`, behind the sign. -/
def scanUnsigned (negative : Bool) (text : List Char) : Option (Json × List Char) :=
  let digits := integerDigits text
  if digits.isEmpty then none
  else
    let behind := text.drop digits.length
    let fractional := fraction behind ++ exponent (behind.drop (fraction behind).length)
    let value : Int := Nat.ofDigitChars 10 digits 0
    if fractional.isEmpty then some (.int (if negative then -value else value), behind)
    else
      some (.float ((if negative then ['-'] else []) ++ digits ++ fractional),
        behind.drop fractional.length)

/-- The constants, and the numbers. -/
def scanAtom (text : List Char) : Option (Json × List Char) :=
  if "null".toList.isPrefixOf text then some (.null, text.drop 4)
  else if "true".toList.isPrefixOf text then some (.bool true, text.drop 4)
  else if "false".toList.isPrefixOf text then some (.bool false, text.drop 5)
  else if "NaN".toList.isPrefixOf text then some (.float "NaN".toList, text.drop 3)
  else if "Infinity".toList.isPrefixOf text then some (.float "Infinity".toList, text.drop 8)
  else if "-Infinity".toList.isPrefixOf text then some (.float "-Infinity".toList, text.drop 9)
  else if text.head? = some '-' then scanUnsigned true text.tail
  else scanUnsigned false text

mutual
/-- `scan_once`. Every level of fuel stands for a value or a member. -/
def scanValue : Nat → List Char → Option (Json × List Char)
  | 0, _ => none
  | fuel + 1, text =>
    match text with
    | '"' :: rest => (scanString rest).map fun scanned => (.str scanned.1, scanned.2)
    | '{' :: rest =>
      if (skipBlanks rest).head? = some '}' then some (.object [], (skipBlanks rest).tail)
      else
        (scanMembers fuel [] (skipBlanks rest)).map fun scanned => (.object scanned.1, scanned.2)
    | '[' :: rest =>
      if (skipBlanks rest).head? = some ']' then some (.array [], (skipBlanks rest).tail)
      else (scanItems fuel (skipBlanks rest)).map fun scanned => (.array scanned.1, scanned.2)
    | _ => scanAtom text

/-- The members of an object behind those that are set, up to its end. -/
def scanMembers : Nat → List (List Nat × Json) → List Char →
    Option (List (List Nat × Json) × List Char)
  | 0, _, _ => none
  | fuel + 1, fields, text =>
    (readChar '"' text).bind fun text =>
    (scanString text).bind fun key =>
    (readChar ':' (skipBlanks key.2)).bind fun text =>
    (scanValue fuel (skipBlanks text)).bind fun value =>
      let fields := Dict.set fields key.1 value.1
      match skipBlanks value.2 with
      | '}' :: rest => some (fields, rest)
      | ',' :: rest => scanMembers fuel fields (skipBlanks rest)
      | _ => none

def scanItems : Nat → List Char → Option (List Json × List Char)
  | 0, _ => none
  | fuel + 1, text =>
    (scanValue fuel text).bind fun value =>
      match skipBlanks value.2 with
      | ']' :: rest => some ([value.1], rest)
      | ',' :: rest =>
        (scanItems fuel (skipBlanks rest)).map fun scanned => (value.1 :: scanned.1, scanned.2)
      | _ => none
end

/-- `json.loads`: one value, and nothing but blanks around it. -/
def loads (text : List Char) : Option Json :=
  (scanValue (2 * text.length + 1) (skipBlanks text)).bind fun value =>
    if (skipBlanks value.2).isEmpty then some value.1 else none

end Read
end Json
end Encoding
