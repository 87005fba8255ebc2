import Mathlib.Data.List.TakeWhile
import PurchaseAgent.Domain.ProviderResolution
import PurchaseAgent.Url.Split

/-!
`AgentTask.normalize_target_url`: the target of a task is split, checked and put
together again from its parts, with the host folded to one case.
-/

namespace PurchaseAgent

open Url

/-- Texts that differ in the case of ASCII letters only. -/
def SameCase (text other : List Char) : Prop := text.map Char.toLower = other.map Char.toLower

/-- The delimiters of a URL, and the characters that `urlsplit` removes. -/
def isReserved (c : Char) : Bool := ['/', '?', '#', '@', ':', '[', ']'].contains c || isUnsafe c

/-- The characters that `_checknetloc` leaves out. -/
def isUnchecked (c : Char) : Bool := ['@', ':', '#', '?'].contains c

/-- The case mappings of `str`, whether the NFKC form of a character holds a delimiter,
and whether `ipaddress` reads an IPv6 address. -/
structure UrlLibrary where
  lower : List Char → List Char
  casefold : List Char → List Char
  expands : Char → Bool
  isIpv6 : List Char → Bool
  lower_ne_nil : ∀ text, text ≠ [] → lower text ≠ []
  casefold_ne_nil : ∀ text, text ≠ [] → casefold text ≠ []
  mem_lower : ∀ text c, isReserved c = true → (c ∈ lower text ↔ c ∈ text)
  mem_casefold : ∀ text c, isReserved c = true → (c ∈ casefold text ↔ c ∈ text)
  lower_expands : ∀ text, (∀ c ∈ text, expands c = false) → ∀ c ∈ lower text, expands c = false
  casefold_expands : ∀ text, (∀ c ∈ text, expands c = false) →
    ∀ c ∈ casefold text, expands c = false
  casefold_sameCase : ∀ text other, SameCase text other → casefold text = casefold other
  expands_ascii : ∀ c : Char, c.toNat < 128 →
    expands c = ['/', '?', '#', '@', ':'].contains c

namespace UrlLibrary
variable (library : UrlLibrary)

def isHexDigit (c : Char) : Bool :=
  c.isDigit || ('a'.toNat ≤ c.toNat && c.toNat ≤ 'f'.toNat) ||
    ('A'.toNat ≤ c.toNat && c.toNat ≤ 'F'.toNat)

/-- `_check_bracketed_host`: `v`, a version, a dot and something, or an IPv6 address. -/
def checkBracketedHost : List Char → Bool
  | 'v' :: rest =>
    let version := rest.takeWhile isHexDigit
    let address := rest.drop version.length
    !version.isEmpty && address.head? = some '.' && 2 ≤ address.length
  | host => library.isIpv6 host

def checkBracketedNetloc (netloc : List Char) : Bool :=
  let hostAndPort := hostPart netloc
  if '[' ∈ hostAndPort then
    let bracketed := (partition '[' hostAndPort).2
    let port := (partition ']' bracketed).2
    (partition '[' hostAndPort).1.isEmpty && port.head?.all (· = ':') &&
      library.checkBracketedHost (partition ']' bracketed).1
  else library.checkBracketedHost (partition ':' hostAndPort).1

def checkBrackets (netloc : List Char) : Bool :=
  if '[' ∈ netloc ∨ ']' ∈ netloc then
    decide ('[' ∈ netloc) && decide (']' ∈ netloc) && library.checkBracketedNetloc netloc
  else true

def checkNetloc (netloc : List Char) : Bool :=
  netloc.all fun c => isUnchecked c || !library.expands c

def urlsplit (url : List Char) : Except PyException SplitResult :=
  let parsed := components url
  if library.checkBrackets parsed.netloc = false then .error (.valueError "Invalid IPv6 URL")
  else if library.checkNetloc parsed.netloc = false then
    .error (.valueError "netloc contains invalid characters under NFKC normalization")
  else .ok parsed

/-- The host in lower case, except for a zone behind a percent sign. -/
def hostLower (host : List Char) : List Char :=
  if '%' ∈ host then library.lower (partition '%' host).1 ++ '%' :: (partition '%' host).2
  else library.lower host

def hostname (parsed : SplitResult) : Option (List Char) :=
  let host := (hostinfo parsed.netloc).1
  if host = [] then none else some (library.hostLower host)

end UrlLibrary

def port (parsed : SplitResult) : Except PyException (Option Nat) :=
  let text := (hostinfo parsed.netloc).2
  if text = [] then .ok none
  else if text.all Char.isDigit = false then
    .error (.valueError "Port could not be cast to integer value")
  else if 65535 < Nat.ofDigitChars 10 text 0 then .error (.valueError "Port out of range 0-65535")
  else .ok (some (Nat.ofDigitChars 10 text 0))

/-- `parsed.username is not None or parsed.password is not None`. -/
def hasCredentials (parsed : SplitResult) : Prop := '@' ∈ parsed.netloc

instance (parsed : SplitResult) : Decidable (hasCredentials parsed) :=
  inferInstanceAs (Decidable ('@' ∈ parsed.netloc))

/-- `parsed.path or "/"`. -/
def rootedPath (path : List Char) : List Char := if path = [] then ['/'] else path

/-- The host with the port behind it. -/
def normalizedNetloc (host : List Char) : Option Nat → List Char
  | none => host
  | some number => host ++ ':' :: Nat.toDigits 10 number

def localHosts : List (List Char) := ["localhost".toList, "127.0.0.1".toList, "::1".toList]

def stripped (value : List Char) : List Char := (value.dropWhile isSpace).rdropWhile isSpace

namespace AgentTask

def normalizeTargetUrl (library : UrlLibrary) (value : List Char) :
    Except PyException (List Char) := do
  let parsed ← library.urlsplit (stripped value)
  match library.hostname parsed with
  | none => .error (validationError "target_url must be an absolute HTTP(S) URL")
  | some host =>
    if parsed.scheme ≠ "http".toList ∧ parsed.scheme ≠ "https".toList then
      .error (validationError "target_url must be an absolute HTTP(S) URL")
    else if hasCredentials parsed then
      .error (validationError "target_url must not contain credentials")
    else if parsed.fragment ≠ [] then
      .error (validationError "target_url must not contain a fragment")
    else if parsed.scheme = "http".toList ∧ !localHosts.contains (library.casefold host) then
      .error (validationError "non-local target_url must use HTTPS")
    else
      let number ← port parsed
      .ok (unsplit parsed.scheme (normalizedNetloc (library.casefold host) number)
        (rootedPath parsed.path) parsed.query)

end AgentTask
end PurchaseAgent
