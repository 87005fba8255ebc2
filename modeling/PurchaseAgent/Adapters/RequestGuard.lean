import PurchaseAgent.Domain.TargetUrl

/-!
The guard of the page's network requests: the route handler of the browser context, which
keeps the top frame on the origin of the task and every request off private addresses.
-/

namespace PurchaseAgent

open Url

/-- What `ipaddress` tells: the address that a text is, and whether it is a public one. -/
structure AddressLibrary (Address : Type) where
  ipAddress : List Char → Option Address
  isGlobal : Address → Bool

structure PageRequest where
  url : List Char
  isNavigationRequest : Bool
  /-- `request.frame.parent_frame is None`. -/
  inTopFrame : Bool

inductive RouteOutcome where
  | aborted
  | continued
  /-- The handler raises, and the request stays where it is. -/
  | raised (error : PyException)

/-- The answers of a resolver to a host and a port. -/
abbrev HostResolver (Address : Type) := List Char → Nat → Except PyException (List Address)

namespace RequestGuard
variable {Address : Type} (library : UrlLibrary) (addresses : AddressLibrary Address)

def targetOrigin (targetUrl : List Char) : Except PyException (List Char) :=
  (library.urlsplit targetUrl).map fun parsed => address parsed.scheme parsed.netloc []

def sameOrigin (left right : List Char) : Except PyException Bool := do
  let leftUrl ← library.urlsplit left
  let rightUrl ← library.urlsplit right
  return (leftUrl.scheme, leftUrl.netloc) = (rightUrl.scheme, rightUrl.netloc)

/-- `parsed.port or ...`, where the port zero counts as none. -/
def portOr (parsed : SplitResult) : Option Nat → Nat
  | none | some 0 => if parsed.scheme = "https".toList then 443 else 80
  | some number => number

/-- The addresses of a host, which is one already or is resolved. -/
def hostAddresses (resolve : HostResolver Address) (parsed : SplitResult) (host : List Char) :
    Except PyException (List Address) :=
  match addresses.ipAddress host with
  | some address => .ok [address]
  | none => do
    let number ← port parsed
    resolve host (portOr parsed number)

def validateBrowserUrl (resolve : HostResolver Address) (allowLocalNetwork : Bool)
    (url : List Char) : Except PyException Unit := do
  let parsed ← library.urlsplit url
  match library.hostname parsed with
  | none => .error (.valueError "browser URL must use HTTP(S)")
  | some host =>
    if parsed.scheme ≠ "http".toList ∧ parsed.scheme ≠ "https".toList then
      .error (.valueError "browser URL must use HTTP(S)")
    else if hasCredentials parsed then
      .error (.valueError "browser URL must not contain credentials")
    else
      let found ← hostAddresses addresses resolve parsed (library.casefold host)
      if found.isEmpty then .error (.valueError "browser URL host did not resolve")
      else if allowLocalNetwork = false ∧ found.any (! addresses.isGlobal ·) then
        .error (.valueError "browser URL resolves to a non-public address")
      else .ok ()

/-- `isinstance(error, ValueError)`, for what a resolver or the guard raises. -/
def isValueError : PyException → Bool
  | .valueError _ => true
  | .other name _ => name = "UnicodeError" || name = "UnicodeEncodeError"
  | _ => false

/-- Whether the request would take the top frame away from the origin of the task. -/
def leavesOrigin (allowedOrigin : Option (List Char)) (request : PageRequest) :
    Except PyException Bool :=
  match allowedOrigin with
  | none => .ok false
  | some origin =>
    if request.isNavigationRequest && request.inTopFrame then
      (sameOrigin library request.url origin).map (! ·)
    else .ok false

def guardRequest (resolve : HostResolver Address) (allowLocalNetwork : Bool)
    (allowedOrigin : Option (List Char)) (request : PageRequest) : RouteOutcome :=
  match leavesOrigin library allowedOrigin request with
  | .error error => .raised error
  | .ok true => .aborted
  | .ok false =>
    match validateBrowserUrl library addresses resolve allowLocalNetwork request.url with
    | .ok () => .continued
    | .error error => if isValueError error then .aborted else .raised error

/-- What happens to a runner: it is called for a task, or its page sends a request, for which
the resolver gives its answers. -/
inductive GuardEvent (Address : Type) where
  | called (targetUrl : List Char)
  | requested (request : PageRequest) (resolve : HostResolver Address)

/-- The handler's answer to a request. -/
structure Routed (Address : Type) where
  request : PageRequest
  resolve : HostResolver Address
  outcome : RouteOutcome

/-- The life of a runner, from its allowed origin on. A call whose task has no origin raises
before it changes anything. -/
def route (allowLocalNetwork : Bool) :
    Option (List Char) → List (GuardEvent Address) → List (Routed Address)
  | _, [] => []
  | allowedOrigin, .called targetUrl :: rest =>
    match targetOrigin library targetUrl with
    | .error _ => route allowLocalNetwork allowedOrigin rest
    | .ok origin => route allowLocalNetwork (some origin) rest
  | allowedOrigin, .requested request resolve :: rest =>
    ⟨request, resolve, guardRequest library addresses resolve allowLocalNetwork allowedOrigin
      request⟩ :: route allowLocalNetwork allowedOrigin rest

end RequestGuard

end PurchaseAgent
