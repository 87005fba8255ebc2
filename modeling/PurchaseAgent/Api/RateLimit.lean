import Mathlib.Data.Rat.Floor
import PurchaseAgent.Collections.Dict
import PurchaseAgent.Domain.Errors

/-!
`RateLimitMiddleware`: a sliding window of accepted requests for every client, in a registry
that forgets the client seen longest ago when it is full. Times are exact numbers of seconds.
-/

namespace PurchaseAgent

open Collections

/-- An ASGI scope, as far as the middleware reads it. -/
structure Scope where
  type : String
  method : Option String := none
  path : Option String := none
  headers : List (List UInt8 × List UInt8) := []
  client : Option String := none

namespace Scope

def shouldLimit (scope : Scope) : Bool :=
  scope.type = "http" && scope.method ≠ some "OPTIONS" &&
    !(scope.path.any fun path => ["/health", "/ready"].contains path)

def lowerByte (byte : UInt8) : UInt8 := if 65 ≤ byte ∧ byte ≤ 90 then byte + 32 else byte

/-- The last header of the name, if it is not empty. -/
def header (scope : Scope) (name : String) : Option (List UInt8) :=
  (scope.headers.reverse.find? fun header =>
      header.1.map lowerByte == name.toUTF8.toList).bind fun header =>
    if header.2.isEmpty then none else some header.2

/-- `_client_id`, with the hexadecimal digest of SHA-256. -/
def clientId (sha256 : List UInt8 → String) (scope : Scope) : String :=
  match scope.header "x-admin-api-key", scope.header "x-api-key" with
  | some value, _ => "admin:" ++ sha256 value
  | none, some value => "client:" ++ sha256 value
  | none, none => "ip:" ++ scope.client.getD "unknown"

end Scope

/-- The middleware, with what its constructor has checked. -/
structure RateLimitMiddleware where
  requestLimit : Nat
  windowSeconds : Rat
  maxClients : Nat
  requestLimit_pos : 1 ≤ requestLimit
  windowSeconds_pos : 0 < windowSeconds
  maxClients_pos : 1 ≤ maxClients

/-- `_requests`: the timestamps of the clients, those seen longest ago in front. -/
abbrev RequestRegistry := Dict String (List Rat)

inductive RateLimitAnswer where
  /-- The application is called, and its response gets the numbers as headers. -/
  | accepted (remaining resetAfter : Int)
  /-- The response with status 429. -/
  | rejected (retryAfter : Int)
deriving DecidableEq, Repr

namespace RateLimitAnswer

def isAccepted : RateLimitAnswer → Bool
  | .accepted _ _ => true
  | .rejected _ => false

/-- `RateLimit-Remaining`. -/
def remaining : RateLimitAnswer → Int
  | .accepted remaining _ => remaining
  | .rejected _ => 0

/-- The headers of the response, in their order. -/
def headers (requestLimit : Nat) : RateLimitAnswer → List (String × String)
  | .accepted remaining resetAfter =>
    [("ratelimit-limit", toString requestLimit), ("ratelimit-remaining", toString remaining),
      ("ratelimit-reset", toString resetAfter)]
  | .rejected retryAfter =>
    [("Retry-After", toString retryAfter), ("RateLimit-Limit", toString requestLimit),
      ("RateLimit-Remaining", "0"), ("RateLimit-Reset", toString retryAfter)]

end RateLimitAnswer

namespace RateLimitMiddleware

def init (requestLimit : Nat) (windowSeconds : Rat) (maxClients : Nat) :
    Except PyException RateLimitMiddleware :=
  if requestLimit_pos : 1 ≤ requestLimit then
    if windowSeconds_pos : 0 < windowSeconds then
      if maxClients_pos : 1 ≤ maxClients then
        .ok ⟨requestLimit, windowSeconds, maxClients, requestLimit_pos, windowSeconds_pos,
          maxClients_pos⟩
      else .error (.valueError "max_clients must be at least one")
    else .error (.valueError "window_seconds must be greater than zero")
  else .error (.valueError "request_limit must be at least one")

variable (middleware : RateLimitMiddleware)

def evictClientIfFull (requests : RequestRegistry) : RequestRegistry :=
  if middleware.maxClients ≤ requests.length then requests.tail else requests

/-- The registry without the client, and the timestamps of the client. -/
def lookUp (requests : RequestRegistry) (clientId : String) : RequestRegistry × List Rat :=
  match requests.get? clientId with
  | none => (middleware.evictClientIfFull requests, [])
  | some timestamps => (requests.erase clientId, timestamps)

/-- The loop that drops the timestamps up to the cutoff. -/
def expire (now : Rat) (timestamps : List Rat) : List Rat :=
  timestamps.dropWhile fun timestamp => timestamp ≤ now - middleware.windowSeconds

/-- `max(1, math.ceil(timestamps[0] + window_seconds - now))`, where there is a timestamp. -/
def secondsLeft (now : Rat) (timestamps : List Rat) : Int :=
  max 1 ⌈timestamps.headD now + middleware.windowSeconds - now⌉

/-- `__call__` for a request that is limited. -/
def limit (requests : RequestRegistry) (now : Rat) (clientId : String) :
    RequestRegistry × RateLimitAnswer :=
  let found := middleware.lookUp requests clientId
  let kept := middleware.expire now found.2
  if middleware.requestLimit ≤ kept.length then
    (found.1 ++ [(clientId, kept)], .rejected (middleware.secondsLeft now kept))
  else
    let timestamps := kept ++ [now]
    (found.1 ++ [(clientId, timestamps)],
      .accepted (middleware.requestLimit - timestamps.length)
        (middleware.secondsLeft now timestamps))

/-- `__call__`; a scope that is not limited leaves the registry as it is. -/
def call (sha256 : List UInt8 → String) (requests : RequestRegistry) (now : Rat) (scope : Scope) :
    RequestRegistry × Option RateLimitAnswer :=
  if scope.shouldLimit = false then (requests, none)
  else
    let limited := middleware.limit requests now (scope.clientId sha256)
    (limited.1, some limited.2)

end RateLimitMiddleware
end PurchaseAgent
