import PurchaseAgent.Api.RateLimit

/-!
`RequestBodyLimitMiddleware`: the body of a request is read before the application
is called, which then receives it in one message.
-/

namespace PurchaseAgent

/-- A message that `receive` returns, with the keys that it may lack. -/
inductive ReceivedMessage where
  | request (body : Option (List UInt8)) (moreBody : Option Bool)
  | disconnect
deriving DecidableEq, Repr

namespace ReceivedMessage

/-- `message.get("body", b"")`. -/
def chunk : ReceivedMessage → List UInt8
  | .request body _ => body.getD []
  | .disconnect => []

/-- `message.get("more_body", False)`. -/
def more : ReceivedMessage → Bool
  | .request _ moreBody => moreBody.getD false
  | .disconnect => false

end ReceivedMessage

structure RequestBodyLimitMiddleware where
  maxBodyBytes : Nat

/-- What becomes of a request. -/
inductive BodyLimitOutcome where
  /-- The application is called with `receive` itself. -/
  | passed
  /-- The application is called with `replay_receive`. -/
  | forwarded (body : List UInt8)
  /-- The response 413, `request_body_too_large`. -/
  | tooLarge (maxBytes : Nat)
  /-- The response 400. -/
  | invalidContentLength
  /-- No response. -/
  | disconnected
  /-- `receive` has not returned yet. -/
  | waiting
deriving DecidableEq, Repr

/-- `value.isdigit()`. -/
def isDigits (value : List UInt8) : Bool :=
  ! value.isEmpty && value.all fun byte => 48 ≤ byte && byte ≤ 57

/-- The most digits that `int` reads. -/
def maxIntDigits : Nat := 4300

/-- `int(value)` of digits. -/
def intOfDigits (value : List UInt8) : Except PyException Int :=
  if maxIntDigits < value.length then
    .error (.valueError "Exceeds the limit (4300 digits) for integer string conversion")
  else .ok (value.foldl (fun number byte => 10 * number + (byte.toNat - 48)) 0 : Nat)

def Scope.contentLength (scope : Scope) : Except PyException (Option Int) :=
  match (scope.headers.filter fun header =>
    header.1.map Scope.lowerByte == "content-length".toUTF8.toList).map (·.2) with
  | [] => .ok none
  | [value] => if isDigits value then (intOfDigits value).map some else .ok (some (-1))
  | _ => .ok (some (-1))

namespace RequestBodyLimitMiddleware

variable (middleware : RequestBodyLimitMiddleware)

/-- The loop over `receive`. -/
def readBody (body : List UInt8) : List ReceivedMessage → BodyLimitOutcome
  | [] => .waiting
  | .disconnect :: _ => .disconnected
  | .request chunk moreBody :: rest =>
    let body := body ++ chunk.getD []
    if middleware.maxBodyBytes < body.length then .tooLarge middleware.maxBodyBytes
    else if moreBody.getD false then readBody body rest
    else .forwarded body

/-- `__call__`, with the messages that `receive` returns. -/
def call (scope : Scope) (messages : List ReceivedMessage) : Except PyException BodyLimitOutcome :=
  if scope.type ≠ "http" then .ok .passed
  else do
    match ← scope.contentLength with
    | none => .ok (middleware.readBody [] messages)
    | some length =>
      if length < 0 then .ok .invalidContentLength
      else if (middleware.maxBodyBytes : Int) < length then .ok (.tooLarge middleware.maxBodyBytes)
      else .ok (middleware.readBody [] messages)

/-- `replay_receive`, with the messages of its first calls. -/
def replayReceive (body : List UInt8) : Nat → List ReceivedMessage
  | 0 => []
  | calls + 1 => .request (some body) none :: List.replicate calls .disconnect

end RequestBodyLimitMiddleware
end PurchaseAgent
