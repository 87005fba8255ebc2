import Mathlib.Data.String.Basic
import PurchaseAgent.Api.Creation
import PurchaseAgent.Collections.StableSort
import PurchaseAgent.Transactions.UniqueKey

/-!
Creation receipts in the database. Every request is one transaction: it inserts its
receipt, creates the resource, completes the receipt, and commits; an endpoint that
raises is rolled back. Completed receipts are pruned when they are old.
-/

namespace PurchaseAgent

open Collections Transactions

abbrev ReceiptKey := ResourceCreationScope × String

/-- A row of `resource_creation_receipts`. -/
abbrev ResourceCreationReceiptRow := UniqueKey.Row ReceiptKey String UUID

def ResourceCreationScope.value : ResourceCreationScope → String
  | .identity => "identity"
  | .mission => "mission"

/-- A request with an `Idempotency-Key`. -/
inductive KeyedCreation where
  | mission (body : MissionCreate) (idempotencyKey : String)
  | identity (body : IdentityCreate) (idempotencyKey : String)

namespace KeyedCreation

/-- The receipt that the request begins with: its key, and its fingerprint. -/
def receipt (library : CreationLibrary) : KeyedCreation → ReceiptKey × String
  | .mission body idempotencyKey => ((.mission, idempotencyKey), library.missionFingerprint body)
  | .identity body idempotencyKey =>
      ((.identity, idempotencyKey), library.identityFingerprint body)

/-- The request can create a resource with this id. -/
def Creates (library : CreationLibrary) (id : UUID) : KeyedCreation → Prop
  | .mission body _ => ∃ mission, body.toDomain library id = .ok mission
  | .identity _ _ => True

end KeyedCreation

namespace SqlAlchemyResourceCreationIdempotencyStore

/-- The order of the candidates. -/
def pruneOrder (row : ResourceCreationReceiptRow) : Int ×ₗ String ×ₗ String :=
  toLex (row.createdAt, toLex (row.key.1.value, row.key.2))

def pruneCandidates (cutoff : Time) (limit : Nat) (rows : List ResourceCreationReceiptRow) :
    List ResourceCreationReceiptRow :=
  (sortedBy pruneOrder (rows.filter fun row => row.result.isSome && row.createdAt < cutoff)).take
    limit

/-- `prune_completed_before`: the keys it returns. Unless it is a dry run, their rows
are deleted. -/
def pruneCompletedBefore (cutoff : Time) (limit : Int) (rows : List ResourceCreationReceiptRow) :
    Except PyException (List ReceiptKey) :=
  if limit ≤ 0 then .error (.valueError "limit must be greater than zero")
  else .ok ((pruneCandidates cutoff limit.toNat rows).map (·.key))

end SqlAlchemyResourceCreationIdempotencyStore

/-- The requests against the store, with maintenance. -/
def creationReceipts (library : CreationLibrary) (requests : Nat → KeyedCreation) :
    UniqueKey.Protocol ReceiptKey String UUID where
  requests i := (requests i).receipt library
  works i id := (requests i).Creates library id
  prunes rows keys := ∃ cutoff limit,
    SqlAlchemyResourceCreationIdempotencyStore.pruneCompletedBefore cutoff limit rows = .ok keys

end PurchaseAgent
