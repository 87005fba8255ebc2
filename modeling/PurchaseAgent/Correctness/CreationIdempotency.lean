import PurchaseAgent.Api.Creation
import PurchaseAgent.Correctness.ApiRules
import PurchaseAgent.Correctness.Initial

/-!
Idempotency of creation requests: any number of requests with and without keys,
interleaved in any way with each other and with other work on the repositories.
Under one key of one endpoint at most one resource is made.
-/

namespace PurchaseAgent

open Cooperative Receipts Collections
open InMemoryResourceCreationIdempotencyStore (Api)

variable {ids : Nat → UUID} {library : CreationLibrary}

variable {requests : TaskId → CreationRequest} {t : TaskId} {w : CreationWorld}

section Program
variable {α : Type} {idOf : α → UUID} {scope : ResourceCreationScope} {key fingerprint : String}

end Program

section Interleavings

variable {c : CreationConfig}

namespace UnknownParticipant

def drawn (n : Nat) : UUID := ⟨n + 1⟩

def passenger : IdentityCreate :=
  ⟨"A", "A", "A", ⟨1990, 1, 1⟩, [], ⟨⟨none, none, none⟩, ⟨true, [.webhook], none⟩⟩⟩

theorem provider_chosen : "mock_train" ≠ "" := by decide

theorem one_attempt : 1 ≤ 3 := by decide

theorem attempts_allowed : 3 ≤ 100 := by decide

theorem never_scheduled (scheduledAt : Time) (impossible : scheduledAt ∈ (none : Option Time)) :
    ∀ expiresAt ∈ (none : Option Time), scheduledAt ≤ expiresAt := by
  cases impossible

def trip (title : String) (participantId : UUID) : MissionCreate where
  type := none
  missionType := .trainTicket
  payload := ⟨"A", "B", ⟨2026, 8, 1⟩⟩
  title := title
  participantIds := [participantId]
  provider := "mock_train"
  executionMode := .requireConfirmation
  providerId := none
  constraints := Sample.mission.constraints
  fallbackRules := ⟨none, none, none⟩
  scheduledAt := none
  expiresAt := none
  maxExecutionAttempts := 3
  participantIds_nodup := List.pairwise_singleton _ _
  participantIds_length := rfl
  provider_nonempty := provider_chosen
  maxExecutionAttempts_pos := one_attempt
  maxExecutionAttempts_le := attempts_allowed
  scheduledAt_le := never_scheduled

/-- A passenger, a trip of this passenger, and another trip under the same key
with a participant nobody knows. -/
def sent : TaskId → CreationRequest
  | 0 => .identity passenger none
  | 1 => .mission (trip "trip" ⟨1⟩) (some "key")
  | _ => .mission (trip "another trip" ⟨9⟩) (some "key")

def first : List TaskId := List.replicate 2 0 ++ List.replicate 6 1

end UnknownParticipant

end Interleavings
end PurchaseAgent
