import PurchaseAgent.Collections.Dict
import PurchaseAgent.Services.Runtime

/-!
The in-memory repositories as far as resources are created and looked up: the
dictionaries of identities and missions, and the source of new ids.
-/

namespace PurchaseAgent

open Cooperative Collections

/-- An identity with the version its ETag shows. -/
structure VersionedIdentity extends Identity where
  version : Nat
deriving DecidableEq

structure Resources where
  identities : Dict UUID VersionedIdentity
  missions : Dict UUID Mission
  idsDrawn : Nat

inductive ResourceOp where
  /-- `uuid4()`. -/
  | newId
  | createIdentity (identity : VersionedIdentity)
  | getIdentity (id : UUID)
  /-- Answers nothing on a version conflict. -/
  | deleteIdentity (id : UUID) (expectedVersion : Nat)
  | createMission (mission : Mission)
  | getMission (id : UUID)
  | referencesIdentity (id : UUID)

namespace ResourceOp

abbrev Answer : ResourceOp → Type
  | .newId => UUID
  | .createIdentity _ => VersionedIdentity
  | .getIdentity _ => Option VersionedIdentity
  | .deleteIdentity _ _ => Option Bool
  | .createMission _ => Mission
  | .getMission _ => Option Mission
  | .referencesIdentity _ => Bool

def awaits : ResourceOp → Bool
  | .newId => false
  | .createIdentity _ | .getIdentity _ | .deleteIdentity _ _ | .createMission _ | .getMission _
  | .referencesIdentity _ => true

def exec (ids : Nat → UUID) : (o : ResourceOp) → Resources → o.Answer × Resources
  | .newId, s => (ids s.idsDrawn, { s with idsDrawn := s.idsDrawn + 1 })
  | .createIdentity identity, s =>
      (identity, { s with identities := s.identities.set identity.id identity })
  | .getIdentity id, s => (s.identities.get? id, s)
  | .deleteIdentity id expectedVersion, s =>
    match s.identities.get? id with
    | none => (some false, s)
    | some identity =>
      if identity.version ≠ expectedVersion then (none, s)
      else (some true, { s with identities := s.identities.erase id })
  | .createMission mission, s =>
      (mission, { s with missions := s.missions.set mission.id mission })
  | .getMission id, s => (s.missions.get? id, s)
  | .referencesIdentity id, s =>
      (s.missions.any fun entry => id ∈ entry.2.participantIds, s)

/-- The operation makes a resource. -/
def creates : ResourceOp → Bool
  | .createIdentity _ | .createMission _ => true
  | .newId | .getIdentity _ | .deleteIdentity _ _ | .getMission _ | .referencesIdentity _ => false

end ResourceOp

abbrev resourceSignature : Signature where
  Op := ResourceOp
  Answer := ResourceOp.Answer

/-- A coroutine over the repositories. -/
abbrev ResourceTask (α : Type) := Task resourceSignature PyException α

namespace ResourceTask

def perform (o : ResourceOp) : ResourceTask o.Answer :=
  ExceptT.lift (Prog.perform (F := resourceSignature) o)

/-- The value of a computation without effects, or the exception it raises. -/
def fromExcept {α : Type} (result : Except PyException α) : ResourceTask α :=
  ExceptT.mk (Prog.pure result)

end ResourceTask

namespace Resources

/-- Resources lie under their ids. -/
structure Filed (s : Resources) : Prop where
  identities : ∀ id identity, s.identities.get? id = some identity → identity.id = id
  missions : ∀ id mission, s.missions.get? id = some mission → mission.id = id

theorem Filed.exec {s : Resources} (h : s.Filed) (ids : Nat → UUID) (o : ResourceOp) :
    (o.exec ids s).2.Filed := by
  cases o with
  | createIdentity created =>
      refine ⟨fun id identity found => ?_, h.missions⟩
      by_cases same : id = created.id
      · subst same
        simp only [ResourceOp.exec, Dict.get?_set_self, Option.some.injEq] at found
        rw [found]
      · simp only [ResourceOp.exec, Dict.get?_set_of_ne _ same] at found
        exact h.identities id identity found
  | createMission created =>
      refine ⟨h.identities, fun id mission found => ?_⟩
      by_cases same : id = created.id
      · subst same
        simp only [ResourceOp.exec, Dict.get?_set_self, Option.some.injEq] at found
        rw [found]
      · simp only [ResourceOp.exec, Dict.get?_set_of_ne _ same] at found
        exact h.missions id mission found
  | deleteIdentity id expectedVersion =>
      simp only [ResourceOp.exec]
      split
      · exact h
      · split
        · exact h
        · refine ⟨fun other identity found => ?_, h.missions⟩
          by_cases same : other = id
          · subst same
            simp only [Dict.get?_erase_self] at found
            cases found
          · simp only [Dict.get?_erase_of_ne _ same] at found
            exact h.identities other identity found
  | newId => exact ⟨h.identities, h.missions⟩
  | getIdentity id => exact h
  | getMission id => exact h
  | referencesIdentity id => exact h

end Resources
end PurchaseAgent
