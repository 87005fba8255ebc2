import PurchaseAgent.Api.Identities

/-!
Concurrent changes of one identity. In either repository the accepted writes of
any interleaving follow each other, each applied to the identity that the one
before it has left.
-/

namespace PurchaseAgent

open Transactions Relation

theorem identity_protocol_lawful (repository : IdentityRepository) :
    repository.protocol.Lawful where
  raises := by
    intro request identity write row row' decided written
    cases request with
    | patch ifMatch update =>
        simp only [IdentityRepository.protocol, IdentityRequest.decide] at decided
        split at decided
        · cases decided
        · cases decided
          obtain rfl := Option.some.inj written
          cases repository <;> rfl
    | preferences ifMatch value =>
        simp only [IdentityRepository.protocol, IdentityRequest.decide] at decided
        split at decided
        · cases decided
        · cases decided
          obtain rfl := Option.some.inj written
          rfl
    | delete ifMatch referenced =>
        simp only [IdentityRepository.protocol, IdentityRequest.decide] at decided
        split at decided
        · cases decided
        · split at decided
          · cases decided
          · cases decided
            cases written
  reread_version identity found := by
    cases repository <;> rfl
  reread_self identity := by
    cases repository <;> rfl

/-- What an accepted request makes of the identity that it has read: its own part
changes, the version is raised, and the other part stays. -/
def IdentityRequest.result : IdentityRequest → IdentityRecord → Option IdentityRecord
  | .patch _ update, identity =>
    some { update.apply identity with version := identity.version + 1 }
  | .preferences _ value, identity =>
    some { identity with preferences := value, version := identity.version + 1 }
  | .delete _ _, _ => none

/-- The accepted writes in turn: each has read what it replaces. -/
def WritesInTurn : Option IdentityRecord → List (Accepted IdentityRecord IdentityRequest) →
    Option IdentityRecord → Prop
  | start, [], final => final = start
  | start, x :: rest, final =>
    start = some x.read ∧ x.before = x.read ∧ x.after = x.request.result x.read ∧
      WritesInTurn x.after rest final

theorem result_of_serial {repository : IdentityRepository}
    {x : Accepted IdentityRecord IdentityRequest} (serial : repository.protocol.Serial x) :
    x.after = x.request.result x.before := by
  obtain ⟨-, ⟨write, decided, after⟩, -⟩ := serial
  obtain ⟨request, read, before, _⟩ := x
  simp only at decided after ⊢
  subst after
  cases request with
  | patch ifMatch update =>
      simp only [IdentityRepository.protocol, IdentityRequest.decide] at decided
      split at decided
      · cases decided
      · cases decided
        cases repository <;> rfl
  | preferences ifMatch value =>
      simp only [IdentityRepository.protocol, IdentityRequest.decide] at decided
      split at decided
      · cases decided
      · cases decided
        rfl
  | delete ifMatch referenced =>
      simp only [IdentityRepository.protocol, IdentityRequest.decide] at decided
      split at decided
      · cases decided
      · split at decided
        · cases decided
        · cases decided
          rfl

theorem writesInTurn_of_chained {repository : IdentityRepository}
    {history : List (Accepted IdentityRecord IdentityRequest)} {start final : Option IdentityRecord}
    (chained : repository.protocol.Chained start history final) :
    WritesInTurn start history final := by
  induction history generalizing start with
  | nil => exact chained
  | cons x rest ih =>
      obtain ⟨before, serial, rest⟩ := chained
      refine ⟨serial.read ▸ before, serial.read.symm, ?_, ih rest⟩
      rw [serial.read]
      exact result_of_serial serial

/-- In every interleaving of requests on an identity the accepted writes follow
each other; after a deletion nothing is accepted. -/
theorem identity_writes_in_turn (repository : IdentityRepository)
    {requests : Nat → IdentityRequest} {identity : Option IdentityRecord}
    {c : Config IdentityRecord IdentityRequest}
    (run : ReflTransGen (Step repository.protocol requests) (Config.start identity) c) :
    WritesInTurn identity c.history c.committed :=
  writesInTurn_of_chained ((identity_protocol_lawful repository).chained run)

namespace Sample

def identity : IdentityRecord :=
  { id := ⟨9⟩, version := 0, displayName := "A", firstName := "A", lastName := "A"
    birthDate := ⟨1990, 1, 1⟩, documents := []
    preferences := ⟨⟨none, none, none⟩, ⟨true, [.webhook], none⟩⟩ }

def silent : Preferences := ⟨⟨none, none, none⟩, ⟨false, [], none⟩⟩

/-- A new name, the preferences twice, and a deletion. -/
def changes : Nat → IdentityRequest
  | 0 => .patch (some "\"0\"") { displayName := some "B" }
  | 1 => .preferences (some "\"0\"") silent
  | 2 => .preferences (some "\"1\"") silent
  | _ => .delete (some "\"2\"") false

def named : IdentityRecord := { identity with displayName := "B", version := 1 }

def silenced : IdentityRecord := { named with preferences := silent, version := 2 }

def changesAccepted : List (Accepted IdentityRecord IdentityRequest) :=
  [⟨changes 0, identity, identity, some named⟩, ⟨changes 2, named, named, some silenced⟩,
    ⟨changes 3, silenced, silenced, none⟩]

abbrev IdentityConfig : Type := Config IdentityRecord IdentityRequest

def bothLoaded : IdentityConfig :=
  ((((Config.start (some identity)).enter 0 (.reading identity)).enter 0 (.loaded identity)).enter 1
    (.reading identity)).enter 1 (.loaded identity)

/-- The name is saved, and the preferences, read before it, are refused. -/
def nameSaved : IdentityConfig :=
  (bothLoaded.commit 0 ⟨changes 0, identity, identity, some named⟩).refuse 1 (changes 1) identity

def preferencesSaved : IdentityConfig :=
  ((nameSaved.enter 2 (.reading named)).enter 2 (.loaded named)).commit 2
    ⟨changes 2, named, named, some silenced⟩

def identityDeleted : IdentityConfig :=
  ((preferencesSaved.enter 3 (.reading silenced)).enter 3 (.loaded silenced)).commit 3
    ⟨changes 3, silenced, silenced, none⟩

abbrev IdentityRun : IdentityConfig → IdentityConfig → Prop :=
  ReflTransGen (Step IdentityRepository.sqlAlchemy.protocol changes)

theorem identity_changed : IdentityRun (.start (some identity)) identityDeleted := by
  have first : IdentityRun (.start (some identity)) _ := Step.loads (i := 0) rfl rfl
  have second : IdentityRun _ bothLoaded := Step.loads (i := 1) rfl rfl
  have save := @Step.save _ _ IdentityRepository.sqlAlchemy.protocol changes bothLoaded 0 identity
    identity (fun row => some (IdentityRepository.sqlAlchemy.update named row)) rfl rfl rfl rfl rfl
  have conflict := @Step.conflict _ _ IdentityRepository.sqlAlchemy.protocol changes
    (bothLoaded.commit 0 ⟨changes 0, identity, identity, some named⟩) 1 identity
    (fun row => some (IdentityRepository.updatePreferences silent row)) rfl rfl rfl
    (by simp [Config.commit, IdentityRepository.protocol, named, identity])
  have third : IdentityRun nameSaved _ := Step.loads (i := 2) rfl rfl
  have again := @Step.save _ _ IdentityRepository.sqlAlchemy.protocol changes
    ((nameSaved.enter 2 (.reading named)).enter 2 (.loaded named)) 2 named named
    (fun row => some (IdentityRepository.updatePreferences silent row)) rfl rfl rfl rfl rfl
  have last : IdentityRun preferencesSaved _ := Step.loads (i := 3) rfl rfl
  have delete := @Step.save _ _ IdentityRepository.sqlAlchemy.protocol changes
    ((preferencesSaved.enter 3 (.reading silenced)).enter 3 (.loaded silenced)) 3 silenced silenced
    (fun _ => none) rfl rfl rfl rfl rfl
  have names : IdentityRun (.start (some identity)) nameSaved :=
    .tail (.tail (first.trans second) save) conflict
  exact .tail ((ReflTransGen.tail (names.trans third) again).trans last) delete

end Sample

/-- The name and the preferences change in turn, then the identity is deleted. -/
theorem identity_writes_in_turn_renamed :
    WritesInTurn (some Sample.identity) Sample.changesAccepted none :=
  identity_writes_in_turn .sqlAlchemy Sample.identity_changed

end PurchaseAgent
