import PurchaseAgent.Storage.SqlIdempotency

/-!
Creation under idempotency keys in the database. Whatever the transactions of the
requests do at the same time, the committed creations, the replays and the
conflicts are those of requests that are served one after the other.
-/

namespace PurchaseAgent

open Relation Transactions UniqueKey

/-- What the log of a run of creation requests shows. -/
structure CreationsInTurn (library : CreationLibrary) (requests : Nat → KeyedCreation)
    (rows : List ResourceCreationReceiptRow)
    (c : UniqueKey.Config ReceiptKey String UUID) : Prop where
  /-- Every answer, but for the failed assertion, is the one that the request has if it is
  served at once, after those before. -/
  serial : Serial (fun i => (requests i).receipt library) (keptOf rows) c.log
  /-- No request is answered twice. -/
  once : (answered c.log).Nodup
  /-- Nobody is told that another request is still in progress. -/
  waits : ∀ i, .answered i .inProgress ∉ c.log
  /-- A key creates again only after its receipt has been pruned. -/
  recreated : ∀ front middle back i j id id',
    c.log = front ++ .answered i (.created id) ::
      (middle ++ .answered j (.created id') :: back) →
    ((requests i).receipt library).1 = ((requests j).receipt library).1 →
      ∃ keys, .pruned keys ∈ middle ∧ ((requests i).receipt library).1 ∈ keys
  /-- The assertion on the receipt fails only when its key stands for nothing, because
  maintenance has pruned it. -/
  missed : Missed (fun i => (requests i).receipt library) (keptOf rows) c.log
  /-- What is committed is completed, and is what the answers say. -/
  stored : (∀ row ∈ c.rows, row.result ≠ none) ∧
    keptOf c.rows = (keptOf rows).replay (fun i => (requests i).receipt library) c.log

/-- In every run of concurrent creation requests and maintenance in the database, the
requests are served as if they came one after the other. -/
theorem sql_creations_in_turn (library : CreationLibrary) (requests : Nat → KeyedCreation)
    (rows : List ResourceCreationReceiptRow) (completed : ∀ row ∈ rows, row.result ≠ none)
    (c : UniqueKey.Config ReceiptKey String UUID)
    (run : ReflTransGen (UniqueKey.Step (creationReceipts library requests)) (.start rows) c) :
    CreationsInTurn library requests rows c := by
  have inv := (inv_start (p := creationReceipts library requests) completed).run run
  refine
    { serial := inv.serial
      once := inv.once
      waits := fun i member => ?_
      recreated := fun front middle back i j id id' split same =>
        inv.serial.pruned_between split same
      missed := inv.missed
      stored := ⟨inv.completed, inv.replayed.symm⟩ }
  obtain ⟨front, back, split⟩ := List.append_of_mem member
  exact inv.serial.allows split (by simp)

namespace Sample

def creationLibrary : CreationLibrary := ⟨id, fun _ => "m", fun _ => "i"⟩

def newIdentity : IdentityCreate where
  displayName := "A"
  firstName := "A"
  lastName := "A"
  birthDate := ⟨1990, 1, 1⟩
  documents := []
  preferences := ⟨⟨none, none, none⟩, ⟨true, [.webhook], none⟩⟩

/-- The same identity again and again, under one key. -/
def twice (_ : Nat) : KeyedCreation := .identity newIdentity "k"

def twiceReceipts : UniqueKey.Protocol ReceiptKey String UUID := creationReceipts creationLibrary twice

def twiceStored : ResourceCreationReceiptRow := ⟨(.identity, "k"), "i", some ⟨5⟩, 0⟩

def twiceCreated : UniqueKey.Config ReceiptKey String UUID :=
  ((((Config.start []).enter 0 (.inserted 0)).enter 0 (.completed 0 ⟨5⟩)).commit 0 twiceStored ⟨5⟩)

def twiceReplayed : UniqueKey.Config ReceiptKey String UUID :=
  (twiceCreated.enter 1 .conflicting).answer 1 (.replayed ⟨5⟩)

/-- A third request meets the receipt, which is pruned before it reads it. -/
def twiceMissed : UniqueKey.Config ReceiptKey String UUID :=
  ((twiceReplayed.enter 2 .conflicting).prune [(.identity, "k")]).answer 2 .missing

theorem twice_run : ReflTransGen (UniqueKey.Step twiceReceipts) (.start []) twiceMissed := by
  have insert : UniqueKey.Step twiceReceipts (.start []) _ :=
    .insert (i := 0) rfl 0 rfl (fun _ holds => nomatch holds)
  have complete := @UniqueKey.Step.complete _ _ _ _ _ twiceReceipts
    ((Config.start []).enter 0 (.inserted 0)) 0 0 rfl ⟨5⟩ trivial
  have commit := @UniqueKey.Step.commit _ _ _ _ _ twiceReceipts
    (((Config.start []).enter 0 (.inserted 0)).enter 0 (.completed 0 ⟨5⟩)) 0 0 ⟨5⟩ rfl
  have conflict := @UniqueKey.Step.conflict _ _ _ _ _ twiceReceipts twiceCreated 1 rfl (by decide)
  have read := @UniqueKey.Step.read _ _ _ _ _ twiceReceipts (twiceCreated.enter 1 .conflicting) 1 rfl
  have meet := @UniqueKey.Step.conflict _ _ _ _ _ twiceReceipts twiceReplayed 2 rfl (by decide)
  have prune := @UniqueKey.Step.prune _ _ _ _ _ twiceReceipts
    (twiceReplayed.enter 2 .conflicting) [(.identity, "k")] ⟨1, 1, rfl⟩
  have miss := @UniqueKey.Step.read _ _ _ _ _ twiceReceipts
    ((twiceReplayed.enter 2 .conflicting).prune [(.identity, "k")]) 2 rfl
  exact .tail (.tail (.tail (.tail (.tail (.tail (.tail (.single insert) complete) commit)
    conflict) read) meet) prune) miss

end Sample

/-- Three requests under one key, the last while the receipt is pruned. -/
theorem sql_creations_in_turn_twice :
    CreationsInTurn Sample.creationLibrary Sample.twice [] Sample.twiceMissed :=
  sql_creations_in_turn Sample.creationLibrary Sample.twice [] (by decide) Sample.twiceMissed
    Sample.twice_run

end PurchaseAgent
