import PurchaseAgent.Api.MissionCommands
import PurchaseAgent.Storage.SqlIdempotency

/-!
Mission commands under idempotency keys in the database. A request holds its receipt
for as long as its transaction runs, so requests with one key wait for each other.
Whatever runs at the same time, one of them is carried out.
-/

namespace PurchaseAgent

open Relation Transactions UniqueKey

/-- What a request for a command begins its receipt with. -/
def MissionCommandRequest.receipt (request : MissionCommandRequest) :
    String × UUID × MissionCommandType :=
  (request.idempotencyKey, request.missionId, request.command)

/-- A row of `mission_command_receipts`; its result is `result_mission_id`. -/
abbrev MissionCommandReceiptRow := UniqueKey.Row String (UUID × MissionCommandType) UUID

/-- The requests against `SqlAlchemyMissionCommandIdempotencyStore`. A command returns
its own mission, and no receipt is ever pruned. -/
def commandReceipts (requests : Nat → MissionCommandRequest) :
    UniqueKey.Protocol String (UUID × MissionCommandType) UUID where
  requests i := (requests i).receipt
  works i id := id = (requests i).missionId
  prunes _ _ := False

/-- What the log of a run of command requests shows. -/
structure CommandsInTurn (requests : Nat → MissionCommandRequest)
    (rows : List MissionCommandReceiptRow)
    (c : UniqueKey.Config String (UUID × MissionCommandType) UUID) : Prop where
  /-- Every answer is the one the request has if it is served at once, after those before. -/
  serial : Serial (fun i => (requests i).receipt) (keptOf rows) c.log
  /-- A key is carried out at most once, and not at all if it has a receipt already. -/
  once : ∀ i j id id', .answered i (.created id) ∈ c.log → .answered j (.created id') ∈ c.log →
    (requests i).idempotencyKey = (requests j).idempotencyKey → i = j
  stored : ∀ i id, .answered i (.created id) ∈ c.log →
    find rows (requests i).idempotencyKey = none
  /-- Executed or replayed, a request is answered with the mission it names. -/
  own : ∀ i id, .answered i (.created id) ∈ c.log ∨ .answered i (.replayed id) ∈ c.log →
    id = (requests i).missionId
  /-- Nobody is told that the command is in progress, and no receipt is missed. -/
  settled : ∀ i, .answered i .inProgress ∉ c.log ∧ .answered i .missing ∉ c.log
  /-- A conflict is about a key that stands for another command or another mission. -/
  conflicts : ∀ i, .answered i .conflict ∈ c.log → ∃ request,
    request ≠ ((requests i).missionId, (requests i).command) ∧
      ((∃ row ∈ rows, row.key = (requests i).idempotencyKey ∧ row.request = request) ∨
        ∃ j id, .answered j (.created id) ∈ c.log ∧
          (requests j).receipt = ((requests i).idempotencyKey, request))

section
variable {requests : Nat → MissionCommandRequest} {rows : List MissionCommandReceiptRow}
  {c : UniqueKey.Config String (UUID × MissionCommandType) UUID}

theorem unpruned_of_accountable (accounts : Accountable (commandReceipts requests) c)
    (keys : List String) : .pruned keys ∉ c.log := by
  intro member
  obtain ⟨_, impossible⟩ := accounts.pruned keys member
  exact impossible

/-- What is kept under a key is the mission that was asked for. -/
theorem kept_named (completed : ∀ row ∈ rows, row.result = some row.request.1)
    (accounts : Accountable (commandReceipts requests) c)
    {front back : List (UniqueKey.Entry String UUID)} (split : c.log = front ++ back) {key : String}
    {request : UUID × MissionCommandType} {id : UUID}
    (found : (keptOf rows).replay (fun i => (requests i).receipt) front key = some (request, id)) :
    id = request.1 := by
  rcases Kept.replay_eq_some front found with before | ⟨i, member, own⟩
  · obtain ⟨row, listed, kept⟩ := Option.bind_eq_some_iff.mp before
    rw [completed row (find_some listed).1] at kept
    cases kept
    rfl
  · have works := accounts.created i id (split ▸ List.mem_append_left back member)
    have mission : (requests i).missionId = request.1 :=
      congrArg (fun receipt => receipt.2.1) own
    exact works.trans mission

/-- A key that keeps nothing has no receipt. -/
theorem find_of_unkept (completed : ∀ row ∈ rows, row.result = some row.request.1) {key : String}
    (unkept : keptOf rows key = none) : find rows key = none := by
  cases found : find rows key with
  | none => rfl
  | some row => simp [keptOf, found, completed row (find_some found).1] at unkept

/-- What a conflict is about is a receipt from before, or one that has been created. -/
theorem kept_receipt {front : List (UniqueKey.Entry String UUID)} {key : String}
    {request : UUID × MissionCommandType} {id : UUID}
    (found : (keptOf rows).replay (fun i => (requests i).receipt) front key = some (request, id)) :
    (∃ row ∈ rows, row.key = key ∧ row.request = request) ∨
      ∃ j id, .answered j (.created id) ∈ front ∧ (requests j).receipt = (key, request) := by
  rcases Kept.replay_eq_some front found with before | ⟨j, created, own⟩
  · obtain ⟨row, listed, kept⟩ := Option.bind_eq_some_iff.mp before
    obtain ⟨result, -, same⟩ := Option.map_eq_some_iff.mp kept
    exact .inl ⟨row, (find_some listed).1, (find_some listed).2, congrArg Prod.fst same⟩
  · exact .inr ⟨j, id, created, own⟩

end

/-- In every run of concurrent requests for commands in the database, the requests are
served as if they came one after the other, and no key is carried out twice. -/
theorem sql_commands_in_turn (requests : Nat → MissionCommandRequest)
    (rows : List MissionCommandReceiptRow)
    (completed : ∀ row ∈ rows, row.result = some row.request.1)
    (c : UniqueKey.Config String (UUID × MissionCommandType) UUID)
    (run : ReflTransGen (UniqueKey.Step (commandReceipts requests)) (.start rows) c) :
    CommandsInTurn requests rows c := by
  have finished : ∀ row ∈ rows, row.result ≠ none := by
    intro row member none
    rw [completed row member] at none
    cases none
  have inv := (inv_start (p := commandReceipts requests) finished).run run
  have accounts := (accountable_start (p := commandReceipts requests) rows).run run
  have unpruned := unpruned_of_accountable accounts
  have serial : Serial (fun i => (requests i).receipt) (keptOf rows) c.log := inv.serial
  refine ⟨serial, ?_, ?_, ?_, ?_, ?_⟩
  · intro i j id id' first second same
    exact serial.created_once unpruned first second same
  · intro i id member
    exact find_of_unkept completed (serial.created_new unpruned member)
  · intro i id either
    rcases either with created | replayed
    · exact accounts.created i id created
    · obtain ⟨front, back, split⟩ := List.append_of_mem replayed
      exact kept_named completed accounts split (serial.allows split (by simp))
  · intro i
    constructor
    · intro member
      obtain ⟨front, back, split⟩ := List.append_of_mem member
      exact serial.allows split (by simp)
    · intro member
      obtain ⟨front, back, split⟩ := List.append_of_mem member
      obtain ⟨-, keys, pruned, -⟩ := inv.missed front _ back split i rfl
      exact unpruned keys (split ▸ List.mem_append_left _ pruned)
  · intro i member
    obtain ⟨front, back, split⟩ := List.append_of_mem member
    obtain ⟨request, id, found, differs⟩ := serial.allows split (by simp)
    refine ⟨request, differs, ?_⟩
    rcases kept_receipt found with listed | ⟨j, id, created, own⟩
    · exact .inl listed
    · exact .inr ⟨j, id, split ▸ List.mem_append_left _ created, own⟩

namespace Sample

/-- A run, the same run again, a pause under its key, and a run under another key. -/
def commandsOfKeys : Nat → MissionCommandRequest
  | 0 | 1 => ⟨.run, ⟨7⟩, "k", none, none⟩
  | 2 => ⟨.pause, ⟨7⟩, "k", none, none⟩
  | _ => ⟨.run, ⟨8⟩, "l", none, none⟩

def keysReceipts : UniqueKey.Protocol String (UUID × MissionCommandType) UUID :=
  commandReceipts commandsOfKeys

abbrev KeysConfig : Type := UniqueKey.Config String (UUID × MissionCommandType) UUID

/-- Two transactions are open at a time, and the first of them commits. -/
def keysRun : KeysConfig :=
  ((((Config.start []).enter 0 (.inserted 0)).enter 3 (.inserted 1)).enter 0
    (.completed 0 ⟨7⟩)).commit 0 ⟨"k", (⟨7⟩, .run), some ⟨7⟩, 0⟩ ⟨7⟩

def keysAnswered : KeysConfig :=
  ((((keysRun.enter 1 .conflicting).enter 2 .conflicting).answer 2 .conflict).answer 1
    (.replayed ⟨7⟩))

def keysCommitted : KeysConfig :=
  (keysAnswered.enter 3 (.completed 1 ⟨8⟩)).commit 3 ⟨"l", (⟨8⟩, .run), some ⟨8⟩, 1⟩ ⟨8⟩

theorem keys_begin : ReflTransGen (UniqueKey.Step keysReceipts) (.start []) keysRun := by
  have first : UniqueKey.Step keysReceipts (.start []) _ :=
    .insert (i := 0) rfl 0 rfl (fun _ holds => absurd holds Bool.false_ne_true)
  have other := @UniqueKey.Step.insert _ _ _ _ _ keysReceipts
    ((Config.start []).enter 0 (.inserted 0)) 3 rfl 1 rfl (by
      intro j holds
      by_cases same : j = 0
      · subst same
        decide
      · simp [Config.enter, Config.start, same, Stage.holds] at holds)
  have complete := @UniqueKey.Step.complete _ _ _ _ _ keysReceipts
    (((Config.start []).enter 0 (.inserted 0)).enter 3 (.inserted 1)) 0 0 rfl ⟨7⟩ rfl
  have commit := @UniqueKey.Step.commit _ _ _ _ _ keysReceipts
    ((((Config.start []).enter 0 (.inserted 0)).enter 3 (.inserted 1)).enter 0
      (.completed 0 ⟨7⟩)) 0 0 ⟨7⟩ rfl
  exact .tail (.tail (.tail (.single first) other) complete) commit

theorem keys_answer : ReflTransGen (UniqueKey.Step keysReceipts) keysRun keysCommitted := by
  have again := @UniqueKey.Step.conflict _ _ _ _ _ keysReceipts keysRun 1 rfl (by decide)
  have pause := @UniqueKey.Step.conflict _ _ _ _ _ keysReceipts
    (keysRun.enter 1 .conflicting) 2 rfl (by decide)
  have refuse := @UniqueKey.Step.read _ _ _ _ _ keysReceipts
    ((keysRun.enter 1 .conflicting).enter 2 .conflicting) 2 rfl
  have replay := @UniqueKey.Step.read _ _ _ _ _ keysReceipts
    (((keysRun.enter 1 .conflicting).enter 2 .conflicting).answer 2 .conflict) 1 rfl
  have complete := @UniqueKey.Step.complete _ _ _ _ _ keysReceipts keysAnswered 3 1 rfl ⟨8⟩ rfl
  have commit := @UniqueKey.Step.commit _ _ _ _ _ keysReceipts
    (keysAnswered.enter 3 (.completed 1 ⟨8⟩)) 3 1 ⟨8⟩ rfl
  exact .tail (.tail (.tail (.tail (.tail (.single again) pause) refuse) replay) complete) commit

end Sample

/-- Concurrent commands of two keys: one of each is carried out. -/
theorem sql_commands_in_turn_keys :
    CommandsInTurn Sample.commandsOfKeys [] Sample.keysCommitted :=
  sql_commands_in_turn Sample.commandsOfKeys [] (by simp) Sample.keysCommitted
    (Sample.keys_begin.trans Sample.keys_answer)

end PurchaseAgent
