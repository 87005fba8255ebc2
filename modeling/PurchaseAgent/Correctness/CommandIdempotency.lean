import PurchaseAgent.Api.MissionCommands
import PurchaseAgent.Correctness.ApiRules

/-!
Idempotency of mission commands: any number of calls, interleaved in any way,
over one receipt store. A call that finds the key taken executes nothing, and
what has been completed under a key stays.
-/

namespace PurchaseAgent

open Cooperative Receipts Collections
open InMemoryMissionCommandIdempotencyStore (Api)

variable {B : Backend} {σ : Type} {env : Environment σ}

/-- The machine of the calls. -/
abbrev commandMachine (env : Environment σ) :
    Machine (Receipts.signature String (UUID × MissionCommandType) UUID (signature B))
      (Receipts.World String (UUID × MissionCommandType) UUID (World B.State σ)) :=
  Receipts.machine String (UUID × MissionCommandType) UUID (machine B env)

abbrev CallConfig (B : Backend) (σ : Type) :=
  Config (Receipts.signature String (UUID × MissionCommandType) UUID (signature B))
    (Receipts.World String (UUID × MissionCommandType) UUID (World B.State σ))
    (Except ApiException Ref)

/-- Calls over an empty store. -/
def startCalls (repository : MissionRepository B) (calls : TaskId → MissionCommandCall B)
    (inner : World B.State σ) : CallConfig B σ where
  shared := ⟨[], inner, []⟩
  tasks t := ((calls t).run repository).run
  running := none

/-- `execute` runs only under an unfinished receipt; a replay only loads. -/
def callProtocol (env : Environment σ) (repository : MissionRepository B)
    (calls : TaskId → MissionCommandCall B) :
    Protocol String (UUID × MissionCommandType) UUID (machine B env) where
  requests t := ((calls t).idempotencyKey, (calls t).missionId, (calls t).command)
  uses _ := True
  work _ o stage := stage = some .begun ∨
    ∃ previous, stage = some (.replayed previous) ∧ (repository.get previous).run.Mentions o
  invariant _ := True
  good _ _ _ := True
  abortsReplays := False
  keeps _ _ _ _ := trivial
  stable _ _ _ _ _ _ _ := trivial

/-- What a call ends with at the stage it has reached. No call ends with an
unfinished receipt of its own. -/
def Answers : Option (Receipts.Stage UUID) → Except ApiException Ref → Prop
  | some (.refused .conflict), result =>
      result = .error .missionCommandIdempotencyConflictError
  | some (.refused .inProgress), result => result = .error .missionCommandInProgressError
  | some (.completed _), result => ∃ mission, result = .ok mission
  | some .aborted, result => ∃ error, result = .error error
  | some (.replayed _), _ => True
  | none, _ | some .begun, _ | some (.succeeded _), _ | some .failed, _ => False

theorem not_answers_of_open {K P S : Type} {w : Receipts.World K P UUID S} {t : TaskId}
    (o : w.Open t) {result : Except ApiException Ref} : ¬ Answers (w.stage t) result := by
  obtain ⟨stage, reached, opened⟩ := o
  rw [reached]
  cases stage with
  | begun | succeeded | failed => exact id
  | refused | replayed | completed | aborted => cases opened

section Program
variable {repository : MissionRepository B} {t : TaskId}
  {p : Protocol String (UUID × MissionCommandType) UUID (machine B env)}
  {w : Receipts.World String (UUID × MissionCommandType) UUID (World B.State σ)}

/-- What a protocol has to allow a task for a command. -/
structure Permits (p : Protocol String (UUID × MissionCommandType) UUID (machine B env)) (t : TaskId)
    (repository : MissionRepository B) (key : String) (missionId : UUID)
    (command : MissionCommandType) (execute : Service B Ref) : Prop where
  own : (key, missionId, command) = p.requests t
  uses : p.uses t
  execution : ∀ o, p.work t o (some .begun)
  replay : ∀ previous o, (repository.get previous).run.Mentions o →
    p.work t o (some (.replayed previous))
  good : ∀ w, (Discipline.anything (machine B env)).Safe t
    (fun outcome w' => ∀ result id, outcome = .ok (result, id) → p.good (p.requests t).1 id w')
    (resultWithId execute).run w

variable {key : String} {missionId : UUID} {command : MissionCommandType} {execute : Service B Ref}

/-- An execution ends with a success or a failure. -/
theorem safe_executeRecorded (permits : Permits p t repository key missionId command execute)
    (h : p.Inv w) (working : w.stage t = some .begun) :
    ApiTask.Safe p t (executeRecorded execute) (fun result w' => p.Inv w' ∧ match result with
      | .ok (_, id) => w'.stage t = some (.succeeded id)
      | .error _ => w'.stage t = some .failed) w := by
  refine ApiTask.safe_attempt.mpr (ApiTask.safe_mono ?_ (ApiTask.safe_service_ending _ h working
    (Prog.each_of_mentions _ fun o _ => permits.execution o) (permits.good w.inner)))
  rintro _ w₁ ⟨inv, at_work, error | ⟨result, id⟩, good, rfl⟩
  · exact ApiTask.safe_left inv at_work (fun _ none => nomatch none) fun w₂ later failed =>
      ⟨later, failed⟩
  · refine ApiTask.safe_left inv at_work (fun r same => ?_) fun w₂ later success =>
      ⟨later, success⟩
    obtain rfl := Option.some.inj same
    exact good result id rfl

/-- What the `try` block ends with. -/
def TryStage : Except ApiException Ref → Option (Receipts.Stage UUID) → Prop
  | .ok _, stage => ∃ id, stage = some (.completed id)
  | .error _, stage => stage = some .failed

/-- The call follows the protocol. -/
theorem safe_executeIdempotentMissionCommand
    (permits : Permits p t repository key missionId command execute) (h : p.Inv w)
    (fresh : w.stage t = none) :
    ApiTask.Safe p t (executeIdempotentMissionCommand repository missionId command key execute)
      (fun result w' => p.Inv w' ∧ Answers (w'.stage t) result) w := by
  have ownKey : (p.requests t).1 = key := (congrArg Prod.fst permits.own).symm
  refine ApiTask.safe_seq (ApiTask.safe_begin permits.own permits.uses h fresh) ?_ ?_
  · rintro (_ | previous) w₁ ⟨inv, -, stage⟩
    · refine ApiTask.safe_attempt.mpr (ApiTask.safe_mono (Q := fun result w' =>
        p.Inv w' ∧ TryStage result (w'.stage t)) ?_ ?_)
      · rintro (error | result) w₂ ⟨inv', at_end⟩
        · refine ApiTask.safe_after (ApiTask.safe_abort permits.own inv' at_end) ?_
          rintro w₃ ⟨later, aborted⟩
          refine ⟨later, ?_⟩
          rw [aborted]
          exact ⟨_, rfl⟩
        · obtain ⟨id, completed⟩ := at_end
          refine ⟨inv', ?_⟩
          rw [completed]
          exact ⟨_, rfl⟩
      · refine ApiTask.safe_seq (safe_executeRecorded permits inv stage) ?_
          fun _ _ raised => raised
        rintro ⟨result, id⟩ w₂ ⟨inv', success⟩
        have completing := ApiTask.safe_complete inv' success
        rw [ownKey] at completing
        refine ApiTask.safe_after completing ?_
        rintro w₃ ⟨later, completed⟩
        exact ⟨later, id, completed⟩
    · refine ApiTask.safe_seq (ApiTask.safe_service (repository.get previous) inv stage
        (Prog.each_of_mentions _ (permits.replay previous))) ?_ ?_
      · rintro (_ | result) w₂ ⟨inv', replayed, -⟩
        all_goals
          refine ⟨inv', ?_⟩
          rw [replayed]
          trivial
      · rintro e w₂ ⟨inv', replayed, -⟩
        refine ⟨inv', ?_⟩
        rw [replayed]
        trivial
  · rintro error w₁ ⟨inv, -, ⟨rfl, refused⟩ | ⟨rfl, refused⟩⟩
    all_goals
      refine ⟨inv, ?_⟩
      rw [refused]
      rfl

theorem permits_call (calls : TaskId → MissionCommandCall B) :
    Permits (callProtocol env repository calls) t repository (calls t).idempotencyKey
      (calls t).missionId (calls t).command (calls t).execute where
  own := rfl
  uses := trivial
  execution _ := .inl rfl
  replay previous _ mentioned := .inr ⟨previous, rfl, mentioned⟩
  good w := by
    have each : (resultWithId (calls t).execute).run.Each (fun _ _ => True) (fun _ => True)
        fun outcome => ∀ result id, outcome = .ok (result, id) →
          (callProtocol env repository calls).good (calls t).idempotencyKey id w :=
      Prog.each_mono (fun _ _ _ _ _ => trivial) _ (Prog.each_of_mentions _ fun _ _ => trivial)
    exact Discipline.safe_anything_of_each _ w each

end Program

section Interleavings
variable {repository : MissionRepository B} {calls : TaskId → MissionCommandCall B}
  {inner : World B.State σ} {t : TaskId}

/-- What one step of a call does to the receipts. -/
structure CallStep (env : Environment σ) (repository : MissionRepository B)
    (calls : TaskId → MissionCommandCall B) (c : CallConfig B σ) (t : TaskId) : Prop where
  /-- A call that was refused does nothing any more. -/
  refused : ∀ o, c.Performs (commandMachine env) t o →
    ∀ reason, c.shared.stage t ≠ some (.refused reason)
  /-- Only a call that holds the receipt executes; a replay loads its result. -/
  executes : ∀ o, c.Performs (commandMachine env) t (.inner o) →
    c.shared.stage t = some .begun ∨
      ∃ previous, c.shared.stage t = some (.replayed previous) ∧
        (repository.get previous).run.Mentions o
  /-- A call is refused while another one holds the key. -/
  taken : ∀ key request, c.Performs (commandMachine env) t (.begin key request) →
    ∀ other, c.shared.Open other → (calls other).idempotencyKey = key →
      ∃ reason, c.shared.table.begin key request = (.error reason, c.shared.table)
  /-- The key of another command conflicts. -/
  conflict : ∀ key request, c.Performs (commandMachine env) t (.begin key request) →
    ∀ receipt, c.shared.table.get? key = some receipt →
      receipt.request ≠ ((calls t).missionId, (calls t).command) →
      c.shared.table.begin key request = (.error .conflict, c.shared.table)
  /-- Completed receipts stay. -/
  kept : Kept c.shared (c.step (commandMachine env) t).shared
  /-- The receipt of a call whose execution raised is removed, and no other. -/
  freed : ∀ key request, c.Performs (commandMachine env) t (.abort key request) →
    key = (calls t).idempotencyKey ∧ c.shared.stage t = some .failed ∧
      c.shared.table.get? key = some ⟨request, none⟩ ∧
      (c.step (commandMachine env) t).shared.table.get? key = none ∧
      ∀ other, other ≠ key →
        (c.step (commandMachine env) t).shared.table.get? other = c.shared.table.get? other

theorem callStep {c : CallConfig B σ} (inv : (callProtocol env repository calls).Inv c.shared)
    (allowed : ∀ o, c.Performs (commandMachine env) t o →
      (callProtocol env repository calls).Allowed t o c.shared) :
    CallStep env repository calls c t := by
  refine ⟨fun o performs reason at_refused => ?_, fun o performs => allowed _ performs,
    fun key request performs other o same => ?_, fun key request performs receipt stored other => ?_,
    ?_, fun key request performs => ?_⟩
  · have := allowed o performs
    cases o with
    | begin key request => cases at_refused.symm.trans this.2.2
    | complete key result => cases at_refused.symm.trans this.2
    | abort key request =>
        rcases this.2 with failed | ⟨never, -⟩
        · cases at_refused.symm.trans failed
        · exact never
    | left result => cases at_refused.symm.trans this.1
    | inner o =>
        rcases this with begun | ⟨_, replayed, -⟩
        · cases at_refused.symm.trans begun
        · cases at_refused.symm.trans replayed
  · have held := inv.sound.held other o
    change c.shared.table.get? (calls other).idempotencyKey = _ at held
    rw [same] at held
    by_cases equal : ((calls other).missionId, (calls other).command) = request
    · subst equal
      exact ⟨_, begin_of_taken held⟩
    · exact ⟨_, begin_of_other held equal⟩
  · obtain ⟨own, -⟩ := allowed _ performs
    obtain rfl : request = ((calls t).missionId, (calls t).command) := congrArg Prod.snd own
    exact begin_of_other stored other
  · rcases c.step_shared (commandMachine env) t with same | ⟨o, performs, same⟩
    · rw [same]
      exact Kept.refl _
    · rw [same]
      exact (inv.exec_sound (allowed o performs)).2
  · obtain ⟨own, reached⟩ := allowed _ performs
    obtain rfl : key = (calls t).idempotencyKey := congrArg Prod.fst own
    obtain rfl : request = ((calls t).missionId, (calls t).command) := congrArg Prod.snd own
    have failed := reached.resolve_right fun never => never.1
    have held := inv.sound.held t (.of_stage failed rfl)
    have table : (c.step (commandMachine env) t).shared.table =
        c.shared.table.erase (calls t).idempotencyKey := by
      rw [c.shared_of_performs _ performs]
      exact abort_of_held held
    refine ⟨rfl, failed, held, ?_, fun other differs => ?_⟩
    · rw [table, Dict.get?_erase_self]
    · rw [table, Dict.get?_erase_of_ne _ differs]

/-- For every interleaving of calls that start with no receipts, at most one
execution per key succeeds, no call ends with an unfinished receipt or with
anything but its refusal, every unfinished receipt is held by a call in flight,
and each step is as `CallStep` says. -/
theorem mission_command_idempotency (env : Environment σ) (repository : MissionRepository B)
    (calls : TaskId → MissionCommandCall B) (inner : World B.State σ) (sched : List TaskId) :
    let start := startCalls repository calls inner
    let c := start.run (commandMachine env) sched
    (c.shared.log.Pairwise fun a b => ∀ id id', a.2 = .succeeded id → b.2 = .succeeded id' →
        (calls a.1).idempotencyKey ≠ (calls b.1).idempotencyKey) ∧
      (∀ t result, c.tasks t = .pure result → Answers (c.shared.stage t) result) ∧
      (∀ key request, c.shared.table.get? key = some ⟨request, none⟩ →
        ∃ t, (calls t).idempotencyKey = key ∧ c.shared.Open t ∧ (c.tasks t).finished = false) ∧
      start.Along (commandMachine env) (CallStep env repository calls) sched := by
  intro start c
  have empty : (callProtocol env repository calls).Inv start.shared := Protocol.inv_start trivial
  obtain ⟨inv, answers, steps⟩ := Protocol.along (fun _ => Answers) empty rfl
    (fun t w h fresh => ApiTask.safe_mono (fun _ _ ended => ended.2)
      (safe_executeIdempotentMissionCommand (permits_call calls) h fresh)) sched
  refine ⟨inv.sound.once, answers, fun key request stored => ?_,
    Config.along_mono _ (fun c t h => callStep h.1 h.2) start sched steps⟩
  obtain ⟨t, o, same⟩ := inv.sound.owned key request stored
  refine ⟨t, same, o, ?_⟩
  cases ended : c.tasks t with
  | op o next => rfl
  | pure result =>
      exact absurd (answers t result ended) (not_answers_of_open o)

end Interleavings
end PurchaseAgent
