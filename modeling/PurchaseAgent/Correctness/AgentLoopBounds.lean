import PurchaseAgent.Collections.Streaks
import PurchaseAgent.Services.AgentLoopProtocol

/-!
What a run of the agent loop can do, whatever the provider decides and the
runtime answers: the commands it executes are told turn by turn.
-/

namespace PurchaseAgent

open Cooperative Collections

/-- An operation that was asked for, with its answer. -/
abbrev AgentExchange := (o : AgentLoopOp) × o.Answer

/-- The command that an exchange executes, with its result. -/
def AgentExchange.executed? : AgentExchange → Option (AgentDecision × CommandExecutionResult)
  | ⟨.executeCommand _ decision _, result⟩ => some (decision, result)
  | _ => none

/-- The calls of `execute_command` among the exchanges. -/
def executedCommands (exchanges : List AgentExchange) :
    List (AgentDecision × CommandExecutionResult) :=
  exchanges.filterMap AgentExchange.executed?

namespace AgentLoop

/-- The turns of a loop with that many steps left, with what it executes and returns. -/
inductive Cycle (limit : Nat) : Nat → AgentProgress →
    List (AgentDecision × CommandExecutionResult) → AgentLoopResult → Prop
  | exhausted (progress : AgentProgress) :
      Cycle limit 0 progress [] (progress.result .exhausted "maximum_steps_reached")
  | stalled {remaining : Nat} {progress : AgentProgress} (decision : AgentDecision)
      (repeated : limit ≤ progress.repeats decision.command) :
      Cycle limit (remaining + 1) progress [] (progress.result .stalled "repeated_command_limit")
  | ended {remaining : Nat} {progress : AgentProgress} (decision : AgentDecision)
      (metadata : Option AgentDecisionMetadata) (result : CommandExecutionResult)
      (status : AgentLoopStatus) (fresh : progress.repeats decision.command < limit)
      (last : endsWith decision.command result = some status) :
      Cycle limit (remaining + 1) progress [(decision, result)]
        ((progress.after decision metadata result).result status result.reasonCode)
  | next {remaining : Nat} {progress : AgentProgress} (decision : AgentDecision)
      (metadata : Option AgentDecisionMetadata) (result : CommandExecutionResult)
      {executed : List (AgentDecision × CommandExecutionResult)} {returned : AgentLoopResult}
      (fresh : progress.repeats decision.command < limit)
      (goesOn : endsWith decision.command result = none)
      (rest : Cycle limit remaining (progress.after decision metadata result) executed returned) :
      Cycle limit (remaining + 1) progress ((decision, result) :: executed) returned

/-- Every run of the loop is such a cycle. -/
theorem steps_cycle (limit : Nat) (approvedSensitive : Bool)
    (oracle : Nat → (o : AgentLoopOp) → o.Answer) (remaining : Nat) (progress : AgentProgress)
    (n : Nat) :
    Cycle limit remaining progress
      (executedCommands ((steps limit approvedSensitive remaining progress).performed oracle n))
      ((steps limit approvedSensitive remaining progress).answered oracle n) := by
  induction remaining generalizing progress n with
  | zero => exact .exhausted progress
  | succ remaining ih =>
      rw [steps]
      simp only [AgentLoopOp.ask, Prog.perform, Prog.bind_eq, Prog.op_bind, Prog.pure_bind',
        Prog.answered, Prog.performed]
      generalize oracle n (.captureVisualContext progress.current) = screenshot
      generalize oracle (n + 1) (.decide progress.current progress.steps screenshot) = answer
      obtain ⟨decision, metadata⟩ := answer
      dsimp only
      by_cases repeated : limit ≤ progress.repeats decision.command
      · simp only [if_pos repeated]
        exact .stalled decision repeated
      · simp only [if_neg repeated]
        have fresh := Nat.lt_of_not_le repeated
        simp only [Prog.answered, Prog.performed]
        generalize oracle (n + 1 + 1) (.executeCommand progress.current decision
          approvedSensitive) = result
        cases last : endsWith decision.command result with
        | some status => exact .ended decision metadata result status fresh last
        | none => exact .next decision metadata result fresh last (ih _ _)

section
variable {limit remaining : Nat} {progress : AgentProgress}
  {executed : List (AgentDecision × CommandExecutionResult)} {returned : AgentLoopResult}

theorem Cycle.length_le (cycle : Cycle limit remaining progress executed returned) :
    executed.length ≤ remaining := by
  induction cycle with
  | exhausted | stalled => exact Nat.zero_le _
  | ended => exact Nat.le_add_left _ _
  | next _ _ _ _ _ _ ih => exact Nat.succ_le_succ ih

theorem endsWith_ne_exhausted (command : BrowserCommand) (result : CommandExecutionResult) :
    endsWith command result ≠ some .exhausted := by
  cases command with
  | finish outcome summary => cases outcome <;> exact fun impossible => by cases impossible
  | askUser question => exact fun impossible => by cases impossible
  | _ =>
      simp only [endsWith]
      split <;> exact fun impossible => by cases impossible

/-- A run that is exhausted has executed a command for each step it had. -/
theorem Cycle.exhausted_length (cycle : Cycle limit remaining progress executed returned)
    (exhausted : returned.status = .exhausted) : executed.length = remaining := by
  induction cycle with
  | exhausted => rfl
  | stalled => cases exhausted
  | ended decision _ result status _ last =>
      have same : status = .exhausted := exhausted
      exact absurd (same ▸ last) (endsWith_ne_exhausted decision.command result)
  | next _ _ _ _ _ _ ih => exact congrArg (· + 1) (ih exhausted)

/-- The steps are the executed commands, numbered on from those before. -/
theorem Cycle.steps (cycle : Cycle limit remaining progress executed returned) :
    returned.steps.map (fun step => (step.decision, step.result)) =
        progress.steps.map (fun step => (step.decision, step.result)) ++ executed ∧
      returned.steps.map (·.sequence) = progress.steps.map (·.sequence) ++
        List.range' progress.sequence executed.length := by
  induction cycle with
  | exhausted | stalled => simp [AgentProgress.result]
  | ended => simp [AgentProgress.result, AgentProgress.after]
  | next _ _ _ _ _ _ ih =>
      obtain ⟨pairs, numbers⟩ := ih
      rw [pairs, numbers]
      simp [AgentProgress.after, List.range'_succ]

/-- The snapshot is the last one that came. -/
theorem Cycle.pageSnapshot (cycle : Cycle limit remaining progress executed returned) :
    returned.pageSnapshot =
      (executed.filterMap (·.2.pageSnapshot)).getLastD progress.snapshot := by
  induction cycle with
  | exhausted | stalled => rfl
  | ended _ _ result =>
      cases found : result.pageSnapshot with
      | none => simp [AgentProgress.result, AgentProgress.after, found]
      | some snapshot => simp [AgentProgress.result, AgentProgress.after, found]
  | next _ _ result _ _ _ ih =>
      rw [ih]
      cases found : result.pageSnapshot with
      | none => simp only [List.filterMap_cons, found, AgentProgress.after, Option.getD_none]
      | some snapshot =>
          simp only [List.filterMap_cons, found, AgentProgress.after, Option.getD_some,
            List.getLastD_cons]

/-- Only the last command can be one that ends the run. -/
theorem Cycle.goesOn (cycle : Cycle limit remaining progress executed returned) :
    ∀ entry ∈ executed.dropLast, endsWith entry.1.command entry.2 = none := by
  induction cycle with
  | exhausted | stalled | ended =>
      intro entry impossible
      cases impossible
  | @next _ _ decision _ result executed _ _ goesOn _ ih =>
      cases executed with
      | nil =>
          intro entry impossible
          cases impossible
      | cons first rest => exact List.forall_mem_cons.mpr ⟨goesOn, ih⟩

/-- The command that came last, as often as it has come in a row. -/
def carried (progress : AgentProgress) : List BrowserCommand :=
  match progress.previous with
  | none => []
  | some command => List.replicate progress.repeatedCommands command

/-- One command more: the carried ones grow or are left behind. -/
theorem carried_streak {progress : AgentProgress} (below : progress.repeatedCommands < limit)
    {decision : AgentDecision} (metadata : Option AgentDecisionMetadata)
    (result : CommandExecutionResult) {rest : List BrowserCommand}
    (later : ∀ command start,
      ¬ Streak limit (carried (progress.after decision metadata result) ++ rest) command start)
    (command : BrowserCommand) (start : Nat) :
    ¬ Streak limit (carried progress ++ decision.command :: rest) command start := by
  cases last : progress.previous with
  | none =>
      have one : carried (progress.after decision metadata result) = [decision.command] := by
        simp [carried, AgentProgress.after, AgentProgress.repeats, last]
      rw [one] at later
      simp only [carried, last, List.nil_append]
      exact later command start
  | some other =>
      by_cases same : other = decision.command
      · have more : carried (progress.after decision metadata result) =
            carried progress ++ [decision.command] := by
          simp [carried, AgentProgress.after, AgentProgress.repeats, last, same,
            List.replicate_succ']
        rw [more, List.append_assoc] at later
        exact later command start
      · have one : carried (progress.after decision metadata result) = [decision.command] := by
          simp [carried, AgentProgress.after, AgentProgress.repeats, last, same]
        rw [one] at later
        simp only [carried, last]
        exact not_streak_append below same later command start

theorem carried_length (progress : AgentProgress) :
    (carried progress).length ≤ progress.repeatedCommands := by
  unfold carried
  split <;> simp

theorem Cycle.not_streak (cycle : Cycle limit remaining progress executed returned)
    (below : progress.repeatedCommands < limit) (command : BrowserCommand) (start : Nat) :
    ¬ Streak limit (carried progress ++ executed.map (·.1.command)) command start := by
  induction cycle generalizing command start with
  | exhausted | stalled =>
      rw [List.map_nil, List.append_nil]
      exact not_streak_of_length_lt (Nat.lt_of_le_of_lt (carried_length _) below) command start
  | ended decision metadata result _ fresh =>
      refine carried_streak below metadata result (fun command start => ?_) command start
      rw [List.map_nil, List.append_nil]
      exact not_streak_of_length_lt (Nat.lt_of_le_of_lt (carried_length _) fresh) command start
  | next decision metadata result fresh _ _ ih =>
      exact carried_streak below metadata result (ih fresh) command start

end

/-- What holds of a run: of the commands it has executed, with their results, and of what it
returns, when it has begun with the observed snapshot. -/
structure BoundedRun (maxSteps limit : Nat) (observed : BrowserPageSnapshot)
    (executed : List (AgentDecision × CommandExecutionResult)) (returned : AgentLoopResult) :
    Prop where
  bounded : executed.length ≤ maxSteps
  unrepeated : ∀ command, ¬ List.replicate limit command <:+: executed.map (·.1.command)
  goesOn : ∀ entry ∈ executed.dropLast, (∀ outcome summary, entry.1.command ≠ .finish outcome summary) ∧
    (∀ question, entry.1.command ≠ .askUser question) ∧ entry.2.requiresUser = false
  steps : returned.steps.map (fun step => (step.decision, step.result)) = executed
  sequences : returned.steps.map (·.sequence) = List.range' 1 executed.length
  pageSnapshot : returned.pageSnapshot =
    (executed.filterMap (·.2.pageSnapshot)).getLastD observed
  exhausted : returned.status = .exhausted → executed.length = maxSteps

theorem endsWith_eq_none {command : BrowserCommand} {result : CommandExecutionResult}
    (goesOn : endsWith command result = none) :
    (∀ outcome summary, command ≠ .finish outcome summary) ∧
      (∀ question, command ≠ .askUser question) ∧ result.requiresUser = false := by
  cases command with
  | finish outcome summary => cases goesOn
  | askUser question => cases goesOn
  | _ =>
      refine ⟨fun _ _ impossible => ?_, fun _ impossible => ?_, ?_⟩
      · cases impossible
      · cases impossible
      · simp only [endsWith] at goesOn
        split at goesOn
        · cases goesOn
        · rename_i free
          exact Bool.not_eq_true _ |>.mp free

theorem Cycle.boundedRun {task : AgentTask} {maxSteps limit : Nat} {observed : BrowserPageSnapshot}
    {executed : List (AgentDecision × CommandExecutionResult)} {returned : AgentLoopResult}
    (cycle : Cycle limit maxSteps (start task observed) executed returned) (positive : 0 < limit) :
    BoundedRun maxSteps limit observed executed returned where
  bounded := cycle.length_le
  unrepeated command streak := by
    obtain ⟨begin, repeated⟩ := streak_of_infix streak
    exact cycle.not_streak positive command begin repeated
  goesOn entry member := endsWith_eq_none (cycle.goesOn entry member)
  steps := cycle.steps.1
  sequences := cycle.steps.2
  pageSnapshot := cycle.pageSnapshot
  exhausted := cycle.exhausted_length

/-- Whatever the provider decides and the runtime answers, the loop returns within its bounds. -/
theorem run_bounded (task : AgentTask) (maxSteps limit : Nat) (positive : 1 ≤ maxSteps)
    (repeats : 2 ≤ limit) (approvedSensitive : Bool)
    (oracle : Nat → (o : AgentLoopOp) → o.Answer) :
    ∃ returned, (run task maxSteps limit approvedSensitive).answered oracle 0 = .ok returned ∧
      BoundedRun maxSteps limit (oracle 0 (.observe task))
        (executedCommands ((run task maxSteps limit approvedSensitive).performed oracle 0))
        returned := by
  have cycle := steps_cycle limit approvedSensitive oracle maxSteps
    (start task (oracle 0 (.observe task))) 1
  have checked : ¬ maxSteps < 1 := Nat.not_lt_of_le positive
  have checked' : ¬ limit < 2 := Nat.not_lt_of_le repeats
  rw [run, if_neg checked, if_neg checked']
  have answer := Prog.answered_map oracle (Except.ok : _ → Except PyException AgentLoopResult)
    (steps limit approvedSensitive maxSteps (start task (oracle 0 (.observe task)))) 1
  have history := Prog.performed_map oracle (Except.ok : _ → Except PyException AgentLoopResult)
    (steps limit approvedSensitive maxSteps (start task (oracle 0 (.observe task)))) 1
  rw [← history] at cycle
  exact ⟨_, answer, cycle.boundedRun (Nat.lt_of_lt_of_le Nat.zero_lt_two repeats)⟩

/-! A provider that always decides to wait. -/

namespace Waiting

def shown : BrowserPageSnapshot := ⟨"https://shop.example/", "Shop", 0, [], "Choose a train"⟩

def task : AgentTask := Sample.agentTask

def oracle (_ : Nat) : (o : AgentLoopOp) → o.Answer
  | .observe _ => shown
  | .captureVisualContext _ => none
  | .decide _ _ _ => (⟨.wait 1, "The page loads", "The page is shown"⟩, none)
  | .executeCommand _ _ _ => { succeeded := true, reasonCode := "waited" }

end Waiting

theorem run_bounded_waiting :
    ∃ returned, (run Waiting.task 12 3 false).answered Waiting.oracle 0 = .ok returned ∧
      BoundedRun 12 3 Waiting.shown
        (executedCommands ((run Waiting.task 12 3 false).performed Waiting.oracle 0)) returned :=
  run_bounded Waiting.task 12 3 (by decide) (by decide) false Waiting.oracle

end AgentLoop
end PurchaseAgent
