import PurchaseAgent.Cooperative.Interpretation
import PurchaseAgent.Services.AgentLoop

/-!
The bounded cycle over any decision provider and any runtime: a program over
what it asks of the two. The browser is one runtime, and the loop over it is this
program with each operation carried out by the browser.
-/

namespace PurchaseAgent

open Cooperative PlaywrightBrowserStepRunner

/-- The methods of `AgentBrowserRuntime` and `AgentDecisionProvider`. -/
inductive AgentLoopOp where
  | observe (task : AgentTask)
  | captureVisualContext (task : AgentTask)
  /-- `decide`, on what its context is built from. -/
  | decide (task : AgentTask) (steps : List AgentLoopStep) (screenshot : Option String)
  | executeCommand (task : AgentTask) (decision : AgentDecision) (approvedSensitive : Bool)

abbrev AgentLoopOp.Answer : AgentLoopOp → Type
  | .observe _ => BrowserPageSnapshot
  | .captureVisualContext _ => Option String
  | .decide _ _ _ => AgentDecision × Option AgentDecisionMetadata
  | .executeCommand _ _ _ => CommandExecutionResult

abbrev agentLoopSignature : Signature where
  Op := AgentLoopOp
  Answer := AgentLoopOp.Answer

abbrev AgentLoopProgram (α : Type) := Prog agentLoopSignature α

def AgentLoopOp.ask (o : AgentLoopOp) : AgentLoopProgram o.Answer :=
  Prog.perform (F := agentLoopSignature) o

namespace AgentLoop

/-- The loop with that many steps left. -/
def steps (repeatedCommandLimit : Nat) (approvedSensitive : Bool) :
    Nat → AgentProgress → AgentLoopProgram AgentLoopResult
  | 0, progress => pure (progress.result .exhausted "maximum_steps_reached")
  | remaining + 1, progress => do
    let screenshot ← AgentLoopOp.ask (.captureVisualContext progress.current)
    let (decision, metadata) ← AgentLoopOp.ask (.decide progress.current progress.steps screenshot)
    if repeatedCommandLimit ≤ progress.repeats decision.command then
      pure (progress.result .stalled "repeated_command_limit")
    else
      let result ← AgentLoopOp.ask (.executeCommand progress.current decision approvedSensitive)
      let after := progress.after decision metadata result
      match endsWith decision.command result with
      | some status => pure (after.result status result.reasonCode)
      | none => steps repeatedCommandLimit approvedSensitive remaining after

/-- What the loop starts with, when the page has been observed. -/
def start (task : AgentTask) (snapshot : BrowserPageSnapshot) : AgentProgress where
  sequence := 1
  current := { task with pageSnapshot := some snapshot }
  snapshot := snapshot
  steps := []
  previous := none
  repeatedCommands := 0

/-- `run_agent_loop`. -/
def run (task : AgentTask) (maxSteps repeatedCommandLimit : Nat) (approvedSensitive : Bool) :
    AgentLoopProgram (Except PyException AgentLoopResult) := do
  if maxSteps < 1 then pure (.error (.valueError "max_steps must be at least one"))
  else if repeatedCommandLimit < 2 then
    pure (.error (.valueError "repeated_command_limit must be at least two"))
  else
    let snapshot ← AgentLoopOp.ask (.observe task)
    let result ← steps repeatedCommandLimit approvedSensitive maxSteps (start task snapshot)
    pure (.ok result)

/-- The browser as a runtime, and the model behind it. -/
def browser (library : TaskLibrary) (identities : List IdentityRecord) :
    (o : AgentLoopOp) → AgentProgram o.Answer
  | .observe task => observe task
  | .captureVisualContext _ => AgentOp.perform .captureVisualContext
  | .decide task steps screenshot => AgentOp.perform (.decide task steps screenshot)
  | .executeCommand task decision approvedSensitive =>
    executeCommand library identities task approvedSensitive decision.command

/-- The loop over the browser is the loop, carried out by the browser. -/
theorem runAgentSteps_interpret (library : TaskLibrary) (identities : List IdentityRecord)
    (repeatedCommandLimit : Nat) (approvedSensitive : Bool) (remaining : Nat)
    (progress : AgentProgress) :
    (steps repeatedCommandLimit approvedSensitive remaining progress).interpret
        (browser library identities) =
      runAgentSteps library identities repeatedCommandLimit approvedSensitive remaining progress := by
  induction remaining generalizing progress with
  | zero => rfl
  | succ remaining ih =>
      rw [steps, runAgentSteps]
      refine congrArg (bind _) (funext fun screenshot => ?_)
      refine congrArg (bind _) (funext fun answer => ?_)
      obtain ⟨decision, metadata⟩ := answer
      dsimp only [Prog.pure_bind']
      split
      · rfl
      · refine congrArg (bind _) (funext fun result => ?_)
        dsimp only [Prog.pure_bind']
        cases endsWith decision.command result with
        | some status => rfl
        | none => exact ih _

theorem runAgentLoop_interpret (library : TaskLibrary) (identities : List IdentityRecord)
    (task : AgentTask) (maxSteps repeatedCommandLimit : Nat) (positive : 1 ≤ maxSteps)
    (repeats : 2 ≤ repeatedCommandLimit) (approvedSensitive : Bool) :
    runAgentLoop library identities task maxSteps repeatedCommandLimit approvedSensitive =
      observe task >>= fun snapshot =>
        (steps repeatedCommandLimit approvedSensitive maxSteps (start task snapshot)).interpret
          (browser library identities) := by
  have checked : ¬ (maxSteps < 1 ∨ repeatedCommandLimit < 2) := by omega
  rw [runAgentLoop, if_neg checked]
  refine congrArg (bind _) (funext fun snapshot => ?_)
  exact (runAgentSteps_interpret library identities repeatedCommandLimit approvedSensitive maxSteps
    (start task snapshot)).symm

end AgentLoop
end PurchaseAgent
