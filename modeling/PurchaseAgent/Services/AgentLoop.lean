import PurchaseAgent.Adapters.PlaywrightBrowser

/-!
The bounded cycle of the model-driven mode: observe, decide, act.
-/

namespace PurchaseAgent

open Cooperative PlaywrightBrowserStepRunner

/-- What the loop has come to. Its task carries the last snapshot. -/
structure AgentProgress where
  sequence : Nat
  current : AgentTask
  snapshot : BrowserPageSnapshot
  steps : List AgentLoopStep
  previous : Option BrowserCommand
  repeatedCommands : Nat

def AgentProgress.result (progress : AgentProgress) (status : AgentLoopStatus)
    (reasonCode : String) : AgentLoopResult :=
  ⟨status, reasonCode, progress.snapshot, progress.steps⟩

/-- How often the command has now been decided on in a row. -/
def AgentProgress.repeats (progress : AgentProgress) (command : BrowserCommand) : Nat :=
  if progress.previous = some command then progress.repeatedCommands + 1 else 1

/-- The progress after a command has been executed. -/
def AgentProgress.after (progress : AgentProgress) (decision : AgentDecision)
    (metadata : Option AgentDecisionMetadata) (result : CommandExecutionResult) : AgentProgress :=
  let snapshot := result.pageSnapshot.getD progress.snapshot
  { sequence := progress.sequence + 1
    current := { progress.current with pageSnapshot := some snapshot }
    snapshot := snapshot
    steps := progress.steps ++ [⟨progress.sequence, decision, metadata, result⟩]
    previous := some decision.command
    repeatedCommands := progress.repeats decision.command }

def finishStatus : AgentFinishOutcome → AgentLoopStatus
  | .noMatch => .noMatch
  | .readyForUser | .needsUser => .waitingForUser
  | .goalReached => .completed

/-- The end of the run that a command and its result bring about, if they do. -/
def endsWith (command : BrowserCommand) (result : CommandExecutionResult) :
    Option AgentLoopStatus :=
  match command with
  | .finish outcome _ => some (finishStatus outcome)
  | .askUser _ => some .waitingForUser
  | _ => if result.requiresUser then some .waitingForUser else none

/-- The loop of `run_agent_loop` with that many steps left. -/
def runAgentSteps (library : TaskLibrary) (identities : List IdentityRecord)
    (repeatedCommandLimit : Nat) (approvedSensitive : Bool) :
    Nat → AgentProgress → AgentProgram AgentLoopResult
  | 0, progress => pure (progress.result .exhausted "maximum_steps_reached")
  | remaining + 1, progress => do
    let screenshot ← AgentOp.perform .captureVisualContext
    let (decision, metadata) ← AgentOp.perform
      (.decide progress.current progress.steps screenshot)
    if repeatedCommandLimit ≤ progress.repeats decision.command then
      pure (progress.result .stalled "repeated_command_limit")
    else
      let result ← executeCommand library identities progress.current approvedSensitive
        decision.command
      let after := progress.after decision metadata result
      match endsWith decision.command result with
      | some status => pure (after.result status result.reasonCode)
      | none =>
        runAgentSteps library identities repeatedCommandLimit approvedSensitive remaining after

/-- `run_agent_loop` over the browser. -/
def runAgentLoop (library : TaskLibrary) (identities : List IdentityRecord) (task : AgentTask)
    (maxSteps : Nat) (repeatedCommandLimit : Nat := 3) (approvedSensitive : Bool := false) :
    AgentProgram AgentLoopResult := do
  if maxSteps < 1 ∨ repeatedCommandLimit < 2 then Fallible.throw .exception
  else
    let snapshot ← observe task
    runAgentSteps library identities repeatedCommandLimit approvedSensitive maxSteps {
      sequence := 1
      current := { task with pageSnapshot := some snapshot }
      snapshot := snapshot
      steps := []
      previous := none
      repeatedCommands := 0 }

end PurchaseAgent
