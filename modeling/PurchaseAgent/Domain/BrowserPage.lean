import Mathlib.Data.List.SplitOn
import PurchaseAgent.Domain.Values

/-!
What the agent knows of a page, the plan to fill it, and the commands that a
model may give.
-/

namespace PurchaseAgent

/-- `" ".join(value.split())`. -/
def collapse (value : String) : String :=
  String.ofList (List.intercalate [' ']
    ((value.toList.splitOnP isSpace).filter fun word => word ≠ []))

/-- `term in text`. -/
def containsText (text term : String) : Bool :=
  text.toList.tails.any fun rest => term.toList.isPrefixOf rest

inductive BrowserControlKind where
  | text
  | date
  | email
  | tel
  | number
  | select
  | radio
  | checkbox
  | button
  | link
  | clickable
  | canvas
  | svg
  | other
deriving DecidableEq, Repr

structure BrowserPageControl where
  controlId : String
  frameIndex : Nat
  frameUrl : Option String
  kind : BrowserControlKind
  label : String
  fieldName : Option String
  role : Option String
  nearbyText : Option String
  required : Bool
  disabled : Bool
  checked : Option Bool
  selected : Option Bool
  expanded : Option Bool
  pressed : Option Bool
  options : List String
deriving DecidableEq, Repr

structure BrowserPageSnapshot where
  url : String
  title : String
  capturedAt : Time
  controls : List BrowserPageControl
  visibleText : String
deriving DecidableEq, Repr

inductive ProfileField where
  | firstName
  | lastName
  | birthDate
  | documentNumber
deriving DecidableEq, Repr

inductive IntentField where
  | origin
  | destination
  | requestedDate
  | earliestTime
  | latestTime
  | requestedQuantity
  | searchTerm
deriving DecidableEq, Repr

structure PageFieldBinding where
  controlId : String
  profileField : ProfileField
  personId : UUID
  sensitive : Bool
deriving DecidableEq, Repr

structure PageIntentBinding where
  controlId : String
  intentField : IntentField
  searchTermIndex : Option Nat
deriving DecidableEq, Repr

structure PageFillPlan where
  snapshotUrl : String
  createdAt : Time
  bindings : List PageFieldBinding
  intentBindings : List PageIntentBinding
  unmatchedRequiredControls : List String
deriving DecidableEq, Repr

inductive FillValueSource where
  | literal
  | firstName
  | lastName
  | birthDate
  | documentNumber
deriving DecidableEq, Repr

inductive AgentFinishOutcome where
  | readyForUser
  | goalReached
  | noMatch
  | needsUser
deriving DecidableEq, Repr

def AgentFinishOutcome.value : AgentFinishOutcome → String
  | .readyForUser => "ready_for_user"
  | .goalReached => "goal_reached"
  | .noMatch => "no_match"
  | .needsUser => "needs_user"

/-- A validated question to the user. -/
structure AgentQuestion where
  text : String
  normalized : collapse text = text
  nonblank : text ≠ ""
deriving Repr

theorem AgentQuestion.eq_of_text {left right : AgentQuestion} (same : left.text = right.text) :
    left = right := by
  cases left
  cases right
  cases same
  rfl

instance : DecidableEq AgentQuestion := fun left right =>
  decidable_of_iff (left.text = right.text)
    ⟨AgentQuestion.eq_of_text, fun same => congrArg AgentQuestion.text same⟩

inductive ScrollDirection where
  | up
  | down
deriving DecidableEq, Repr

inductive ZoomDirection where
  | inward
  | outward
deriving DecidableEq, Repr

/-- `BrowserCommand`; ratios and seconds are floats, which are rational. -/
inductive BrowserCommand where
  | click (controlId : String)
  | clickVisual (controlId : String) (xRatio yRatio : Rat)
  | hoverVisual (controlId : String) (xRatio yRatio : Rat)
  | dragVisual (controlId : String) (startXRatio startYRatio endXRatio endYRatio : Rat)
  | zoomVisual (controlId : String) (direction : ZoomDirection) (intensity : Nat)
  | fill (controlId : String) (valueSource : FillValueSource) (literalValue : Option String)
  | select (controlId : String) (optionText : String)
  | scroll (direction : ScrollDirection) (amount : Nat)
  | wait (seconds : Rat)
  | goBack
  | openUrl (url : String)
  | askUser (question : AgentQuestion)
  | finish (outcome : AgentFinishOutcome) (summary : String)
deriving DecidableEq, Repr

structure AgentDecision where
  command : BrowserCommand
  rationale : String
  expectedResult : String
deriving DecidableEq, Repr

structure CommandExecutionResult where
  succeeded : Bool
  reasonCode : String
  pageSnapshot : Option BrowserPageSnapshot := none
  requiresUser : Bool := false
deriving DecidableEq, Repr

inductive AgentLoopStatus where
  | completed
  | waitingForUser
  | noMatch
  | exhausted
  | stalled
deriving DecidableEq, Repr

structure AgentDecisionMetadata where
  provider : String
  model : String
  durationMs : Nat
  fallbackUsed : Bool
  attemptedModels : List String
deriving DecidableEq, Repr

structure AgentLoopStep where
  sequence : Nat
  decision : AgentDecision
  decisionMetadata : Option AgentDecisionMetadata
  result : CommandExecutionResult
deriving DecidableEq, Repr

structure AgentLoopResult where
  status : AgentLoopStatus
  reasonCode : String
  pageSnapshot : BrowserPageSnapshot
  steps : List AgentLoopStep
deriving DecidableEq, Repr

/-- The last steps of both runs, numbered from one on. -/
def mergedSteps (maxSteps : Nat) (previous : Option AgentLoopResult) (current : AgentLoopResult) :
    List AgentLoopStep :=
  let all := (previous.map (·.steps)).getD [] ++ current.steps
  let retained := all.drop (all.length - maxSteps)
  retained.zipIdx.map fun (step, index) => { step with sequence := index + 1 }

/-- `merge_agent_loop_results` with its default bound. -/
def mergeAgentLoopResults (previous : Option AgentLoopResult) (current : AgentLoopResult) :
    AgentLoopResult :=
  { current with steps := mergedSteps 50 previous current }

end PurchaseAgent
