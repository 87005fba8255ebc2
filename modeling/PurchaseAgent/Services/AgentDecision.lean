import Mathlib.Data.List.DropRight
import PurchaseAgent.Adapters.PageSnapshot
import PurchaseAgent.Collections.Ranking
import PurchaseAgent.Services.FuzzyMatching

/-!
The page context that a model decides on: which controls it shows, how far the
text of the page is cut, and at what stage of a workflow the page seems to be.
-/

namespace PurchaseAgent

open Collections

inductive AgentPageStage where
  | authentication
  | review
  | visualSelection
  | formEntry
  | optionSelection
  | browsing
  | unknown
deriving DecidableEq, Repr

/-- The scores as the selection of controls computes with them. -/
structure FuzzyMatching (Score : Type) [LinearOrder Score] extends FuzzyText Score where
  isDecimal : Char → Bool
  /-- The score from which on a line is relevant. -/
  relevant : Score
  /-- `round(score, 3)`. -/
  round : Score → Score
  /-- `score * 100`. -/
  percent : Score → Score
  plus : Score → Nat → Score
  round_unit : ∀ score, zero ≤ score → score ≤ one → zero ≤ round score ∧ round score ≤ one

structure AgentVisibleControl (Score : Type) where
  controlId : String
  frameIndex : Nat
  frameUrl : Option String
  kind : BrowserControlKind
  label : String
  fieldName : Option String
  goalMatchScore : Score
  role : Option String
  nearbyText : Option String
  required : Bool
  disabled : Bool
  checked : Option Bool
  selected : Option Bool
  expanded : Option Bool
  pressed : Option Bool
  options : List String

structure AgentClarification where
  question : String
  answer : String
deriving DecidableEq, Repr

/-- `AgentDecisionContext`; the observations are passed on as they are. -/
structure AgentDecisionContext (Score Observation : Type) where
  taskId : String
  goal : String
  currentUrl : String
  pageTitle : String
  pageStage : AgentPageStage
  visibleText : String
  intent : Option TaskIntent
  controls : List (AgentVisibleControl Score)
  totalControlCount : Nat
  controlsTruncated : Bool
  previousActions : List Observation
  clarifications : List AgentClarification
  screenshotDataUrl : Option String

namespace AgentDecision

def maxAgentControls : Nat := 60
def maxAgentVisibleText : Nat := 6000

def formControlKinds : List BrowserControlKind := [.text, .date, .email, .tel, .number]

def optionControlKinds : List BrowserControlKind := [.select, .radio, .checkbox, .button]

def authenticationTerms : List String :=
  ["password", "passcode", "парол", "код подтверждения", "verification code"]

def reviewTerms : List String :=
  ["confirm order", "confirm purchase", "pay now", "payment", "оплатить", "подтвердить заказ",
    "подтвердить покупку"]

/-- `" ".join(part for part in parts if part)`. -/
def joinParts (parts : List (Option String)) : String :=
  " ".intercalate (parts.filterMap truthy)

variable {Score : Type} [LinearOrder Score] (matching : FuzzyMatching Score)

def isUninformativeVisual (kind : BrowserControlKind) (label : String) : Bool :=
  kind = .svg ∧ matching.normalizeFuzzyText label ∈ ["svg", "visual svg"]

def controlsContainTerms (controls : List BrowserPageControl) (terms : List String)
    (kinds : List BrowserControlKind) : Bool :=
  controls.any fun control => decide (control.kind ∈ kinds) && terms.any fun term =>
    containsText (matching.casefold (joinParts [some control.label, control.fieldName])) term

def classifyAgentPageStage (snapshot : BrowserPageSnapshot) : AgentPageStage :=
  let controls := snapshot.controls.filter fun control => ! control.disabled
  if controlsContainTerms matching controls authenticationTerms (formControlKinds ++ [.button]) then
    .authentication
  else if controlsContainTerms matching controls reviewTerms [.button, .clickable, .link] then
    .review
  else if controls.any fun control => control.kind = .canvas ∨
      (control.kind = .svg ∧ isUninformativeVisual matching control.kind control.label = false) then
    .visualSelection
  else if controls.any fun control => control.kind ∈ formControlKinds then .formEntry
  else if controls.any fun control => control.kind ∈ optionControlKinds then .optionSelection
  else if controls.any fun control => control.kind = .link ∨ control.kind = .clickable then
    .browsing
  else .unknown

/-- `max(scores, default=0.0)`. -/
def bestScore : List Score → Score
  | [] => matching.zero
  | score :: rest => rest.foldl max score

def controlGoalMatchScore (label : String) (nearbyText : Option String)
    (searchTerms : List String) : Score :=
  let candidate := joinParts [some label, nearbyText]
  matching.round (bestScore matching (searchTerms.map fun term =>
    matching.fuzzyTextScore term candidate))

def goalHints (task : AgentTask) : List String :=
  let phrases := match task.intent with
    | none => []
    | some intent => intent.searchTerms ++ [intent.origin, intent.destination].filterMap id
  let tokens := FuzzyText.words (matching.normalizeFuzzyText task.instruction)
  (phrases ++ tokens.filter fun token =>
    3 ≤ token.length ∨ token.toList.all matching.isDecimal).eraseDups

def kindPriority : BrowserControlKind → Nat
  | .text | .date | .email | .tel | .number => 35
  | .select => 32
  | .radio | .checkbox => 30
  | .button | .canvas => 28
  | .link => 18
  | .clickable => 16
  | .svg => 2
  | .other => 1

def controlPriority (control : AgentVisibleControl Score) : Score :=
  let statePriority := if [control.checked, control.selected, control.expanded,
    control.pressed].any Option.isSome then 8 else 0
  matching.plus (matching.plus (matching.plus (matching.percent control.goalMatchScore)
    (kindPriority control.kind)) statePriority) (if control.required then 15 else 0)

/-- What tells controls of one name apart. -/
def signatureOf (frameIndex : Nat) (fieldName : Option String) (label : String) :
    Nat × String × String :=
  (frameIndex, matching.normalizeFuzzyText (fieldName.getD ""), matching.normalizeFuzzyText label)

def controlSignature (control : BrowserPageControl) : Nat × String × String :=
  signatureOf matching control.frameIndex control.fieldName control.label

/-- The control as the model sees it. -/
def visibleControl (goalHints : List String) (control : BrowserPageControl) :
    AgentVisibleControl Score where
  controlId := control.controlId
  frameIndex := control.frameIndex
  frameUrl := control.frameUrl
  kind := control.kind
  label := control.label
  fieldName := control.fieldName
  goalMatchScore := controlGoalMatchScore matching control.label control.nearbyText goalHints
  role := control.role
  nearbyText := control.nearbyText
  required := control.required
  disabled := control.disabled
  checked := control.checked
  selected := control.selected
  expanded := control.expanded
  pressed := control.pressed
  options := control.options

/-- The constraints of `AgentVisibleControl`. -/
def validateVisible (control : AgentVisibleControl Score) :
    Except PyException (AgentVisibleControl Score) := do
  reject (9 < control.frameIndex) "Input should be less than or equal to 9"
  BrowserPageControl.atMost 2048 control.frameUrl
  BrowserPageControl.atMost 200 control.fieldName
  reject (control.goalMatchScore < matching.zero) "Input should be greater than or equal to 0"
  reject (matching.one < control.goalMatchScore) "Input should be less than or equal to 1"
  BrowserPageControl.atMost 600 control.nearbyText
  pure control

/-- An entry of `ranked`. -/
structure RankedControl (Score : Type) where
  priority : Score
  index : Nat
  visible : AgentVisibleControl Score

def rankedControl (goalHints : List String) (place : BrowserPageControl × Nat) :
    RankedControl Score :=
  let visible := visibleControl matching goalHints place.1
  ⟨controlPriority matching visible, place.2, visible⟩

/-- A control that is not skipped. -/
def isOffered (control : BrowserPageControl) : Bool :=
  ! control.disabled && ! isUninformativeVisual matching control.kind control.label

/-- The loop of `_select_agent_controls` with the signatures it has seen. -/
def rankControls (goalHints : List String) (seen : List (Nat × String × String)) :
    List (BrowserPageControl × Nat) → Except PyException (List (RankedControl Score))
  | [] => .ok []
  | (control, index) :: rest =>
    if isOffered matching control = false then rankControls goalHints seen rest
    else if controlSignature matching control ∈ seen then rankControls goalHints seen rest
    else do
      let visible ← validateVisible matching (visibleControl matching goalHints control)
      let ranked ← rankControls goalHints (controlSignature matching control :: seen) rest
      .ok (⟨controlPriority matching visible, index, visible⟩ :: ranked)

/-- The key `(-priority, index)`. -/
def RankedControl.rank (control : RankedControl Score) : Scoreᵒᵈ ×ₗ Nat :=
  toLex (OrderDual.toDual control.priority, control.index)

def selectAgentControls (snapshot : BrowserPageSnapshot) (goalHints : List String) :
    Except PyException (List (AgentVisibleControl Score)) := do
  let ranked ← rankControls matching goalHints [] snapshot.controls.zipIdx
  .ok ((bestOf RankedControl.rank RankedControl.index maxAgentControls ranked).map (·.visible))

def compactVisibleText (text : String) (goalHints : List String) : String :=
  if text.length ≤ maxAgentVisibleText then text
  else
    let lines := splitLines text
    let relevant := lines.filter fun line =>
      matching.relevant ≤ controlGoalMatchScore matching line none goalHints
    let candidates := lines.take 40 ++ relevant ++ lines.rtake 20
    cut maxAgentVisibleText ("\n".intercalate candidates.eraseDups)

def createClarification (item : TaskClarification) : Except PyException AgentClarification := do
  reject (item.question = "") "String should have at least 1 character"
  BrowserPageControl.atMost 500 (some item.question)
  reject (item.answer = "") "String should have at least 1 character"
  BrowserPageControl.atMost 2000 (some item.answer)
  pure ⟨item.question, item.answer⟩

/-- The constraints of `AgentDecisionContext`. -/
def validateContext {Observation : Type} (context : AgentDecisionContext Score Observation) :
    Except PyException (AgentDecisionContext Score Observation) := do
  BrowserPageControl.atMost 12000 (some context.visibleText)
  reject (maxAgentControls < context.controls.length) "Tuple should have at most 60 items"
  reject (300 < context.totalControlCount) "Input should be less than or equal to 300"
  reject (20 < context.previousActions.length) "Tuple should have at most 20 items"
  reject (20 < context.clarifications.length) "Tuple should have at most 20 items"
  pure context

def buildAgentDecisionContext {Observation : Type} (task : AgentTask)
    (previousActions : List Observation) (screenshotDataUrl : Option String) :
    Except PyException (AgentDecisionContext Score Observation) :=
  match task.pageSnapshot with
  | none => .error (.valueError "task page snapshot is required for an agent decision")
  | some snapshot => do
    let hints := goalHints matching task
    let controls ← selectAgentControls matching snapshot hints
    let clarifications ← (task.clarifications.rtake 20).mapM createClarification
    validateContext
      { taskId := task.id.str
        goal := task.instruction
        currentUrl := snapshot.url
        pageTitle := snapshot.title
        pageStage := classifyAgentPageStage matching snapshot
        visibleText := compactVisibleText matching snapshot.visibleText hints
        intent := task.intent
        controls := controls
        totalControlCount := snapshot.controls.length
        controlsTruncated := decide (maxAgentControls < snapshot.controls.length)
        previousActions := previousActions.rtake 20
        clarifications := clarifications
        screenshotDataUrl := screenshotDataUrl }

end AgentDecision
end PurchaseAgent
