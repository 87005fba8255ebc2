import PurchaseAgent.Domain.BrowserPage
import PurchaseAgent.Domain.TaskPlan

/-!
Agent tasks: what a user asked for, and everything its planning and execution
leave on it.
-/

namespace PurchaseAgent

inductive TaskStatus where
  | draft
  | ready
  | running
  | monitoring
  | waitingForUser
  | prepared
  | completed
  | failed
  | paused
  | cancelled
deriving DecidableEq, Repr

def TaskStatus.value : TaskStatus → String
  | .draft => "draft"
  | .ready => "ready"
  | .running => "running"
  | .monitoring => "monitoring"
  | .waitingForUser => "waiting_for_user"
  | .prepared => "prepared"
  | .completed => "completed"
  | .failed => "failed"
  | .paused => "paused"
  | .cancelled => "cancelled"

inductive TaskControlMode where
  | planOnly
  | stepByStep
  | safeAuto
deriving DecidableEq, Repr

inductive TaskIntentIssue where
  | invalidDate
  | invalidTimeWindow
  | quantityMismatch
deriving DecidableEq, Repr

/-- Facts of an instruction; a time of day is in minutes. -/
structure TaskIntent where
  origin : Option String
  destination : Option String
  requestedDate : Option Date
  earliestTime : Option Nat
  latestTime : Option Nat
  requestedQuantity : Option Nat
  participantCount : Nat
  searchTerms : List String
  issues : List TaskIntentIssue
deriving DecidableEq, Repr

structure TaskClarification where
  question : String
  answer : String
  createdAt : Time
deriving DecidableEq, Repr

structure AgentTask where
  id : UUID
  version : Nat := 0
  instruction : String
  targetUrl : String
  personIds : List UUID
  status : TaskStatus := .draft
  controlMode : TaskControlMode := .safeAuto
  inferredKind : Option String := none
  intent : Option TaskIntent := none
  waitingReason : Option UserActionReason := none
  permissions : TaskPermissionPolicy := {}
  plan : Option TaskPlan := none
  journal : Option TaskExecutionJournal := none
  approvals : List TaskStepApproval := []
  pageSnapshot : Option BrowserPageSnapshot := none
  pageFillPlan : Option PageFillPlan := none
  agentRun : Option AgentLoopResult := none
  clarifications : List TaskClarification := []
  createdAt : Time

/-- `urlsplit(url)`, of which the origin needs two components. -/
structure SplitUrl where
  scheme : String
  netloc : String
deriving DecidableEq, Repr

/-- What the task services take from the standard library, and the parser of
instructions. -/
structure TaskLibrary where
  casefold : String → String
  urlsplit : String → Except PyException SplitUrl
  /-- `extract_task_intent`, with the number of people and the day. -/
  extractTaskIntent : String → Nat → Date → Except PyException TaskIntent
  casefold_lower : ∀ text : String, (∀ c ∈ text.toList, c.isLower ∨ c = '_') → casefold text = text

theorem TaskLibrary.id_lower (text : String) (_ : ∀ c ∈ text.toList, c.isLower ∨ c = '_') :
    id text = text := rfl

namespace Sample

/-- A single host, and instructions that say nothing. -/
def taskLibrary : TaskLibrary where
  casefold := id
  urlsplit _ := .ok ⟨"https", "shop.example"⟩
  extractTaskIntent _ count _ := .ok ⟨none, none, none, none, none, none, count, [], []⟩
  casefold_lower := TaskLibrary.id_lower

def agentTask : AgentTask :=
  { id := ⟨1⟩, instruction := "A train", targetUrl := "https://shop.example/", personIds := [⟨2⟩]
    status := .ready, createdAt := 0 }

end Sample

/-- `urlunsplit((scheme, netloc, "", "", ""))`. -/
def SplitUrl.origin (url : SplitUrl) : String := url.scheme ++ "://" ++ url.netloc

def AgentTask.targetOrigin (library : TaskLibrary) (task : AgentTask) :
    Except PyException String :=
  (library.urlsplit task.targetUrl).map SplitUrl.origin

end PurchaseAgent
