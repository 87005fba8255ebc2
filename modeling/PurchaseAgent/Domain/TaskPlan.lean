import PurchaseAgent.Domain.Errors

/-!
Plans of agent tasks: the browser steps, the policy that limits them, the
approvals of a user and the journal of an execution.
-/

namespace PurchaseAgent

inductive BrowserAction where
  | navigate
  | readPage
  | fillBasicProfile
  | fillSensitiveProfile
  | selectOption
  | prepareReview
  | createFreeReservation
  | submitOrder
  | authenticate
  | solveCaptcha
  | pay
deriving DecidableEq, Repr

structure TaskPermissionPolicy where
  allowNavigation : Bool := true
  allowReadingPages : Bool := true
  allowBasicProfileFilling : Bool := true
  allowOptionSelection : Bool := true
  allowReviewPreparation : Bool := true
  allowFreeReservation : Bool := false
  requireApprovalForSensitiveData : Bool := true
  requireApprovalForCrossOriginNavigation : Bool := true
deriving DecidableEq, Repr

structure BrowserActionRequest where
  action : BrowserAction
  targetUrl : Option String := none
  createsCharge : Bool := false
  reversible : Bool := true
deriving DecidableEq, Repr

structure PermissionDecision where
  allowed : Bool
  requiresUser : Bool
  reason : String
deriving DecidableEq, Repr

structure TaskPlanStep where
  stepId : String
  action : BrowserAction
  summary : String
  dependsOn : List String := []
  targetUrl : Option String := none
  createsCharge : Bool := false
  reversible : Bool := true
  requestedFields : List String := []
deriving DecidableEq, Repr

def TaskPlanStep.toActionRequest (step : TaskPlanStep) : BrowserActionRequest :=
  ⟨step.action, step.targetUrl, step.createsCharge, step.reversible⟩

/-- A validated plan; its `task_id` is that of the task that holds it. -/
structure TaskPlan where
  version : Nat
  createdAt : Time
  steps : List TaskPlanStep
  steps_nodup : (steps.map (·.stepId)).Nodup

structure TaskStepApproval where
  approvalId : UUID
  planVersion : Nat
  stepId : String
  reason : String
  approvedAt : Time
  consumedAt : Option Time
deriving DecidableEq, Repr

inductive TaskJournalOutcome where
  | started
  | succeeded
  | blocked
  | failed
deriving DecidableEq, Repr

/-- An entry of a journal; its `sequence` is its place there. -/
structure TaskJournalEntry where
  timestamp : Time
  stepId : String
  outcome : TaskJournalOutcome
  message : String
  reasonCode : Option String
deriving DecidableEq, Repr

abbrev TaskExecutionJournal := List TaskJournalEntry

inductive UserActionReason where
  | authenticationRequired
  | captchaRequired
  | confirmationRequired
  | paymentRequired
  | sensitiveDataApprovalRequired
  | clarificationRequired
deriving DecidableEq, Repr

namespace UserActionReason

def value : UserActionReason → String
  | .authenticationRequired => "authentication_required"
  | .captchaRequired => "captcha_required"
  | .confirmationRequired => "confirmation_required"
  | .paymentRequired => "payment_required"
  | .sensitiveDataApprovalRequired => "sensitive_data_approval_required"
  | .clarificationRequired => "clarification_required"

/-- `UserActionReason(text)`. -/
def ofValue? (text : String) : Option UserActionReason :=
  [authenticationRequired, captchaRequired, confirmationRequired, paymentRequired,
    sensitiveDataApprovalRequired, clarificationRequired].find? fun reason => reason.value = text

@[simp] theorem ofValue?_value (reason : UserActionReason) :
    ofValue? reason.value = some reason := by
  cases reason <;> decide

end UserActionReason

end PurchaseAgent
