import PurchaseAgent.Domain.AgentTask
import PurchaseAgent.Domain.ProviderResolution

/-!
The permission policy of browser steps, and the plan that is made of a task.
-/

namespace PurchaseAgent

namespace PermissionDecision

def allow (reason : String) : PermissionDecision := ⟨true, false, reason⟩

def deny (reason : String) : PermissionDecision := ⟨false, false, reason⟩

def user (reason : UserActionReason) : PermissionDecision := ⟨false, true, reason.value⟩

end PermissionDecision

open PermissionDecision (allow deny user)

def TaskLibrary.origin (library : TaskLibrary) (value : String) :
    Except PyException (Option String) :=
  (library.urlsplit (strip value)).map fun parsed =>
    if parsed.scheme ∉ ["http", "https"] ∨ parsed.netloc = "" then none
    else some (SplitUrl.origin ⟨library.casefold parsed.scheme, library.casefold parsed.netloc⟩)

/-- The branch of `evaluate_browser_action` for a navigation. -/
def evaluateNavigation (library : TaskLibrary) (task : AgentTask) (targetUrl : Option String) :
    Except PyException PermissionDecision :=
  if ¬ task.permissions.allowNavigation then .ok (deny "navigation_not_allowed")
  else
    match targetUrl with
    | none => .ok (deny "navigation_target_required")
    | some targetUrl =>
      match library.origin targetUrl with
      | .error error => .error error
      | .ok none => .ok (deny "invalid_navigation_target")
      | .ok (some targetOrigin) =>
        match task.targetOrigin library with
        | .error error => .error error
        | .ok ownOrigin =>
          if targetOrigin ≠ ownOrigin ∧
              task.permissions.requireApprovalForCrossOriginNavigation then
            .ok (user .confirmationRequired)
          else .ok (allow "navigation_allowed")

def evaluateBrowserAction (library : TaskLibrary) (task : AgentTask)
    (request : BrowserActionRequest) : Except PyException PermissionDecision :=
  let policy := task.permissions
  if request.action = .pay ∨ request.createsCharge then .ok (user .paymentRequired)
  else if request.action = .solveCaptcha then .ok (user .captchaRequired)
  else if request.action = .authenticate then .ok (user .authenticationRequired)
  else if request.action = .submitOrder ∨ ¬ request.reversible then
    .ok (user .confirmationRequired)
  else
    match request.action with
    | .fillSensitiveProfile => .ok
        (if policy.requireApprovalForSensitiveData then user .sensitiveDataApprovalRequired
        else allow "sensitive_data_preapproved")
    | .navigate => evaluateNavigation library task request.targetUrl
    | .readPage => .ok
        (if policy.allowReadingPages then allow "page_reading_allowed"
        else deny "page_reading_not_allowed")
    | .fillBasicProfile => .ok
        (if policy.allowBasicProfileFilling then allow "basic_profile_filling_allowed"
        else deny "basic_profile_filling_not_allowed")
    | .selectOption => .ok
        (if policy.allowOptionSelection then allow "option_selection_allowed"
        else deny "option_selection_not_allowed")
    | .prepareReview => .ok
        (if policy.allowReviewPreparation then allow "review_preparation_allowed"
        else deny "review_preparation_not_allowed")
    | .createFreeReservation => .ok
        (if policy.allowFreeReservation then allow "free_reservation_allowed"
        else user .confirmationRequired)
    | _ => .ok (deny "unsupported_action")

def kindMarkers : List (String × List String) :=
  [("train_ticket", ["поезд", "жд", "ржд", "train"]),
    ("flight_ticket", ["авиа", "самол", "flight"]),
    ("hotel", ["отел", "гостиниц", "hotel"]),
    ("theatre_ticket", ["театр", "спектак", "theatre", "theater"]),
    ("cinema_ticket", ["кино", "сеанс", "cinema", "movie"])]

def inferTaskKind (library : TaskLibrary) (instruction : String) : String :=
  let normalized := library.casefold instruction
  ((kindMarkers.find? fun (_, markers) => markers.any (containsText normalized)).map
    (·.1)).getD "generic_purchase"

def basicProfileKinds : List String := ["train_ticket", "flight_ticket", "hotel"]

def documentKinds : List String := ["train_ticket", "flight_ticket"]

/-- The steps of a plan for a kind of purchase. -/
def plannedSteps (kind targetUrl : String) : List TaskPlanStep :=
  let people : List TaskPlanStep :=
    if kind ∈ basicProfileKinds then
      [{ stepId := "fill_people", action := .fillBasicProfile
         summary := "Fill basic details for the selected people"
         dependsOn := ["inspect_page"]
         requestedFields := ["first_name", "last_name", "birth_date"] }]
    else []
  let previous := if kind ∈ basicProfileKinds then "fill_people" else "inspect_page"
  let documents : List TaskPlanStep :=
    if kind ∈ documentKinds then
      [{ stepId := "fill_documents", action := .fillSensitiveProfile
         summary := "Fill required identity document details after approval"
         dependsOn := [previous]
         requestedFields := ["document_type", "document_number"] }]
    else []
  let previous := if kind ∈ documentKinds then "fill_documents" else previous
  [{ stepId := "open_target", action := .navigate
     summary := "Open the user-provided website", targetUrl := some targetUrl },
   { stepId := "inspect_page", action := .readPage
     summary := "Inspect the page and locate the relevant form", dependsOn := ["open_target"] }] ++
  people ++ documents ++
  [{ stepId := "choose_option", action := .selectOption
     summary := "Choose the option that best matches the request", dependsOn := [previous] },
   { stepId := "open_review", action := .prepareReview
     summary := "Advance to the review page without confirming the order"
     dependsOn := ["choose_option"] },
   { stepId := "prepare_order", action := .submitOrder
     summary := "Prepare the order and stop before irreversible submission"
     dependsOn := ["open_review"], reversible := false }]

theorem plannedSteps_nodup (kind targetUrl : String) :
    ((plannedSteps kind targetUrl).map (·.stepId)).Nodup := by
  by_cases basic : kind ∈ basicProfileKinds
  · by_cases documents : kind ∈ documentKinds <;> simp [plannedSteps, basic, documents]
  · by_cases documents : kind ∈ documentKinds <;> simp [plannedSteps, basic, documents]

structure TaskPlanPreview where
  plan : TaskPlan
  inferredKind : String
  intent : TaskIntent
  decisions : List PermissionDecision

/-- `build_task_plan`. A step holds a URL of at most 2048 characters. -/
def buildTaskPlan (library : TaskLibrary) (task : AgentTask) (now : Time) :
    Except PyException TaskPlanPreview :=
  if 2048 < task.targetUrl.length then
    .error (validationError "String should have at most 2048 characters")
  else
    let kind := (task.inferredKind.filter (· ≠ "")).getD (inferTaskKind library task.instruction)
    let steps := plannedSteps kind task.targetUrl
    match library.extractTaskIntent task.instruction task.personIds.length
      (Date.ofDays (now / 86400000000)) with
    | .error error => .error error
    | .ok intent =>
      match steps.mapM fun step =>
        evaluateBrowserAction library task step.toActionRequest with
      | .error error => .error error
      | .ok decisions => .ok {
          plan := {
            version := (task.plan.map (·.version + 1)).getD 1
            createdAt := now
            steps := steps
            steps_nodup := plannedSteps_nodup kind task.targetUrl }
          inferredKind := kind
          intent := intent
          decisions := decisions }

end PurchaseAgent
