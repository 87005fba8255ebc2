import Mathlib.Algebra.Order.Ring.Unbundled.Rat
import Mathlib.Data.List.Sort
import PurchaseAgent.Adapters.PlaywrightBrowser
import PurchaseAgent.Cooperative.History
import PurchaseAgent.Services.FuzzyMatching
import PurchaseAgent.Services.PageFillValidation
import PurchaseAgent.Services.TaskExecutor

/-!
The steps of a plan as `PlaywrightBrowserStepRunner.run` takes them in a page, as
programs over what Playwright does there. A control of the page is meant by its
place among the visible ones, as the runner itself means it.
-/

namespace PurchaseAgent

open Cooperative

/-- What ends a step without a result. Only the first kind is an `Exception`. -/
inductive StepFailure where
  | exception
  | interrupted
deriving DecidableEq, Repr

inductive StepOp where
  | pageUrl
  /-- With the status of the response, if there is one. -/
  | goto (url : String)
  | bodyCount
  | bodyText
  | waitForLoadState
  /-- `_snapshot_page`. -/
  | snapshotPage
  /-- How many annotated controls are visible. -/
  | visibleControls
  /-- `_LINK_TARGET_SCRIPT`. -/
  | linkTarget (index : Nat)
  /-- `_FORM_TARGET_SCRIPT`. -/
  | formTarget (index : Nat)
  | click (index : Nat)
  | selectOption (index : Nat) (label : String)
  | check (index : Nat)
  | fill (index : Nat) (value : String)
  | utcNow
deriving DecidableEq, Repr

abbrev StepOp.Value : StepOp → Type
  | .pageUrl => String
  | .goto _ => Option Nat
  | .bodyCount | .visibleControls => Nat
  | .snapshotPage => BrowserPageSnapshot
  | .linkTarget _ | .formTarget _ => Option String
  | .utcNow => Time
  | _ => Unit

abbrev stepSignature : Signature := Signature.fallible StepFailure StepOp StepOp.Value

abbrev StepProgram (α : Type) := Fallible stepSignature StepFailure α

def StepOp.perform (o : StepOp) : StepProgram o.Value := Fallible.perform o

/-- The score of a label is a `float`, by its value. -/
structure StepLibrary extends TaskLibrary where
  matching : FuzzyText Rat

namespace PlaywrightBrowserStepRunner

def profileValue (identity : IdentityRecord) : ProfileField → Option String
  | .firstName => some identity.firstName
  | .lastName => some identity.lastName
  | .birthDate => some (dateIsoformat identity.birthDate)
  | .documentNumber => identity.documents.head?.map (·.number)

/-- `strftime("%H:%M")` of a time in minutes. -/
def clockText (minutes : Nat) : String :=
  let pad (n : Nat) := String.ofList ((Nat.toDigits 10 n).leftpad 2 '0')
  pad (minutes / 60) ++ ":" ++ pad (minutes % 60)

def intentValue (intent : TaskIntent) (searchTermIndex : Option Nat) : IntentField → Option String
  | .origin => intent.origin
  | .destination => intent.destination
  | .requestedDate => intent.requestedDate.map dateIsoformat
  | .earliestTime => intent.earliestTime.map clockText
  | .latestTime => intent.latestTime.map clockText
  | .requestedQuantity => (intent.requestedQuantity.filter (· ≠ 0)).map toString
  | .searchTerm => searchTermIndex.bind fun index => intent.searchTerms[index]?

/-- `int(control_id.removeprefix("control_")) - 1`. The ids of bindings have been
validated; for any other text `int` fails. -/
def controlIndex (controlId : String) : Option Nat :=
  if isControlId controlId then
    some ((controlId.toList.drop 8).foldl (fun n c => 10 * n + (c.toNat - '0'.toNat)) 0 - 1)
  else none

def safeReviewButtonTerms : List String :=
  ["search", "find", "show", "continue", "next", "review", "proceed", "найти", "показать",
    "продолжить", "далее", "к результатам"]

def isSafeReviewButton (library : TaskLibrary) (label : String) : Bool :=
  let normalized := normalizeOption library label
  if blockedButtonTerms.any (containsText normalized) then false
  else safeReviewButtonTerms.any (containsText normalized)

/-- The `float` 0.72. -/
def linkThreshold : Rat := 3242591731706757 / 4503599627370496

/-- The `float` 0.12. -/
def linkMargin : Rat := 1080863910568919 / 9007199254740992

def fuzzyLabelScore (library : StepLibrary) (query candidate : String) : Rat :=
  library.matching.fuzzyTextScore query candidate

/-- The greatest score of the terms. -/
def labelScore (library : StepLibrary) (label : String) : List String → Rat
  | [] => 0
  | term :: rest =>
    rest.foldl
      (fun best other =>
        if best < fuzzyLabelScore library other label then fuzzyLabelScore library other label
        else best)
      (fuzzyLabelScore library term label)

def linkCandidate (library : StepLibrary) (searchTerms : List String)
    (entry : BrowserPageControl × Nat) : Option (Rat × Nat) :=
  if entry.1.kind ≠ .link ∨ entry.1.disabled then none
  else
    let score := labelScore library entry.1.label searchTerms
    if linkThreshold ≤ score then some (score, entry.2) else none

/-- `candidates.sort(reverse=True)`. -/
def linkOrder (left right : Rat × Nat) : Prop :=
  right.1 < left.1 ∨ left.1 = right.1 ∧ right.2 ≤ left.2

instance (left right : Rat × Nat) : Decidable (linkOrder left right) :=
  inferInstanceAs (Decidable (_ ∨ _))

/-- `_best_matching_link`. Two scores from the threshold on differ by a `float`. -/
def bestMatchingLink (library : StepLibrary) (controls : List BrowserPageControl)
    (searchTerms : List String) : Option Nat :=
  if searchTerms = [] then none
  else
    match (controls.zipIdx.filterMap (linkCandidate library searchTerms)).insertionSort
      linkOrder with
    | [] => none
    | [best] => some best.2
    | best :: second :: _ => if best.1 - second.1 < linkMargin then none else some best.2

/-- A step that has not succeeded. -/
def stopStep (reasonCode : String) (pageFillPlan : Option PageFillPlan := none) :
    StepProgram BrowserStepResult :=
  pure { succeeded := false, reasonCode := some reasonCode, pageFillPlan := pageFillPlan }

/-- A step that has succeeded and leaves a plan. -/
def planApplied (reasonCode : String) (fillPlan : PageFillPlan) : StepProgram BrowserStepResult :=
  pure { succeeded := true, reasonCode := some reasonCode, pageFillPlan := some fillPlan }

/-- A step that has succeeded shows the page. -/
def pageShown (reasonCode : String) : StepProgram BrowserStepResult := do
  let snapshot ← StepOp.perform .snapshotPage
  pure { succeeded := true, reasonCode := some reasonCode, pageSnapshot := some snapshot }

/-- `task.page_fill_plan or build_page_fill_plan(task, self._identities, utc_now())`. -/
def fillPlanOf (library : TaskLibrary) (identities : List IdentityRecord) (task : AgentTask) :
    StepProgram PageFillPlan :=
  match task.pageFillPlan with
  | some fillPlan => pure fillPlan
  | none => do
    let now ← StepOp.perform .utcNow
    match buildValidatedPageFillPlan library task identities now with
    | .ok fillPlan => pure fillPlan
    | .error _ => Fallible.throw .exception

/-- What `_page_matches_snapshot` compares. -/
def sameControls (current mapped : BrowserPageSnapshot) : Bool :=
  current.url = mapped.url ∧ current.controls = mapped.controls

def pageMatchesSnapshot (mapped : BrowserPageSnapshot) : StepProgram Bool := do
  let current ← StepOp.perform .snapshotPage
  pure (sameControls current mapped)

/-- The end of `_ensure_mapped_page`. -/
def unchangedSinceMapping (mapped : BrowserPageSnapshot) : StepProgram (Option String) := do
  let current ← StepOp.perform .snapshotPage
  pure (if sameControls current mapped then none else some "page_changed_since_mapping")

/-- `_ensure_mapped_page`, with the code of what went wrong. -/
def ensureMappedPage (library : TaskLibrary) (task : AgentTask) (mapped : BrowserPageSnapshot) :
    StepProgram (Option String) := do
  let url ← StepOp.perform .pageUrl
  if url = mapped.url then unchangedSinceMapping mapped
  else if ¬ sameOrigin library mapped.url task.targetUrl then
    pure (some "mapped_page_origin_changed")
  else
    let status ← StepOp.perform (.goto mapped.url)
    if status.all (400 ≤ ·) then pure (some "mapped_page_restore_failed")
    else unchangedSinceMapping mapped

/-- `identity_by_id.get(person_id)`; of two identities with an id the last one counts. -/
def identityOf (identities : List IdentityRecord) (personId : UUID) : Option IdentityRecord :=
  identities.reverse.find? (·.id = personId)

/-- The loop of `_fill_profile_bindings`, with the code of what went wrong. -/
def fillBindings (identities : List IdentityRecord) (visible : Nat) :
    List PageFieldBinding → StepProgram (Option String)
  | [] => pure none
  | binding :: rest =>
    match identityOf identities binding.personId with
    | none => pure (some "mapped_person_missing")
    | some identity =>
      match controlIndex binding.controlId with
      | none => Fallible.throw .exception
      | some index =>
        if visible ≤ index then pure (some "mapped_control_missing")
        else
          match profileValue identity binding.profileField with
          | none => pure (some "mapped_profile_value_missing")
          | some value => do
            StepOp.perform (.fill index value)
            fillBindings identities visible rest

/-- The bindings that `_fill_profile_bindings` fills in. -/
def bindingsFor (fillPlan : PageFillPlan) (sensitive : Bool) : List PageFieldBinding :=
  fillPlan.bindings.filter (·.sensitive = sensitive)

def fillProfileBindings (identities : List IdentityRecord) (fillPlan : PageFillPlan)
    (sensitive : Bool) (allowEmpty : Bool := false) : StepProgram BrowserStepResult :=
  if bindingsFor fillPlan sensitive = [] then
    pure
      { succeeded := allowEmpty
        reasonCode := some
          (if allowEmpty then "profile_fields_not_required" else "profile_mapping_empty")
        pageFillPlan := some fillPlan }
  else do
    let visible ← StepOp.perform .visibleControls
    let refused ← fillBindings identities visible (bindingsFor fillPlan sensitive)
    match refused with
    | some reasonCode => stopStep reasonCode fillPlan
    | none =>
      planApplied (if sensitive then "sensitive_profile_filled" else "basic_profile_filled")
        fillPlan

def fillBasicProfile (library : TaskLibrary) (identities : List IdentityRecord)
    (task : AgentTask) : StepProgram BrowserStepResult :=
  match task.pageSnapshot with
  | none => stopStep "basic_profile_mapping_unavailable"
  | some mapped =>
    if identities = [] then stopStep "basic_profile_mapping_unavailable"
    else do
      let fillPlan ← fillPlanOf library identities task
      let same ← pageMatchesSnapshot mapped
      if same then fillProfileBindings identities fillPlan false
      else stopStep "page_changed_since_mapping"

def fillSensitiveProfile (library : TaskLibrary) (identities : List IdentityRecord)
    (task : AgentTask) : StepProgram BrowserStepResult :=
  match task.pageSnapshot, task.pageFillPlan with
  | some mapped, some fillPlan =>
    if identities = [] then stopStep "sensitive_profile_mapping_unavailable"
    else do
      let restoreError ← ensureMappedPage library task mapped
      match restoreError with
      | some reasonCode => stopStep reasonCode
      | none =>
        let basicResult ← fillProfileBindings identities fillPlan false true
        if basicResult.succeeded then fillProfileBindings identities fillPlan true
        else pure basicResult
  | _, _ => stopStep "sensitive_profile_mapping_unavailable"

/-- `snapshot_controls[control_id]`; of two controls with an id the last one counts. -/
def snapshotControl (mapped : BrowserPageSnapshot) (controlId : String) :
    Option BrowserPageControl :=
  mapped.controls.reverse.find? (·.controlId = controlId)

/-- What a control of its kind takes: an option, a check or a text. -/
def applyValue (library : TaskLibrary) (control : BrowserPageControl) (index : Nat)
    (desired : String) : Except String StepOp :=
  match control.kind with
  | .select =>
    match uniqueMatchingOption library control.options desired with
    | none => .error "select_option_not_unique"
    | some option => .ok (.selectOption index option)
  | .radio | .checkbox => .ok (.check index)
  | .text | .date | .number | .email | .tel | .other => .ok (.fill index desired)
  | .button | .link | .clickable | .canvas | .svg => .error "mapped_control_not_editable"

/-- The loop of `_apply_task_intent`, with the code of what went wrong. -/
def applyBindings (library : TaskLibrary) (intent : TaskIntent) (mapped : BrowserPageSnapshot)
    (visible : Nat) : List PageIntentBinding → StepProgram (Option String)
  | [] => pure none
  | binding :: rest =>
    match controlIndex binding.controlId with
    | none => Fallible.throw .exception
    | some index =>
      if visible ≤ index then pure (some "mapped_control_missing")
      else
        match snapshotControl mapped binding.controlId with
        | none => Fallible.throw .exception
        | some control =>
          match intentValue intent binding.searchTermIndex binding.intentField with
          | none => pure (some "mapped_intent_value_missing")
          | some desired =>
            match applyValue library control index desired with
            | .error reasonCode => pure (some reasonCode)
            | .ok change => do
              let _ ← StepOp.perform change
              applyBindings library intent mapped visible rest

/-- What follows a click: the page it leads to is of the site of the task. -/
def arrived (library : TaskLibrary) (task : AgentTask) (index : Nat) (opened left : String)
    (fillPlan : Option PageFillPlan) : StepProgram BrowserStepResult := do
  StepOp.perform (.click index)
  StepOp.perform .waitForLoadState
  let url ← StepOp.perform .pageUrl
  if sameOrigin library url task.targetUrl then pageShown opened else stopStep left fillPlan

def followMatchingOption (library : StepLibrary) (task : AgentTask) (mapped : BrowserPageSnapshot)
    (intent : TaskIntent) (fillPlan : PageFillPlan) : StepProgram BrowserStepResult :=
  match bestMatchingLink library mapped.controls intent.searchTerms with
  | none => stopStep "task_intent_mapping_empty" fillPlan
  | some index => do
    let _ ← StepOp.perform .snapshotPage
    let visible ← StepOp.perform .visibleControls
    if visible ≤ index then stopStep "matched_option_missing" fillPlan
    else
      let target ← StepOp.perform (.linkTarget index)
      if target.any fun target => sameOrigin library.toTaskLibrary target task.targetUrl then
        arrived library.toTaskLibrary task index "matching_option_opened"
          "matched_option_cross_origin" fillPlan
      else stopStep "matched_option_cross_origin" fillPlan

def applyTaskIntent (library : StepLibrary) (identities : List IdentityRecord)
    (task : AgentTask) : StepProgram BrowserStepResult :=
  match task.intent, task.pageSnapshot with
  | some intent, some mapped =>
    if intent.issues ≠ [] then stopStep "task_intent_requires_clarification"
    else do
      let fillPlan ← fillPlanOf library.toTaskLibrary identities task
      if fillPlan.intentBindings = [] then
        followMatchingOption library task mapped intent fillPlan
      else
        let restoreError ← ensureMappedPage library.toTaskLibrary task mapped
        match restoreError with
        | some reasonCode => stopStep reasonCode fillPlan
        | none =>
          let visible ← StepOp.perform .visibleControls
          let refused ← applyBindings library.toTaskLibrary intent mapped visible
            fillPlan.intentBindings
          match refused with
          | some reasonCode => stopStep reasonCode fillPlan
          | none => planApplied "task_intent_applied" fillPlan
  | _, _ => stopStep "task_intent_mapping_unavailable"

/-- The buttons that a review may be prepared with, with their places. -/
def reviewCandidates (library : TaskLibrary) (snapshot : BrowserPageSnapshot) :
    List (BrowserPageControl × Nat) :=
  snapshot.controls.zipIdx.filter fun entry =>
    entry.1.kind = .button ∧ ¬ entry.1.disabled ∧ isSafeReviewButton library entry.1.label

/-- `_prepare_review` once the page is open. -/
def pressReviewButton (library : TaskLibrary) (task : AgentTask) :
    StepProgram BrowserStepResult := do
  let snapshot ← StepOp.perform .snapshotPage
  match reviewCandidates library snapshot with
  | [] => stopStep "review_action_not_available"
  | [candidate] =>
    let visible ← StepOp.perform .visibleControls
    if visible ≤ candidate.2 then stopStep "review_button_missing"
    else
      let target ← StepOp.perform (.formTarget candidate.2)
      if target.all fun target => sameOrigin library target task.targetUrl then
        arrived library task candidate.2 "review_page_opened" "review_navigation_cross_origin" none
      else stopStep "review_button_cross_origin"
  | _ :: _ :: _ => stopStep "review_button_not_unique"

def prepareReview (library : TaskLibrary) (task : AgentTask) : StepProgram BrowserStepResult :=
  match task.pageSnapshot with
  | none => stopStep "page_snapshot_missing"
  | some mapped => do
    let url ← StepOp.perform .pageUrl
    if url = mapped.url then pressReviewButton library task
    else if ¬ sameOrigin library mapped.url task.targetUrl then
      stopStep "mapped_page_origin_changed"
    else
      let status ← StepOp.perform (.goto mapped.url)
      if status.all (400 ≤ ·) then stopStep "mapped_page_restore_failed"
      else pressReviewButton library task

def navigate (step : TaskPlanStep) : StepProgram BrowserStepResult :=
  match step.targetUrl with
  | none => stopStep "navigation_target_missing"
  | some url => do
    let status ← StepOp.perform (.goto url)
    match status with
    | none => stopStep "navigation_no_response"
    | some status =>
      if 400 ≤ status then stopStep "navigation_http_error"
      else pure { succeeded := true, reasonCode := some "page_opened" }

def inspectPage : StepProgram BrowserStepResult := do
  let count ← StepOp.perform .bodyCount
  if count ≠ 1 then stopStep "page_body_missing"
  else
    StepOp.perform .bodyText
    pageShown "page_inspected"

/-- What a step other than a navigation does in the page. -/
def runInPage (library : StepLibrary) (identities : List IdentityRecord) (task : AgentTask) :
    BrowserAction → StepProgram BrowserStepResult
  | .readPage => inspectPage
  | .selectOption => applyTaskIntent library identities task
  | .prepareReview => prepareReview library.toTaskLibrary task
  | .fillBasicProfile => fillBasicProfile library.toTaskLibrary identities task
  | .fillSensitiveProfile => fillSensitiveProfile library.toTaskLibrary identities task
  | .navigate | .createFreeReservation | .submitOrder | .authenticate | .solveCaptcha | .pay =>
    stopStep "browser_action_not_implemented"

def run (library : StepLibrary) (identities : List IdentityRecord) (task : AgentTask)
    (step : TaskPlanStep) : StepProgram BrowserStepResult :=
  if step.action = .navigate then navigate step
  else do
    let url ← StepOp.perform .pageUrl
    if url = "about:blank" then
      let _ ← StepOp.perform (.goto ((task.pageSnapshot.map (·.url)).getD task.targetUrl))
      runInPage library identities task step.action
    else runInPage library identities task step.action

/-- How a call of the runner ends. -/
def outcome : Except StepFailure BrowserStepResult → StepOutcome
  | .ok result => .returned result
  | .error .exception => .raised
  | .error .interrupted => .interrupted

/-- The runner in a browser that answers its calls, one operation after the other. -/
def runner (library : StepLibrary) (identities : List IdentityRecord)
    (browser : Nat → Nat → (o : StepOp) → stepSignature.Answer o) : BrowserStepRunner where
  run call task step :=
    outcome (Prog.answered (browser call) 0 (run library identities task step).run)

end PlaywrightBrowserStepRunner
end PurchaseAgent
