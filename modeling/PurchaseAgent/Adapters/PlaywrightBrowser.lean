import PurchaseAgent.Api.Identities
import PurchaseAgent.Cooperative.Fallible
import PurchaseAgent.Domain.AgentTask

/-!
The commands of a model as `PlaywrightBrowserStepRunner` executes them: programs
over what Playwright does with a page. The pages, and the pictures taken of them,
are whatever the browser answers.
-/

namespace PurchaseAgent

open Cooperative

/-- What ends a run of the agent. The last kind is no `Exception`. -/
inductive AgentFailure where
  | agentDecisionProviderError
  | visibleBrowserUnavailableError
  | playwrightError
  | exception
  | interrupted
deriving DecidableEq, Repr

/-- The bytes of a picture. -/
abbrev Picture := List UInt8

structure BoundingBox where
  x : Rat
  y : Rat
  width : Rat
  height : Rat
deriving DecidableEq, Repr

/-- The element that the inventory of a page has annotated. -/
structure BrowserLocator where
  frameIndex : Nat
  controlId : String
deriving DecidableEq, Repr

/-- What the agent asks of the page, of the model and of the clock. -/
inductive AgentOp where
  | pageUrl
  | goto (url : String)
  /-- `go_back`, with the URL at which it arrives. -/
  | goBack
  | wheel (deltaX deltaY : Int)
  | waitForTimeout (milliseconds : Rat)
  /-- `_snapshot_page`. -/
  | snapshotPage
  /-- The URL of a frame, if the page has it. -/
  | frameUrl (frameIndex : Nat)
  | count (locator : BrowserLocator)
  | isVisible (locator : BrowserLocator)
  /-- `_CLICK_TARGET_SCRIPT`. -/
  | clickTarget (locator : BrowserLocator)
  /-- A click on what leads to the target, if it is a link, with the URL of the popup
  it has opened. -/
  | click (locator : BrowserLocator) (target : Option String)
  | clickAt (x y : Rat)
  | closePopup
  /-- The popup at that URL becomes the page. -/
  | adoptPopup (url : String)
  | boundingBox (locator : BrowserLocator)
  | screenshot (locator : BrowserLocator)
  /-- `_visual_region_changed`. -/
  | visualRegionChanged (before after : Picture) (xRatio yRatio : Rat)
  | mouseMove (x y : Rat)
  | mouseDown
  | mouseUp
  | scrollPosition
  | scrollTo (position : Int × Int)
  | selectOption (locator : BrowserLocator) (label : String)
  | fill (locator : BrowserLocator) (value : String) (source : FillValueSource)
  | captureVisualContext
  /-- `provider.decide` on what its context is built from. -/
  | decide (task : AgentTask) (steps : List AgentLoopStep) (screenshot : Option String)

abbrev AgentOp.Value : AgentOp → Type
  | .pageUrl | .goBack => String
  | .goto _ => Option Nat
  | .snapshotPage => BrowserPageSnapshot
  | .frameUrl _ => Option String
  | .count _ => Nat
  | .isVisible _ => Bool
  | .clickTarget _ => Option String
  | .click _ _ | .clickAt _ _ => Option String
  | .boundingBox _ => Option BoundingBox
  | .screenshot _ => Picture
  | .visualRegionChanged .. => Bool
  | .scrollPosition => Int × Int
  | .captureVisualContext => Option String
  | .decide .. => AgentDecision × Option AgentDecisionMetadata
  | _ => Unit

abbrev agentSignature : Signature := Signature.fallible AgentFailure AgentOp AgentOp.Value

abbrev AgentProgram (α : Type) := Fallible agentSignature AgentFailure α

def AgentOp.perform (o : AgentOp) : AgentProgram o.Value := Fallible.perform o

/-- `try: ... except PlaywrightError`, which answers `none`. -/
def AgentProgram.tried {α : Type} (p : AgentProgram α) : AgentProgram (Option α) :=
  Fallible.attempt (· = .playwrightError) p

namespace PlaywrightBrowserStepRunner

/-- `_same_origin`. Where `urlsplit` raises, the page is not used either. -/
def sameOrigin (library : TaskLibrary) (left right : String) : Bool :=
  match library.urlsplit left, library.urlsplit right with
  | .ok leftUrl, .ok rightUrl => leftUrl = rightUrl
  | _, _ => false

def normalizeOption (library : TaskLibrary) (value : String) : String :=
  collapse (library.casefold value)

def uniqueMatchingOption (library : TaskLibrary) (options : List String) (desired : String) :
    Option String :=
  let normalizedDesired := normalizeOption library desired
  match options.filter fun option => normalizeOption library option = normalizedDesired with
  | [option] => some option
  | _ =>
    match options.filter fun option =>
      containsText (normalizeOption library option) normalizedDesired ∨
        containsText normalizedDesired (normalizeOption library option) with
    | [option] => some option
    | _ => none

def blockedButtonTerms : List String :=
  ["pay", "payment", "purchase", "buy", "book", "confirm", "оплатить", "оплата", "купить",
    "забронировать", "подтвердить", "заказать", "оформить заказ"]

def purchaseEntryTerms : List String :=
  ["buy ticket", "buy tickets", "purchase ticket", "purchase tickets", "book ticket",
    "book tickets", "купить билет", "купить билеты"]

def finalizationContextTerms : List String :=
  ["order total", "review order", "payment method", "card number", "итого",
    "подтверждение заказа", "способ оплаты", "номер карты"]

def isIrreversibleClick (library : TaskLibrary) (controlContext : String)
    (snapshot : BrowserPageSnapshot) : Bool :=
  let normalizedControl := normalizeOption library controlContext
  if ¬ blockedButtonTerms.any (containsText normalizedControl) then false
  else if ¬ purchaseEntryTerms.any (containsText normalizedControl) then true
  else
    finalizationContextTerms.any
      (containsText (normalizeOption library (snapshot.title ++ " " ++ snapshot.visibleText)))

/-- `_snapshot_fingerprint`, up to what it compares. -/
def sameFingerprint (left right : BrowserPageSnapshot) : Bool :=
  left.url = right.url ∧ left.title = right.title ∧ left.visibleText = right.visibleText ∧
    left.controls = right.controls

/-- `_frame_is_allowed` for a frame by its URL. -/
def frameIsAllowed (library : TaskLibrary) (frameUrl : String) (frameIndex : Nat)
    (pageUrl : String) : Bool :=
  frameIndex = 0 ∨ frameUrl = "about:blank" ∨ sameOrigin library frameUrl pageUrl

def dateIsoformat (date : Date) : String :=
  let pad (width : Nat) (n : Int) :=
    String.ofList ((Nat.toDigits 10 n.toNat).leftpad width '0')
  pad 4 date.year ++ "-" ++ pad 2 date.month ++ "-" ++ pad 2 date.day

def commandFillValue (identities : List IdentityRecord) (source : FillValueSource)
    (literalValue : Option String) : Option String :=
  match source with
  | .literal => literalValue
  | .firstName => identities.head?.map (·.firstName)
  | .lastName => identities.head?.map (·.lastName)
  | .birthDate => identities.head?.map fun identity => dateIsoformat identity.birthDate
  | .documentNumber => do
    let identity ← identities.head?
    let document ← identity.documents.head?
    pure document.number

def refuse (reasonCode : String) : AgentProgram CommandExecutionResult :=
  pure { succeeded := false, reasonCode := reasonCode }

/-- A result that hands over to the user. -/
def requireUser (reasonCode : String) (snapshot : Option BrowserPageSnapshot) :
    AgentProgram CommandExecutionResult :=
  pure {
    succeeded := false, reasonCode := reasonCode, pageSnapshot := snapshot, requiresUser := true }

/-- `_command_succeeded`; a previous snapshot is given where progress is required. -/
def commandSucceeded (reasonCode : String) (previous : Option BrowserPageSnapshot := none) :
    AgentProgram CommandExecutionResult := do
  let snapshot ← AgentOp.perform .snapshotPage
  if previous.any (sameFingerprint snapshot) then
    pure {
      succeeded := false, reasonCode := "page_unchanged_after_click"
      pageSnapshot := some snapshot }
  else pure { succeeded := true, reasonCode := reasonCode, pageSnapshot := some snapshot }

/-- The page is opened where it is blank. -/
def openTaskPage (task : AgentTask) : AgentProgram Unit := do
  let url ← AgentOp.perform .pageUrl
  if url = "about:blank" then
    let _ ← AgentOp.perform (.goto ((task.pageSnapshot.map (·.url)).getD task.targetUrl))
    pure ()
  else pure ()

def observe (task : AgentTask) : AgentProgram BrowserPageSnapshot := do
  let url ← AgentOp.perform .pageUrl
  if url = "about:blank" ∨ (task.pageSnapshot.isNone ∧ url ≠ task.targetUrl) then
    let _ ← AgentOp.perform (.goto ((task.pageSnapshot.map (·.url)).getD task.targetUrl))
    AgentOp.perform .snapshotPage
  else AgentOp.perform .snapshotPage

def executeOpenUrl (library : TaskLibrary) (task : AgentTask) (url : String) :
    AgentProgram CommandExecutionResult := do
  if ¬ sameOrigin library url task.targetUrl then
    requireUser "cross_origin_navigation_blocked" none
  else
    let status ← AgentOp.perform (.goto url)
    if status.all (400 ≤ ·) then refuse "navigation_failed"
    else commandSucceeded "url_opened"

def executeGoBack (library : TaskLibrary) (task : AgentTask) :
    AgentProgram CommandExecutionResult := do
  let url ← AgentOp.perform .goBack
  if ¬ sameOrigin library url task.targetUrl then
    requireUser "cross_origin_navigation_blocked" none
  else commandSucceeded "went_back"

def executeScroll (direction : ScrollDirection) (amount : Nat) :
    AgentProgram CommandExecutionResult := do
  AgentOp.perform (.wheel 0 (if direction = .down then amount else -amount))
  commandSucceeded "page_scrolled"

def executeWait (seconds : Rat) : AgentProgram CommandExecutionResult := do
  AgentOp.perform (.waitForTimeout (seconds * 1000))
  commandSucceeded "page_waited"

/-- The annotated control of a command, or the reason why it cannot be used. -/
def locate (library : TaskLibrary) (snapshot : BrowserPageSnapshot) (controlId : String) :
    AgentProgram (Except String (BrowserPageControl × BrowserLocator)) := do
  match snapshot.controls.find? (·.controlId = controlId) with
  | none => pure (.error "control_not_found")
  | some control =>
    let frame ← AgentOp.perform (.frameUrl control.frameIndex)
    let pageUrl ← AgentOp.perform .pageUrl
    if ¬ frame.any (frameIsAllowed library · control.frameIndex pageUrl) then
      pure (.error "control_frame_not_found")
    else
      let locator : BrowserLocator := ⟨control.frameIndex, controlId⟩
      let found ← AgentOp.perform (.count locator)
      if found ≠ 1 then pure (.error "control_not_actionable")
      else
        let visible ← AgentOp.perform (.isVisible locator)
        pure (if visible then .ok (control, locator) else .error "control_not_actionable")

/-- A popup of another origin is closed, any other becomes the page. -/
def keepPopup (library : TaskLibrary) (task : AgentTask) (popup : Option String) :
    AgentProgram Bool := do
  match popup with
  | none => pure true
  | some url =>
    if ¬ sameOrigin library url task.targetUrl then
      AgentOp.perform .closePopup
      pure false
    else
      AgentOp.perform (.adoptPopup url)
      pure true

def executeClick (library : TaskLibrary) (task : AgentTask) (snapshot : BrowserPageSnapshot)
    (control : BrowserPageControl) (locator : BrowserLocator) :
    AgentProgram CommandExecutionResult := do
  if control.kind ∉ [BrowserControlKind.button, .link, .clickable, .radio, .checkbox] then
    refuse "control_not_clickable"
  else if isIrreversibleClick library control.label snapshot then
    requireUser "irreversible_click_requires_user" (some snapshot)
  else
    let target ← AgentOp.perform (.clickTarget locator)
    if ¬ target.all (sameOrigin library · task.targetUrl) then
      requireUser "cross_origin_navigation_blocked" (some snapshot)
    else
      let popup ← AgentOp.perform (.click locator target)
      if ¬ (← keepPopup library task popup) then
        requireUser "cross_origin_popup_blocked" (some snapshot)
      else
        AgentOp.perform (.waitForTimeout 300)
        commandSucceeded "control_clicked" (some snapshot)

/-- The bounds and the picture that every command on a drawn control starts with. -/
def measure (control : BrowserPageControl) (locator : BrowserLocator) :
    AgentProgram (Except String BoundingBox) := do
  if control.kind ∉ [BrowserControlKind.canvas, .svg] then pure (.error "visual_control_required")
  else
    match ← AgentOp.perform (.boundingBox locator) with
    | none => pure (.error "visual_control_not_actionable")
    | some bounds =>
      pure (if bounds.width < 24 ∨ bounds.height < 24 then .error "visual_control_not_actionable"
        else .ok bounds)

/-- Whether a second picture, if it can be taken, shows no change. -/
def unchanged (locator : BrowserLocator) (before : Picture) (xRatio yRatio : Rat) :
    AgentProgram Bool := do
  match ← AgentProgram.tried (AgentOp.perform (.screenshot locator)) with
  | none => pure false
  | some after =>
    let changed ← AgentOp.perform (.visualRegionChanged before after xRatio yRatio)
    pure (!changed)

def visualUnchanged : AgentProgram CommandExecutionResult := do
  let snapshot ← AgentOp.perform .snapshotPage
  pure {
    succeeded := false, reasonCode := "visual_control_unchanged", pageSnapshot := some snapshot }

def executeClickVisual (library : TaskLibrary) (task : AgentTask) (snapshot : BrowserPageSnapshot)
    (control : BrowserPageControl) (locator : BrowserLocator) (xRatio yRatio : Rat) :
    AgentProgram CommandExecutionResult := do
  if control.kind ∉ [BrowserControlKind.canvas, .svg] then refuse "visual_control_required"
  else if isIrreversibleClick library (" ".intercalate
      ([control.label, control.nearbyText.getD ""].filter (· ≠ ""))) snapshot then
    requireUser "irreversible_click_requires_user" (some snapshot)
  else
    match ← measure control locator with
    | .error reasonCode => refuse reasonCode
    | .ok bounds =>
      match ← AgentProgram.tried (AgentOp.perform (.screenshot locator)) with
      | none => refuse "visual_control_not_actionable"
      | some before =>
        let beforeUrl ← AgentOp.perform .pageUrl
        let popup ← AgentOp.perform
          (.clickAt (bounds.x + bounds.width * xRatio) (bounds.y + bounds.height * yRatio))
        if ¬ (← keepPopup library task popup) then
          requireUser "cross_origin_popup_blocked" (some snapshot)
        else
          AgentOp.perform (.waitForTimeout 300)
          let url ← AgentOp.perform .pageUrl
          if popup.isNone ∧ url = beforeUrl then
            if ← unchanged locator before xRatio yRatio then visualUnchanged
            else commandSucceeded "visual_control_clicked"
          else commandSucceeded "visual_control_clicked"

def drag (startX startY endX endY : Rat) : AgentProgram Unit := do
  AgentOp.perform (.mouseMove startX startY)
  AgentOp.perform .mouseDown
  Fallible.ensuring (AgentOp.perform (.mouseMove endX endY)) (AgentOp.perform .mouseUp)

def executeDragVisual (library : TaskLibrary) (task : AgentTask) (snapshot : BrowserPageSnapshot)
    (control : BrowserPageControl) (locator : BrowserLocator)
    (startXRatio startYRatio endXRatio endYRatio : Rat) : AgentProgram CommandExecutionResult := do
  match ← measure control locator with
  | .error reasonCode => refuse reasonCode
  | .ok bounds =>
    match ← AgentProgram.tried (AgentOp.perform (.screenshot locator)) with
    | none => refuse "visual_control_not_actionable"
    | some before =>
      let beforeUrl ← AgentOp.perform .pageUrl
      match ← AgentProgram.tried (drag
          (bounds.x + bounds.width * startXRatio) (bounds.y + bounds.height * startYRatio)
          (bounds.x + bounds.width * endXRatio) (bounds.y + bounds.height * endYRatio)) with
      | none => refuse "visual_control_not_actionable"
      | some _ =>
        AgentOp.perform (.waitForTimeout 300)
        let url ← AgentOp.perform .pageUrl
        if ¬ sameOrigin library url task.targetUrl then
          requireUser "cross_origin_navigation_blocked" (some snapshot)
        else if url = beforeUrl then
          if ← unchanged locator before endXRatio endYRatio then visualUnchanged
          else commandSucceeded "visual_control_dragged"
        else commandSucceeded "visual_control_dragged"

/-- The picture, the scroll position and the turn of the wheel. -/
def zoom (locator : BrowserLocator) (bounds : BoundingBox) (direction : ZoomDirection)
    (intensity : Nat) : AgentProgram (Picture × (Int × Int)) := do
  let before ← AgentOp.perform (.screenshot locator)
  let position ← AgentOp.perform .scrollPosition
  AgentOp.perform (.mouseMove (bounds.x + bounds.width / 2) (bounds.y + bounds.height / 2))
  let delta : Int := 300 * intensity
  AgentOp.perform (.wheel 0 (if direction = .inward then -delta else delta))
  pure (before, position)

def executeZoomVisual (library : TaskLibrary) (task : AgentTask) (snapshot : BrowserPageSnapshot)
    (control : BrowserPageControl) (locator : BrowserLocator) (direction : ZoomDirection)
    (intensity : Nat) : AgentProgram CommandExecutionResult := do
  match ← measure control locator with
  | .error reasonCode => refuse reasonCode
  | .ok bounds =>
    match ← AgentProgram.tried (zoom locator bounds direction intensity) with
    | none => refuse "visual_control_not_actionable"
    | some (before, position) =>
      AgentOp.perform (.waitForTimeout 300)
      let url ← AgentOp.perform .pageUrl
      if ¬ sameOrigin library url task.targetUrl then
        requireUser "cross_origin_navigation_blocked" (some snapshot)
      else if ← unchanged locator before (1 / 2) (1 / 2) then
        AgentOp.perform (.scrollTo position)
        visualUnchanged
      else commandSucceeded "visual_control_zoomed"

/-- The pictures before and after the mouse has come to a point. -/
def hover (locator : BrowserLocator) (x y : Rat) : AgentProgram (Picture × Picture) := do
  let before ← AgentOp.perform (.screenshot locator)
  AgentOp.perform (.mouseMove x y)
  AgentOp.perform (.waitForTimeout 400)
  let after ← AgentOp.perform (.screenshot locator)
  pure (before, after)

def executeHoverVisual (snapshot : BrowserPageSnapshot) (control : BrowserPageControl)
    (locator : BrowserLocator) (xRatio yRatio : Rat) : AgentProgram CommandExecutionResult := do
  match ← measure control locator with
  | .error reasonCode => refuse reasonCode
  | .ok bounds =>
    match ← AgentProgram.tried (hover locator
        (bounds.x + bounds.width * xRatio) (bounds.y + bounds.height * yRatio)) with
    | none => refuse "visual_control_not_actionable"
    | some (before, after) =>
      let afterSnapshot ← AgentOp.perform .snapshotPage
      let imageChanged ← AgentOp.perform (.visualRegionChanged before after xRatio yRatio)
      if ¬ imageChanged ∧ sameFingerprint afterSnapshot snapshot then
        pure {
          succeeded := false, reasonCode := "visual_control_unchanged"
          pageSnapshot := some afterSnapshot }
      else
        pure {
          succeeded := true, reasonCode := "visual_control_hovered"
          pageSnapshot := some afterSnapshot }

def executeSelect (library : TaskLibrary) (control : BrowserPageControl) (locator : BrowserLocator)
    (optionText : String) : AgentProgram CommandExecutionResult := do
  if control.kind ≠ .select then refuse "control_not_select"
  else
    match uniqueMatchingOption library control.options optionText with
    | none => refuse "select_option_not_unique"
    | some option =>
      AgentOp.perform (.selectOption locator option)
      commandSucceeded "option_selected"

def executeFill (identities : List IdentityRecord) (approvedSensitive : Bool)
    (snapshot : BrowserPageSnapshot) (control : BrowserPageControl) (locator : BrowserLocator)
    (source : FillValueSource) (literalValue : Option String) :
    AgentProgram CommandExecutionResult := do
  if control.kind ∉ [BrowserControlKind.text, .date, .email, .tel, .number, .other] then
    refuse "control_not_fillable"
  else if source = .documentNumber ∧ ¬ approvedSensitive then
    requireUser "sensitive_data_approval_required" (some snapshot)
  else
    match commandFillValue identities source literalValue with
    | none => refuse "fill_value_unavailable"
    | some value =>
      AgentOp.perform (.fill locator value source)
      commandSucceeded "control_filled"

/-- The part of `execute_command` behind the control of a command. -/
def executeOnControl (library : TaskLibrary) (identities : List IdentityRecord) (task : AgentTask)
    (approvedSensitive : Bool) (command : BrowserCommand) (controlId : String) :
    AgentProgram CommandExecutionResult := do
  let snapshot ← AgentOp.perform .snapshotPage
  match ← locate library snapshot controlId with
  | .error reasonCode => refuse reasonCode
  | .ok (control, locator) =>
    match command with
    | .click _ => executeClick library task snapshot control locator
    | .clickVisual _ xRatio yRatio =>
      executeClickVisual library task snapshot control locator xRatio yRatio
    | .dragVisual _ startXRatio startYRatio endXRatio endYRatio =>
      executeDragVisual library task snapshot control locator startXRatio startYRatio endXRatio
        endYRatio
    | .zoomVisual _ direction intensity =>
      executeZoomVisual library task snapshot control locator direction intensity
    | .hoverVisual _ xRatio yRatio => executeHoverVisual snapshot control locator xRatio yRatio
    | .select _ optionText => executeSelect library control locator optionText
    | .fill _ source literalValue =>
      executeFill identities approvedSensitive snapshot control locator source literalValue
    | _ => refuse "command_not_implemented"

def executeCommand (library : TaskLibrary) (identities : List IdentityRecord) (task : AgentTask)
    (approvedSensitive : Bool) (command : BrowserCommand) :
    AgentProgram CommandExecutionResult := do
  match command with
  | .askUser _ => requireUser "user_input_required" none
  | .finish outcome _ =>
    let url ← AgentOp.perform .pageUrl
    let result (snapshot : Option BrowserPageSnapshot) : CommandExecutionResult :=
      { succeeded := true, reasonCode := "finished_" ++ outcome.value, pageSnapshot := snapshot
        requiresUser := outcome = .readyForUser ∨ outcome = .needsUser }
    if url ≠ "about:blank" then
      let snapshot ← AgentOp.perform .snapshotPage
      pure (result (some snapshot))
    else pure (result none)
  | .openUrl url =>
    openTaskPage task
    executeOpenUrl library task url
  | .goBack =>
    openTaskPage task
    executeGoBack library task
  | .scroll direction amount =>
    openTaskPage task
    executeScroll direction amount
  | .wait seconds =>
    openTaskPage task
    executeWait seconds
  | .click controlId | .clickVisual controlId .. | .hoverVisual controlId ..
  | .dragVisual controlId .. | .zoomVisual controlId .. | .fill controlId ..
  | .select controlId _ =>
    openTaskPage task
    executeOnControl library identities task approvedSensitive command controlId

end PlaywrightBrowserStepRunner

end PurchaseAgent
