import PurchaseAgent.Services.AgentLoop

/-!
What a command can do at most, proved along its program: the operations that it
performs, the reasons for which it requires the user, and the pages that it shows.
-/

namespace PurchaseAgent

open Cooperative Fallible PlaywrightBrowserStepRunner

/-- The reasons for which a command on the page requires the user. -/
def commandUserReasons : List String :=
  ["cross_origin_navigation_blocked", "cross_origin_popup_blocked",
    "irreversible_click_requires_user", "sensitive_data_approval_required"]

/-- The operations that need no cover: what they do, if anything, their answer says. -/
def AgentOp.Free : AgentOp → Prop
  | .goto _ | .click .. | .adoptPopup _ | .selectOption .. | .fill .. => False
  | _ => True

/-- The page that is opened where there is none. -/
def AgentTask.page (task : AgentTask) : String :=
  (task.pageSnapshot.map (·.url)).getD task.targetUrl

/-- A command requires the user for a known reason, and shows a page that was observed. -/
structure CommandExecutionResult.Sound
    (admissible : (o : AgentOp) → agentSignature.Answer o → Prop)
    (result : CommandExecutionResult) : Prop where
  user : result.requiresUser = true → result.reasonCode ∈ commandUserReasons
  observed : ∀ snapshot ∈ result.pageSnapshot, admissible .snapshotPage (.ok snapshot)

/-- What is allowed covers the operations of a command. -/
structure CommandCovered (library : TaskLibrary)
    (admissible : (o : AgentOp) → agentSignature.Answer o → Prop) (ok : AgentOp → Prop)
    (task : AgentTask) (approvedSensitive : Bool) (command : BrowserCommand) : Prop where
  free : ∀ o : AgentOp, o.Free → ok o
  opened : admissible .pageUrl (.ok "about:blank") → ok (.goto task.page)
  followed : ∀ locator target, admissible (.clickTarget locator) (.ok target) →
    target.all (sameOrigin library · task.targetUrl) = true → ok (.click locator target)
  adopted : ∀ locator target url, admissible (.click locator target) (.ok (some url)) →
    sameOrigin library url task.targetUrl = true → ok (.adoptPopup url)
  adoptedAt : ∀ x y url, admissible (.clickAt x y) (.ok (some url)) →
    sameOrigin library url task.targetUrl = true → ok (.adoptPopup url)
  openUrl : ∀ url, command = .openUrl url → sameOrigin library url task.targetUrl = true →
    ok (.goto url)
  select : ∀ controlId optionText, command = .select controlId optionText →
    ∀ locator label, ok (.selectOption locator label)
  fill : ∀ controlId source literalValue, command = .fill controlId source literalValue →
    (source = .documentNumber → approvedSensitive = true) →
      ∀ locator value, ok (.fill locator value source)

/-- A program that performs allowed operations and ends with sound results. -/
abbrev CommandWithin (admissible : (o : AgentOp) → agentSignature.Answer o → Prop)
    (ok : AgentOp → Prop) (p : AgentProgram CommandExecutionResult) : Prop :=
  Within (F := agentSignature) admissible ok (CommandExecutionResult.Sound admissible) p

section
variable {admissible : (o : AgentOp) → agentSignature.Answer o → Prop} {ok : AgentOp → Prop}

theorem within_op {o : AgentOp} (allowed : ok o) :
    Within (F := agentSignature) admissible ok (fun a => admissible o (.ok a)) o.perform :=
  within_perform allowed

theorem within_refuse (reasonCode : String) : CommandWithin admissible ok (refuse reasonCode) := by
  apply within_pure
  refine ⟨?_, ?_⟩
  · intro impossible
    cases impossible
  · intro snapshot impossible
    cases impossible

theorem within_requireUser {reasonCode : String} (known : reasonCode ∈ commandUserReasons)
    {snapshot : Option BrowserPageSnapshot}
    (observed : ∀ seen ∈ snapshot, admissible .snapshotPage (.ok seen)) :
    CommandWithin admissible ok (requireUser reasonCode snapshot) := by
  apply within_pure
  exact ⟨fun _ => known, observed⟩

theorem within_shown {succeeded : Bool} {reasonCode : String} {snapshot : BrowserPageSnapshot}
    (observed : admissible .snapshotPage (.ok snapshot)) :
    CommandWithin admissible ok (pure {
      succeeded := succeeded, reasonCode := reasonCode, pageSnapshot := some snapshot }) := by
  apply within_pure
  refine ⟨?_, ?_⟩
  · intro impossible
    cases impossible
  · intro seen same
    obtain rfl := Option.some.inj same
    exact observed

theorem seen_some {snapshot : BrowserPageSnapshot}
    (observed : admissible .snapshotPage (.ok snapshot)) :
    ∀ seen ∈ some snapshot, admissible .snapshotPage (.ok seen) := by
  intro seen same
  obtain rfl := Option.some.inj same
  exact observed

theorem seen_none : ∀ seen ∈ (none : Option BrowserPageSnapshot),
    admissible .snapshotPage (.ok seen) := by
  intro seen impossible
  cases impossible

variable (free : ∀ o : AgentOp, o.Free → ok o)
include free

theorem within_commandSucceeded (reasonCode : String) (previous : Option BrowserPageSnapshot) :
    CommandWithin admissible ok (commandSucceeded reasonCode previous) := by
  refine within_bind (within_op (free _ trivial)) fun snapshot observed => ?_
  split
  · exact within_shown observed
  · exact within_shown observed

theorem within_visualUnchanged : CommandWithin admissible ok visualUnchanged :=
  within_bind (within_op (free _ trivial)) fun _ observed => within_shown observed

theorem within_openTaskPage {task : AgentTask}
    (opened : admissible .pageUrl (.ok "about:blank") → ok (.goto task.page)) :
    Within (F := agentSignature) admissible ok (fun _ => True) (openTaskPage task) := by
  refine within_bind (within_op (free _ trivial)) fun url answered => ?_
  split
  · next blank =>
      refine within_bind (within_op (opened (blank ▸ answered))) fun _ _ => ?_
      exact within_pure trivial
  · exact within_pure trivial

theorem within_executeOpenUrl (library : TaskLibrary) (task : AgentTask) {url : String}
    (allowed : sameOrigin library url task.targetUrl = true → ok (.goto url)) :
    CommandWithin admissible ok (executeOpenUrl library task url) := by
  unfold executeOpenUrl
  split
  · exact within_requireUser (by simp [commandUserReasons]) seen_none
  · next same =>
    refine within_bind (within_op (allowed (Classical.not_not.1 same))) fun status _ => ?_
    split
    · exact within_refuse _
    · exact within_commandSucceeded free _ _

theorem within_executeGoBack (library : TaskLibrary) (task : AgentTask) :
    CommandWithin admissible ok (executeGoBack library task) := by
  refine within_bind (within_op (free _ trivial)) fun url _ => ?_
  split
  · exact within_requireUser (by simp [commandUserReasons]) seen_none
  · exact within_commandSucceeded free _ _

theorem within_executeScroll (direction : ScrollDirection) (amount : Nat) :
    CommandWithin admissible ok (executeScroll direction amount) :=
  within_bind (within_op (free _ trivial)) fun _ _ => within_commandSucceeded free _ _

theorem within_executeWait (seconds : Rat) : CommandWithin admissible ok (executeWait seconds) :=
  within_bind (within_op (free _ trivial)) fun _ _ => within_commandSucceeded free _ _

theorem within_locate (library : TaskLibrary) (snapshot : BrowserPageSnapshot)
    (controlId : String) :
    Within (F := agentSignature) admissible ok (fun _ => True)
      (locate library snapshot controlId) := by
  unfold locate
  split
  · exact within_pure trivial
  · refine within_bind (within_op (free _ trivial)) fun frame _ => ?_
    refine within_bind (within_op (free _ trivial)) fun pageUrl _ => ?_
    split
    · exact within_pure trivial
    · refine within_bind (within_op (free _ trivial)) fun found _ => ?_
      split
      · exact within_pure trivial
      · refine within_bind (within_op (free _ trivial)) fun visible _ => ?_
        exact within_pure trivial

theorem within_keepPopup (library : TaskLibrary) (task : AgentTask) (popup : Option String)
    (adopted : ∀ url, popup = some url → sameOrigin library url task.targetUrl = true →
      ok (.adoptPopup url)) :
    Within (F := agentSignature) admissible ok (fun _ => True)
      (keepPopup library task popup) := by
  unfold keepPopup
  split
  · exact within_pure trivial
  · next url =>
      split
      · refine within_bind (within_op (free _ trivial)) fun _ _ => ?_
        exact within_pure trivial
      · next same =>
          refine within_bind (within_op (adopted url rfl (Classical.not_not.1 same))) fun _ _ => ?_
          exact within_pure trivial

theorem within_executeClick (library : TaskLibrary) (task : AgentTask)
    {snapshot : BrowserPageSnapshot} (observed : admissible .snapshotPage (.ok snapshot))
    (control : BrowserPageControl) (locator : BrowserLocator)
    (followed : ∀ target, admissible (.clickTarget locator) (.ok target) →
      target.all (sameOrigin library · task.targetUrl) = true → ok (.click locator target))
    (adopted : ∀ target url, admissible (.click locator target) (.ok (some url)) →
      sameOrigin library url task.targetUrl = true → ok (.adoptPopup url)) :
    CommandWithin admissible ok (executeClick library task snapshot control locator) := by
  unfold executeClick
  generalize isIrreversibleClick library control.label snapshot = irreversible
  split
  · exact within_refuse _
  · cases irreversible with
    | true => exact within_requireUser (by simp [commandUserReasons]) (seen_some observed)
    | false =>
        refine within_bind (within_op (free _ trivial)) fun target answered => ?_
        split
        · exact within_requireUser (by simp [commandUserReasons]) (seen_some observed)
        · next same =>
            refine within_bind (within_op (followed target answered (Classical.not_not.1 same)))
              fun popup opened => ?_
            have adopted : ∀ url, popup = some url →
                sameOrigin library url task.targetUrl = true → ok (.adoptPopup url) := by
              intro url found
              exact adopted target url (found ▸ opened)
            refine within_bind (within_keepPopup free library task popup adopted) fun kept _ => ?_
            split
            · exact within_requireUser (by simp [commandUserReasons]) (seen_some observed)
            · refine within_bind (within_op (free _ trivial)) fun _ _ => ?_
              exact within_commandSucceeded free _ _

theorem within_measure (control : BrowserPageControl) (locator : BrowserLocator) :
    Within (F := agentSignature) admissible ok (fun _ => True)
      (PlaywrightBrowserStepRunner.measure control locator) := by
  unfold PlaywrightBrowserStepRunner.measure
  split
  · exact within_pure trivial
  · refine within_bind (within_op (free _ trivial)) fun bounds _ => ?_
    split
    · exact within_pure trivial
    · exact within_pure trivial

/-- A picture that may fail to be taken. -/
theorem within_picture (locator : BrowserLocator) :
    Within (F := agentSignature) admissible ok (fun _ => True)
      (AgentProgram.tried (AgentOp.perform (.screenshot locator))) :=
  within_mono (fun _ _ => trivial) (within_attempt _ (within_op (free _ trivial)))

theorem within_unchanged (locator : BrowserLocator) (before : Picture) (xRatio yRatio : Rat) :
    Within (F := agentSignature) admissible ok (fun _ => True)
      (unchanged locator before xRatio yRatio) := by
  refine within_bind (within_picture free locator) fun after _ => ?_
  split
  · exact within_pure trivial
  · refine within_bind (within_op (free _ trivial)) fun changed _ => ?_
    exact within_pure trivial

/-- What ends a command on a drawn control. -/
theorem within_compared (locator : BrowserLocator) (before : Picture) (xRatio yRatio : Rat)
    (reasonCode : String) : CommandWithin admissible ok (do
      if ← unchanged locator before xRatio yRatio then visualUnchanged
      else commandSucceeded reasonCode) := by
  refine within_bind (within_unchanged free locator before xRatio yRatio) fun same _ => ?_
  split
  · exact within_visualUnchanged free
  · exact within_commandSucceeded free _ _

theorem within_executeClickVisual (library : TaskLibrary) (task : AgentTask)
    {snapshot : BrowserPageSnapshot} (observed : admissible .snapshotPage (.ok snapshot))
    (control : BrowserPageControl) (locator : BrowserLocator) (xRatio yRatio : Rat)
    (adopted : ∀ x y url, admissible (.clickAt x y) (.ok (some url)) →
      sameOrigin library url task.targetUrl = true → ok (.adoptPopup url)) :
    CommandWithin admissible ok
      (executeClickVisual library task snapshot control locator xRatio yRatio) := by
  unfold executeClickVisual
  generalize isIrreversibleClick library _ snapshot = irreversible
  split
  · exact within_refuse _
  · cases irreversible with
    | true => exact within_requireUser (by simp [commandUserReasons]) (seen_some observed)
    | false =>
        refine within_bind (within_measure free control locator) fun bounds _ => ?_
        cases bounds with
        | error reasonCode => exact within_refuse _
        | ok bounds =>
            refine within_bind (within_picture free locator) fun before _ => ?_
            cases before with
            | none => exact within_refuse _
            | some before =>
                refine within_bind (within_op (free _ trivial)) fun beforeUrl _ => ?_
                refine within_bind (within_op (free _ trivial)) fun popup opened => ?_
                have adopted : ∀ url, popup = some url →
                    sameOrigin library url task.targetUrl = true → ok (.adoptPopup url) := by
                  intro url found
                  exact adopted _ _ url (found ▸ opened)
                refine within_bind (within_keepPopup free library task popup adopted)
                  fun kept _ => ?_
                split
                · exact within_requireUser (by simp [commandUserReasons]) (seen_some observed)
                · refine within_bind (within_op (free _ trivial)) fun _ _ => ?_
                  refine within_bind (within_op (free _ trivial)) fun url _ => ?_
                  split
                  · exact within_compared free _ _ _ _ _
                  · exact within_commandSucceeded free _ _

theorem within_drag (startX startY endX endY : Rat) :
    Within (F := agentSignature) admissible ok (fun _ => True)
      (drag startX startY endX endY) := by
  refine within_bind (within_op (free _ trivial)) fun _ _ => ?_
  refine within_bind (within_op (free _ trivial)) fun _ _ => ?_
  refine within_mono (fun _ _ => trivial) (within_ensuring (within_op (free _ trivial)) ?_)
  exact within_mono (fun _ _ => trivial) (within_op (free _ trivial))

theorem within_executeDragVisual (library : TaskLibrary) (task : AgentTask)
    {snapshot : BrowserPageSnapshot} (observed : admissible .snapshotPage (.ok snapshot))
    (control : BrowserPageControl) (locator : BrowserLocator)
    (startXRatio startYRatio endXRatio endYRatio : Rat) :
    CommandWithin admissible ok (executeDragVisual library task snapshot control locator
      startXRatio startYRatio endXRatio endYRatio) := by
  refine within_bind (within_measure free control locator) fun bounds _ => ?_
  cases bounds with
  | error reasonCode => exact within_refuse _
  | ok bounds =>
      refine within_bind (within_picture free locator) fun before _ => ?_
      cases before with
      | none => exact within_refuse _
      | some before =>
          refine within_bind (within_op (free _ trivial)) fun beforeUrl _ => ?_
          refine within_bind (within_attempt _ (within_drag free _ _ _ _)) fun dragged _ => ?_
          cases dragged with
          | none => exact within_refuse _
          | some done =>
              refine within_bind (within_op (free _ trivial)) fun _ _ => ?_
              refine within_bind (within_op (free _ trivial)) fun url _ => ?_
              split
              · exact within_requireUser (by simp [commandUserReasons]) (seen_some observed)
              · split
                · exact within_compared free _ _ _ _ _
                · exact within_commandSucceeded free _ _

theorem within_zoom (locator : BrowserLocator) (bounds : BoundingBox) (direction : ZoomDirection)
    (intensity : Nat) :
    Within (F := agentSignature) admissible ok (fun _ => True)
      (zoom locator bounds direction intensity) := by
  refine within_bind (within_op (free _ trivial)) fun before _ => ?_
  refine within_bind (within_op (free _ trivial)) fun position _ => ?_
  refine within_bind (within_op (free _ trivial)) fun _ _ => ?_
  refine within_bind (within_op (free _ trivial)) fun _ _ => ?_
  exact within_pure trivial

theorem within_executeZoomVisual (library : TaskLibrary) (task : AgentTask)
    {snapshot : BrowserPageSnapshot} (observed : admissible .snapshotPage (.ok snapshot))
    (control : BrowserPageControl) (locator : BrowserLocator) (direction : ZoomDirection)
    (intensity : Nat) :
    CommandWithin admissible ok
      (executeZoomVisual library task snapshot control locator direction intensity) := by
  refine within_bind (within_measure free control locator) fun bounds _ => ?_
  cases bounds with
  | error reasonCode => exact within_refuse _
  | ok bounds =>
      refine within_bind (within_attempt _ (within_zoom free locator bounds direction intensity))
        fun zoomed _ => ?_
      cases zoomed with
      | none => exact within_refuse _
      | some zoomed =>
          refine within_bind (within_op (free _ trivial)) fun _ _ => ?_
          refine within_bind (within_op (free _ trivial)) fun url _ => ?_
          split
          · exact within_requireUser (by simp [commandUserReasons]) (seen_some observed)
          · refine within_bind (within_unchanged free locator _ _ _) fun same _ => ?_
            split
            · refine within_bind (within_op (free _ trivial)) fun _ _ => ?_
              exact within_visualUnchanged free
            · exact within_commandSucceeded free _ _

theorem within_hover (locator : BrowserLocator) (x y : Rat) :
    Within (F := agentSignature) admissible ok (fun _ => True) (hover locator x y) := by
  refine within_bind (within_op (free _ trivial)) fun before _ => ?_
  refine within_bind (within_op (free _ trivial)) fun _ _ => ?_
  refine within_bind (within_op (free _ trivial)) fun _ _ => ?_
  refine within_bind (within_op (free _ trivial)) fun after _ => ?_
  exact within_pure trivial

theorem within_executeHoverVisual (snapshot : BrowserPageSnapshot) (control : BrowserPageControl)
    (locator : BrowserLocator) (xRatio yRatio : Rat) :
    CommandWithin admissible ok (executeHoverVisual snapshot control locator xRatio yRatio) := by
  refine within_bind (within_measure free control locator) fun bounds _ => ?_
  cases bounds with
  | error reasonCode => exact within_refuse _
  | ok bounds =>
      refine within_bind (within_attempt _ (within_hover free locator _ _)) fun hovered _ => ?_
      cases hovered with
      | none => exact within_refuse _
      | some pictures =>
          refine within_bind (within_op (free _ trivial)) fun after seen => ?_
          refine within_bind (within_op (free _ trivial)) fun changed _ => ?_
          split
          · exact within_shown seen
          · exact within_shown seen

theorem within_executeSelect (library : TaskLibrary) (control : BrowserPageControl)
    (locator : BrowserLocator) (optionText : String)
    (allowed : ∀ label, ok (.selectOption locator label)) :
    CommandWithin admissible ok (executeSelect library control locator optionText) := by
  unfold executeSelect
  split
  · exact within_refuse _
  · split
    · exact within_refuse _
    · refine within_bind (within_op (allowed _)) fun _ _ => ?_
      exact within_commandSucceeded free _ _

theorem within_executeFill (identities : List IdentityRecord) (approvedSensitive : Bool)
    {snapshot : BrowserPageSnapshot} (observed : admissible .snapshotPage (.ok snapshot))
    (control : BrowserPageControl) (locator : BrowserLocator) (source : FillValueSource)
    (literalValue : Option String)
    (allowed : (source = .documentNumber → approvedSensitive = true) →
      ∀ value, ok (.fill locator value source)) :
    CommandWithin admissible ok
      (executeFill identities approvedSensitive snapshot control locator source literalValue) := by
  unfold executeFill
  split
  · exact within_refuse _
  · split
    · exact within_requireUser (by simp [commandUserReasons]) (seen_some observed)
    · next approved =>
        have sensitive : source = .documentNumber → approvedSensitive = true := by
          intro document
          simpa [document] using approved
        split
        · exact within_refuse _
        · refine within_bind (within_op (allowed sensitive _)) fun _ _ => ?_
          exact within_commandSucceeded free _ _

end

section
variable {admissible : (o : AgentOp) → agentSignature.Answer o → Prop} {ok : AgentOp → Prop}

/-- The commands that go to a control of the page. -/
theorem within_executeOnControl (library : TaskLibrary) (identities : List IdentityRecord)
    {task : AgentTask} {approvedSensitive : Bool} {command : BrowserCommand}
    (covered : CommandCovered library admissible ok task approvedSensitive command)
    (controlId : String) :
    CommandWithin admissible ok
      (executeOnControl library identities task approvedSensitive command controlId) := by
  have free := covered.free
  refine within_bind (within_op (free _ trivial)) fun snapshot observed => ?_
  refine within_bind (within_locate free library snapshot controlId) fun located _ => ?_
  match located with
  | .error reasonCode => exact within_refuse _
  | .ok (control, locator) =>
      match command with
      | .click _ =>
          exact within_executeClick free library task observed control locator
            (covered.followed locator) (covered.adopted locator)
      | .clickVisual .. =>
          exact within_executeClickVisual free library task observed _ _ _ _ covered.adoptedAt
      | .dragVisual .. => exact within_executeDragVisual free library task observed _ _ _ _ _ _
      | .zoomVisual .. => exact within_executeZoomVisual free library task observed _ _ _ _
      | .hoverVisual .. => exact within_executeHoverVisual free snapshot _ _ _ _
      | .select id optionText =>
          exact within_executeSelect free library control locator optionText
            (covered.select id optionText rfl locator)
      | .fill id source literalValue =>
          refine within_executeFill free identities approvedSensitive observed control locator
            source literalValue ?_
          intro approved value
          exact covered.fill id source literalValue rfl approved locator value
      | .scroll .. | .wait _ | .goBack | .openUrl _ | .askUser _ | .finish .. =>
          exact within_refuse _

/-- The reason that a command reports when it requires the user. -/
def BrowserCommand.Reports (command : BrowserCommand) (result : CommandExecutionResult) : Prop :=
  match command with
  | .askUser _ => result.reasonCode = "user_input_required"
  | .finish outcome _ => result.reasonCode = "finished_" ++ outcome.value
  | _ => result.requiresUser = true → result.reasonCode ∈ commandUserReasons

/-- What holds of the result of a command. -/
structure CommandExecutionResult.Of (command : BrowserCommand)
    (admissible : (o : AgentOp) → agentSignature.Answer o → Prop)
    (result : CommandExecutionResult) : Prop where
  reports : command.Reports result
  observed : ∀ snapshot ∈ result.pageSnapshot, admissible .snapshotPage (.ok snapshot)

/-- A command on the page, once the page is open. -/
theorem within_opened {library : TaskLibrary} {task : AgentTask} {approvedSensitive : Bool}
    {command : BrowserCommand}
    (covered : CommandCovered library admissible ok task approvedSensitive command)
    {p : AgentProgram CommandExecutionResult} (within : CommandWithin admissible ok p)
    (reports : ∀ result : CommandExecutionResult,
      (result.requiresUser = true → result.reasonCode ∈ commandUserReasons) →
        command.Reports result) :
    Within (F := agentSignature) admissible ok (·.Of command admissible)
      (openTaskPage task >>= fun _ => p) := by
  refine within_bind (within_openTaskPage covered.free covered.opened) fun _ _ => ?_
  refine within_mono ?_ within
  intro result sound
  exact ⟨reports result sound.user, sound.observed⟩

theorem within_executeCommand (library : TaskLibrary) (identities : List IdentityRecord)
    {task : AgentTask} {approvedSensitive : Bool} {command : BrowserCommand}
    (covered : CommandCovered library admissible ok task approvedSensitive command) :
    Within (F := agentSignature) admissible ok (·.Of command admissible)
      (executeCommand library identities task approvedSensitive command) := by
  have free := covered.free
  cases command with
  | askUser question =>
      apply within_pure
      exact ⟨rfl, seen_none⟩
  | finish outcome summary =>
      refine within_bind (within_op (free _ trivial)) fun url _ => ?_
      split
      · refine within_bind (within_op (free _ trivial)) fun snapshot observed => ?_
        apply within_pure
        exact ⟨rfl, seen_some observed⟩
      · apply within_pure
        exact ⟨rfl, seen_none⟩
  | openUrl url =>
      exact within_opened covered
        (within_executeOpenUrl free library task (covered.openUrl url rfl)) fun _ user => user
  | goBack =>
      exact within_opened covered (within_executeGoBack free library task) fun _ user => user
  | scroll direction amount =>
      exact within_opened covered (within_executeScroll free direction amount) fun _ user => user
  | wait seconds =>
      exact within_opened covered (within_executeWait free seconds) fun _ user => user
  | click controlId | clickVisual controlId | hoverVisual controlId | dragVisual controlId
  | zoomVisual controlId | fill controlId | select controlId =>
      exact within_opened covered (within_executeOnControl library identities covered controlId)
        fun _ user => user

/-- What is allowed covers a run of the agent. -/
structure RunCovered (library : TaskLibrary)
    (admissible : (o : AgentOp) → agentSignature.Answer o → Prop) (ok : AgentOp → Prop)
    (task : AgentTask) (approvedSensitive : Bool) : Prop where
  free : ∀ o : AgentOp, o.Free → ok o
  opens : ∀ url, admissible .pageUrl (.ok url) →
    url = "about:blank" ∨ (task.pageSnapshot.isNone = true ∧ url ≠ task.targetUrl) →
      ok (.goto task.page)
  decided : ∀ snapshot current steps screenshot decision metadata,
    admissible .snapshotPage (.ok snapshot) →
      admissible (.decide current steps screenshot) (.ok (decision, metadata)) →
        CommandCovered library admissible ok { task with pageSnapshot := some snapshot }
          approvedSensitive decision.command

theorem within_observe {library : TaskLibrary} {task : AgentTask} {approvedSensitive : Bool}
    (covered : RunCovered library admissible ok task approvedSensitive) :
    Within (F := agentSignature) admissible ok
      (fun snapshot => admissible .snapshotPage (.ok snapshot)) (observe task) := by
  refine within_bind (within_op (covered.free _ trivial)) fun url answered => ?_
  split
  · next opens =>
      have opens : url = "about:blank" ∨ (task.pageSnapshot.isNone = true ∧ url ≠ task.targetUrl) :=
        by simpa using opens
      refine within_bind (within_op (covered.opens url answered opens)) fun _ _ => ?_
      exact within_op (covered.free _ trivial)
  · exact within_op (covered.free _ trivial)

/-- The last step of a run that waits for the user is the one that waits. -/
def AgentLoopResult.HandsOver (result : AgentLoopResult) : Prop :=
  result.status = .waitingForUser → ∃ step, result.steps.getLast? = some step ∧
    endsWith step.decision.command step.result = some .waitingForUser ∧
      step.decision.command.Reports step.result ∧ step.result.reasonCode = result.reasonCode

theorem within_runAgentSteps (library : TaskLibrary) (identities : List IdentityRecord)
    {task : AgentTask} (repeatedCommandLimit : Nat) {approvedSensitive : Bool}
    (covered : RunCovered library admissible ok task approvedSensitive) (remaining : Nat)
    {progress : AgentProgress}
    (current : progress.current = { task with pageSnapshot := some progress.snapshot })
    (observed : admissible .snapshotPage (.ok progress.snapshot)) :
    Within (F := agentSignature) admissible ok AgentLoopResult.HandsOver
      (runAgentSteps library identities repeatedCommandLimit approvedSensitive remaining
        progress) := by
  induction remaining generalizing progress with
  | zero =>
      apply within_pure
      intro impossible
      cases impossible
  | succ remaining ih =>
      refine within_bind (within_op (covered.free _ trivial)) fun screenshot _ => ?_
      refine within_bind (within_op (covered.free _ trivial)) fun decided answered => ?_
      obtain ⟨decision, metadata⟩ := decided
      change Within (F := agentSignature) admissible ok _ (if _ then _ else _)
      split
      · apply within_pure
        intro impossible
        cases impossible
      · have commandCovered : CommandCovered library admissible ok progress.current
            approvedSensitive decision.command := by
          rw [current]
          exact covered.decided progress.snapshot _ _ _ decision metadata observed answered
        refine within_bind (within_executeCommand library identities commandCovered)
          fun result of => ?_
        split
        · next status ends =>
            apply within_pure
            intro waits
            have waits : status = .waitingForUser := waits
            refine ⟨⟨progress.sequence, decision, metadata, result⟩, ?_, waits ▸ ends,
              of.reports, rfl⟩
            exact List.getLast?_concat
        · have kept : (progress.after decision metadata result).current =
              { task with
                pageSnapshot := some (progress.after decision metadata result).snapshot } := by
            simp only [AgentProgress.after, current]
          refine ih kept ?_
          change admissible .snapshotPage (.ok (result.pageSnapshot.getD progress.snapshot))
          cases shown : result.pageSnapshot with
          | none => exact observed
          | some snapshot => exact of.observed snapshot shown

theorem within_runAgentLoop (library : TaskLibrary) (identities : List IdentityRecord)
    {task : AgentTask} (maxSteps repeatedCommandLimit : Nat) {approvedSensitive : Bool}
    (covered : RunCovered library admissible ok task approvedSensitive) :
    Within (F := agentSignature) admissible ok AgentLoopResult.HandsOver
      (runAgentLoop library identities task maxSteps repeatedCommandLimit approvedSensitive) := by
  unfold runAgentLoop
  split
  · exact within_throw _
  · refine within_bind (within_observe covered) fun snapshot observed => ?_
    exact within_runAgentSteps library identities repeatedCommandLimit covered maxSteps rfl observed

end

end PurchaseAgent
