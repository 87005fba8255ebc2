import PurchaseAgent.Correctness.AgentCommands
import PurchaseAgent.Services.TaskPlanner

/-!
The permission policy in the model-driven mode. The loop never fills a document number
without an approval; the other switches of the policy it does not look at, so they are
obeyed as long as the model asks for nothing that they forbid.
-/

namespace PurchaseAgent

open Cooperative Fallible PlaywrightBrowserStepRunner

section
variable (library : TaskLibrary) (task : AgentTask)

/-- `evaluate_browser_action` allows a request. -/
def AgentTask.Allows (request : BrowserActionRequest) : Prop :=
  (evaluateBrowserAction library task request).toOption.any (·.allowed) = true

instance (request : BrowserActionRequest) : Decidable (task.Allows library request) :=
  inferInstanceAs
    (Decidable ((evaluateBrowserAction library task request).toOption.any (·.allowed) = true))

/-- The page may come to a URL. -/
def AgentTask.MayOpen (url : String) : Prop :=
  task.Allows library { action := .navigate, targetUrl := some url }

def AgentTask.May (action : BrowserAction) : Prop :=
  task.Allows library { action := action }

/-- The browser action of filling a value. -/
def FillValueSource.action : FillValueSource → Option BrowserAction
  | .literal => none
  | .firstName | .lastName | .birthDate => some .fillBasicProfile
  | .documentNumber => some .fillSensitiveProfile

abbrev AgentEvent := (o : AgentOp) × agentSignature.Answer o

def navigation (url : String) : BrowserActionRequest :=
  { action := .navigate, targetUrl := some url }

/-- The browser actions that an operation has performed on the page. -/
def pageEffects : (o : AgentOp) → agentSignature.Answer o → List BrowserActionRequest
  | .goto url, _ | .adoptPopup url, _ => [navigation url]
  | .goBack, .ok url => [navigation url]
  | .click _ target, _ => target.toList.map navigation
  | .selectOption .., _ => [{ action := .selectOption }]
  | .fill _ _ source, _ => source.action.toList.map fun action => { action := action }
  | _, _ => []

/-- Every effect is allowed by the policy, or has been approved. -/
def PolicyObeyed (approvedSensitive : Bool) (events : List AgentEvent) : Prop :=
  ∀ x ∈ events, ∀ request ∈ pageEffects x.1 x.2,
    task.Allows library request ∨
      (request.action = .fillSensitiveProfile ∧ approvedSensitive = true)

instance (approvedSensitive : Bool) (events : List AgentEvent) :
    Decidable (PolicyObeyed library task approvedSensitive events) :=
  inferInstanceAs (Decidable (∀ x ∈ events, ∀ request ∈ pageEffects x.1 x.2,
    task.Allows library request ∨
      (request.action = .fillSensitiveProfile ∧ approvedSensitive = true)))

/-- The policy permits what a command asks for and the origin rule does not stop. -/
def BrowserCommand.Permitted : BrowserCommand → Prop
  | .openUrl url => sameOrigin library url task.targetUrl = true → task.MayOpen library url
  | .select .. => task.May library .selectOption
  | .fill _ source _ => source.action = some .fillBasicProfile → task.May library .fillBasicProfile
  | _ => True

/-- The policy permits what the model decides and where the page comes to. Where a
blank page has to be opened again, the pages seen are among these. -/
def AnswerPermitted (reopens : Prop) : (o : AgentOp) → agentSignature.Answer o → Prop
  | .decide .., .ok (decision, _) => decision.command.Permitted library task
  | .goBack, .ok url => task.MayOpen library url
  | .clickTarget _, .ok target =>
    target.all (sameOrigin library · task.targetUrl) = true →
      ∀ url ∈ target, task.MayOpen library url
  | .click .., .ok popup | .clickAt .., .ok popup =>
    ∀ url ∈ popup, sameOrigin library url task.targetUrl = true → task.MayOpen library url
  | .snapshotPage, .ok snapshot => reopens → task.MayOpen library snapshot.url
  | .pageUrl, .ok url => (url = "about:blank" → reopens) ∧
    (task.pageSnapshot.isNone = true ∧ url ≠ task.targetUrl → task.MayOpen library task.page)
  | _, _ => True

/-- The page was blank at some time. -/
def Reopens (events : List AgentEvent) : Prop :=
  (⟨.pageUrl, .ok "about:blank"⟩ : AgentEvent) ∈ events

/-- The policy permits everything that the model decides in a run and every page that
the run comes to. -/
structure RunPermitted (events : List AgentEvent) : Prop where
  page : Reopens events → task.MayOpen library task.page
  answers : ∀ x ∈ events, AnswerPermitted library task (Reopens events) x.1 x.2

/-- The operations that the policy permits. -/
def OpPermitted (approvedSensitive : Bool) : AgentOp → Prop
  | .goto url | .adoptPopup url => task.MayOpen library url
  | .click _ target => ∀ url ∈ target, task.MayOpen library url
  | .selectOption .. => task.May library .selectOption
  | .fill _ _ source =>
    (source.action = some .fillBasicProfile → task.May library .fillBasicProfile) ∧
      (source = .documentNumber → approvedSensitive = true)
  | _ => True

end

section
variable {library : TaskLibrary} {task : AgentTask} {approvedSensitive : Bool} {reopens : Prop}

/-- What an operation within the policy has performed is allowed or approved. -/
theorem effects_permitted {o : AgentOp} {answer : agentSignature.Answer o}
    (answered : AnswerPermitted library task reopens o answer)
    (permitted : OpPermitted library task approvedSensitive o) :
    ∀ request ∈ pageEffects o answer,
      task.Allows library request ∨
        (request.action = .fillSensitiveProfile ∧ approvedSensitive = true) := by
  intro request member
  cases o with
  | goto url | adoptPopup url =>
      obtain rfl := List.mem_singleton.1 member
      exact .inl permitted
  | goBack =>
      cases answer with
      | error failure => cases member
      | ok url =>
          obtain rfl := List.mem_singleton.1 member
          exact .inl answered
  | click locator target =>
      obtain ⟨url, there, rfl⟩ := List.mem_map.1 member
      exact .inl (permitted url (Option.mem_toList.1 there))
  | selectOption locator label =>
      obtain rfl := List.mem_singleton.1 member
      exact .inl permitted
  | fill locator value source =>
      obtain ⟨action, there, rfl⟩ := List.mem_map.1 member
      have own : source.action = some action := Option.mem_toList.1 there
      cases source with
      | literal => cases own
      | firstName | lastName | birthDate =>
          cases own
          exact .inl (permitted.1 rfl)
      | documentNumber =>
          cases own
          exact .inr ⟨rfl, permitted.2 rfl⟩
  | _ => cases member

/-- A command that the policy permits. -/
theorem command_covered {current : AgentTask} (target : current.targetUrl = task.targetUrl)
    (page : reopens → task.MayOpen library current.page) {command : BrowserCommand}
    (permitted : command.Permitted library task) :
    CommandCovered library (AnswerPermitted library task reopens)
      (OpPermitted library task approvedSensitive) current approvedSensitive command where
  free o free := by cases o <;> first | exact trivial | exact free.elim
  opened answered := page (answered.1 rfl)
  followed locator target' answered same := answered (target ▸ same)
  adopted locator target' url answered same := answered url rfl (target ▸ same)
  adoptedAt x y url answered same := answered url rfl (target ▸ same)
  openUrl url own same := by
    subst own
    exact permitted (target ▸ same)
  select controlId optionText own locator label := by
    subst own
    exact permitted
  fill controlId source literalValue own approved locator value := by
    subst own
    exact ⟨permitted, approved⟩

theorem run_covered (page : reopens → task.MayOpen library task.page) :
    RunCovered library (AnswerPermitted library task reopens)
      (OpPermitted library task approvedSensitive) task approvedSensitive where
  free o free := by cases o <;> first | exact trivial | exact free.elim
  opens url answered opens := by
    cases opens with
    | inl blank => exact page (answered.1 blank)
    | inr unseen => exact answered.2 unseen
  decided snapshot current steps screenshot decision metadata observed answered := by
    have shown : reopens →
        task.MayOpen library ({ task with pageSnapshot := some snapshot } : AgentTask).page :=
      observed
    exact @command_covered library task approvedSensitive reopens
      { task with pageSnapshot := some snapshot } rfl shown _ answered

end

/-- Whatever the model decides, a document number is filled after an approval only. -/
theorem document_fills_approved (library : TaskLibrary) (identities : List IdentityRecord)
    (task : AgentTask) (maxSteps repeatedCommandLimit : Nat)
    (answers : Nat → (o : AgentOp) → agentSignature.Answer o) :
    ∀ x ∈ (runAgentLoop library identities task maxSteps repeatedCommandLimit).run.performed
        answers 0,
      ∀ locator value, x.1 ≠ .fill locator value .documentNumber := by
  have covered : RunCovered library (fun _ _ => True)
      (fun o => ∀ locator value, o ≠ .fill locator value .documentNumber) task false := by
    refine ⟨?_, ?_, ?_⟩
    · intro o free locator value same
      exact (same ▸ free : AgentOp.Free (.fill locator value .documentNumber))
    · intro url _ _ locator value
      exact AgentOp.noConfusion
    · intro snapshot current steps screenshot decision metadata _ _
      refine ⟨?_, ?_, ?_, ?_, ?_, ?_, ?_, ?_⟩
      · intro o free locator value same
        exact (same ▸ free : AgentOp.Free (.fill locator value .documentNumber))
      · intro _ locator value
        exact AgentOp.noConfusion
      · intro own target _ _ locator value
        exact AgentOp.noConfusion
      · intro own target url _ _ locator value
        exact AgentOp.noConfusion
      · intro x y url _ _ locator value
        exact AgentOp.noConfusion
      · intro url _ _ locator value
        exact AgentOp.noConfusion
      · intro controlId optionText _ own label locator value
        exact AgentOp.noConfusion
      · intro controlId source literalValue _ approved own filled locator value same
        cases same
        cases approved rfl
  have within := within_runAgentLoop library identities maxSteps repeatedCommandLimit covered
  exact Prog.performed_of_each _ within answers 0 fun _ _ => trivial

/-- In every run in which the policy permits what the model decides and where the page
comes to, every effect on the page is allowed or approved. -/
theorem agent_obeys_policy (library : TaskLibrary) (identities : List IdentityRecord)
    (task : AgentTask) (maxSteps repeatedCommandLimit : Nat) (approvedSensitive : Bool)
    (answers : Nat → (o : AgentOp) → agentSignature.Answer o)
    (permitted : RunPermitted library task ((runAgentLoop library identities task maxSteps
      repeatedCommandLimit approvedSensitive).run.performed answers 0)) :
    PolicyObeyed library task approvedSensitive ((runAgentLoop library identities task maxSteps
      repeatedCommandLimit approvedSensitive).run.performed answers 0) := by
  have within := within_runAgentLoop library identities maxSteps repeatedCommandLimit
    (@run_covered library task approvedSensitive _ permitted.page)
  have operations := Prog.performed_of_each _ within answers 0 permitted.answers
  intro x member
  exact effects_permitted (permitted.answers x member) (operations x member)

namespace OptionRun

def task (permissions : TaskPermissionPolicy) : AgentTask :=
  { Sample.agentTask with permissions := permissions }

def carriage : BrowserPageControl where
  controlId := "carriage"
  frameIndex := 0
  frameUrl := none
  kind := .select
  label := "Carriage"
  fieldName := none
  role := none
  nearbyText := none
  required := false
  disabled := false
  checked := none
  selected := none
  expanded := none
  pressed := none
  options := ["First", "Second"]

def shown : BrowserPageSnapshot := ⟨"https://shop.example/", "Shop", 0, [carriage], ""⟩

def selecting : AgentDecision := ⟨.select "carriage" "First", "The best carriage", "It is selected"⟩

/-- A page at the target, and a model that selects the first carriage. -/
def answers (_ : Nat) : (o : AgentOp) → agentSignature.Answer o
  | .pageUrl | .goBack => .ok "https://shop.example/"
  | .goto _ => .ok (some 200)
  | .wheel .. | .waitForTimeout _ | .closePopup | .adoptPopup _ | .mouseMove .. | .mouseDown
  | .mouseUp | .scrollTo _ | .selectOption .. | .fill .. => .ok ()
  | .snapshotPage => .ok shown
  | .frameUrl _ => .ok (some "https://shop.example/")
  | .count _ => .ok 1
  | .isVisible _ => .ok true
  | .clickTarget _ | .click .. | .clickAt .. | .captureVisualContext => .ok none
  | .boundingBox _ => .ok none
  | .screenshot _ => .ok []
  | .visualRegionChanged .. => .ok true
  | .scrollPosition => .ok (0, 0)
  | .decide .. => .ok (selecting, none)

def events (permissions : TaskPermissionPolicy) : List AgentEvent :=
  (runAgentLoop Sample.taskLibrary [] (task permissions) 1).run.performed answers 0

theorem mayOpen : (task {}).MayOpen Sample.taskLibrary "https://shop.example/" := by
  unfold AgentTask.MayOpen
  decide +kernel

theorem permitted : RunPermitted Sample.taskLibrary (task {}) (events {}) := by
  refine ⟨fun _ => mayOpen, ?_⟩
  intro x member
  obtain ⟨n, answered⟩ := @Prog.mem_performed agentSignature _ answers _ 0 x member
  rw [answered]
  cases x.1 with
  | pageUrl =>
      refine ⟨fun blank => absurd blank (by decide), ?_⟩
      intro elsewhere
      exact absurd rfl elsewhere.2
  | goBack => exact mayOpen
  | snapshotPage => exact fun _ => mayOpen
  | clickTarget locator =>
      intro _ url impossible
      cases impossible
  | click locator target | clickAt first second =>
      intro url impossible
      cases impossible
  | decide current steps screenshot =>
      change (task {}).May Sample.taskLibrary .selectOption
      unfold AgentTask.May
      decide +kernel
  | _ => exact trivial

end OptionRun

theorem agent_obeys_policy_option :
    PolicyObeyed Sample.taskLibrary (OptionRun.task {}) false (OptionRun.events {}) :=
  agent_obeys_policy Sample.taskLibrary [] (OptionRun.task {}) 1 3 false OptionRun.answers
    OptionRun.permitted

/-- A policy without option selection does not keep the model from selecting one. -/
theorem forbidden_option_selected :
    ¬ PolicyObeyed Sample.taskLibrary (OptionRun.task { allowOptionSelection := false }) false
      (OptionRun.events { allowOptionSelection := false }) := by
  decide +kernel

end PurchaseAgent
