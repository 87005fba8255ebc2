import PurchaseAgent.Adapters.StepRunner

/-!
What a step of a plan does to the page, whatever the page answers: where it goes, what
it presses, what it types, and what has been done when it reports success.
-/

namespace PurchaseAgent

open Cooperative PlaywrightBrowserStepRunner

abbrev StepEvent := stepSignature.Event

def StepEvent.op (x : StepEvent) : StepOp := x.1

/-- The operation has been answered. -/
abbrev StepOp.got (o : StepOp) (answer : o.Value) : StepEvent := ⟨o, .ok answer⟩

def StepOp.isClick : StepOp → Bool
  | .click _ => true
  | _ => false

def StepOp.isEdit : StepOp → Bool
  | .selectOption _ _ | .check _ | .fill _ _ => true
  | _ => false

/-- The operation leaves the page where it is. -/
def StepOp.stays : StepOp → Bool
  | .visibleControls | .selectOption _ _ | .check _ | .fill _ _ => true
  | _ => false

def clicks (history : List StepEvent) : Nat := history.countP fun x => x.op.isClick

/-- What has been entered in the page. -/
def edits (history : List StepEvent) : List StepOp :=
  history.filterMap fun x => if x.op.isEdit then some x.op else none

/-- The page has shown the mapped controls, and nothing has led away from it since. -/
def Shown (mapped : BrowserPageSnapshot) (history : List StepEvent) : Prop :=
  ∃ front current back, history = front ++ StepOp.got .snapshotPage current :: back ∧
    sameControls current mapped = true ∧ ∀ x ∈ back, x.op.stays = true

/-- The plan that a step goes by. -/
def PlanOf (library : TaskLibrary) (identities : List IdentityRecord) (task : AgentTask)
    (fillPlan : PageFillPlan) : Prop :=
  task.pageFillPlan = some fillPlan ∨
    task.pageFillPlan = none ∧
      ∃ now, buildValidatedPageFillPlan library task identities now = .ok fillPlan

/-- What a binding of the profile enters. -/
def fillOf (identities : List IdentityRecord) (binding : PageFieldBinding) : Option StepOp :=
  (identityOf identities binding.personId).bind fun identity =>
    (controlIndex binding.controlId).bind fun index =>
      (profileValue identity binding.profileField).map fun value => .fill index value

/-- What a binding of the intent enters. -/
def changeOf (library : TaskLibrary) (intent : TaskIntent) (mapped : BrowserPageSnapshot)
    (binding : PageIntentBinding) : Option StepOp :=
  (controlIndex binding.controlId).bind fun index =>
    (snapshotControl mapped binding.controlId).bind fun control =>
      (intentValue intent binding.searchTermIndex binding.intentField).bind fun desired =>
        (applyValue library control index desired).toOption

/-- The one enabled button of the page that is safe to press, and its place. -/
structure OnlySafeButton (library : TaskLibrary) (snapshot : BrowserPageSnapshot)
    (control : BrowserPageControl) (index : Nat) : Prop where
  place : snapshot.controls[index]? = some control
  button : control.kind = .button
  enabled : control.disabled = false
  safe : isSafeReviewButton library control.label = true
  only : ∀ other otherIndex, snapshot.controls[otherIndex]? = some other → other.kind = .button →
    other.disabled = false → isSafeReviewButton library other.label = true → otherIndex = index

section
variable (library : StepLibrary) (identities : List IdentityRecord) (task : AgentTask)
  (step : TaskPlanStep)

/-- Where a step may go. -/
def Opens (history : List StepEvent) (url : String) : Prop :=
  step.action = .navigate ∧ step.targetUrl = some url ∨
    step.action ≠ .navigate ∧
      (history = [StepOp.got .pageUrl "about:blank"] ∧
          url = (task.pageSnapshot.map (·.url)).getD task.targetUrl ∨
        ∃ mapped, task.pageSnapshot = some mapped ∧ url = mapped.url ∧
          sameOrigin library.toTaskLibrary url task.targetUrl = true)

/-- A link that leads to the site of the task. -/
def PressesLink (history : List StepEvent) (index : Nat) : Prop :=
  step.action = .selectOption ∧ ∃ intent mapped, task.intent = some intent ∧ intent.issues = [] ∧
    task.pageSnapshot = some mapped ∧
    bestMatchingLink library mapped.controls intent.searchTerms = some index ∧
    ∃ front current visible target, index < visible ∧
      sameOrigin library.toTaskLibrary target task.targetUrl = true ∧
      history = front ++ [StepOp.got .snapshotPage current, StepOp.got .visibleControls visible,
        StepOp.got (.linkTarget index) (some target)]

/-- The safe button of the page just seen, whose form goes nowhere else. -/
def PressesReview (history : List StepEvent) (index : Nat) : Prop :=
  step.action = .prepareReview ∧ ∃ front current control visible target,
    OnlySafeButton library.toTaskLibrary current control index ∧ index < visible ∧
    (∀ url, target = some url →
      sameOrigin library.toTaskLibrary url task.targetUrl = true) ∧
    history = front ++ [StepOp.got .snapshotPage current, StepOp.got .visibleControls visible,
      StepOp.got (.formTarget index) target]

/-- What a step may enter, and where it may. -/
def Enters (history : List StepEvent) (o : StepOp) : Prop :=
  clicks history = 0 ∧ ∃ mapped fillPlan, task.pageSnapshot = some mapped ∧
    Shown mapped history ∧ PlanOf library.toTaskLibrary identities task fillPlan ∧
    (step.action = .fillBasicProfile ∧
        (∃ binding ∈ bindingsFor fillPlan false, fillOf identities binding = some o) ∨
      step.action = .fillSensitiveProfile ∧ task.pageFillPlan = some fillPlan ∧
        (∃ binding ∈ fillPlan.bindings, fillOf identities binding = some o) ∨
      step.action = .selectOption ∧ ∃ intent, task.intent = some intent ∧ intent.issues = [] ∧
        ∃ binding ∈ fillPlan.intentBindings,
          changeOf library.toTaskLibrary intent mapped binding = some o)

/-- An operation that a step may perform after that history. -/
def Covered (history : List StepEvent) : StepOp → Prop
  | .goto url => Opens library task step history url
  | .click index => clicks history = 0 ∧ edits history = [] ∧
      (PressesLink library task step history index ∨ PressesReview library task step history index)
  | .selectOption index label =>
      Enters library identities task step history (.selectOption index label)
  | .check index => Enters library identities task step history (.check index)
  | .fill index value => Enters library identities task step history (.fill index value)
  | _ => True

/-- One control has been pressed, and the page it has led to is shown. -/
def Pressed (history : List StepEvent) (result : BrowserStepResult) : Prop :=
  clicks history = 1 ∧ edits history = [] ∧ ∃ front url snapshot,
    sameOrigin library.toTaskLibrary url task.targetUrl = true ∧
    result.pageSnapshot = some snapshot ∧
    history = front ++ [StepOp.got .pageUrl url, StepOp.got .snapshotPage snapshot]

/-- What has been done when a step has succeeded. -/
def Accomplished (history : List StepEvent) (result : BrowserStepResult) : BrowserAction → Prop
  | .navigate => ∃ url status, step.targetUrl = some url ∧ status < 400 ∧
      history = [StepOp.got (.goto url) (some status)]
  | .readPage => clicks history = 0 ∧ edits history = [] ∧ ∃ front snapshot,
      result.pageSnapshot = some snapshot ∧
      history = front ++ [StepOp.got .snapshotPage snapshot]
  | .fillBasicProfile => clicks history = 0 ∧ ∃ fillPlan,
      PlanOf library.toTaskLibrary identities task fillPlan ∧ bindingsFor fillPlan false ≠ [] ∧
      (edits history).map some = (bindingsFor fillPlan false).map (fillOf identities)
  | .fillSensitiveProfile => clicks history = 0 ∧ ∃ fillPlan,
      task.pageFillPlan = some fillPlan ∧ bindingsFor fillPlan true ≠ [] ∧
      (edits history).map some =
        (bindingsFor fillPlan false ++ bindingsFor fillPlan true).map (fillOf identities)
  | .selectOption => Pressed library task history result ∨
      clicks history = 0 ∧ ∃ intent mapped fillPlan, task.intent = some intent ∧
        task.pageSnapshot = some mapped ∧
        PlanOf library.toTaskLibrary identities task fillPlan ∧ fillPlan.intentBindings ≠ [] ∧
        (edits history).map some =
          fillPlan.intentBindings.map (changeOf library.toTaskLibrary intent mapped)
  | .prepareReview => Pressed library task history result
  | .createFreeReservation | .submitOrder | .authenticate | .solveCaptcha | .pay => False

end

/-! Histories. -/

@[simp] theorem clicks_snoc (history : List StepEvent) (x : StepEvent) :
    clicks (history ++ [x]) = clicks history + if x.op.isClick then 1 else 0 := by
  rw [clicks, List.countP_append, List.countP_singleton]
  rfl

@[simp] theorem edits_snoc (history : List StepEvent) (x : StepEvent) :
    edits (history ++ [x]) = edits history ++ if x.op.isEdit then [x.op] else [] := by
  rw [edits, List.filterMap_append]
  cases edit : x.op.isEdit <;> simp [edits, edit]

theorem shown_now {mapped current : BrowserPageSnapshot} (history : List StepEvent)
    (same : sameControls current mapped = true) :
    Shown mapped (history ++ [StepOp.got .snapshotPage current]) :=
  ⟨history, current, [], rfl, same, nofun⟩

theorem Shown.snoc {mapped : BrowserPageSnapshot} {history : List StepEvent}
    (shown : Shown mapped history) {x : StepEvent} (stays : x.op.stays = true) :
    Shown mapped (history ++ [x]) := by
  obtain ⟨front, current, back, rfl, same, still⟩ := shown
  refine ⟨front, current, back ++ [x], by simp, same, ?_⟩
  intro y member
  rcases List.mem_append.1 member with before | last
  · exact still y before
  · obtain rfl := List.mem_singleton.1 last
    exact stays

/-- Nothing has been pressed or entered between the two. -/
def Idle (history later : List StepEvent) : Prop :=
  clicks later = clicks history ∧ edits later = edits history

theorem idle_refl (history : List StepEvent) : Idle history history := ⟨rfl, rfl⟩

theorem Idle.snoc {history later : List StepEvent} (idle : Idle history later) {x : StepEvent}
    (still : x.op.isClick = false ∧ x.op.isEdit = false) : Idle history (later ++ [x]) := by
  rw [Idle, clicks_snoc, edits_snoc, still.1, still.2, idle.1, idle.2]
  exact ⟨rfl, List.append_nil _⟩

theorem Idle.trans {history middle later : List StepEvent} (first : Idle history middle)
    (second : Idle middle later) : Idle history later :=
  ⟨second.1.trans first.1, second.2.trans first.2⟩

/-! The parts of a step. -/

section
variable {library : StepLibrary} {identities : List IdentityRecord} {task : AgentTask}
  {step : TaskPlanStep} {history : List StepEvent} {mapped : BrowserPageSnapshot}

/-- What follows when every operation is covered. -/
abbrev StepFollows {α : Type} (library : StepLibrary) (identities : List IdentityRecord)
    (task : AgentTask) (step : TaskPlanStep) (post : List StepEvent → α → Prop)
    (history : List StepEvent) (p : StepProgram α) : Prop :=
  Fallible.Follows (Covered library identities task step) post history p

theorem follows_op {β : Type} {post : List StepEvent → β → Prop} {o : StepOp}
    {f : o.Value → StepProgram β} (allowed : Covered library identities task step history o)
    (next : ∀ answer,
      StepFollows library identities task step post (history ++ [o.got answer]) (f answer)) :
    StepFollows library identities task step post history (o.perform >>= f) :=
  Fallible.follows_perform allowed next

/-- A step that stops has not succeeded. -/
theorem follows_stop {post : List StepEvent → BrowserStepResult → Prop} {reasonCode : String}
    {fillPlan : Option PageFillPlan}
    (failed : ∀ result : BrowserStepResult, result.succeeded = false → post history result) :
    StepFollows library identities task step post history (stopStep reasonCode fillPlan) :=
  Fallible.follows_pure (failed _ rfl)

theorem follows_fillPlanOf :
    StepFollows library identities task step
      (fun later fillPlan => Idle history later ∧
        PlanOf library.toTaskLibrary identities task fillPlan)
      history (fillPlanOf library.toTaskLibrary identities task) := by
  rw [fillPlanOf]
  cases stored : task.pageFillPlan with
  | some fillPlan => exact Fallible.follows_pure ⟨idle_refl history, .inl stored⟩
  | none =>
      refine follows_op trivial fun now => ?_
      split
      · next fillPlan built =>
          exact Fallible.follows_pure
            ⟨(idle_refl history).snoc ⟨rfl, rfl⟩, .inr ⟨stored, now, built⟩⟩
      · exact Fallible.follows_throw _

theorem follows_pageMatchesSnapshot (mapped : BrowserPageSnapshot) :
    StepFollows library identities task step
      (fun later same => Idle history later ∧ (same = true → Shown mapped later))
      history (pageMatchesSnapshot mapped) := by
  refine follows_op trivial fun current => Fallible.follows_pure ?_
  exact ⟨(idle_refl history).snoc ⟨rfl, rfl⟩, shown_now history⟩

theorem follows_unchangedSinceMapping (mapped : BrowserPageSnapshot) :
    StepFollows library identities task step
      (fun later refused => Idle history later ∧ (refused = none → Shown mapped later))
      history (unchangedSinceMapping mapped) := by
  refine follows_op trivial fun current => Fallible.follows_pure ?_
  refine ⟨(idle_refl history).snoc ⟨rfl, rfl⟩, ?_⟩
  intro none
  cases same : sameControls current mapped with
  | true => exact shown_now history same
  | false => simp [same] at none

theorem follows_ensureMappedPage (other : step.action ≠ .navigate)
    (mapping : task.pageSnapshot = some mapped) :
    StepFollows library identities task step
      (fun later refused => Idle history later ∧ (refused = none → Shown mapped later))
      history (ensureMappedPage library.toTaskLibrary task mapped) := by
  refine follows_op trivial fun url => ?_
  have read : Idle history (history ++ [StepOp.pageUrl.got url]) :=
    (idle_refl history).snoc ⟨rfl, rfl⟩
  split_ifs with here near
  · exact Fallible.follows_mono (fun later refused h => ⟨read.trans h.1, h.2⟩)
      (follows_unchangedSinceMapping mapped)
  · refine follows_op (.inr ⟨other, .inr ⟨mapped, mapping, rfl, near⟩⟩) fun status => ?_
    have gone := read.snoc (x := (StepOp.goto mapped.url).got status) ⟨rfl, rfl⟩
    split_ifs with failed
    · exact Fallible.follows_pure ⟨gone, nofun⟩
    · exact Fallible.follows_mono (fun later refused h => ⟨gone.trans h.1, h.2⟩)
        (follows_unchangedSinceMapping mapped)
  · exact Fallible.follows_pure ⟨read, nofun⟩

theorem follows_fillBindings {visible : Nat} (bindings : List PageFieldBinding)
    (allowed : ∀ later o, clicks later = 0 → Shown mapped later →
      (∃ binding ∈ bindings, fillOf identities binding = some o) →
        Enters library identities task step later o)
    (unpressed : clicks history = 0) (shown : Shown mapped history) :
    StepFollows library identities task step
      (fun later refused => clicks later = 0 ∧ Shown mapped later ∧ (refused = none →
        (edits later).map some = (edits history).map some ++ bindings.map (fillOf identities)))
      history (fillBindings identities visible bindings) := by
  induction bindings generalizing history with
  | nil =>
      refine Fallible.follows_pure ⟨unpressed, shown, fun _ => ?_⟩
      rw [List.map_nil, List.append_nil]
  | cons binding rest ih =>
      rw [fillBindings]
      split
      · exact Fallible.follows_pure ⟨unpressed, shown, nofun⟩
      · next identity person =>
          split
          · exact Fallible.follows_throw _
          · next index place =>
              split_ifs with beyond
              · exact Fallible.follows_pure ⟨unpressed, shown, nofun⟩
              · split
                · exact Fallible.follows_pure ⟨unpressed, shown, nofun⟩
                · next value known =>
                    have filled : fillOf identities binding = some (.fill index value) := by
                      simp only [fillOf, person, place, known, Option.bind_some, Option.map_some]
                    refine follows_op (allowed history (.fill index value) unpressed shown
                      ⟨binding, List.mem_cons_self, filled⟩) fun done => ?_
                    have calm : clicks (history ++ [(StepOp.fill index value).got done]) = 0 := by
                      rw [clicks_snoc, unpressed]
                      rfl
                    refine Fallible.follows_mono (fun later refused h => ⟨h.1, h.2.1, ?_⟩) (ih
                      (fun later o calm still found => allowed later o calm still
                        (found.imp fun _ entry => ⟨List.mem_cons_of_mem _ entry.1, entry.2⟩))
                      calm (shown.snoc rfl))
                    intro none
                    rw [h.2.2 none, edits_snoc, List.map_cons, filled]
                    simp [StepEvent.op, StepOp.isEdit]

theorem follows_fillProfileBindings {fillPlan : PageFillPlan} {sensitive allowEmpty : Bool}
    (allowed : ∀ later o, clicks later = 0 → Shown mapped later →
      (∃ binding ∈ bindingsFor fillPlan sensitive, fillOf identities binding = some o) →
        Enters library identities task step later o)
    (unpressed : clicks history = 0) (shown : Shown mapped history) :
    StepFollows library identities task step
      (fun later result => clicks later = 0 ∧ Shown mapped later ∧ (result.succeeded = true →
        (edits later).map some =
            (edits history).map some ++ (bindingsFor fillPlan sensitive).map (fillOf identities) ∧
          (allowEmpty = false → bindingsFor fillPlan sensitive ≠ [])))
      history (fillProfileBindings identities fillPlan sensitive allowEmpty) := by
  rw [fillProfileBindings]
  by_cases empty : bindingsFor fillPlan sensitive = []
  · rw [if_pos empty]
    refine Fallible.follows_pure ⟨unpressed, shown, fun succeeded => ⟨?_, ?_⟩⟩
    · rw [empty, List.map_nil, List.append_nil]
    · intro required
      exact absurd succeeded (by simp [required])
  · rw [if_neg empty]
    refine follows_op trivial fun visible => ?_
    refine Fallible.follows_bind (follows_fillBindings _ allowed ?_ (shown.snoc rfl)) ?_
    · rw [clicks_snoc, unpressed]
      rfl
    · intro later refused h
      rw [edits_snoc] at h
      cases refused with
      | some reasonCode =>
          refine follows_stop fun result failed => ⟨h.1, h.2.1, ?_⟩
          rw [failed]
          exact nofun
      | none =>
          refine Fallible.follows_pure ⟨h.1, h.2.1, fun _ => ⟨?_, fun _ => empty⟩⟩
          simpa [StepEvent.op, StepOp.isEdit] using h.2.2 rfl

theorem covered_of_enters {o : StepOp} (edit : o.isEdit = true)
    (enters : Enters library identities task step history o) :
    Covered library identities task step history o := by
  cases o with
  | selectOption index label => exact enters
  | check index => exact enters
  | fill index value => exact enters
  | _ => cases edit

theorem applyValue_isEdit {control : BrowserPageControl} {index : Nat} {desired : String}
    {change : StepOp} (made : applyValue library.toTaskLibrary control index desired = .ok change) :
    change.isEdit = true := by
  rw [applyValue] at made
  repeat' split at made
  all_goals first
    | (obtain rfl := Except.ok.inj made; rfl)
    | cases made

theorem follows_applyBindings {intent : TaskIntent} {visible : Nat}
    (bindings : List PageIntentBinding)
    (allowed : ∀ later o, clicks later = 0 → Shown mapped later →
      (∃ binding ∈ bindings, changeOf library.toTaskLibrary intent mapped binding = some o) →
        Enters library identities task step later o)
    (unpressed : clicks history = 0) (shown : Shown mapped history) :
    StepFollows library identities task step
      (fun later refused => clicks later = 0 ∧ (refused = none → (edits later).map some =
        (edits history).map some ++
          bindings.map (changeOf library.toTaskLibrary intent mapped)))
      history (applyBindings library.toTaskLibrary intent mapped visible bindings) := by
  induction bindings generalizing history with
  | nil =>
      refine Fallible.follows_pure ⟨unpressed, fun _ => ?_⟩
      rw [List.map_nil, List.append_nil]
  | cons binding rest ih =>
      rw [applyBindings]
      split
      · exact Fallible.follows_throw _
      · next index place =>
          split_ifs with beyond
          · exact Fallible.follows_pure ⟨unpressed, nofun⟩
          · split
            · exact Fallible.follows_throw _
            · next control there =>
                split
                · exact Fallible.follows_pure ⟨unpressed, nofun⟩
                · next desired wanted =>
                    split
                    · exact Fallible.follows_pure ⟨unpressed, nofun⟩
                    · next change made =>
                        have edit := applyValue_isEdit made
                        have entered : changeOf library.toTaskLibrary intent mapped binding =
                            some change := by
                          simp only [changeOf, place, there, wanted, made, Option.bind_some,
                            Except.toOption]
                        refine follows_op (covered_of_enters edit (allowed history change unpressed
                          shown ⟨binding, List.mem_cons_self, entered⟩)) fun done => ?_
                        have kind : change.isClick = false ∧ change.stays = true := by
                          cases change <;> first | exact ⟨rfl, rfl⟩ | cases edit
                        have calm : clicks (history ++ [change.got done]) = 0 := by
                          rw [clicks_snoc, unpressed]
                          simp [StepEvent.op, kind.1]
                        refine Fallible.follows_mono (fun later refused h => ⟨h.1, ?_⟩) (ih
                          (fun later o calm still found => allowed later o calm still
                            (found.imp fun _ entry => ⟨List.mem_cons_of_mem _ entry.1, entry.2⟩))
                          calm (shown.snoc kind.2))
                        intro none
                        rw [h.2 none, edits_snoc, List.map_cons, entered]
                        simp [StepEvent.op, edit]

theorem onlySafeButton_of_candidates {snapshot : BrowserPageSnapshot}
    {candidate : BrowserPageControl × Nat}
    (alone : reviewCandidates library.toTaskLibrary snapshot = [candidate]) :
    OnlySafeButton library.toTaskLibrary snapshot candidate.1 candidate.2 := by
  have members : ∀ entry : BrowserPageControl × Nat,
      entry = candidate ↔ snapshot.controls[entry.2]? = some entry.1 ∧ entry.1.kind = .button ∧
        entry.1.disabled = false ∧
          isSafeReviewButton library.toTaskLibrary entry.1.label = true := by
    intro entry
    have listed : entry ∈ reviewCandidates library.toTaskLibrary snapshot ↔ entry = candidate := by
      rw [alone, List.mem_singleton]
    rw [← listed, reviewCandidates, List.mem_filter, List.mem_zipIdx_iff_getElem?]
    simp
  obtain ⟨place, button, enabled, safe⟩ := (members candidate).1 rfl
  refine ⟨place, button, enabled, safe, ?_⟩
  intro other otherIndex elsewhere kind enabled safe
  exact congrArg Prod.snd ((members (other, otherIndex)).2 ⟨elsewhere, kind, enabled, safe⟩)

/-- The step has done its part if it has succeeded. -/
abbrev StepSound (library : StepLibrary) (identities : List IdentityRecord) (task : AgentTask)
    (step : TaskPlanStep) (later : List StepEvent) (result : BrowserStepResult) : Prop :=
  result.succeeded = true → Accomplished library identities task step later result step.action

theorem follows_failed {reasonCode : String} {fillPlan : Option PageFillPlan} :
    StepFollows library identities task step (StepSound library identities task step) history
      (stopStep reasonCode fillPlan) :=
  follows_stop fun _ failed succeeded => absurd (failed.symm.trans succeeded) Bool.false_ne_true

variable (fresh : Idle [] history)
include fresh

theorem follows_fillBasicProfile (action : step.action = .fillBasicProfile) :
    StepFollows library identities task step (StepSound library identities task step) history
      (fillBasicProfile library.toTaskLibrary identities task) := by
  rw [fillBasicProfile]
  split
  · exact follows_failed
  · next mapped mapping =>
      split_ifs with nobody
      · exact follows_failed
      · refine Fallible.follows_bind follows_fillPlanOf ?_
        intro planned fillPlan h
        obtain ⟨idle, plan⟩ := h
        refine Fallible.follows_bind (follows_pageMatchesSnapshot mapped) ?_
        intro compared same h
        cases same with
        | false => exact follows_failed
        | true =>
            have seen := (fresh.trans idle).trans h.1
            refine Fallible.follows_mono ?_ (follows_fillProfileBindings ?_ seen.1 (h.2 rfl))
            · intro later result h succeeded
              obtain ⟨entered, given⟩ := h.2.2 succeeded
              rw [action]
              refine ⟨h.1, fillPlan, plan, given rfl, ?_⟩
              rw [entered, seen.2]
              rfl
            · intro later o calm still found
              exact ⟨calm, mapped, fillPlan, mapping, still, plan, .inl ⟨action, found⟩⟩

theorem follows_fillSensitiveProfile (action : step.action = .fillSensitiveProfile) :
    StepFollows library identities task step (StepSound library identities task step) history
      (fillSensitiveProfile library.toTaskLibrary identities task) := by
  rw [fillSensitiveProfile]
  split
  · next mapped fillPlan mapping stored =>
      split_ifs with nobody
      · exact follows_failed
      · have allowed : ∀ sensitive later o, clicks later = 0 → Shown mapped later →
            (∃ binding ∈ bindingsFor fillPlan sensitive, fillOf identities binding = some o) →
              Enters library identities task step later o := by
          intro sensitive later o calm still found
          obtain ⟨binding, member, filled⟩ := found
          exact ⟨calm, mapped, fillPlan, mapping, still, .inl stored, .inr (.inl
            ⟨action, stored, binding, (List.mem_filter.1 member).1, filled⟩)⟩
        have other : step.action ≠ .navigate := by
          rw [action]
          exact nofun
        refine Fallible.follows_bind (follows_ensureMappedPage other mapping) ?_
        intro ensured refused h
        obtain ⟨idle, restored⟩ := h
        cases refused with
        | some reasonCode => exact follows_failed
        | none =>
            have seen := fresh.trans idle
            refine Fallible.follows_bind (follows_fillProfileBindings (allowed false) seen.1
              (restored rfl)) ?_
            intro middle basicResult basic
            cases succeeded : basicResult.succeeded with
            | false =>
                refine Fallible.follows_pure fun claimed => ?_
                rw [succeeded] at claimed
                cases claimed
            | true =>
                refine Fallible.follows_mono ?_ (follows_fillProfileBindings (allowed true) basic.1
                  basic.2.1)
                intro later result h claimed
                obtain ⟨entered, given⟩ := h.2.2 claimed
                rw [action]
                refine ⟨h.1, fillPlan, stored, given rfl, ?_⟩
                rw [entered, (basic.2.2 succeeded).1, seen.2, List.map_append]
                rfl
  · exact follows_failed

theorem follows_arrived {index : Nat} {opened left : String} {fillPlan : Option PageFillPlan}
    (presses : PressesLink library task step history index ∨
      PressesReview library task step history index) :
    StepFollows library identities task step
      (fun later result => result.succeeded = true → Pressed library task later result)
      history (arrived library.toTaskLibrary task index opened left fillPlan) := by
  refine follows_op ⟨fresh.1, fresh.2, presses⟩ fun pressed => ?_
  refine follows_op trivial fun loaded => ?_
  refine follows_op trivial fun url => ?_
  have once : clicks (history ++ [(StepOp.click index).got pressed]) = 1 := by
    rw [clicks_snoc, fresh.1]
    rfl
  have blank : edits (history ++ [(StepOp.click index).got pressed]) = [] := by
    rw [edits_snoc, fresh.2]
    rfl
  split_ifs with near
  · refine follows_op trivial fun snapshot => Fallible.follows_pure fun _ => ?_
    have idle := (((idle_refl (history ++ [(StepOp.click index).got pressed])).snoc
      (x := StepOp.waitForLoadState.got loaded) ⟨rfl, rfl⟩).snoc
      (x := StepOp.pageUrl.got url) ⟨rfl, rfl⟩).snoc
      (x := StepOp.snapshotPage.got snapshot) ⟨rfl, rfl⟩
    exact ⟨idle.1.trans once, idle.2.trans blank, _, url, snapshot, near, rfl,
      List.append_assoc _ [_] [_]⟩
  · exact follows_stop fun _ failed succeeded =>
      absurd (failed.symm.trans succeeded) Bool.false_ne_true

theorem follows_followMatchingOption {intent : TaskIntent} {fillPlan : PageFillPlan}
    (action : step.action = .selectOption) (given : task.intent = some intent)
    (clear : intent.issues = []) (mapping : task.pageSnapshot = some mapped) :
    StepFollows library identities task step (StepSound library identities task step) history
      (followMatchingOption library task mapped intent fillPlan) := by
  rw [followMatchingOption]
  split
  · exact follows_failed
  · next index best =>
      refine follows_op trivial fun current => ?_
      refine follows_op trivial fun visible => ?_
      split_ifs with beyond
      · exact follows_failed
      · refine follows_op trivial fun target => ?_
        have idle := ((fresh.snoc (x := StepOp.snapshotPage.got current) ⟨rfl, rfl⟩).snoc
          (x := StepOp.visibleControls.got visible) ⟨rfl, rfl⟩).snoc
          (x := (StepOp.linkTarget index).got target) ⟨rfl, rfl⟩
        cases target with
        | none => exact follows_failed
        | some url =>
            split_ifs with near
            · refine Fallible.follows_mono ?_ (follows_arrived idle (.inl ⟨action, intent, mapped,
                given, clear, mapping, best, history, current, visible, url,
                Nat.not_le.1 beyond, near, ?_⟩))
              · intro later result pressed succeeded
                rw [action]
                exact .inl (pressed succeeded)
              · simp only [List.append_assoc, List.cons_append, List.nil_append]
            · exact follows_failed

theorem follows_applyTaskIntent (action : step.action = .selectOption) :
    StepFollows library identities task step (StepSound library identities task step) history
      (applyTaskIntent library identities task) := by
  rw [applyTaskIntent]
  split
  · next intent mapped given mapping =>
      by_cases clear : intent.issues = []
      · rw [if_neg (not_not.2 clear)]
        refine Fallible.follows_bind follows_fillPlanOf ?_
        intro planned fillPlan h
        obtain ⟨idle, plan⟩ := h
        have ready := fresh.trans idle
        split_ifs with unbound
        · exact follows_followMatchingOption ready action given clear mapping
        · have other : step.action ≠ .navigate := by
            rw [action]
            exact nofun
          refine Fallible.follows_bind (follows_ensureMappedPage other mapping) ?_
          intro ensured refused h
          cases refused with
          | some reasonCode => exact follows_failed
          | none =>
              have seen := ready.trans h.1
              refine follows_op trivial fun visible => ?_
              have counted := seen.snoc (x := StepOp.visibleControls.got visible) ⟨rfl, rfl⟩
              refine Fallible.follows_bind (follows_applyBindings _ ?_ counted.1
                ((h.2 rfl).snoc rfl)) ?_
              · intro later o calm still found
                exact ⟨calm, mapped, fillPlan, mapping, still, plan,
                  .inr (.inr ⟨action, intent, given, clear, found⟩)⟩
              · intro later refused h
                cases refused with
                | some reasonCode => exact follows_failed
                | none =>
                    refine Fallible.follows_pure fun _ => ?_
                    rw [action]
                    refine .inr ⟨h.1, intent, mapped, fillPlan, given, mapping, plan, unbound, ?_⟩
                    rw [h.2 rfl, counted.2]
                    rfl
      · rw [if_pos clear]
        exact follows_failed
  · exact follows_failed

theorem follows_pressReviewButton (action : step.action = .prepareReview) :
    StepFollows library identities task step (StepSound library identities task step) history
      (pressReviewButton library.toTaskLibrary task) := by
  refine follows_op trivial fun current => ?_
  split
  · exact follows_failed
  · next candidate alone =>
      refine follows_op trivial fun visible => ?_
      split_ifs with beyond
      · exact follows_failed
      · refine follows_op trivial fun target => ?_
        have idle := ((fresh.snoc (x := StepOp.snapshotPage.got current) ⟨rfl, rfl⟩).snoc
          (x := StepOp.visibleControls.got visible) ⟨rfl, rfl⟩).snoc
          (x := (StepOp.formTarget candidate.2).got target) ⟨rfl, rfl⟩
        split_ifs with near
        · refine Fallible.follows_mono ?_ (follows_arrived idle (.inr ⟨action, history, current,
            candidate.1, visible, target, onlySafeButton_of_candidates alone,
            Nat.not_le.1 beyond, ?_, ?_⟩))
          · intro later result pressed succeeded
            rw [action]
            exact pressed succeeded
          · intro url found
            rw [found] at near
            exact near
          · simp only [List.append_assoc, List.cons_append, List.nil_append]
        · exact follows_failed
  · exact follows_failed

theorem follows_prepareReview (action : step.action = .prepareReview) :
    StepFollows library identities task step (StepSound library identities task step) history
      (prepareReview library.toTaskLibrary task) := by
  rw [prepareReview]
  split
  · exact follows_failed
  · next mapped mapping =>
      refine follows_op trivial fun url => ?_
      have read := fresh.snoc (x := StepOp.pageUrl.got url) ⟨rfl, rfl⟩
      split_ifs with here near
      · exact follows_pressReviewButton read action
      · have other : step.action ≠ .navigate := by
          rw [action]
          exact nofun
        refine follows_op (.inr ⟨other, .inr ⟨mapped, mapping, rfl, near⟩⟩) fun status => ?_
        split_ifs with failed
        · exact follows_failed
        · exact follows_pressReviewButton
            (read.snoc (x := (StepOp.goto mapped.url).got status) ⟨rfl, rfl⟩) action
      · exact follows_failed

theorem follows_inspectPage (action : step.action = .readPage) :
    StepFollows library identities task step (StepSound library identities task step) history
      inspectPage := by
  refine follows_op trivial fun count => ?_
  split_ifs with missing
  · exact follows_failed
  · refine follows_op trivial fun text => ?_
    refine follows_op trivial fun snapshot => Fallible.follows_pure fun _ => ?_
    have idle := ((fresh.snoc (x := StepOp.bodyCount.got count) ⟨rfl, rfl⟩).snoc
      (x := StepOp.bodyText.got text) ⟨rfl, rfl⟩).snoc
      (x := StepOp.snapshotPage.got snapshot) ⟨rfl, rfl⟩
    rw [action]
    exact ⟨idle.1, idle.2, _, snapshot, rfl, rfl⟩

theorem follows_runInPage :
    StepFollows library identities task step (StepSound library identities task step) history
      (runInPage library identities task step.action) := by
  cases action : step.action with
  | readPage => exact follows_inspectPage fresh action
  | selectOption => exact follows_applyTaskIntent fresh action
  | prepareReview => exact follows_prepareReview fresh action
  | fillBasicProfile => exact follows_fillBasicProfile fresh action
  | fillSensitiveProfile => exact follows_fillSensitiveProfile fresh action
  | navigate | createFreeReservation | submitOrder | authenticate | solveCaptcha | pay =>
      exact follows_failed

omit fresh

theorem follows_navigate (action : step.action = .navigate) :
    StepFollows library identities task step (StepSound library identities task step) []
      (navigate step) := by
  rw [navigate]
  split
  · exact follows_failed
  · next url target =>
      refine follows_op (.inl ⟨action, target⟩) fun status => ?_
      cases status with
      | none => exact follows_failed
      | some status =>
          simp only
          split_ifs with refused
          · exact follows_failed
          · refine Fallible.follows_pure fun _ => ?_
            rw [action]
            exact ⟨url, status, target, Nat.not_le.1 refused, rfl⟩

/-- A step, from its first operation to its result. -/
theorem follows_run (library : StepLibrary) (identities : List IdentityRecord) (task : AgentTask)
    (step : TaskPlanStep) :
    StepFollows library identities task step (StepSound library identities task step) []
      (run library identities task step) := by
  rw [run]
  by_cases action : step.action = .navigate
  · rw [if_pos action]
    exact follows_navigate action
  · rw [if_neg action]
    refine follows_op trivial fun url => ?_
    have read := (idle_refl []).snoc (x := StepOp.pageUrl.got url) ⟨rfl, rfl⟩
    split_ifs with blank
    · refine follows_op (.inr ⟨action, .inl ⟨?_, rfl⟩⟩) fun status => ?_
      · rw [blank]
        rfl
      · exact follows_runInPage (read.snoc (x := (StepOp.goto _).got status) ⟨rfl, rfl⟩)
    · exact follows_runInPage read

end

/-! Runs of a step. -/

variable (library : StepLibrary) (identities : List IdentityRecord)

/-- What a step performs in a browser, with the answers. -/
def stepEvents (browser : Nat → (o : StepOp) → stepSignature.Answer o) (task : AgentTask)
    (step : TaskPlanStep) : List StepEvent :=
  (run library identities task step).run.performed browser 0

/-- How the step ends there. -/
def stepEnd (browser : Nat → (o : StepOp) → stepSignature.Answer o) (task : AgentTask)
    (step : TaskPlanStep) : Except StepFailure BrowserStepResult :=
  (run library identities task step).run.answered browser 0

theorem step_runs_covered (browser : Nat → (o : StepOp) → stepSignature.Answer o)
    (task : AgentTask) (step : TaskPlanStep) :
    (∀ front x back, stepEvents library identities browser task step = front ++ x :: back →
      Covered library identities task step front x.op) ∧
    ∀ result, stepEnd library identities browser task step = .ok result →
      result.succeeded = true →
        Accomplished library identities task step
          (stepEvents library identities browser task step) result step.action := by
  have follows := follows_run library identities task step
  constructor
  · intro front x back split
    exact Prog.along_performed _ follows browser 0 split
  · intro result ended
    exact Prog.along_answered _ follows browser 0 result ended

end PurchaseAgent
