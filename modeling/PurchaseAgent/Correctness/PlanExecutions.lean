import PurchaseAgent.Correctness.StepEffects
import PurchaseAgent.Correctness.TaskAuthorization

/-!
Executions of whole plans in a browser: what the journal records as succeeded has been
done in the page, by a call that was authorized, and a task is prepared only when this is
so for all its steps.
-/

namespace PurchaseAgent

open Cooperative PlaywrightBrowserStepRunner

section
variable (library : StepLibrary) (identities : List IdentityRecord)
  (browser : Nat → Nat → (o : StepOp) → stepSignature.Answer o)

/-- One of the calls of the runner ended well and has done what the entry reports. -/
def BackedBy (invocations : List Invocation) (entry : TaskJournalEntry) : Prop :=
  ∃ call x result, invocations[call]? = some x ∧ x.step.stepId = entry.stepId ∧
    stepEnd library identities (browser call) x.task x.step = .ok result ∧
    result.succeeded = true ∧
    Accomplished library identities x.task x.step
      (stepEvents library identities (browser call) x.task x.step) result x.step.action

/-- What an execution leaves of a task as it was. -/
structure SameErrand (task current : AgentTask) : Prop where
  targetUrl : current.targetUrl = task.targetUrl
  permissions : current.permissions = task.permissions
  intent : current.intent = task.intent
  personIds : current.personIds = task.personIds

/-- What holds along an execution of a plan. -/
structure Truthful (task : AgentTask) (plan : TaskPlan) (progress : ExecutionProgress) : Prop where
  planned : progress.current.plan = some plan
  errand : SameErrand task progress.current
  calls : ∀ x ∈ progress.invocations, x.Authorized library.toTaskLibrary ∧ SameErrand task x.task
  entries : ∀ entry ∈ progress.journal, entry.outcome = .succeeded →
    entry ∈ task.journal.getD [] ∨ BackedBy library identities browser progress.invocations entry
  steps : ∀ stepId ∈ progress.succeededSteps, ∃ entry ∈ progress.journal,
    entry.stepId = stepId ∧ entry.outcome = .succeeded

end

section
variable {library : StepLibrary} {identities : List IdentityRecord}
  {browser : Nat → Nat → (o : StepOp) → stepSignature.Answer o} {task : AgentTask}
  {plan : TaskPlan} {progress : ExecutionProgress} {now : Nat → Time}

theorem BackedBy.mono {invocations : List Invocation} {entry : TaskJournalEntry}
    (backed : BackedBy library identities browser invocations entry) (x : Invocation) :
    BackedBy library identities browser (invocations ++ [x]) entry := by
  obtain ⟨call, called, result, found, rest⟩ := backed
  exact ⟨call, called, result, List.getElem?_append_left (List.getElem?_eq_some_iff.1 found).1 ▸ found,
    rest⟩

/-- A call whose result has succeeded is a run of the step that has succeeded. -/
theorem stepEnd_of_succeeded {call : Nat} {current : AgentTask} {step : TaskPlanStep}
    {result : BrowserStepResult}
    (returned : ((runner library identities browser).run call current step).result? = some result)
    (succeeded : result.succeeded = true) :
    stepEnd library identities (browser call) current step = .ok result := by
  change (outcome (stepEnd library identities (browser call) current step)).result? = _ at returned
  cases ended : stepEnd library identities (browser call) current step with
  | ok value =>
      rw [ended] at returned
      exact congrArg Except.ok (Option.some.inj returned)
  | error failure =>
      rw [ended] at returned
      cases failure with
      | exception =>
          obtain rfl := Option.some.inj returned
          cases succeeded
      | interrupted => cases returned

theorem recorded_entry (progress : ExecutionProgress) (now : Nat → Time) (step : TaskPlanStep)
    (result : BrowserStepResult) :
    ∃ entry : TaskJournalEntry, (progress.record now step result).journal =
        progress.journal ++ [entry] ∧ entry.stepId = step.stepId ∧
      (entry.outcome = .succeeded ↔ result.succeeded = true) := by
  obtain ⟨succeeded, reasonCode, pageSnapshot, pageFillPlan⟩ := result
  cases succeeded <;> cases pageSnapshot <;> cases pageFillPlan <;>
    exact ⟨_, rfl, rfl, by simp⟩

namespace Truthful

/-- An entry that reports no success. -/
theorem append (h : Truthful library identities browser task plan progress) (stepId : String)
    {outcome : TaskJournalOutcome} (other : outcome ≠ .succeeded) (message : String)
    (reasonCode : Option String) :
    Truthful library identities browser task plan
      (progress.append now stepId outcome message reasonCode) where
  planned := h.planned
  errand := ⟨h.errand.1, h.errand.2, h.errand.3, h.errand.4⟩
  calls := h.calls
  entries entry member succeeded := by
    rcases List.mem_append.1 member with before | last
    · exact h.entries entry before succeeded
    · obtain rfl := List.mem_singleton.1 last
      exact absurd succeeded other
  steps stepId member := by
    obtain ⟨entry, there, rest⟩ := h.steps stepId member
    exact ⟨entry, List.mem_append_left _ there, rest⟩

theorem begin (h : Truthful library identities browser task plan progress) {step : TaskPlanStep}
    {decision : PermissionDecision} {approval : Option TaskStepApproval}
    (permitted : Permitted library.toTaskLibrary progress.current plan.version step decision
      approval) (reasonCode : String) :
    Truthful library identities browser task plan
      (progress.begin now step approval reasonCode) where
  planned := h.planned
  errand := ⟨h.errand.1, h.errand.2, h.errand.3, h.errand.4⟩
  calls x member := by
    rcases List.mem_append.1 member with before | last
    · exact h.calls x before
    · obtain rfl := List.mem_singleton.1 last
      refine ⟨⟨decision, permitted.decided, ?_⟩, h.errand⟩
      rcases permitted.allowed with allowed | approved
      · exact .inl allowed
      · obtain ⟨item, rfl⟩ := Option.isSome_iff_exists.1 approved
        obtain ⟨held, version, own, reason, unconsumed⟩ := approvalFor_spec permitted.found
        exact .inr ⟨plan, h.planned, item, held, version, own, reason, unconsumed⟩
  entries entry member succeeded := by
    rcases List.mem_append.1 member with before | last
    · exact (h.entries entry before succeeded).imp_right fun backed => backed.mono _
    · obtain rfl := List.mem_singleton.1 last
      cases succeeded
  steps stepId member := by
    obtain ⟨entry, there, rest⟩ := h.steps stepId member
    exact ⟨entry, List.mem_append_left _ there, rest⟩

/-- The result of the call that has just begun. -/
theorem record {step : TaskPlanStep} {approval : Option TaskStepApproval} {reasonCode : String}
    (h : Truthful library identities browser task plan
      (progress.begin now step approval reasonCode))
    {result : BrowserStepResult}
    (returned : ((runner library identities browser).run progress.invocations.length
      (progress.begin now step approval reasonCode).current step).result? = some result) :
    Truthful library identities browser task plan
      ((progress.begin now step approval reasonCode).record now step result) := by
  obtain ⟨journal, pageSnapshot, pageFillPlan, same⟩ :=
    (progress.begin now step approval reasonCode).record_current now step result
  obtain ⟨last, journaled, own, outcome⟩ :=
    recorded_entry (progress.begin now step approval reasonCode) now step result
  constructor
  · rw [same]
    exact h.planned
  · rw [same]
    exact ⟨h.errand.1, h.errand.2, h.errand.3, h.errand.4⟩
  · exact h.calls
  · intro entry member succeeded
    rw [journaled] at member
    rcases List.mem_append.1 member with before | now
    · exact h.entries entry before succeeded
    · obtain rfl := List.mem_singleton.1 now
      right
      have well := outcome.1 succeeded
      -- the approval and the journal play no part in the run
      have ended : stepEnd library identities (browser progress.invocations.length)
          progress.current step = .ok result := stepEnd_of_succeeded returned well
      refine ⟨progress.invocations.length, ⟨progress.current, step⟩, result, ?_, own.symm, ended,
        well, (step_runs_covered library identities _ progress.current step).2 result ended well⟩
      exact List.getElem?_concat_length
  · intro stepId member
    obtain ⟨entry, there, rest⟩ := h.steps stepId member
    rw [journaled]
    exact ⟨entry, List.mem_append_left _ there, rest⟩

end Truthful

/-- The progress after a call that has succeeded. -/
theorem Truthful.succeeded {step : TaskPlanStep} {approval : Option TaskStepApproval}
    {reasonCode : String} {result : BrowserStepResult} {executedSteps : Nat}
    (recorded : Truthful library identities browser task plan
      ((progress.begin now step approval reasonCode).record now step result))
    (succeeded : result.succeeded = true) :
    Truthful library identities browser task plan
      { (progress.begin now step approval reasonCode).record now step result with
        succeededSteps := step.stepId :: progress.succeededSteps
        executedSteps := executedSteps } := by
  refine ⟨recorded.planned, recorded.errand, recorded.calls, recorded.entries, ?_⟩
  intro stepId member
  rcases List.mem_cons.1 member with rfl | before
  · obtain ⟨entry, journaled, own, outcome⟩ :=
      recorded_entry (progress.begin now step approval reasonCode) now step result
    refine ⟨entry, ?_, own, outcome.2 succeeded⟩
    exact journaled ▸ List.mem_append_right _ (List.mem_singleton_self entry)
  · exact recorded.steps stepId before

/-- How an execution ends: with what its last progress carries, prepared only when all
steps have succeeded. -/
structure EndsTruthful (library : StepLibrary) (identities : List IdentityRecord)
    (browser : Nat → Nat → (o : StepOp) → stepSignature.Answer o) (task : AgentTask)
    (plan : TaskPlan) (steps : List TaskPlanStep) (first last : ExecutionProgress)
    (execution : Execution) : Prop where
  truthful : Truthful library identities browser task plan last
  kept : ∀ stepId ∈ first.succeededSteps, stepId ∈ last.succeededSteps
  invocations : execution.invocations = last.invocations
  carried : ∀ ended ∈ execution.task, ∃ status waitingReason,
    ended = { last.current with status := status, waitingReason := waitingReason }
  prepared : ∀ ended ∈ execution.task, ended.status = .prepared →
    ∀ step ∈ steps, step.stepId ∈ last.succeededSteps

/-- An execution that returns no task. -/
theorem Truthful.lost {last : ExecutionProgress}
    (truthful : Truthful library identities browser task plan last) (first : ExecutionProgress)
    (kept : ∀ stepId ∈ first.succeededSteps, stepId ∈ last.succeededSteps)
    (steps : List TaskPlanStep) (error : Option PyException) :
    EndsTruthful library identities browser task plan steps first last
      ⟨none, last.invocations, error⟩ where
  truthful := truthful
  kept := kept
  invocations := rfl
  carried ended found := by cases found
  prepared ended found := by cases found

theorem Truthful.stop {last : ExecutionProgress}
    (truthful : Truthful library identities browser task plan last) (first : ExecutionProgress)
    (kept : ∀ stepId ∈ first.succeededSteps, stepId ∈ last.succeededSteps)
    {status : TaskStatus} (unfinished : status ≠ .prepared)
    (waitingReason : Option UserActionReason) (steps : List TaskPlanStep) :
    EndsTruthful library identities browser task plan steps first last
      (last.stop status waitingReason) where
  truthful := truthful
  kept := kept
  invocations := rfl
  carried ended found := by
    obtain rfl := Option.some.inj found
    exact ⟨status, waitingReason, rfl⟩
  prepared ended found prepared := by
    obtain rfl := Option.some.inj found
    exact absurd prepared unfinished

theorem executeSteps_truthful (maxSteps : Option Nat) (steps : List TaskPlanStep)
    (h : Truthful library identities browser task plan progress) :
    ∃ last, EndsTruthful library identities browser task plan steps progress last
      (executeSteps library.toTaskLibrary (runner library identities browser) now maxSteps
        plan.version steps progress) := by
  induction steps generalizing progress with
  | nil =>
      refine ⟨progress, h, fun _ member => member, rfl, ?_, ?_⟩
      · intro ended found
        obtain rfl := Option.some.inj found
        exact ⟨_, _, rfl⟩
      · intro ended found prepared step member
        cases member
  | cons step rest ih =>
      obtain ⟨taken, how, whole⟩ := executeSteps_cons library.toTaskLibrary
        (runner library identities browser) now maxSteps plan.version step rest progress
      rw [whole]
      cases how with
      | skipped done =>
          obtain ⟨last, ends⟩ := ih h
          refine ⟨last, ends.truthful, ends.kept, ends.invocations, ends.carried, ?_⟩
          intro ended found prepared other member
          rcases List.mem_cons.1 member with rfl | later
          · exact ends.kept _ done
          · exact ends.prepared ended found prepared other later
      | raised raised => exact ⟨progress, h.lost progress (fun _ member => member) _ _⟩
      | @blocked reason pending asked unapproved =>
          have appended : Truthful library identities browser task plan (progress.append now
              step.stepId .blocked "Execution paused for a required user action"
              (some reason.value)) :=
            h.append _ TaskJournalOutcome.noConfusion _ _
          exact ⟨_, appended.stop progress (fun _ member => member) TaskStatus.noConfusion _ _⟩
      | @denied reasonCode pending =>
          have appended : Truthful library identities browser task plan (progress.append now
              step.stepId .failed "Execution denied by the task permission policy"
              (some reasonCode)) :=
            h.append _ TaskJournalOutcome.noConfusion _ _
          exact ⟨_, appended.stop progress (fun _ member => member) TaskStatus.noConfusion _ _⟩
      | @interrupted decision approval reasonCode pending permitted interrupted =>
          have begun : Truthful library identities browser task plan
              (progress.begin now step approval reasonCode) := h.begin permitted reasonCode
          exact ⟨_, begun.lost progress (fun _ member => member) _ _⟩
      | @failed decision approval reasonCode result status pending permitted returned failed
          ended =>
          have recorded := (h.begin permitted reasonCode).record returned
          refine ⟨_, recorded.stop progress (fun _ member => member) ?_ _ _⟩
          rcases ended with rfl | rfl <;> exact TaskStatus.noConfusion
      | @paused decision approval reasonCode result pending permitted returned succeeded used =>
          have recorded := (h.begin permitted reasonCode).record returned
          refine ⟨_, (recorded.succeeded succeeded).stop progress ?_ TaskStatus.noConfusion _ _⟩
          exact fun _ member => List.mem_cons_of_mem _ member
      | @succeeded decision approval reasonCode result pending permitted returned succeeded
          unused =>
          have recorded := (h.begin permitted reasonCode).record returned
          obtain ⟨last, ends⟩ := ih (recorded.succeeded succeeded)
          refine ⟨last, ends.truthful, ?_, ends.invocations, ends.carried, ?_⟩
          · intro stepId member
            exact ends.kept stepId (List.mem_cons_of_mem _ member)
          · intro ended found prepared other member
            rcases List.mem_cons.1 member with rfl | later
            · exact ends.kept _ List.mem_cons_self
            · exact ends.prepared ended found prepared other later

theorem truthful_start (planned : task.plan = some plan) :
    Truthful library identities browser task plan (startProgress task) where
  planned := planned
  errand := ⟨rfl, rfl, rfl, rfl⟩
  calls _ member := nomatch member
  entries _ member _ := .inl member
  steps stepId member := by
    obtain ⟨entry, there, own⟩ := List.mem_map.1 member
    obtain ⟨there, succeeded⟩ := List.mem_filter.1 there
    exact ⟨entry, there, own, of_decide_eq_true succeeded⟩

/-- What can be relied on after an execution of a plan. -/
structure ExecutionTruthful (library : StepLibrary) (identities : List IdentityRecord)
    (browser : Nat → Nat → (o : StepOp) → stepSignature.Answer o) (task : AgentTask)
    (plan : TaskPlan) (execution : Execution) : Prop where
  authorized : ∀ x ∈ execution.invocations,
    x.Authorized library.toTaskLibrary ∧ SameErrand task x.task
  covered : ∀ call x, execution.invocations[call]? = some x → ∀ front event back,
    stepEvents library identities (browser call) x.task x.step = front ++ event :: back →
      Covered library identities x.task x.step front event.op
  entries : ∀ ended ∈ execution.task, ∀ entry ∈ ended.journal.getD [],
    entry.outcome = .succeeded → entry ∈ task.journal.getD [] ∨
      BackedBy library identities browser execution.invocations entry
  prepared : ∀ ended ∈ execution.task, ended.status = .prepared → ∀ step ∈ plan.steps,
    ∃ entry ∈ ended.journal.getD [], entry.stepId = step.stepId ∧ entry.outcome = .succeeded

theorem plan_executions_truthful {maxSteps : Option Nat} {execution : Execution}
    (planned : task.plan = some plan)
    (executed : executeTaskPlan library.toTaskLibrary task (runner library identities browser) now
      maxSteps = .ok execution) :
    ExecutionTruthful library identities browser task plan execution := by
  obtain ⟨same, found, -, rfl⟩ := executeTaskPlan_ok executed
  obtain rfl := Option.some.inj (found.symm.trans planned)
  have first : Truthful library identities browser task same (startProgress task) :=
    truthful_start planned
  obtain ⟨last, ends⟩ : ∃ last, EndsTruthful library identities browser task same same.steps
      (startProgress task) last (executeSteps library.toTaskLibrary
        (runner library identities browser) now maxSteps same.version same.steps
        (startProgress task)) := executeSteps_truthful maxSteps same.steps first
  constructor
  · intro x member
    rw [ends.invocations] at member
    exact ends.truthful.calls x member
  · intro call x _ front event back split
    exact (step_runs_covered library identities (browser call) x.task x.step).1 front event back
      split
  · intro ended carried entry member succeeded
    obtain ⟨status, waitingReason, rfl⟩ := ends.carried ended carried
    rw [ends.invocations]
    exact ends.truthful.entries entry member succeeded
  · intro ended carried prepared step member
    have listed := ends.prepared ended carried prepared step member
    obtain ⟨status, waitingReason, rfl⟩ := ends.carried ended carried
    exact ends.truthful.steps step.stepId listed

end

/-! A page with one field, for a document. -/

namespace DocumentPage

theorem scores_unit : (0 : Rat) ≤ 0 ∧ (0 : Rat) ≤ 1 := by decide

/-- Only equal texts match. -/
def equalTexts : FuzzyText Rat where
  casefold := id
  isWord := Char.isAlphanum
  zero := 0
  one := 1
  allShared := 0
  resembling := 1
  ratio _ _ := 0
  overlap _ _ := 0
  morphologicalOverlap _ _ := 0
  zero_le_one := scores_unit.2
  allShared_unit := scores_unit
  ratio_unit _ _ := scores_unit
  overlap_unit _ _ _ := scores_unit
  morphologicalOverlap_unit _ _ _ := scores_unit

def library : StepLibrary := { Sample.taskLibrary with matching := equalTexts }

def passenger : IdentityRecord :=
  { Sample.passenger with documents := [⟨⟨3⟩, .internalPassport, "4510 123456", none⟩] }

def field : BrowserPageControl where
  controlId := "control_1"
  frameIndex := 0
  frameUrl := none
  kind := .text
  label := "document number"
  fieldName := none
  role := none
  nearbyText := none
  required := true
  disabled := false
  checked := none
  selected := none
  expanded := none
  pressed := none
  options := []

def shown : BrowserPageSnapshot where
  url := "https://shop.example/"
  title := "Shop"
  capturedAt := 0
  controls := [field]
  visibleText := ""

def fillPlan : PageFillPlan :=
  ⟨"https://shop.example/", 1, [⟨"control_1", .documentNumber, ⟨2⟩, true⟩], [], []⟩

def fillDocument : TaskPlanStep :=
  { stepId := "fill_document", action := .fillSensitiveProfile, summary := "Fill the document" }

def plan : TaskPlan := ⟨1, 0, [fillDocument], List.nodup_singleton _⟩

def task : AgentTask :=
  { Sample.agentTask with
    plan := some plan
    approvals := [⟨⟨7⟩, 1, "fill_document", "sensitive_data_approval_required", 1, none⟩]
    pageSnapshot := some shown, pageFillPlan := some fillPlan }

/-- The page as it was mapped. -/
def answer : (o : StepOp) → Except StepFailure o.Value
  | .pageUrl => .ok "https://shop.example/"
  | .snapshotPage => .ok shown
  | .visibleControls => .ok 1
  | .fill _ _ => .ok ()
  | _ => .error .exception

def browser (_ _ : Nat) (o : StepOp) : stepSignature.Answer o := answer o

def clock (n : Nat) : Time := n + 2

def execution : Execution :=
  executeSteps library.toTaskLibrary (runner library [passenger] browser) clock none 1
    [fillDocument] (startProgress task)

theorem executed : executeTaskPlan library.toTaskLibrary task
    (runner library [passenger] browser) clock none = .ok execution := rfl

end DocumentPage

theorem plan_executions_truthful_document :
    ExecutionTruthful DocumentPage.library [DocumentPage.passenger] DocumentPage.browser
        DocumentPage.task DocumentPage.plan DocumentPage.execution ∧
      DocumentPage.execution.task.map (·.status) = some .prepared :=
  ⟨plan_executions_truthful rfl DocumentPage.executed, rfl⟩

end PurchaseAgent
