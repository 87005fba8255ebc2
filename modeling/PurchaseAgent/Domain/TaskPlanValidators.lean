import Mathlib.Data.List.Infix
import PurchaseAgent.Domain.ProviderResolution
import PurchaseAgent.Domain.TaskPlan

/-!
The checks of a plan and the numbers of a journal.
-/

namespace PurchaseAgent

/-- `set(step.depends_on) - seen`. -/
def missingDependencies (seen : List String) (step : TaskPlanStep) : List String :=
  step.dependsOn.filter (· ∉ seen)

/-- `validate_step_graph`, after the steps with the given ids. -/
def validateStepGraph (seen : List String) : List TaskPlanStep → Except PyException Unit
  | [] => .ok ()
  | step :: rest =>
    if step.stepId ∈ seen then .error (validationError "plan step IDs must be unique")
    else if step.stepId ∈ step.dependsOn then
      .error (validationError "a plan step cannot depend on itself")
    else if missingDependencies seen step ≠ [] then
      .error (validationError ("plan dependencies must reference earlier steps: " ++
        ", ".intercalate ((missingDependencies seen step).mergeSort (· ≤ ·))))
    else validateStepGraph (step.stepId :: seen) rest

/-- A step depends on steps before it. -/
theorem dependsOn_of_validateStepGraph {seen : List String} {before rest : List TaskPlanStep}
    {step : TaskPlanStep} (accepted : validateStepGraph seen (before ++ step :: rest) = .ok ()) :
    ∀ stepId ∈ step.dependsOn, stepId ∈ seen ∨ stepId ∈ before.map (·.stepId) := by
  induction before generalizing seen with
  | nil =>
      rw [List.nil_append, validateStepGraph] at accepted
      split_ifs at accepted with repeated itself missing
      intro stepId needed
      have none : missingDependencies seen step = [] := not_not.mp missing
      left
      by_contra unseen
      have listed : stepId ∈ missingDependencies seen step :=
        List.mem_filter.mpr ⟨needed, decide_eq_true unseen⟩
      rw [none] at listed
      cases listed
  | cons first before ih =>
      rw [List.cons_append, validateStepGraph] at accepted
      split_ifs at accepted with repeated itself missing
      intro stepId needed
      rw [List.map_cons, List.mem_cons]
      obtain old | inside := ih accepted stepId needed
      · obtain same | old := List.mem_cons.mp old
        · exact .inr (.inl same)
        · exact .inl old
      · exact .inr (.inr inside)

/-- An entry with its `sequence`. -/
structure NumberedEntry where
  sequence : Nat
  entry : TaskJournalEntry

namespace TaskExecutionJournal

/-- The entries as they are stored: each is numbered when it is appended. -/
def numbered (journal : TaskExecutionJournal) : List NumberedEntry :=
  journal.foldl (fun entries entry => entries ++ [⟨entries.length + 1, entry⟩]) []

theorem numbered_append (journal : TaskExecutionJournal) (entry : TaskJournalEntry) :
    numbered (journal ++ [entry]) = numbered journal ++ [⟨(numbered journal).length + 1, entry⟩] := by
  unfold numbered
  rw [List.foldl_append]
  rfl

/-- The numbers are contiguous, from one on. -/
theorem numbered_sequences (journal : TaskExecutionJournal) :
    (numbered journal).map (·.sequence) = List.range' 1 (numbered journal).length := by
  induction journal using List.reverseRecOn with
  | nil => rfl
  | append_singleton journal entry ih =>
      rw [numbered_append, List.map_append, ih, List.length_append, List.length_singleton,
        List.range'_concat, List.map_singleton, Nat.one_mul, Nat.add_comm]

/-- The entries that were there keep their numbers. -/
theorem numbered_prefix {before after : TaskExecutionJournal} (grown : before <+: after) :
    numbered before <+: numbered after := by
  obtain ⟨added, rfl⟩ := grown
  induction added using List.reverseRecOn with
  | nil => rw [List.append_nil]
  | append_singleton added entry ih =>
      rw [← List.append_assoc, numbered_append]
      exact ih.trans (List.prefix_append _ _)

/-- The steps that have succeeded, once for each entry that says so. -/
def succeededIds (journal : TaskExecutionJournal) : List String :=
  (journal.filter (·.outcome = .succeeded)).map (·.stepId)

theorem succeededIds_append (journal : TaskExecutionJournal) (entry : TaskJournalEntry) :
    succeededIds (journal ++ [entry]) =
      succeededIds journal ++ if entry.outcome = .succeeded then [entry.stepId] else [] := by
  unfold succeededIds
  rw [List.filter_append, List.map_append]
  congr 1
  split <;> simp [*]

end TaskExecutionJournal
end PurchaseAgent
