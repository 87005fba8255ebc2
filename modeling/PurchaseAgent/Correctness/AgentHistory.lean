import Mathlib.Data.List.DropRight
import PurchaseAgent.Api.Tasks

/-!
The action history of an agent over several runs. Every merge cuts and renumbers it; what
is left in the end is the end of all the runs together.
-/

namespace PurchaseAgent

/-- `step.model_copy(update={"sequence": sequence})` for `enumerate(steps, start=1)`. -/
def renumbered (steps : List AgentLoopStep) : List AgentLoopStep :=
  steps.zipIdx.map fun entry => { entry.1 with sequence := entry.2 + 1 }

/-- `merge_agent_loop_results` with any bound. -/
def mergeAgentLoopResultsKeeping (maxSteps : Int) (previous : Option AgentLoopResult)
    (current : AgentLoopResult) : Except PyException AgentLoopResult :=
  if maxSteps < 1 then .error (.valueError "max_steps must be at least one")
  else .ok { current with steps := mergedSteps maxSteps.toNat previous current }

/-- One run merged after another. -/
def mergeRuns (maxSteps : Int) (previous : Option AgentLoopResult) (runs : List AgentLoopResult) :
    Except PyException (Option AgentLoopResult) :=
  runs.foldlM (fun merged run => (mergeAgentLoopResultsKeeping maxSteps merged run).map some) previous

/-- What a step holds besides its number. -/
def AgentLoopStep.content (step : AgentLoopStep) :
    AgentDecision × Option AgentDecisionMetadata × CommandExecutionResult :=
  (step.decision, step.decisionMetadata, step.result)

/-- The last steps of all the runs, numbered from one on, with the outcome of the last run. -/
structure KeepsRecentPast (maxSteps : Nat) (runs : List AgentLoopResult) (last : AgentLoopResult)
    (merged : AgentLoopResult) : Prop where
  contents : merged.steps.map AgentLoopStep.content =
    ((runs.flatMap (·.steps)).rtake maxSteps).map AgentLoopStep.content
  sequences : merged.steps.map (·.sequence) = List.range' 1 merged.steps.length
  status : merged.status = last.status
  reasonCode : merged.reasonCode = last.reasonCode
  pageSnapshot : merged.pageSnapshot = last.pageSnapshot

section
variable {α β : Type} {n : Nat}

theorem map_rtake (f : α → β) (xs : List α) : (xs.rtake n).map f = (xs.map f).rtake n := by
  rw [List.rtake, List.rtake, List.map_drop, List.length_map]

/-- Cutting before more is added changes nothing of what is left in the end. -/
theorem rtake_rtake_append (xs ys : List α) : (xs.rtake n ++ ys).rtake n = (xs ++ ys).rtake n := by
  simp only [List.rtake_eq_reverse_take_reverse, List.reverse_append, List.reverse_reverse]
  rw [List.take_append, List.take_append, List.take_take, Nat.min_eq_left (Nat.sub_le _ _)]

end

theorem renumbered_contents (steps : List AgentLoopStep) :
    (renumbered steps).map AgentLoopStep.content = steps.map AgentLoopStep.content := by
  have firsts : steps.zipIdx.map Prod.fst = steps := List.zipIdx_map_fst 0 steps
  calc (renumbered steps).map AgentLoopStep.content
      = (steps.zipIdx.map Prod.fst).map AgentLoopStep.content := by
        rw [renumbered, List.map_map, List.map_map]
        rfl
    _ = steps.map AgentLoopStep.content := by rw [firsts]

theorem renumbered_length (steps : List AgentLoopStep) :
    (renumbered steps).length = steps.length := by
  rw [renumbered, List.length_map, List.length_zipIdx]

theorem renumbered_sequences (steps : List AgentLoopStep) :
    (renumbered steps).map (·.sequence) = List.range' 1 steps.length := by
  have seconds : steps.zipIdx.map Prod.snd = List.range' 0 steps.length :=
    List.zipIdx_map_snd 0 steps
  calc (renumbered steps).map (·.sequence)
      = (steps.zipIdx.map Prod.snd).map (1 + ·) := by
        rw [renumbered, List.map_map, List.map_map]
        apply List.map_congr_left
        intro entry _
        exact Nat.add_comm _ _
    _ = List.range' 1 steps.length := by rw [seconds, List.map_add_range']

section
variable {maxSteps : Int}

theorem merge_ok (positive : 1 ≤ maxSteps) (previous : Option AgentLoopResult)
    (current : AgentLoopResult) :
    mergeAgentLoopResultsKeeping maxSteps previous current = .ok { current with
      steps := renumbered
        (((previous.map (·.steps)).getD [] ++ current.steps).rtake maxSteps.toNat) } :=
  if_neg (Int.not_lt.mpr positive)

/-- One more run. -/
theorem merge_keeps {merged : Option AgentLoopResult} {runs : List AgentLoopResult}
    (run : AgentLoopResult) (held : ((merged.map (·.steps)).getD []).map AgentLoopStep.content =
      ((runs.flatMap (·.steps)).rtake maxSteps.toNat).map AgentLoopStep.content) :
    KeepsRecentPast maxSteps.toNat (runs ++ [run]) run { run with
      steps := renumbered (((merged.map (·.steps)).getD [] ++ run.steps).rtake maxSteps.toNat) } where
  contents := by
    rw [renumbered_contents, map_rtake, List.map_append, held, map_rtake, rtake_rtake_append,
      ← List.map_append, ← map_rtake, List.flatMap_append, List.flatMap_singleton]
  sequences := by
    rw [renumbered_sequences, renumbered_length]
  status := rfl
  reasonCode := rfl
  pageSnapshot := rfl

/-- The runs before the last leave the end of their steps, and the last is merged with it. -/
theorem mergeRuns_keeps (positive : 1 ≤ maxSteps) (runs : List AgentLoopResult)
    (last : AgentLoopResult) :
    ∃ merged, mergeRuns maxSteps none (runs ++ [last]) = .ok (some merged) ∧
      KeepsRecentPast maxSteps.toNat (runs ++ [last]) last merged := by
  have step (merged : Option AgentLoopResult) (runs : List AgentLoopResult) (run : AgentLoopResult)
      (before : mergeRuns maxSteps none runs = .ok merged) :
      mergeRuns maxSteps none (runs ++ [run]) = .ok (some { run with
        steps := renumbered
          (((merged.map (·.steps)).getD [] ++ run.steps).rtake maxSteps.toNat) }) := by
    rw [mergeRuns, List.foldlM_append, ← mergeRuns, before]
    simp only [bind, Except.bind, List.foldlM_cons, List.foldlM_nil, pure, Except.pure]
    rw [merge_ok positive]
    rfl
  induction runs using List.reverseRecOn generalizing last with
  | nil => exact ⟨_, step none [] last rfl, merge_keeps last (by simp [List.rtake])⟩
  | append_singleton runs run ih =>
      obtain ⟨merged, before, kept⟩ := ih run
      exact ⟨_, step (some merged) _ last before, merge_keeps last kept.contents⟩

end

/-- The default bound. -/
theorem mergeAgentLoopResults_eq (previous : Option AgentLoopResult) (current : AgentLoopResult) :
    mergeAgentLoopResultsKeeping 50 previous current =
      .ok (mergeAgentLoopResults previous current) := rfl

theorem applyAgentResults_run (runs : List AgentLoopResult) (task : AgentTask) :
    mergeRuns 50 task.agentRun runs = .ok (runs.foldl applyAgentResult task).agentRun := by
  induction runs generalizing task with
  | nil => rfl
  | cons run rest ih => exact ih (applyAgentResult task run)

/-- Runs that are merged one after another, with any bound, and those of a task without a
run before them, keep exactly the recent past. -/
theorem agent_history_recent (runs : List AgentLoopResult) (last : AgentLoopResult) :
    (∀ maxSteps : Int, 1 ≤ maxSteps →
      ∃ merged, mergeRuns maxSteps none (runs ++ [last]) = .ok (some merged) ∧
        KeepsRecentPast maxSteps.toNat (runs ++ [last]) last merged) ∧
    ∀ task : AgentTask, task.agentRun = none →
      ∃ merged, ((runs ++ [last]).foldl applyAgentResult task).agentRun = some merged ∧
        KeepsRecentPast 50 (runs ++ [last]) last merged := by
  refine ⟨fun maxSteps positive => mergeRuns_keeps positive runs last, ?_⟩
  intro task fresh
  obtain ⟨merged, ran, kept⟩ := mergeRuns_keeps (show (1 : Int) ≤ 50 by decide) runs last
  have applied := applyAgentResults_run (runs ++ [last]) task
  rw [fresh, ran] at applied
  exact ⟨merged, (Except.ok.inj applied).symm, kept⟩

/-! Two runs of which one step is kept. -/

namespace TwoRuns

def waited (reasonCode : String) : AgentLoopResult where
  status := .exhausted
  reasonCode := reasonCode
  pageSnapshot := ⟨"https://shop.example/", "Shop", 0, [], "Choose a train"⟩
  steps := [⟨1, ⟨.wait 1, "The page loads", "The page is shown"⟩, none,
    ⟨true, "waited", none, false⟩⟩]

end TwoRuns

open TwoRuns in
theorem agent_history_recent_waited :
    (∃ merged, mergeRuns 1 none [waited "first", waited "second"] = .ok (some merged) ∧
      KeepsRecentPast 1 [waited "first", waited "second"] (waited "second") merged) ∧
    ∃ merged, ([waited "first", waited "second"].foldl applyAgentResult Sample.agentTask).agentRun =
        some merged ∧
      KeepsRecentPast 50 [waited "first", waited "second"] (waited "second") merged :=
  ⟨(agent_history_recent [waited "first"] (waited "second")).1 1 (by decide),
    (agent_history_recent [waited "first"] (waited "second")).2 Sample.agentTask rfl⟩

end PurchaseAgent
