import PurchaseAgent.Domain.MissionValidators
import PurchaseAgent.Services.PageFieldMapper

/-!
Building a page fill plan with everything that can go wrong: the people are
looked up among the identities, and each model is validated when it is built.
-/

namespace PurchaseAgent

/-- The pattern and the length of a control id. -/
def isControlId (value : String) : Bool :=
  value.length ≤ 32 ∧ value.toList.take 8 = "control_".toList ∧
    ((value.toList.drop 8).head?.any fun c => '1' ≤ c ∧ c ≤ '9') ∧
      (value.toList.drop 8).all fun c => '0' ≤ c ∧ c ≤ '9'

def PageFieldBinding.validate (binding : PageFieldBinding) : Except PyException Unit :=
  reject (isControlId binding.controlId = false)
    "String should match pattern '^control_[1-9][0-9]*$'"

def PageIntentBinding.validate (binding : PageIntentBinding) : Except PyException Unit := do
  reject (isControlId binding.controlId = false)
    "String should match pattern '^control_[1-9][0-9]*$'"
  reject (binding.searchTermIndex.any (19 < ·)) "Input should be less than or equal to 19"
  reject (decide (binding.intentField = .searchTerm) ≠ binding.searchTermIndex.isSome)
    "search_term_index is required only for search terms"

def PageIntentBinding.key (binding : PageIntentBinding) : IntentField × Option Nat :=
  (binding.intentField, binding.searchTermIndex)

/-- The controls that have a binding, as often as they have one. -/
def PageFillPlan.boundControls (plan : PageFillPlan) : List String :=
  plan.bindings.map (·.controlId) ++ plan.intentBindings.map (·.controlId)

def PageFillPlan.validate (plan : PageFillPlan) : Except PyException PageFillPlan := do
  reject (plan.snapshotUrl = "") "String should have at least 1 character"
  reject (2048 < plan.snapshotUrl.length) "String should have at most 2048 characters"
  reject (300 < plan.bindings.length) "Tuple should have at most 300 items after validation"
  reject (300 < plan.intentBindings.length) "Tuple should have at most 300 items after validation"
  reject (300 < plan.unmatchedRequiredControls.length)
    "Tuple should have at most 300 items after validation"
  reject (¬ plan.unmatchedRequiredControls.Nodup) "unmatched controls must be unique"
  reject (¬ plan.boundControls.Nodup) "a page control can have only one binding"
  reject (∃ controlId ∈ plan.boundControls, controlId ∈ plan.unmatchedRequiredControls)
    "a bound control cannot also be unmatched"
  reject (¬ (plan.intentBindings.map (·.key)).Nodup) "an intent field can have only one binding"
  return plan

namespace PageFieldMapper

/-- `identity_by_id[person_id]`; of two identities with an id the last one counts. -/
def identityById (identities : List IdentityRecord) (personId : UUID) :
    Except PyException IdentityRecord :=
  match identities.reverse.find? (·.id = personId) with
  | some identity => .ok identity
  | none => .error (.other "KeyError" ("UUID('" ++ personId.str ++ "')"))

def validateAll {α : Type} (validate : α → Except PyException Unit) :
    List α → Except PyException Unit
  | [] => .ok ()
  | value :: rest => do
    validate value
    validateAll validate rest

/-- One turn of the loop, which validates the binding it builds. -/
def bindValidated (library : TaskLibrary) (intent : Option TaskIntent) (people : List UUID)
    (mapping : Mapping) (control : BrowserPageControl) : Except PyException Mapping := do
  let next := bindControl library intent people mapping control
  validateAll PageFieldBinding.validate (next.bindings.drop mapping.bindings.length)
  validateAll PageIntentBinding.validate (next.intentBindings.drop mapping.intentBindings.length)
  return next

end PageFieldMapper

/-- `build_page_fill_plan`, with its exceptions. -/
def buildValidatedPageFillPlan (library : TaskLibrary) (task : AgentTask)
    (identities : List IdentityRecord) (now : Time) : Except PyException PageFillPlan :=
  match task.pageSnapshot with
  | none => .error (.valueError "task has no captured page")
  | some snapshot => do
    let people ← task.personIds.mapM (PageFieldMapper.identityById identities)
    let mapping ← snapshot.controls.foldlM
      (PageFieldMapper.bindValidated library task.intent (people.map (·.id)))
      ⟨fun _ => 0, [], [], []⟩
    PageFillPlan.validate
      ⟨snapshot.url, now, mapping.bindings, mapping.intentBindings, mapping.unmatchedRequired⟩

end PurchaseAgent
