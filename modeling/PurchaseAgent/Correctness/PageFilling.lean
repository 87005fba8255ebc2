import Mathlib.Data.List.Perm.Subperm
import PurchaseAgent.Services.PageFillValidation

/-!
The page fill plan of a task. Each turn of the loop puts the control at hand in
one of three lists or in none, and the lists over the controls seen so far keep
what the validators of the plan ask for.
-/

namespace PurchaseAgent
namespace PageFieldMapper

/-- The occurrences when the profile field of a control has been counted. -/
def Mapping.seen (library : TaskLibrary) (mapping : Mapping) (control : BrowserPageControl) :
    ProfileField → Nat :=
  match detectProfileField library control with
  | none => mapping.occurrences
  | some field => Function.update mapping.occurrences field (mapping.occurrences field + 1)

/-- The controls in the three lists. -/
def Mapping.controlIds (mapping : Mapping) : List String :=
  mapping.bindings.map (·.controlId) ++ mapping.intentBindings.map (·.controlId) ++
    mapping.unmatchedRequired

/-- No person is left for the profile field of the control, if it has one. -/
def Overflows (library : TaskLibrary) (people : List UUID) (mapping : Mapping)
    (control : BrowserPageControl) : Prop :=
  ∀ field, detectProfileField library control = some field →
    people[mapping.occurrences field]? = none

/-- The turns of the loop. -/
inductive BindStep (library : TaskLibrary) (intent : Option TaskIntent) (people : List UUID)
    (mapping : Mapping) (control : BrowserPageControl) : Mapping → Prop
  | person (field : ProfileField) (personId : UUID)
      (detected : detectProfileField library control = some field)
      (free : people[mapping.occurrences field]? = some personId) :
      BindStep library intent people mapping control
        ⟨mapping.seen library control, mapping.bindings ++
            [⟨control.controlId, field, personId, field = .documentNumber⟩],
          mapping.intentBindings, mapping.unmatchedRequired⟩
  | intent (binding : PageIntentBinding) (overflows : Overflows library people mapping control)
      (detected : detectIntentBinding library intent control mapping.intentBindings =
        some binding) :
      BindStep library intent people mapping control
        ⟨mapping.seen library control, mapping.bindings, mapping.intentBindings ++ [binding],
          mapping.unmatchedRequired⟩
  | unmatched (overflows : Overflows library people mapping control) :
      BindStep library intent people mapping control
        ⟨mapping.seen library control, mapping.bindings, mapping.intentBindings,
          mapping.unmatchedRequired ++ [control.controlId]⟩
  | skipped (overflows : Overflows library people mapping control)
      (optional : control.required = true → control.disabled = true) :
      BindStep library intent people mapping control
        ⟨mapping.seen library control, mapping.bindings, mapping.intentBindings,
          mapping.unmatchedRequired⟩

section
variable {library : TaskLibrary} {intent : Option TaskIntent} {people : List UUID}
  {mapping : Mapping} {control : BrowserPageControl}

theorem bindIntent_step (overflows : Overflows library people mapping control) :
    BindStep library intent people mapping control (bindIntent library intent
      { mapping with occurrences := mapping.seen library control } control) := by
  unfold bindIntent
  split
  · rename_i binding detected
    exact .intent binding overflows detected
  · split
    · exact .unmatched overflows
    · rename_i optional
      refine .skipped overflows fun required => ?_
      by_contra enabled
      exact optional ⟨required, enabled⟩

/-- Every turn is one of the four. -/
theorem bindControl_step (library : TaskLibrary) (intent : Option TaskIntent) (people : List UUID)
    (mapping : Mapping) (control : BrowserPageControl) :
    BindStep library intent people mapping control
      (bindControl library intent people mapping control) := by
  have step : Overflows library people mapping control → BindStep library intent people mapping
      control (bindIntent library intent
        { mapping with occurrences := mapping.seen library control } control) := bindIntent_step
  unfold bindControl
  cases detected : detectProfileField library control with
  | none =>
      have seen : mapping.seen library control = mapping.occurrences := by
        simp only [Mapping.seen, detected]
      rw [seen] at step
      apply step
      intro field impossible
      rw [detected] at impossible
      cases impossible
  | some field =>
      have seen : mapping.seen library control =
          Function.update mapping.occurrences field (mapping.occurrences field + 1) := by
        simp only [Mapping.seen, detected]
      dsimp only
      cases free : people[mapping.occurrences field]? with
      | some personId =>
          dsimp only
          rw [← seen]
          exact .person field personId detected free
      | none =>
          dsimp only
          rw [← seen]
          apply step
          intro other same
          obtain rfl := Option.some.inj (detected.symm.trans same)
          exact free

/-- What a binding refers to is in the intent. -/
def HeldBy (intent : Option TaskIntent) (binding : PageIntentBinding) : Prop :=
  ∃ facts, intent = some facts ∧
    (binding.intentField ≠ .searchTerm ∧ binding.searchTermIndex = none ∧
        available facts binding.intentField = true ∨
      binding.intentField = .searchTerm ∧
        ∃ index < facts.searchTerms.length, binding.searchTermIndex = some index)

/-- What a binding to the intent says is in the intent, and not yet bound. -/
structure IntentFits (intent : Option TaskIntent) (control : BrowserPageControl)
    (bound : List PageIntentBinding) (binding : PageIntentBinding) : Prop where
  controlId : binding.controlId = control.controlId
  held : HeldBy intent binding
  fresh : binding.key ∉ bound.map (·.key)

theorem detectIntentBinding_fits {bound : List PageIntentBinding} {binding : PageIntentBinding}
    (detected : detectIntentBinding library intent control bound = some binding) :
    IntentFits intent control bound binding := by
  unfold detectIntentBinding at detected
  split at detected
  · cases detected
  rename_i facts
  split at detected
  · cases detected
  dsimp only at detected
  split at detected
  · rename_i field terms found
    obtain rfl := Option.some.inj detected
    have holds := List.find?_some found
    simp only [decide_eq_true_eq, Bool.decide_and, Bool.and_eq_true, List.all_eq_true,
      ne_eq] at holds
    obtain ⟨held, unbound, -⟩ := holds
    refine ⟨rfl, ⟨facts, rfl, .inl ⟨?_, rfl, held⟩⟩, ?_⟩
    · intro same
      rw [show field = IntentField.searchTerm from same] at held
      cases held
    · intro taken
      obtain ⟨other, member, same⟩ := List.mem_map.mp taken
      exact unbound other member (congrArg Prod.fst same)
  · obtain ⟨⟨term, index⟩, found, rfl⟩ := Option.map_eq_some_iff.mp detected
    have holds := List.find?_some found
    have member := List.mem_of_find?_eq_some found
    simp only [decide_eq_true_eq, Bool.decide_and, Bool.and_eq_true, List.all_eq_true,
      ne_eq] at holds
    obtain ⟨unbound, -⟩ := holds
    have inside : index < facts.searchTerms.length := by
      have := List.snd_lt_of_mem_zipIdx member
      simpa using this
    refine ⟨rfl, ⟨facts, rfl, .inr ⟨rfl, index, inside, rfl⟩⟩, ?_⟩
    intro taken
    obtain ⟨other, member, same⟩ := List.mem_map.mp taken
    exact unbound other member (congrArg Prod.snd same)

variable {next : Mapping}

theorem BindStep.occurrences (step : BindStep library intent people mapping control next) :
    next.occurrences = mapping.seen library control := by
  cases step <;> rfl

/-- A control enters the lists at most once, and does if it has to be filled. -/
theorem BindStep.controlIds (step : BindStep library intent people mapping control next) :
    next.controlIds.Perm (control.controlId :: mapping.controlIds) ∨
      next.controlIds = mapping.controlIds ∧ (control.required = true → control.disabled = true) := by
  cases step with
  | person field personId =>
      left
      simp only [Mapping.controlIds, List.map_append, List.map_cons, List.map_nil,
        List.append_assoc, List.singleton_append]
      exact List.perm_middle
  | intent binding _ detected =>
      left
      simp only [Mapping.controlIds, List.map_append, List.map_cons, List.map_nil,
        List.append_assoc, List.singleton_append, (detectIntentBinding_fits detected).controlId]
      rw [← List.append_assoc, ← List.append_assoc]
      exact List.perm_middle
  | unmatched =>
      left
      simp only [Mapping.controlIds]
      rw [← List.append_assoc]
      exact List.perm_append_singleton _ _
  | skipped _ optional => exact .inr ⟨rfl, optional⟩

/-- The controls in which a profile field is detected. -/
def fieldControls (library : TaskLibrary) (field : ProfileField)
    (controls : List BrowserPageControl) : List BrowserPageControl :=
  controls.filter fun control => detectProfileField library control = some field

/-- What the lists say of the controls seen so far. -/
structure Progress (library : TaskLibrary) (intent : Option TaskIntent) (people : List UUID)
    (seen : List BrowserPageControl) (mapping : Mapping) : Prop where
  occurrences : ∀ field, mapping.occurrences field = (fieldControls library field seen).length
  known : ∀ controlId ∈ mapping.controlIds, controlId ∈ seen.map (·.controlId)
  distinct : mapping.controlIds.Nodup
  required : ∀ control ∈ seen, control.required = true → control.disabled = false →
    control.controlId ∈ mapping.controlIds
  people : ∀ field (i : Nat) (control : BrowserPageControl) (personId : UUID),
    (fieldControls library field seen)[i]? = some control →
    people[i]? = some personId →
      ⟨control.controlId, field, personId, field = .documentNumber⟩ ∈ mapping.bindings
  sensitive : ∀ binding ∈ mapping.bindings,
    binding.sensitive = true ↔ binding.profileField = .documentNumber
  held : ∀ binding ∈ mapping.intentBindings, HeldBy intent binding
  keys : (mapping.intentBindings.map (·.key)).Nodup

theorem progress_start (library : TaskLibrary) (intent : Option TaskIntent) (people : List UUID) :
    Progress library intent people [] ⟨fun _ => 0, [], [], []⟩ := by
  constructor <;> simp [fieldControls, Mapping.controlIds]

theorem fieldControls_append (field : ProfileField) (seen : List BrowserPageControl)
    (control : BrowserPageControl) :
    fieldControls library field (seen ++ [control]) = fieldControls library field seen ++
      if detectProfileField library control = some field then [control] else [] := by
  unfold fieldControls
  rw [List.filter_append]
  congr 1
  by_cases detected : detectProfileField library control = some field
  · simp [detected]
  · simp [detected]

theorem BindStep.person_mem (step : BindStep library intent people mapping control next)
    {field : ProfileField} {personId : UUID}
    (detected : detectProfileField library control = some field)
    (free : people[mapping.occurrences field]? = some personId) :
    ⟨control.controlId, field, personId, field = .documentNumber⟩ ∈ next.bindings := by
  cases step with
  | person other otherId detected' free' =>
      obtain rfl := Option.some.inj (detected.symm.trans detected')
      obtain rfl := Option.some.inj (free.symm.trans free')
      exact List.mem_append_right _ List.mem_cons_self
  | intent _ overflows | unmatched overflows | skipped overflows =>
      rw [overflows field detected] at free
      cases free

theorem BindStep.bindings_subset (step : BindStep library intent people mapping control next) :
    mapping.bindings ⊆ next.bindings := by
  cases step with
  | person => exact List.subset_append_left _ _
  | intent | unmatched | skipped => exact List.Subset.refl _

theorem BindStep.controlIds_subset (step : BindStep library intent people mapping control next) :
    mapping.controlIds ⊆ next.controlIds := by
  intro controlId listed
  cases step.controlIds with
  | inl grown => exact grown.mem_iff.mpr (List.mem_cons_of_mem _ listed)
  | inr kept => exact kept.1 ▸ listed

theorem BindStep.mem_controlIds (step : BindStep library intent people mapping control next)
    {controlId : String} (listed : controlId ∈ next.controlIds) :
    controlId = control.controlId ∨ controlId ∈ mapping.controlIds := by
  cases step.controlIds with
  | inl grown => exact List.mem_cons.mp (grown.mem_iff.mp listed)
  | inr kept => exact .inr (kept.1 ▸ listed)

theorem BindStep.lists_required (step : BindStep library intent people mapping control next)
    (required : control.required = true) (enabled : control.disabled = false) :
    control.controlId ∈ next.controlIds := by
  cases step.controlIds with
  | inl grown => exact grown.mem_iff.mpr List.mem_cons_self
  | inr kept =>
      rw [kept.2 required] at enabled
      cases enabled

section Turn
variable {seen : List BrowserPageControl}

theorem Progress.occurrences_step (progress : Progress library intent people seen mapping)
    (step : BindStep library intent people mapping control next) (field : ProfileField) :
    next.occurrences field = (fieldControls library field (seen ++ [control])).length := by
  rw [step.occurrences, fieldControls_append, List.length_append, ← progress.occurrences field]
  unfold Mapping.seen
  cases detected : detectProfileField library control with
  | none => simp
  | some other =>
      by_cases same : field = other
      · subst same
        simp
      · have differs : other ≠ field := Ne.symm same
        simp [Function.update_of_ne same, differs]

/-- The control of the turn goes to the person whose number it has among those of its field. -/
theorem Progress.people_step (progress : Progress library intent people seen mapping)
    (step : BindStep library intent people mapping control next) {field : ProfileField} {i : Nat}
    {other : BrowserPageControl} {personId : UUID}
    (found : (fieldControls library field (seen ++ [control]))[i]? = some other)
    (person : people[i]? = some personId) :
    ⟨other.controlId, field, personId, field = .documentNumber⟩ ∈ next.bindings := by
  rw [fieldControls_append] at found
  by_cases old : i < (fieldControls library field seen).length
  · rw [List.getElem?_append_left old] at found
    exact step.bindings_subset (progress.people field i other personId found person)
  · rw [List.getElem?_append_right (Nat.le_of_not_lt old)] at found
    split at found
    · rename_i detected
      obtain ⟨inside, same⟩ := List.getElem?_eq_some_iff.mp found
      have last : i = (fieldControls library field seen).length := by
        rw [List.length_singleton] at inside
        omega
      obtain rfl : control = other := by simpa using same
      rw [last, ← progress.occurrences field] at person
      exact step.person_mem detected person
    · simp at found

/-- One turn. -/
theorem Progress.step (progress : Progress library intent people seen mapping)
    (fresh : control.controlId ∉ seen.map (·.controlId))
    (step : BindStep library intent people mapping control next) :
    Progress library intent people (seen ++ [control]) next where
  occurrences := progress.occurrences_step step
  known := by
    intro controlId listed
    rw [List.map_append, List.mem_append]
    cases step.mem_controlIds listed with
    | inl new => exact .inr (new ▸ List.mem_cons_self)
    | inr old => exact .inl (progress.known controlId old)
  distinct := by
    have unlisted : control.controlId ∉ mapping.controlIds := fun listed =>
      fresh (progress.known _ listed)
    cases step.controlIds with
    | inl grown => exact grown.nodup_iff.mpr (List.nodup_cons.mpr ⟨unlisted, progress.distinct⟩)
    | inr kept =>
        rw [kept.1]
        exact progress.distinct
  required := by
    intro other member required enabled
    cases List.mem_append.mp member with
    | inl old => exact step.controlIds_subset (progress.required other old required enabled)
    | inr new =>
        obtain rfl := List.mem_singleton.mp new
        exact step.lists_required required enabled
  people := fun _ _ _ _ found person => progress.people_step step found person
  sensitive := by
    intro binding member
    cases step with
    | person field personId =>
        obtain old | new := List.mem_append.mp member
        · exact progress.sensitive binding old
        · obtain rfl := List.mem_singleton.mp new
          exact decide_eq_true_iff
    | intent | unmatched | skipped => exact progress.sensitive binding member
  held := by
    intro binding member
    cases step with
    | intent other _ detected =>
        obtain old | new := List.mem_append.mp member
        · exact progress.held binding old
        · obtain rfl := List.mem_singleton.mp new
          exact (detectIntentBinding_fits detected).held
    | person | unmatched | skipped => exact progress.held binding member
  keys := by
    cases step with
    | intent other _ detected =>
        rw [List.map_append, List.map_singleton, (List.perm_append_singleton _ _).nodup_iff]
        exact List.nodup_cons.mpr ⟨(detectIntentBinding_fits detected).fresh, progress.keys⟩
    | person | unmatched | skipped => exact progress.keys

end Turn

theorem validateAll_ok {α : Type} {validate : α → Except PyException Unit} {values : List α}
    (valid : ∀ value ∈ values, validate value = .ok ()) : validateAll validate values = .ok () := by
  induction values with
  | nil => rfl
  | cons value rest ih =>
      obtain ⟨first, others⟩ := List.forall_mem_cons.mp valid
      rw [validateAll, first]
      exact ih others

theorem HeldBy.validate {binding : PageIntentBinding} (held : HeldBy intent binding)
    (terms : ∀ facts ∈ intent, facts.searchTerms.length ≤ 20)
    (identified : isControlId binding.controlId = true) : binding.validate = .ok () := by
  obtain ⟨facts, same, shape⟩ := held
  have bounded := terms facts same
  have named : ¬ isControlId binding.controlId = false := by
    rw [identified]
    exact Bool.noConfusion
  obtain ⟨field, index, -⟩ | ⟨field, index, inside, found⟩ := shape
  · rw [PageIntentBinding.validate, reject_of_not named, reject_of_not (by simp [index])]
    exact reject_of_not (by simp [index, field]) _
  · have small : ¬ 19 < index := by omega
    rw [PageIntentBinding.validate, reject_of_not named, reject_of_not (by simp [found, small])]
    exact reject_of_not (by simp [found, field]) _

/-- No model rejects the binding of a turn. -/
theorem bindValidated_eq (terms : ∀ facts ∈ intent, facts.searchTerms.length ≤ 20)
    (identified : isControlId control.controlId = true) :
    bindValidated library intent people mapping control =
      .ok (bindControl library intent people mapping control) := by
  have named : ¬ isControlId control.controlId = false := by
    rw [identified]
    exact Bool.noConfusion
  have step := bindControl_step library intent people mapping control
  have fields : validateAll PageFieldBinding.validate
      ((bindControl library intent people mapping control).bindings.drop
        mapping.bindings.length) = .ok () := by
    apply validateAll_ok
    generalize bindControl library intent people mapping control = next at step
    cases step with
    | person field personId =>
        rw [List.drop_left]
        intro binding member
        obtain rfl := List.mem_singleton.mp member
        exact reject_of_not named _
    | intent | unmatched | skipped =>
        intro binding member
        rw [List.drop_length] at member
        cases member
  have intents : validateAll PageIntentBinding.validate
      ((bindControl library intent people mapping control).intentBindings.drop
        mapping.intentBindings.length) = .ok () := by
    apply validateAll_ok
    generalize bindControl library intent people mapping control = next at step
    cases step with
    | intent binding _ detected =>
        rw [List.drop_left]
        intro other member
        obtain rfl := List.mem_singleton.mp member
        have fits := detectIntentBinding_fits detected
        exact fits.held.validate terms (fits.controlId ▸ identified)
    | person | unmatched | skipped =>
        intro binding member
        rw [List.drop_length] at member
        cases member
  rw [bindValidated, fields, intents]
  rfl

/-- The whole loop. -/
theorem progress_run (terms : ∀ facts ∈ intent, facts.searchTerms.length ≤ 20)
    (rest seen : List BrowserPageControl) (mapping : Mapping)
    (distinct : ((seen ++ rest).map (·.controlId)).Nodup)
    (identified : ∀ control ∈ rest, isControlId control.controlId = true)
    (progress : Progress library intent people seen mapping) :
    rest.foldlM (bindValidated library intent people) mapping =
        .ok (rest.foldl (bindControl library intent people) mapping) ∧
      Progress library intent people (seen ++ rest)
        (rest.foldl (bindControl library intent people) mapping) := by
  induction rest generalizing seen mapping with
  | nil =>
      rw [List.append_nil]
      exact ⟨rfl, progress⟩
  | cons control rest ih =>
      obtain ⟨first, others⟩ := List.forall_mem_cons.mp identified
      have fresh : control.controlId ∉ seen.map (·.controlId) := by
        intro listed
        rw [List.map_append, List.map_cons] at distinct
        exact (List.nodup_append.mp distinct).2.2 _ listed _ List.mem_cons_self rfl
      have joined : seen ++ [control] ++ rest = seen ++ control :: rest := by simp
      have next := progress.step fresh (bindControl_step library intent people mapping control)
      obtain ⟨ran, whole⟩ := ih (seen ++ [control]) _ (joined ▸ distinct) others next
      rw [List.foldlM_cons, bindValidated_eq terms first]
      exact ⟨ran, joined ▸ whole⟩

end
end PageFieldMapper
open PageFieldMapper

/-- What the models of a snapshot ask of it. -/
structure BrowserPageSnapshot.Valid (snapshot : BrowserPageSnapshot) : Prop where
  url : snapshot.url ≠ ""
  url_length : snapshot.url.length ≤ 2048
  controls : snapshot.controls.length ≤ 300
  controlIds : ∀ control ∈ snapshot.controls, isControlId control.controlId = true

/-- What a plan says of the controls of the page, the people of the task and its intent. -/
structure PageFillPlan.WellFormed (library : TaskLibrary) (task : AgentTask)
    (snapshot : BrowserPageSnapshot) (plan : PageFillPlan) : Prop where
  required : ∀ control ∈ snapshot.controls, control.required = true → control.disabled = false →
    plan.boundControls.count control.controlId = 1 ∧
        control.controlId ∉ plan.unmatchedRequiredControls ∨
      plan.boundControls.count control.controlId = 0 ∧
        control.controlId ∈ plan.unmatchedRequiredControls
  single : ∀ controlId, plan.boundControls.count controlId ≤ 1
  people : ∀ field (i : Nat) (control : BrowserPageControl) (personId : UUID),
    (fieldControls library field snapshot.controls)[i]? = some control →
      task.personIds[i]? = some personId →
        ∃ sensitive, ⟨control.controlId, field, personId, sensitive⟩ ∈ plan.bindings
  intentFields : ∀ field ≠ IntentField.searchTerm,
    (plan.intentBindings.countP fun binding => binding.intentField = field) ≤ 1
  searchTerms : ∀ index : Nat,
    (plan.intentBindings.countP fun binding => binding.searchTermIndex = some index) ≤ 1
  held : ∀ binding ∈ plan.intentBindings, HeldBy task.intent binding
  sensitive : ∀ binding ∈ plan.bindings,
    binding.sensitive = true ↔ binding.profileField = .documentNumber

theorem countP_le_one_of_key {α κ : Type} [DecidableEq κ] {values : List α} {key : α → κ}
    (distinct : (values.map key).Nodup) {p : α → Bool} {k : κ}
    (determined : ∀ value ∈ values, p value = true → key value = k) : values.countP p ≤ 1 := by
  have counted : values.countP p ≤ (values.map key).count k := by
    rw [List.count_eq_countP, List.countP_map]
    apply List.countP_mono_left
    intro value member holds
    simp [determined value member holds]
  exact counted.trans (List.nodup_iff_count.mp distinct k)

section
variable {library : TaskLibrary} {task : AgentTask} {snapshot : BrowserPageSnapshot}
  {mapping : Mapping}

/-- The plan that is built from the lists of the whole loop. -/
def PageFieldMapper.Mapping.plan (mapping : Mapping) (url : String) (now : Time) : PageFillPlan :=
  ⟨url, now, mapping.bindings, mapping.intentBindings, mapping.unmatchedRequired⟩

theorem wellFormed_of_progress
    (progress : Progress library task.intent task.personIds snapshot.controls mapping)
    (now : Time) : (mapping.plan snapshot.url now).WellFormed library task snapshot := by
  obtain ⟨bound, unmatched, apart⟩ := List.nodup_append.mp progress.distinct
  have single : ∀ controlId, (mapping.plan snapshot.url now).boundControls.count controlId ≤ 1 :=
    List.nodup_iff_count.mp bound
  constructor
  · intro control member required enabled
    obtain listed | unbound := List.mem_append.mp (progress.required control member required enabled)
    · refine .inl ⟨?_, fun both => apart _ listed _ both rfl⟩
      exact Nat.le_antisymm (single control.controlId) (List.count_pos_iff.mpr listed)
    · refine .inr ⟨List.count_eq_zero.mpr ?_, unbound⟩
      exact fun listed => apart _ listed _ unbound rfl
  · exact single
  · intro field i control personId found person
    exact ⟨_, progress.people field i control personId found person⟩
  · intro field plain
    refine countP_le_one_of_key (k := (field, none)) progress.keys ?_
    intro binding member same
    have named : binding.intentField = field := of_decide_eq_true same
    obtain ⟨facts, -, ⟨-, index, -⟩ | ⟨search, -⟩⟩ := progress.held binding member
    · exact Prod.ext named index
    · exact absurd (named.symm.trans search) plain
  · intro index
    refine countP_le_one_of_key (k := (.searchTerm, some index)) progress.keys ?_
    intro binding member same
    have found : binding.searchTermIndex = some index := of_decide_eq_true same
    obtain ⟨facts, -, ⟨-, none, -⟩ | ⟨search, -⟩⟩ := progress.held binding member
    · rw [none] at found
      cases found
    · exact Prod.ext search found
  · exact progress.held
  · exact progress.sensitive

/-- The validators of the plan never fire. -/
theorem validate_of_progress (valid : snapshot.Valid)
    (progress : Progress library task.intent task.personIds snapshot.controls mapping)
    (now : Time) :
    (mapping.plan snapshot.url now).validate = .ok (mapping.plan snapshot.url now) := by
  obtain ⟨bound, unmatched, apart⟩ := List.nodup_append.mp progress.distinct
  have length : mapping.controlIds.length ≤ 300 := by
    have within : mapping.controlIds.length ≤ (snapshot.controls.map (·.controlId)).length :=
      (List.subperm_of_subset progress.distinct progress.known).length_le
    rw [List.length_map] at within
    exact within.trans valid.controls
  simp only [Mapping.controlIds, List.length_append, List.length_map] at length
  have bindings : ¬ 300 < (mapping.plan snapshot.url now).bindings.length := by
    simp only [Mapping.plan]
    omega
  have intents : ¬ 300 < (mapping.plan snapshot.url now).intentBindings.length := by
    simp only [Mapping.plan]
    omega
  have rest : ¬ 300 < (mapping.plan snapshot.url now).unmatchedRequiredControls.length := by
    simp only [Mapping.plan]
    omega
  have disjoint : ¬ ∃ controlId ∈ (mapping.plan snapshot.url now).boundControls,
      controlId ∈ (mapping.plan snapshot.url now).unmatchedRequiredControls := by
    intro both
    obtain ⟨controlId, listed, unbound⟩ := both
    exact apart controlId listed controlId unbound rfl
  have unique : ¬ ¬ (mapping.plan snapshot.url now).unmatchedRequiredControls.Nodup :=
    not_not.mpr unmatched
  have once : ¬ ¬ (mapping.plan snapshot.url now).boundControls.Nodup := not_not.mpr bound
  have keys : ¬ ¬ ((mapping.plan snapshot.url now).intentBindings.map (·.key)).Nodup :=
    not_not.mpr progress.keys
  have url : ¬ (mapping.plan snapshot.url now).snapshotUrl = "" := valid.url
  have short : ¬ 2048 < (mapping.plan snapshot.url now).snapshotUrl.length :=
    Nat.not_lt_of_le valid.url_length
  rw [PageFillPlan.validate, reject_of_not url, reject_of_not short, reject_of_not bindings,
    reject_of_not intents, reject_of_not rest, reject_of_not unique, reject_of_not once,
    reject_of_not disjoint, reject_of_not keys]
  rfl

/-- The people of the task are found among the identities. -/
theorem people_found {identities : List IdentityRecord} {personIds : List UUID}
    (covered : ∀ personId ∈ personIds, ∃ identity ∈ identities, identity.id = personId) :
    ∃ people, personIds.mapM (identityById identities) = .ok people ∧
      people.map (·.id) = personIds := by
  induction personIds with
  | nil => exact ⟨[], rfl, rfl⟩
  | cons personId rest ih =>
      obtain ⟨first, others⟩ := List.forall_mem_cons.mp covered
      obtain ⟨people, found, ids⟩ := ih others
      obtain ⟨identity, member, same⟩ := first
      cases looked : identities.reverse.find? (·.id = personId) with
      | none =>
          have missing := List.find?_eq_none.mp looked identity (List.mem_reverse.mpr member)
          simp [same] at missing
      | some person =>
          have named : person.id = personId := by simpa using List.find?_some looked
          have loaded : identityById identities personId = .ok person := by
            simp only [identityById, looked]
          refine ⟨person :: people, ?_, by rw [List.map_cons, named, ids]⟩
          rw [List.mapM_cons, loaded, found]
          rfl

end

/-- A task with a captured page and known people gets a plan, and the plan is well formed. -/
theorem build_page_fill_plan_wellFormed (library : TaskLibrary) (task : AgentTask)
    (snapshot : BrowserPageSnapshot) (captured : task.pageSnapshot = some snapshot)
    (valid : snapshot.Valid) (distinct : (snapshot.controls.map (·.controlId)).Nodup)
    (terms : ∀ facts ∈ task.intent, facts.searchTerms.length ≤ 20)
    (identities : List IdentityRecord)
    (covered : ∀ personId ∈ task.personIds, ∃ identity ∈ identities, identity.id = personId)
    (now : Time) :
    ∃ plan, buildValidatedPageFillPlan library task identities now = .ok plan ∧
      plan = buildPageFillPlan library task snapshot now ∧
        plan.WellFormed library task snapshot := by
  obtain ⟨people, found, ids⟩ := people_found covered
  obtain ⟨ran, progress⟩ := progress_run terms snapshot.controls [] _ distinct valid.controlIds
    (progress_start library task.intent task.personIds)
  refine ⟨buildPageFillPlan library task snapshot now, ?_, rfl, wellFormed_of_progress progress now⟩
  simp only [buildValidatedPageFillPlan, captured]
  rw [found]
  simp only [bind, Except.bind, ids]
  rw [ran]
  exact validate_of_progress valid progress now

/-! A form for a name and a city. -/

namespace OrderForm

def input (controlId label : String) : BrowserPageControl where
  controlId := controlId
  frameIndex := 0
  frameUrl := none
  kind := .text
  label := label
  fieldName := none
  role := none
  nearbyText := none
  required := true
  disabled := false
  checked := none
  selected := none
  expanded := none
  pressed := none
  options := []

def shown : BrowserPageSnapshot where
  url := "https://shop.example/"
  title := "Shop"
  capturedAt := 0
  controls := [input "control_1" "first name", input "control_2" "origin"]
  visibleText := ""

def facts : TaskIntent := ⟨some "Moscow", none, none, none, none, none, 1, ["window"], []⟩

def task : AgentTask :=
  { Sample.agentTask with intent := some facts, pageSnapshot := some shown }

theorem valid : shown.Valid := by
  constructor
  · decide
  · decide
  · decide
  · decide

end OrderForm

theorem build_page_fill_plan_order :
    ∃ plan, buildValidatedPageFillPlan Sample.taskLibrary OrderForm.task [Sample.passenger] 0 =
        .ok plan ∧
      plan = buildPageFillPlan Sample.taskLibrary OrderForm.task OrderForm.shown 0 ∧
        plan.WellFormed Sample.taskLibrary OrderForm.task OrderForm.shown :=
  build_page_fill_plan_wellFormed Sample.taskLibrary OrderForm.task OrderForm.shown rfl
    OrderForm.valid (by decide) (by decide) [Sample.passenger] (by decide) 0

end PurchaseAgent
