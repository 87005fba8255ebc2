import PurchaseAgent.Correctness.PageSnapshots
import PurchaseAgent.Services.AgentDecision

/-!
The context that a model is given of a page. It can be built of every snapshot, it
is bounded, and the controls it shows are the best of those that can be used: what
is left out ranks behind everything that is shown.
-/

namespace PurchaseAgent

open Collections AgentDecision

/-! The normalized texts are no longer than the given ones. -/

/-- The length of the words, each with a separator. -/
def spacedLength : List (List Char) → Nat
  | [] => 0
  | word :: rest => word.length + 1 + spacedLength rest

theorem length_intercalate {separator : Char} {words : List (List Char)} (some : words ≠ []) :
    ([separator].intercalate words).length + 1 = spacedLength words := by
  induction words with
  | nil => exact absurd rfl some
  | cons first rest ih =>
      cases rest with
      | nil => simp [spacedLength]
      | cons second others =>
          have later := ih (List.cons_ne_nil _ _)
          rw [List.intercalate_cons_cons, spacedLength, ← later]
          simp only [List.length_append, List.length_singleton]
          omega

/-- The first word of a split counts even when it is empty. -/
theorem length_splitOnP (p : Char → Bool) (text : List Char) :
    ∃ first rest, text.splitOnP p = first :: rest ∧
      first.length + spacedLength (rest.filter fun word => word ≠ []) ≤ text.length := by
  induction text with
  | nil => exact ⟨[], [], rfl, le_rfl⟩
  | cons c text ih =>
      obtain ⟨first, rest, split, bound⟩ := ih
      rw [List.splitOnP_cons_eq_if_modifyHead, split]
      cases apart : p c with
      | true =>
          refine ⟨[], first :: rest, rfl, ?_⟩
          rw [List.filter_cons]
          split_ifs <;> simp only [spacedLength, List.length_nil, List.length_cons] <;> omega
      | false =>
          refine ⟨c :: first, rest, rfl, ?_⟩
          simp only [List.length_cons]
          omega

theorem length_collapse (value : String) : (collapse value).length ≤ value.length := by
  obtain ⟨first, rest, split, bound⟩ := length_splitOnP isSpace value.toList
  rw [String.length_toList] at bound
  rw [collapse, String.length_ofList, split, List.filter_cons]
  split_ifs with kept
  · have whole := @length_intercalate ' ' (first :: rest.filter fun word => word ≠ [])
      (List.cons_ne_nil _ _)
    rw [spacedLength] at whole
    omega
  · generalize (rest.filter fun word => word ≠ []) = words at bound ⊢
    by_cases none : words = []
    · rw [none]
      exact Nat.zero_le _
    · have whole := @length_intercalate ' ' words none
      omega

theorem normalizeFieldName_length {value : Option String} {n : Nat}
    (fits : ∀ text ∈ value, text.length ≤ n) :
    ∀ text ∈ BrowserPageControl.normalizeFieldName value, text.length ≤ n := by
  intro text member
  rw [BrowserPageControl.normalizeFieldName, truthy_mem] at member
  obtain ⟨given, present, written⟩ := Option.map_eq_some_iff.mp member.1
  rw [← written]
  exact (length_collapse given).trans (fits given present)

/-- A snapshot that has passed the models of the page and its controls. -/
structure BrowserPageSnapshot.Validated (snapshot : BrowserPageSnapshot) : Prop where
  page : ∃ raw : BrowserPageSnapshot, raw.validate = .ok snapshot
  controls : ∀ control ∈ snapshot.controls, ∃ raw : BrowserPageControl, raw.validate = .ok control

def TaskClarification.Valid (clarification : TaskClarification) : Prop :=
  clarification.question ≠ "" ∧ clarification.question.length ≤ 500 ∧
    clarification.answer ≠ "" ∧ clarification.answer.length ≤ 2000

section Scores
variable {Score : Type} [LinearOrder Score] (matching : FuzzyMatching Score)

theorem bestScore_unit {scores : List Score}
    (unit : ∀ score ∈ scores, matching.zero ≤ score ∧ score ≤ matching.one) :
    matching.zero ≤ bestScore matching scores ∧ bestScore matching scores ≤ matching.one := by
  cases scores with
  | nil => exact ⟨le_rfl, matching.zero_le_one⟩
  | cons first rest =>
      obtain ⟨here, later⟩ := List.forall_mem_cons.mp unit
      change matching.zero ≤ rest.foldl max first ∧ rest.foldl max first ≤ matching.one
      clear unit
      induction rest generalizing first with
      | nil => exact here
      | cons second others ih =>
          obtain ⟨there, later⟩ := List.forall_mem_cons.mp later
          exact ih (max first second)
            ⟨here.1.trans (le_max_left _ _), max_le here.2 there.2⟩ later

theorem controlGoalMatchScore_unit (label : String) (nearbyText : Option String)
    (searchTerms : List String) :
    matching.zero ≤ controlGoalMatchScore matching label nearbyText searchTerms ∧
      controlGoalMatchScore matching label nearbyText searchTerms ≤ matching.one := by
  have best := @bestScore_unit _ _ matching (searchTerms.map fun term =>
    matching.fuzzyTextScore term (joinParts [some label, nearbyText])) (by
      intro score member
      obtain ⟨term, -, rfl⟩ := List.mem_map.mp member
      exact matching.fuzzyTextScore_unit _ _)
  exact matching.round_unit _ best.1 best.2

variable {matching} {goalHints : List String}

theorem validateVisible_ok {control : BrowserPageControl}
    (validated : ∃ raw : BrowserPageControl, raw.validate = .ok control) :
    validateVisible matching (visibleControl matching goalHints control) =
      .ok (visibleControl matching goalHints control) := by
  obtain ⟨raw, ok⟩ := validated
  obtain ⟨accepted, rfl⟩ := BrowserPageControl.validate_ok_iff.mp ok
  have unit := controlGoalMatchScore_unit matching raw.normalized.label raw.normalized.nearbyText
    goalHints
  rw [validateVisible]
  simp only [reject_bind_ok, BrowserPageControl.atMost_bind_ok]
  refine ⟨Nat.not_lt.mpr accepted.frameIndex, normalizeFieldName_length accepted.frameUrl,
    normalizeFieldName_length accepted.fieldName, not_lt.mpr unit.1, not_lt.mpr unit.2,
    normalizeFieldName_length accepted.nearbyText, rfl⟩

/-! The loop over the controls. -/

/-- Two places of one signature, the first of them at most as late. -/
def Precedes (matching : FuzzyMatching Score) (first later : BrowserPageControl × Nat) : Prop :=
  controlSignature matching first.1 = controlSignature matching later.1 ∧ first.2 ≤ later.2

/-- What the loop has collected of the places it went through. -/
structure Ranks (matching : FuzzyMatching Score) (goalHints : List String)
    (seen : List (Nat × String × String)) (places kept : List (BrowserPageControl × Nat)) :
    Prop where
  inOrder : kept.Sublist places
  offered : ∀ place ∈ kept, isOffered matching place.1 = true
  fresh : ∀ place ∈ kept, controlSignature matching place.1 ∉ seen
  distinct : (kept.map fun place => controlSignature matching place.1).Nodup
  covers : ∀ place ∈ places, isOffered matching place.1 = true →
    controlSignature matching place.1 ∈ seen ∨ ∃ first ∈ kept, Precedes matching first place

theorem Ranks.skip {seen : List (Nat × String × String)} {place : BrowserPageControl × Nat}
    {places kept : List (BrowserPageControl × Nat)} (h : Ranks matching goalHints seen places kept)
    (skipped : isOffered matching place.1 = true → controlSignature matching place.1 ∈ seen) :
    Ranks matching goalHints seen (place :: places) kept where
  inOrder := h.inOrder.cons place
  offered := h.offered
  fresh := h.fresh
  distinct := h.distinct
  covers other member offered := by
    cases member with
    | head => exact .inl (skipped offered)
    | tail _ later => exact h.covers other later offered

theorem Ranks.keep {seen : List (Nat × String × String)} {place : BrowserPageControl × Nat}
    {places kept : List (BrowserPageControl × Nat)}
    (h : Ranks matching goalHints (controlSignature matching place.1 :: seen) places kept)
    (offered : isOffered matching place.1 = true)
    (fresh : controlSignature matching place.1 ∉ seen)
    (after : ∀ later ∈ places, place.2 < later.2) :
    Ranks matching goalHints seen (place :: places) (place :: kept) where
  inOrder := h.inOrder.cons_cons place
  offered := List.forall_mem_cons.mpr ⟨offered, h.offered⟩
  fresh := List.forall_mem_cons.mpr ⟨fresh, fun other member inside =>
    h.fresh other member (List.mem_cons_of_mem _ inside)⟩
  distinct := by
    rw [List.map_cons, List.nodup_cons]
    refine ⟨fun repeated => ?_, h.distinct⟩
    obtain ⟨other, member, same⟩ := List.mem_map.mp repeated
    exact h.fresh other member (same ▸ List.mem_cons_self)
  covers other member chosen := by
    cases member with
    | head => exact .inr ⟨place, List.mem_cons_self, rfl, le_rfl⟩
    | tail _ later =>
        rcases h.covers other later chosen with seen | ⟨first, inside, precedes⟩
        · rcases List.mem_cons.mp seen with same | before
          · exact .inr ⟨place, List.mem_cons_self, same.symm, le_of_lt (after other later)⟩
          · exact .inl before
        · exact .inr ⟨first, List.mem_cons_of_mem _ inside, precedes⟩

/-- The loop succeeds on validated controls and keeps the first place of each
signature. -/
theorem rankControls_ok {places : List (BrowserPageControl × Nat)}
    (validated : ∀ place ∈ places, ∃ raw : BrowserPageControl, raw.validate = .ok place.1)
    (increasing : places.Pairwise fun a b => a.2 < b.2) (seen : List (Nat × String × String)) :
    ∃ kept, rankControls matching goalHints seen places =
        .ok (kept.map (rankedControl matching goalHints)) ∧
      Ranks matching goalHints seen places kept := by
  induction places generalizing seen with
  | nil => exact ⟨[], rfl, .slnil, by simp, by simp, .nil, by simp⟩
  | cons place rest ih =>
      obtain ⟨control, index⟩ := place
      obtain ⟨here, later⟩ := List.forall_mem_cons.mp validated
      obtain ⟨after, increasing⟩ := List.pairwise_cons.mp increasing
      rw [rankControls]
      split
      · rename_i unusable
        obtain ⟨kept, ok, ranks⟩ := ih later increasing seen
        refine ⟨kept, ok, ranks.skip fun offered => ?_⟩
        exact absurd (unusable.symm.trans offered) Bool.false_ne_true
      · rename_i usable
        split
        · rename_i repeated
          obtain ⟨kept, ok, ranks⟩ := ih later increasing seen
          exact ⟨kept, ok, ranks.skip fun _ => repeated⟩
        · rename_i fresh
          obtain ⟨kept, ok, ranks⟩ := ih later increasing (controlSignature matching control :: seen)
          refine ⟨(control, index) :: kept, ?_,
            ranks.keep (Bool.eq_true_of_not_eq_false usable) fresh after⟩
          have visible : validateVisible matching (visibleControl matching goalHints control) =
              .ok (visibleControl matching goalHints control) := validateVisible_ok here
          simp only [visible, ok, bind, Except.bind]
          rfl

/-- Where a place stands in the order of priority and position. -/
def placeRank (matching : FuzzyMatching Score) (goalHints : List String)
    (place : BrowserPageControl × Nat) : Scoreᵒᵈ ×ₗ Nat :=
  (rankedControl matching goalHints place).rank

/-- The places a context shows, out of all places of the page. -/
structure ShownPlaces (matching : FuzzyMatching Score) (goalHints : List String)
    (places chosen : List (BrowserPageControl × Nat)) : Prop where
  inOrder : chosen.Sublist places
  atMost : chosen.length ≤ maxAgentControls
  offered : ∀ place ∈ chosen, isOffered matching place.1 = true
  distinct : (chosen.map fun place => controlSignature matching place.1).Nodup
  complete : ∀ place ∈ places, isOffered matching place.1 = true →
    ∃ first ∈ places, isOffered matching first.1 = true ∧ Precedes matching first place ∧
      (first ∈ chosen ∨ chosen.length = maxAgentControls ∧
        ∀ kept ∈ chosen, placeRank matching goalHints kept ≤ placeRank matching goalHints first)

theorem selected_of_ranks {places kept : List (BrowserPageControl × Nat)}
    (ranks : Ranks matching goalHints [] places kept)
    (increasing : places.Pairwise fun a b => a.2 < b.2) :
    ∃ chosen, bestOf RankedControl.rank RankedControl.index maxAgentControls
        (kept.map (rankedControl matching goalHints)) =
          chosen.map (rankedControl matching goalHints) ∧
      ShownPlaces matching goalHints places chosen := by
  have keptIncreasing : (kept.map (rankedControl matching goalHints)).Pairwise fun a b =>
      a.index < b.index := List.pairwise_map.mpr (increasing.sublist ranks.inOrder)
  have sublist := @bestOf_sublist _ _ _ _ _ RankedControl.rank RankedControl.index
    maxAgentControls _ keptIncreasing
  obtain ⟨chosen, within, same⟩ := List.sublist_map_iff.mp sublist
  have length : chosen.length = min maxAgentControls kept.length := by
    have lengths := congrArg List.length same
    rwa [length_bestOf, List.length_map, List.length_map, eq_comm] at lengths
  refine ⟨chosen, same, within.trans ranks.inOrder, ?_, ?_, ?_, ?_⟩
  · rw [length]
    exact min_le_left _ _
  · exact fun place member => ranks.offered place (within.subset member)
  · exact ranks.distinct.sublist (within.map _)
  · intro place member offered
    obtain ⟨first, inside, precedes⟩ :=
      (ranks.covers place member offered).resolve_left List.not_mem_nil
    refine ⟨first, ranks.inOrder.subset inside, ranks.offered first inside, precedes, ?_⟩
    by_cases shown : rankedControl matching goalHints first ∈
        chosen.map (rankedControl matching goalHints)
    · left
      obtain ⟨other, listed, equal⟩ := List.mem_map.mp shown
      -- an index stands for one place
      have index : other.2 = first.2 := congrArg RankedControl.index equal
      have distinct : (kept.map (·.2)).Nodup :=
        List.pairwise_map.mpr ((increasing.sublist ranks.inOrder).imp Nat.ne_of_lt)
      rwa [← List.inj_on_of_nodup_map distinct (within.subset listed) inside index]
    · right
      rw [← same] at shown
      have full := bestOf_full RankedControl.rank RankedControl.index maxAgentControls
        (List.mem_map_of_mem inside) shown
      rw [same, List.length_map] at full
      refine ⟨full, fun other listed => ?_⟩
      apply rank_le_of_left RankedControl.rank RankedControl.index maxAgentControls _
        (List.mem_map_of_mem inside) shown
      rw [same]
      exact List.mem_map_of_mem listed

/-! The text of the page. -/

theorem nodup_eraseDups (lines : List String) : lines.eraseDups.Nodup := by
  generalize size : lines.length = n
  induction n using Nat.strong_induction_on generalizing lines with
  | _ n ih =>
      cases lines with
      | nil => exact .nil
      | cons first rest =>
          have shorter := List.length_filter_le (fun line => ! line == first) rest
          rw [List.length_cons] at size
          rw [List.eraseDups_cons, List.nodup_cons]
          refine ⟨fun repeated => ?_, ih _ (by omega) _ rfl⟩
          have kept := (List.mem_filter.mp (List.mem_eraseDups.mp repeated)).2
          simp at kept

theorem compactVisibleText_length (text : String) (goalHints : List String) :
    (compactVisibleText matching text goalHints).length ≤ maxAgentVisibleText := by
  rw [compactVisibleText]
  split
  · assumption
  · exact length_cut _ _

theorem compactVisibleText_short (text : String) (goalHints : List String)
    (short : text.length ≤ maxAgentVisibleText) :
    compactVisibleText matching text goalHints = text := by
  rw [compactVisibleText, if_pos short]

/-- A long text is cut to distinct lines of the page. -/
theorem compactVisibleText_lines (text : String) (goalHints : List String)
    (long : maxAgentVisibleText < text.length) :
    ∃ lines : List String, lines.Nodup ∧ lines ⊆ splitLines text ∧
      compactVisibleText matching text goalHints =
        cut maxAgentVisibleText ("\n".intercalate lines) := by
  refine ⟨_, ?_, ?_, if_neg (Nat.not_le.mpr long)⟩
  · exact nodup_eraseDups _
  · intro line member
    simp only [List.mem_eraseDups, List.mem_append] at member
    rcases member with (early | relevant) | late
    · exact List.mem_of_mem_take early
    · exact (List.mem_filter.mp relevant).1
    · exact List.mem_of_mem_drop late

theorem createClarification_ok {item : TaskClarification} (valid : item.Valid) :
    createClarification item = .ok ⟨item.question, item.answer⟩ := by
  obtain ⟨question, short, answer, brief⟩ := valid
  rw [createClarification]
  simp only [reject_bind_ok, BrowserPageControl.atMost_bind_ok]
  refine ⟨question, fun text same => ?_, answer, fun text same => ?_, rfl⟩
  · cases same
    exact short
  · cases same
    exact brief

omit [LinearOrder Score] in
theorem validateContext_ok {Observation : Type} {context : AgentDecisionContext Score Observation}
    (text : context.visibleText.length ≤ maxAgentVisibleText)
    (controls : context.controls.length ≤ maxAgentControls)
    (count : context.totalControlCount ≤ 300) (actions : context.previousActions.length ≤ 20)
    (clarifications : context.clarifications.length ≤ 20) :
    validateContext context = .ok context := by
  rw [validateContext]
  simp only [reject_bind_ok, BrowserPageControl.atMost_bind_ok]
  refine ⟨fun value same => ?_, Nat.not_lt.mpr controls, Nat.not_lt.mpr count,
    Nat.not_lt.mpr actions, Nat.not_lt.mpr clarifications, rfl⟩
  cases same
  exact text.trans (Nat.le_of_ble_eq_true rfl)

/-- The context that shows the chosen places. -/
def contextShowing (matching : FuzzyMatching Score) {Observation : Type} (task : AgentTask)
    (snapshot : BrowserPageSnapshot) (chosen : List (BrowserPageControl × Nat))
    (previousActions : List Observation) (screenshotDataUrl : Option String) :
    AgentDecisionContext Score Observation where
  taskId := task.id.str
  goal := task.instruction
  currentUrl := snapshot.url
  pageTitle := snapshot.title
  pageStage := classifyAgentPageStage matching snapshot
  visibleText :=
    compactVisibleText matching snapshot.visibleText (AgentDecision.goalHints matching task)
  intent := task.intent
  controls := chosen.map fun place =>
    visibleControl matching (AgentDecision.goalHints matching task) place.1
  totalControlCount := snapshot.controls.length
  controlsTruncated := decide (maxAgentControls < snapshot.controls.length)
  previousActions := previousActions.rtake 20
  clarifications := (task.clarifications.rtake 20).map fun item => ⟨item.question, item.answer⟩
  screenshotDataUrl := screenshotDataUrl

/-- What a context says of its page. -/
structure ContextOf (matching : FuzzyMatching Score) {Observation : Type} (task : AgentTask)
    (snapshot : BrowserPageSnapshot) (previousActions : List Observation)
    (context : AgentDecisionContext Score Observation) : Prop where
  controls : ∃ chosen,
    ShownPlaces matching (AgentDecision.goalHints matching task) snapshot.controls.zipIdx chosen ∧
      context.controls = chosen.map fun place =>
        visibleControl matching (AgentDecision.goalHints matching task) place.1
  notTruncated : context.controlsTruncated = false → ∀ control ∈ snapshot.controls,
    isOffered matching control = true → ∃ shown ∈ context.controls,
      signatureOf matching shown.frameIndex shown.fieldName shown.label =
        controlSignature matching control
  textLength : context.visibleText.length ≤ maxAgentVisibleText
  shortText : snapshot.visibleText.length ≤ maxAgentVisibleText →
    context.visibleText = snapshot.visibleText
  longText : maxAgentVisibleText < snapshot.visibleText.length →
    ∃ lines : List String, lines.Nodup ∧ lines ⊆ splitLines snapshot.visibleText ∧
      context.visibleText = cut maxAgentVisibleText ("\n".intercalate lines)
  actions : context.previousActions = previousActions.rtake 20
  clarifications : context.clarifications = (task.clarifications.rtake 20).map fun item =>
    ⟨item.question, item.answer⟩

theorem length_rtake_le {α : Type} (xs : List α) (n : Nat) : (xs.rtake n).length ≤ n := by
  rw [List.rtake, List.length_drop]
  omega

theorem selectAgentControls_ok {snapshot : BrowserPageSnapshot} (validated : snapshot.Validated) :
    ∃ chosen, selectAgentControls matching snapshot goalHints =
        .ok (chosen.map fun place => visibleControl matching goalHints place.1) ∧
      ShownPlaces matching goalHints snapshot.controls.zipIdx chosen := by
  have increasing : snapshot.controls.zipIdx.Pairwise fun a b => a.2 < b.2 := by
    have indexes := List.zipIdx_map_snd 0 snapshot.controls
    rw [← List.pairwise_map (R := fun a b => a < b), indexes]
    exact List.pairwise_lt_range'
  obtain ⟨kept, ok, ranks⟩ := @rankControls_ok _ _ matching goalHints snapshot.controls.zipIdx
    (fun place member => validated.controls _ (List.fst_mem_of_mem_zipIdx member)) increasing []
  obtain ⟨chosen, best, selected⟩ := selected_of_ranks ranks increasing
  refine ⟨chosen, ?_, selected⟩
  simp only [selectAgentControls, ok, bind, Except.bind, best, List.map_map]
  rfl

/-- Whatever the page, the context can be built; it is bounded, and it leaves out no
control that outranks one it shows. -/
theorem agent_context_of_page {Observation : Type} {task : AgentTask}
    {snapshot : BrowserPageSnapshot} (observed : task.pageSnapshot = some snapshot)
    (validated : snapshot.Validated) (answers : ∀ item ∈ task.clarifications, item.Valid)
    (previousActions : List Observation) (screenshotDataUrl : Option String) :
    ∃ context, buildAgentDecisionContext matching task previousActions screenshotDataUrl =
        .ok context ∧
      ContextOf matching task snapshot previousActions context := by
  obtain ⟨chosen, controls, selected⟩ := @selectAgentControls_ok _ _ matching
    (AgentDecision.goalHints matching task) snapshot validated
  have clarifications : (task.clarifications.rtake 20).mapM createClarification =
      .ok ((task.clarifications.rtake 20).map fun item => ⟨item.question, item.answer⟩) :=
    mapM_eq_ok fun item member => createClarification_ok (answers item (List.mem_of_mem_drop member))
  have text := @compactVisibleText_length _ _ matching snapshot.visibleText
    (AgentDecision.goalHints matching task)
  obtain ⟨raw, page⟩ := validated.page
  obtain ⟨⟨-, -, -, -, few⟩, same⟩ := BrowserPageSnapshot.validate_ok_iff.mp page
  have few : snapshot.controls.length ≤ 300 := by
    have kept : raw.normalized.controls = raw.controls := by rw [BrowserPageSnapshot.normalized]
    rwa [same, kept]
  have built : buildAgentDecisionContext matching task previousActions screenshotDataUrl =
      validateContext
        (contextShowing matching task snapshot chosen previousActions screenshotDataUrl) := by
    simp only [buildAgentDecisionContext, observed, controls, clarifications, bind, Except.bind]
    rfl
  have accepted : validateContext
      (contextShowing matching task snapshot chosen previousActions screenshotDataUrl) =
        .ok (contextShowing matching task snapshot chosen previousActions screenshotDataUrl) := by
    apply validateContext_ok
    · exact text
    · rw [contextShowing, List.length_map]
      exact selected.atMost
    · exact few
    · exact length_rtake_le _ _
    · rw [contextShowing, List.length_map]
      exact length_rtake_le _ _
  refine ⟨_, built.trans accepted, ?_⟩
  constructor
  · exact ⟨chosen, selected, rfl⟩
  · intro complete control member offered
    obtain ⟨index, listed⟩ := List.mem_iff_getElem?.mp member
    have place := List.mk_mem_zipIdx_iff_getElem?.mpr listed
    obtain ⟨first, inside, usable, precedes, shown⟩ := selected.complete _ place offered
    have inChosen : first ∈ chosen := by
      rcases shown with shown | ⟨full, -⟩
      · exact shown
      · -- sixty places are chosen of at most sixty
        have fit : snapshot.controls.zipIdx.length ≤ chosen.length := by
          rw [List.length_zipIdx, full]
          exact Nat.not_lt.mp (of_decide_eq_false complete)
        rwa [selected.inOrder.eq_of_length_le fit]
    exact ⟨_, List.mem_map_of_mem inChosen, precedes.1⟩
  · exact text
  · exact compactVisibleText_short _ _
  · exact compactVisibleText_lines _ _
  · rfl
  · rfl

end Scores

/-! A page with a link that it shows twice. -/

namespace TwoLinks

theorem zero_le_one : 0 ≤ 1000 := Nat.zero_le 1000

theorem part_unit {factor : Nat} (below : factor ≤ 1000) (part whole : Nat) (fewer : part ≤ whole) :
    0 ≤ part * factor / whole ∧ part * factor / whole ≤ 1000 :=
  ⟨Nat.zero_le _, Nat.div_le_of_le_mul (Nat.mul_le_mul fewer below)⟩

theorem allShared_unit : 0 ≤ 940 ∧ 940 ≤ 1000 := by decide

def ratio (a b : String) : Nat := if a = b then 1000 else 0

theorem ratio_unit (a b : String) : 0 ≤ ratio a b ∧ ratio a b ≤ 1000 := by
  refine ⟨Nat.zero_le _, ?_⟩
  rw [ratio]
  split <;> omega

theorem round_unit (score : Nat) (above : 0 ≤ score) (below : score ≤ 1000) :
    0 ≤ id score ∧ id score ≤ 1000 := ⟨above, below⟩

/-- Scores in thousandths, of words as a whole. -/
def matching : FuzzyMatching Nat where
  casefold := id
  isWord := Char.isAlphanum
  isDecimal := Char.isDigit
  zero := 0
  one := 1000
  allShared := 940
  resembling := 780
  ratio := ratio
  overlap part whole := part * 880 / whole
  morphologicalOverlap part whole := part * 900 / whole
  relevant := 700
  round := id
  percent score := score * 100
  plus score points := score + points * 1000
  zero_le_one := zero_le_one
  allShared_unit := allShared_unit
  ratio_unit := ratio_unit
  overlap_unit := part_unit (by decide)
  morphologicalOverlap_unit := part_unit (by decide)
  round_unit := round_unit

def link (controlId : String) : BrowserPageControl :=
  ⟨controlId, 0, none, .link, "Tickets", none, none, none, false, false, none, none, none, none, []⟩

def snapshot : BrowserPageSnapshot :=
  ⟨"https://example.com/", "Timetable", 0, [link "control_1", link "control_2"], ""⟩

def task : AgentTask where
  id := ⟨1⟩
  instruction := "Tickets"
  targetUrl := "https://example.com/"
  personIds := []
  createdAt := 0
  pageSnapshot := some snapshot

theorem validated : snapshot.Validated where
  page := ⟨snapshot, by decide +kernel⟩
  controls := by
    intro control member
    rcases List.mem_cons.mp member with rfl | member
    · exact ⟨link "control_1", by decide +kernel⟩
    · obtain rfl := List.mem_singleton.mp member
      exact ⟨link "control_2", by decide +kernel⟩

end TwoLinks

open TwoLinks in
theorem agent_context_of_page_links :
    ∃ context, buildAgentDecisionContext matching task ([] : List String) none = .ok context ∧
      ContextOf matching task snapshot ([] : List String) context :=
  agent_context_of_page rfl validated (by
    intro item member
    cases member) [] none

example : (selectAgentControls TwoLinks.matching TwoLinks.snapshot ["Tickets"]).map
    (List.map (·.controlId)) = .ok ["control_1"] := by decide +kernel

end PurchaseAgent
