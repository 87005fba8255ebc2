import Mathlib.Data.List.Forall2
import PurchaseAgent.Correctness.EventFields
import PurchaseAgent.Correctness.ProviderHistory
import PurchaseAgent.Correctness.TaskExecution
import PurchaseAgent.Services.TaskIntentExtraction

/-!
What the extraction of an intent raises: no pattern and no conversion does, only the
checks of the `TaskIntent` on the lengths of the places and the number of quoted terms.
What the plan raises besides: the URL of a task may be too long for a step, or may be
stored in a form that `urlsplit` refuses.
-/

namespace PurchaseAgent

open Regex

/-- The URL of a task has an origin that the policy can compare. -/
def AgentTask.UrlSplits (library : TaskLibrary) (task : AgentTask) : Prop :=
  task.permissions.allowNavigation = true →
    ∃ parsed, library.urlsplit (strip task.targetUrl) = .ok parsed ∧
      (parsed.scheme ∈ ["http", "https"] ∧ parsed.netloc ≠ "" →
        ∃ own, library.urlsplit task.targetUrl = .ok own)

theorem evaluate_navigate_ok_iff {library : TaskLibrary} {task : AgentTask}
    {request : BrowserActionRequest} (action : request.action = .navigate)
    (target : request.targetUrl = some task.targetUrl) (free : request.createsCharge = false)
    (reversible : request.reversible = true) :
    (∃ decision, evaluateBrowserAction library task request = .ok decision) ↔
      task.UrlSplits library := by
  have navigation : evaluateBrowserAction library task request =
      evaluateNavigation library task (some task.targetUrl) := by
    simp [evaluateBrowserAction, action, target, free, reversible]
  rw [navigation, evaluateNavigation]
  by_cases allowed : task.permissions.allowNavigation = true
  · rw [if_neg (not_not.2 allowed)]
    cases split : library.urlsplit (strip task.targetUrl) with
    | error error =>
        have raised : library.origin task.targetUrl = .error error := by
          rw [TaskLibrary.origin, split]
          rfl
        rw [raised]
        refine ⟨fun decided => ?_, fun splits => ?_⟩
        · obtain ⟨decision, impossible⟩ := decided
          cases impossible
        · obtain ⟨parsed, impossible, -⟩ := splits allowed
          rw [split] at impossible
          cases impossible
    | ok parsed =>
        by_cases web : parsed.scheme ∈ ["http", "https"] ∧ parsed.netloc ≠ ""
        · obtain ⟨origin, found⟩ : ∃ origin, library.origin task.targetUrl = .ok (some origin) := by
            rw [TaskLibrary.origin, split, Except.map, if_neg (by simp [web])]
            exact ⟨_, rfl⟩
          rw [found, AgentTask.targetOrigin]
          constructor
          · intro decided _
            refine ⟨parsed, split, fun _ => ?_⟩
            cases own : library.urlsplit task.targetUrl with
            | error error =>
                rw [own] at decided
                obtain ⟨decision, impossible⟩ := decided
                cases impossible
            | ok ownUrl => exact ⟨ownUrl, rfl⟩
          · intro splits
            obtain ⟨same, again, ownSplits⟩ := splits allowed
            obtain rfl := Except.ok.inj (split.symm.trans again)
            obtain ⟨ownUrl, found⟩ := ownSplits web
            rw [found]
            dsimp only [Except.map]
            split <;> exact ⟨_, rfl⟩
        · have none : library.origin task.targetUrl = .ok none := by
            rw [TaskLibrary.origin, split, Except.map, if_pos (by grind)]
          rw [none]
          exact ⟨fun _ _ => ⟨parsed, split, fun own => absurd own web⟩, fun _ => ⟨_, rfl⟩⟩
  · rw [if_pos allowed]
    exact ⟨fun _ impossible => absurd impossible allowed, fun _ => ⟨_, rfl⟩⟩

def openTarget (targetUrl : String) : TaskPlanStep :=
  { stepId := "open_target", action := .navigate
    summary := "Open the user-provided website", targetUrl := some targetUrl }

/-- Only the first step of a plan is a navigation. -/
theorem eq_openTarget_of_navigate {kind targetUrl : String} {step : TaskPlanStep}
    (member : step ∈ plannedSteps kind targetUrl) (navigation : step.action = .navigate) :
    step = openTarget targetUrl := by
  by_cases basic : kind ∈ basicProfileKinds
  · by_cases documents : kind ∈ documentKinds
    all_goals
      simp only [plannedSteps, basic, documents, if_true, if_false, List.mem_append,
        List.mem_cons, List.not_mem_nil, or_false] at member
      grind [openTarget]
  · by_cases documents : kind ∈ documentKinds
    all_goals
      simp only [plannedSteps, basic, documents, if_true, if_false, List.mem_append,
        List.mem_cons, List.not_mem_nil, or_false] at member
      grind [openTarget]

theorem plannedSteps_decided_iff (library : TaskLibrary) (task : AgentTask) (kind : String) :
    (∀ step ∈ plannedSteps kind task.targetUrl, ∃ decision,
      evaluateBrowserAction library task step.toActionRequest = .ok decision) ↔
      task.UrlSplits library := by
  have first := @evaluate_navigate_ok_iff library task (openTarget task.targetUrl).toActionRequest
    rfl rfl rfl rfl
  rw [← first]
  constructor
  · intro all
    exact all _ (by simp [plannedSteps, openTarget])
  · intro opened step member
    by_cases navigation : step.action = .navigate
    · exact eq_openTarget_of_navigate member navigation ▸ opened
    · exact evaluate_ok library task navigation

/-- A plan is built exactly when the URL fits a step and an origin, and the instruction an
intent. -/
theorem buildTaskPlan_ok_iff {library : TaskLibrary} {task : AgentTask} {now : Time} :
    (∃ preview, buildTaskPlan library task now = .ok preview) ↔
      (∃ intent, library.extractTaskIntent task.instruction task.personIds.length
        (Date.ofDays (now / 86400000000)) = .ok intent) ∧
      task.targetUrl.length ≤ 2048 ∧ task.UrlSplits library := by
  unfold buildTaskPlan
  by_cases long : 2048 < task.targetUrl.length
  · rw [if_pos long]
    refine ⟨fun made => ?_, fun fits => absurd fits.2.1 (Nat.not_le_of_lt long)⟩
    obtain ⟨preview, impossible⟩ := made
    cases impossible
  · rw [if_neg long]
    let kind := (task.inferredKind.filter (· ≠ "")).getD (inferTaskKind library task.instruction)
    rw [← plannedSteps_decided_iff library task kind, ← mapM_ok_iff]
    cases library.extractTaskIntent task.instruction task.personIds.length
        (Date.ofDays (now / 86400000000)) with
    | error error =>
        refine ⟨fun made => ?_, fun fits => ?_⟩
        · obtain ⟨preview, impossible⟩ := made
          cases impossible
        · obtain ⟨⟨intent, impossible⟩, -⟩ := fits
          cases impossible
    | ok intent =>
        dsimp only
        cases List.mapM (fun step =>
            evaluateBrowserAction library task step.toActionRequest)
            (plannedSteps kind task.targetUrl) with
        | error error =>
            refine ⟨fun made => ?_, fun fits => ?_⟩
            · obtain ⟨preview, impossible⟩ := made
              cases impossible
            · obtain ⟨-, -, decisions, impossible⟩ := fits
              cases impossible
        | ok decisions =>
            exact ⟨fun _ => ⟨⟨intent, rfl⟩, Nat.le_of_not_lt long, decisions, rfl⟩,
              fun _ => ⟨_, rfl⟩⟩

section
variable {library : CharLibrary}

theorem not_captures_ignoringCase {text name : String} {captured : List Char} :
    ¬ Captures (ignoringCase library text) name captured := by
  intro found
  obtain ⟨r, member, inside⟩ := captures_all.mp found
  obtain ⟨d, -, rfl⟩ := List.mem_map.mp member
  exact inside

theorem not_captures_choice {text name : String} {others : List String} {captured : List Char} :
    ¬ Captures (choice library text others) name captured := by
  intro found
  obtain ⟨r, member, inside⟩ := captures_anyOf.mp found
  rcases List.mem_cons.mp member with rfl | other
  · exact not_captures_ignoringCase inside
  · obtain ⟨word, -, rfl⟩ := List.mem_map.mp other
    exact not_captures_ignoringCase inside

theorem not_captures_exactly {text name : String} {captured : List Char} :
    ¬ Captures (exactly text) name captured := by
  intro found
  obtain ⟨r, member, inside⟩ := captures_all.mp found
  obtain ⟨d, -, rfl⟩ := List.mem_map.mp member
  exact inside

/-- A text that matches one of the words folds to it. -/
theorem casefold_of_months {text : List Char}
    (matched : Matches (choice library "января" russianMonths.tail) text) :
    ∃ name ∈ russianMonths, library.casefold text = name.toList := by
  obtain ⟨r, member, inside⟩ := matches_anyOf.mp matched
  have named : ∃ name ∈ russianMonths, r = ignoringCase library name := by
    rcases List.mem_cons.mp member with rfl | other
    · exact ⟨"января", List.mem_cons_self, rfl⟩
    · obtain ⟨name, listed, rfl⟩ := List.mem_map.mp other
      exact ⟨name, List.mem_cons_of_mem _ listed, rfl⟩
  obtain ⟨name, listed, rfl⟩ := named
  have letters : List.Forall₂ (fun c d => (library.variants d).contains c = true) text
      name.toList := matches_chars inside
  refine ⟨name, listed, library.casefold_month name listed text ?_⟩
  exact letters.imp fun c d accepted => List.contains_iff_mem.mp accepted

/-- The month of a match is a month. -/
theorem month_of_search {value : String} {found : RussianDateMatch}
    (matched : searchRussianDate library value = some found) :
    ∃ name ∈ russianMonths, String.ofList (library.casefold found.month.toList) = name := by
  obtain ⟨position, first, rfl⟩ := Option.map_eq_some_iff.mp matched
  have always : Always (russianDatePattern library) "month" :=
    always_all ⟨.group "month" (choice library "января" russianMonths.tail), by simp, Or.inl rfl⟩
  obtain ⟨text, captured⟩ := group_of_search first always
  have inside := captures_of_search first captured
  have accepted : Matches (choice library "января" russianMonths.tail) text := by
    simp only [russianDatePattern, captures_all, List.mem_cons, List.not_mem_nil, or_false,
      exists_eq_or_imp, exists_eq_left] at inside
    rcases inside with none | day | none | month | year
    · exact none.elim
    · rcases day with ⟨same, -⟩ | none
      · simp at same
      · exact none.elim
    · exact none.elim
    · rcases month with ⟨-, accepted⟩ | none
      · exact accepted
      · exact (not_captures_choice none).elim
    · simp only [optional, Captures, captures_all, List.mem_cons, List.not_mem_nil, or_false,
        exists_eq_or_imp, exists_eq_left, spaces, someSpaces, not_captures_ignoringCase,
        not_captures_exactly, false_or, or_self] at year
      rcases year with ⟨same, -⟩ | none
      · simp at same
      · simp [year, captures_all, not_captures_exactly, digits, digit, Captures] at none
  obtain ⟨name, listed, folded⟩ := casefold_of_months accepted
  refine ⟨name, listed, ?_⟩
  simp only [captured, Option.getD_some, String.toList_ofList, folded, String.ofList_toList]

theorem extractDate_ok (value : List Char) (today : Date) :
    ∃ extracted, extractDate library value today = .ok extracted := by
  unfold extractDate
  split
  · unfold extractRussianDate
    split
    · exact ⟨_, rfl⟩
    · rename_i found matched
      obtain ⟨name, listed, folded⟩ := month_of_search matched
      have indexed : (russianMonths.idxOf? name).isSome := List.isSome_idxOf?.mpr listed
      split
      · rename_i missing
        have absent : russianMonths.idxOf? name = none := folded ▸ missing
        rw [absent] at indexed
        cases indexed
      · dsimp only
        split
        · exact ⟨_, rfl⟩
        · exact ⟨_, rfl⟩
  · dsimp only
    split
    · exact ⟨_, rfl⟩
    · exact ⟨_, rfl⟩

theorem decimal_digitChar (n : Nat) (small : n < 10) :
    (library.decimal (Nat.digitChar n)).getD 0 = n := by
  rw [library.decimal_ascii n small]
  rfl

theorem digit_lt {text : List Char} (matched : Matches (digit library) text) :
    ∃ c n, text = [c] ∧ (library.decimal c).getD 0 = n ∧ n < 10 := by
  obtain ⟨c, decimal, rfl⟩ := matched
  obtain ⟨n, value⟩ := Option.isSome_iff_exists.mp decimal
  exact ⟨c, n, rfl, by rw [value]; rfl, library.decimal_lt c n value⟩

/-- A character of a class of digits below a bound. -/
theorem class_lt (library : CharLibrary) (bound : Nat) {class' text : List Char}
    (small : ∀ c ∈ class', ∃ n, n < bound ∧ n < 10 ∧ c = Nat.digitChar n)
    (matched : Matches (.char (class'.contains ·)) text) :
    ∃ c, text = [c] ∧ (library.decimal c).getD 0 < bound := by
  obtain ⟨c, member, rfl⟩ := matched
  obtain ⟨n, less, ten, rfl⟩ := small c (List.contains_iff_mem.mp member)
  refine ⟨_, rfl, ?_⟩
  rw [decimal_digitChar n ten]
  exact less

theorem digits_below {bound : Nat} (small : bound ≤ 10) (c : Char)
    (member : c ∈ (List.range bound).map Nat.digitChar) :
    ∃ n, n < bound ∧ n < 10 ∧ c = Nat.digitChar n := by
  obtain ⟨n, less, rfl⟩ := List.mem_map.mp member
  have below := List.mem_range.mp less
  exact ⟨n, below, Nat.lt_of_lt_of_le below small, rfl⟩

theorem hour_le {text : List Char} (matched : Matches (hourPattern library) text) :
    intOf library text ≤ 23 := by
  rcases matched with ⟨x, y, rfl, ⟨parts, rfl, digits, -, most⟩, unit⟩ | ⟨x, y, rfl, ten, unit⟩
  · obtain ⟨d, n, rfl, value, less⟩ := digit_lt unit
    have few : parts.length ≤ 1 := most 1 rfl
    cases parts with
    | nil =>
        simp only [intOf, List.flatten_nil, List.nil_append, List.foldl_cons, List.foldl_nil, value]
        omega
    | cons part others =>
        obtain rfl : others = [] := List.length_eq_zero_iff.mp (by simpa using few)
        obtain ⟨c, rfl, tens⟩ := class_lt library 2 (digits_below (by decide))
          (digits part List.mem_cons_self)
        simp only [intOf, List.flatten_cons, List.flatten_nil, List.append_nil, List.singleton_append,
          List.foldl_cons, List.foldl_nil, value]
        omega
  · obtain ⟨c, chosen, rfl⟩ := ten
    obtain rfl : c = Nat.digitChar 2 := List.mem_singleton.mp (List.contains_iff_mem.mp chosen)
    obtain ⟨d, rfl, less⟩ := class_lt library 4 (digits_below (by decide)) unit
    simp only [intOf, List.singleton_append, List.foldl_cons, List.foldl_nil,
      decimal_digitChar 2 (by decide)]
    omega

theorem minute_le {text : List Char} (matched : Matches (minutePattern library) text) :
    intOf library text ≤ 59 := by
  obtain ⟨x, y, rfl, ten, unit⟩ := matched
  obtain ⟨d, n, rfl, value, less⟩ := digit_lt unit
  obtain ⟨c, rfl, tens⟩ := class_lt library 6 (digits_below (by decide)) ten
  simp only [intOf, List.singleton_append, List.foldl_cons, List.foldl_nil, value]
  omega

theorem clock_captures {word name : String} {others : List String} {text : List Char}
    (inside : Captures (Re.all [choice library word others, spaces, clockTime library]) name text) :
    Captures (clockTime library) name text := by
  obtain ⟨r, member, captured⟩ := captures_all.mp inside
  simp only [List.mem_cons, List.not_mem_nil, or_false] at member
  rcases member with rfl | rfl | rfl
  · exact absurd captured not_captures_choice
  · exact captured.elim
  · exact captured

/-- The groups of a time are its hour and its minute. -/
theorem captures_clock {name : String} {text : List Char}
    (inside : Captures (clockTime library) name text) :
    (name = "hour" ∧ Matches (hourPattern library) text) ∨
      (name = "minute" ∧ Matches (minutePattern library) text) := by
  obtain ⟨r, member, captured⟩ := captures_all.mp inside
  simp only [List.mem_cons, List.not_mem_nil, or_false] at member
  rcases member with rfl | rfl | rfl
  · rcases captured with hour | none
    · exact .inl hour
    · simp [hourPattern, optional, digit, Captures] at none
  · exact absurd captured not_captures_exactly
  · rcases captured with minute | none
    · exact .inr minute
    · simp [minutePattern, digit, Captures] at none

/-- The number of a group is bounded if the texts it accepts are. -/
theorem groupInt_le {pattern : Re} {before after : List Char} {found : List Char × Position}
    (first : Regex.search pattern before after = some found) {name : String} {bound : Nat}
    (small : ∀ text, Captures pattern name text → intOf library text ≤ bound) :
    groupInt library found.2 name ≤ bound := by
  unfold groupInt
  cases captured : found.2.group name with
  | none => exact Nat.zero_le _
  | some text => exact small text (captures_of_search first captured)

theorem extractTime_ok (word : String) (others : List String) (value : List Char) :
    ∃ time, extractTime library (Re.all [choice library word others, spaces, clockTime library])
      value = .ok time := by
  unfold extractTime
  split
  · exact ⟨_, rfl⟩
  · rename_i found first
    have hour : groupInt library found.2 "hour" ≤ 23 := by
      apply groupInt_le first
      intro text inside
      rcases captures_clock (clock_captures inside) with ⟨-, matched⟩ | ⟨same, -⟩
      · exact hour_le matched
      · simp at same
    have minute : groupInt library found.2 "minute" ≤ 59 := by
      apply groupInt_le first
      intro text inside
      rcases captures_clock (clock_captures inside) with ⟨same, -⟩ | ⟨-, matched⟩
      · simp at same
      · exact minute_le matched
    rw [timeOfDay, if_neg (Nat.not_lt_of_le hour), if_neg (Nat.not_lt_of_le minute)]
    exact ⟨_, rfl⟩

theorem extractQuantity_range {value : List Char} {quantity : Nat}
    (found : extractQuantity library value = some quantity) : 1 ≤ quantity ∧ quantity ≤ 100 := by
  unfold extractQuantity at found
  split at found
  · dsimp only at found
    split at found
    · rename_i range
      exact Option.some.inj found ▸ range
    · cases found
  · obtain ⟨entry, first, rfl⟩ := Option.map_eq_some_iff.mp found
    have small : wordQuantities.all (fun entry => 1 ≤ entry.2 && entry.2 ≤ 100) = true := by decide
    simpa using List.all_eq_true.mp small entry (List.mem_of_find?_eq_some first)

theorem extractUnquotedTitle_length (value : List Char) (patterns : List Re) :
    (extractUnquotedTitle value patterns).length ≤ 1 := by
  induction patterns with
  | nil => exact Nat.zero_le _
  | cons pattern rest ih =>
      rw [extractUnquotedTitle]
      split
      · exact ih
      · dsimp only
        split
        · exact ih
        · exact Nat.le_refl 1

theorem intentIssues_length (invalid : Bool) (earliest latest quantity : Option Nat) (count : Nat) :
    (intentIssues invalid earliest latest quantity count).length ≤ 3 := by
  unfold intentIssues
  simp only [List.length_append]
  split <;> split <;> split <;> decide

end

/-- The instruction without its date, as the route is read from it. -/
def withoutDate (library : CharLibrary) (instruction : List Char) (today : Date) : List Char :=
  match extractDate library instruction today with
  | .error _ => instruction
  | .ok extracted => extracted.instruction.toList

/-- At most twenty quoted terms, and places of at most two hundred characters. -/
structure FitsIntent (library : CharLibrary) (instruction : List Char) (today : Date) : Prop where
  terms : (quotedTerms instruction).length ≤ 20
  origin : ∀ place ∈ (extractRoute library (withoutDate library instruction today)).1,
    place.length ≤ 200
  destination : ∀ place ∈ (extractRoute library (withoutDate library instruction today)).2,
    place.length ≤ 200

/-- The issues are those of the times and of the quantity. -/
structure TellsIssues (intent : TaskIntent) (participantCount : Nat) : Prop where
  window : .invalidTimeWindow ∈ intent.issues ↔ ∃ earliest latest,
    intent.earliestTime = some earliest ∧ intent.latestTime = some latest ∧ latest < earliest
  quantity : .quantityMismatch ∈ intent.issues ↔ ∃ quantity,
    intent.requestedQuantity = some quantity ∧ quantity ≠ participantCount

theorem mem_intentIssues (invalid : Bool) (earliest latest quantity : Option Nat) (count : Nat) :
    (.invalidTimeWindow ∈ intentIssues invalid earliest latest quantity count ↔
      ∃ first last, earliest = some first ∧ latest = some last ∧ last < first) ∧
    (.quantityMismatch ∈ intentIssues invalid earliest latest quantity count ↔
      ∃ found, quantity = some found ∧ found ≠ count) := by
  have window : earliest.any (fun first => latest.any (· < first)) = true ↔
      ∃ first last, earliest = some first ∧ latest = some last ∧ last < first := by
    cases earliest with
    | none => simp
    | some first => cases latest <;> simp
  have mismatch : quantity.any (fun found => decide (found ≠ count)) = true ↔
      ∃ found, quantity = some found ∧ found ≠ count := by
    cases quantity <;> simp
  rw [← window, ← mismatch]
  unfold intentIssues
  constructor
  · split <;> split <;> split <;> simp_all
  · split <;> split <;> split <;> simp_all

section
variable {library : CharLibrary} {instruction : List Char} {participantCount : Nat} {today : Date}

/-- The extraction comes down to the checks of the intent. -/
theorem extractTaskIntent_eq : ∃ date invalid earliest latest,
    extractTaskIntent library instruction participantCount today =
      TaskIntent.create (extractRoute library (withoutDate library instruction today)).1
        (extractRoute library (withoutDate library instruction today)).2 date earliest latest
        (extractQuantity library instruction) participantCount
        (if quotedTerms instruction = [] then
          extractUnquotedTitle instruction (unquotedTitlePatterns library)
        else quotedTerms instruction)
        (intentIssues invalid earliest latest (extractQuantity library instruction)
          participantCount) := by
  obtain ⟨extracted, dated⟩ := @extractDate_ok library instruction today
  obtain ⟨earliest, after⟩ := @extractTime_ok library "после"
    ["не раньше", "after", "from"] instruction
  obtain ⟨latest, before⟩ := @extractTime_ok library "до"
    ["не позже", "before", "until"] instruction
  refine ⟨extracted.date, extracted.invalid, earliest, latest, ?_⟩
  unfold extractTaskIntent timeAfterPattern timeBeforePattern withoutDate
  simp only [dated, after, before, bind, Except.bind]

theorem searchTerms_length : (if quotedTerms instruction = [] then
      extractUnquotedTitle instruction (unquotedTitlePatterns library)
    else quotedTerms instruction).length ≤ 20 ↔ (quotedTerms instruction).length ≤ 20 := by
  split
  · rename_i none
    have one := extractUnquotedTitle_length instruction (unquotedTitlePatterns library)
    rw [none]
    simp only [List.length_nil, Nat.zero_le, iff_true]
    omega
  · exact Iff.rfl

theorem longPlace_iff {origin destination : Option (List Char)} :
    (origin.any (200 < ·.length) || destination.any (200 < ·.length)) = true ↔
      ¬ ((∀ place ∈ origin, place.length ≤ 200) ∧ ∀ place ∈ destination, place.length ≤ 200) := by
  have long (place : Option (List Char)) : place.any (200 < ·.length) = true ↔
      ¬ ∀ text ∈ place, text.length ≤ 200 := by
    cases place with
    | none => simp
    | some text => simp [Option.mem_def]
  rw [Bool.or_eq_true, long, long, not_and_or]

/-- The checks that an intent with these parts has to pass. -/
theorem create_ok_iff {origin destination : Option (List Char)} {date : Option Date}
    {earliest latest quantity : Option Nat} {terms : List (List Char)}
    {issues : List TaskIntentIssue} (counted : 1 ≤ participantCount ∧ participantCount ≤ 100)
    (range : ∀ found, quantity = some found → 1 ≤ found ∧ found ≤ 100) (few : issues.length ≤ 3) :
    (∃ intent, TaskIntent.create origin destination date earliest latest quantity participantCount
      terms issues = .ok intent) ↔
    terms.length ≤ 20 ∧ (∀ place ∈ origin, place.length ≤ 200) ∧
      ∀ place ∈ destination, place.length ≤ 200 := by
  have quantified : ¬ quantity.any (fun found => decide (found < 1) || decide (100 < found)) = true := by
    cases quantity with
    | none => exact Bool.false_ne_true
    | some found =>
        have := range found rfl
        simp only [Option.any_some, Bool.or_eq_true, decide_eq_true_eq]
        omega
  have counted' : ¬ (participantCount < 1 ∨ 100 < participantCount) := by omega
  have few' : ¬ 20 < issues.length := by omega
  unfold TaskIntent.create
  rw [if_neg quantified, if_neg counted', if_neg few']
  constructor
  · intro ⟨intent, ok⟩
    split at ok
    · cases ok
    · rename_i short
      split at ok
      · cases ok
      · rename_i terms
        exact ⟨Nat.le_of_not_lt terms, not_not.mp (mt longPlace_iff.mpr short)⟩
  · intro ⟨terms, places⟩
    rw [if_neg (mt longPlace_iff.mp (not_not.mpr places)), if_neg (Nat.not_lt_of_le terms)]
    exact ⟨_, rfl⟩

/-- An intent that passes the checks holds its parts. -/
theorem create_parts {origin destination : Option (List Char)} {date : Option Date}
    {earliest latest quantity : Option Nat} {terms : List (List Char)}
    {issues : List TaskIntentIssue} {intent : TaskIntent}
    (made : TaskIntent.create origin destination date earliest latest quantity participantCount
      terms issues = .ok intent) :
    intent.issues = issues ∧ intent.earliestTime = earliest ∧ intent.latestTime = latest ∧
      intent.requestedQuantity = quantity := by
  unfold TaskIntent.create at made
  split at made
  · cases made
  · split at made
    · cases made
    · split at made
      · cases made
      · split at made
        · cases made
        · split at made
          · cases made
          · obtain rfl := Except.ok.inj made
            exact ⟨rfl, rfl, rfl, rfl⟩

theorem extractTaskIntent_ok_iff (counted : 1 ≤ participantCount ∧ participantCount ≤ 100) :
    (∃ intent, extractTaskIntent library instruction participantCount today = .ok intent) ↔
      FitsIntent library instruction today := by
  obtain ⟨date, invalid, earliest, latest, same⟩ :=
    @extractTaskIntent_eq library instruction participantCount today
  rw [same, create_ok_iff counted (fun _ given => extractQuantity_range given)
    (intentIssues_length invalid earliest latest _ _), searchTerms_length]
  constructor
  · intro ⟨terms, origin, destination⟩
    exact ⟨terms, origin, destination⟩
  · intro fits
    exact ⟨fits.terms, fits.origin, fits.destination⟩

theorem extractTaskIntent_tells {intent : TaskIntent}
    (made : extractTaskIntent library instruction participantCount today = .ok intent) :
    TellsIssues intent participantCount := by
  obtain ⟨date, invalid, earliest, latest, same⟩ :=
    @extractTaskIntent_eq library instruction participantCount today
  obtain ⟨issues, first, last, quantity⟩ := create_parts (same ▸ made)
  have told := mem_intentIssues invalid earliest latest (extractQuantity library instruction)
    participantCount
  constructor
  · rw [issues, first, last]
    exact told.1
  · rw [issues, quantity]
    exact told.2

theorem planFromInstruction_ok_iff {tasks : TaskLibrary} {task : AgentTask} {now : Time} :
    (∃ preview, planFromInstruction library tasks task now = .ok preview) ↔
      (∃ intent, extractTaskIntent library task.instruction.toList task.personIds.length
        (Date.ofDays (now / 86400000000)) = .ok intent) ∧
      task.targetUrl.length ≤ 2048 ∧ task.UrlSplits tasks :=
  buildTaskPlan_ok_iff

end

section
variable (library : CharLibrary) (instruction : List Char) (participantCount : Nat) (today : Date)

/-- What an intent is made of fits it, or the extraction and the plan of the task raise. -/
theorem intent_extraction_total_iff (counted : 1 ≤ participantCount ∧ participantCount ≤ 100) :
    ((∃ intent, extractTaskIntent library instruction participantCount today = .ok intent ∧
      TellsIssues intent participantCount) ↔ FitsIntent library instruction today) ∧
    ∀ (tasks : TaskLibrary) (task : AgentTask) (now : Time),
      task.instruction.toList = instruction → task.personIds.length = participantCount →
      Date.ofDays (now / 86400000000) = today →
      ((∃ preview, planFromInstruction library tasks task now = .ok preview) ↔
        FitsIntent library instruction today ∧ task.targetUrl.length ≤ 2048 ∧
          task.UrlSplits tasks) := by
  have total := @extractTaskIntent_ok_iff library instruction participantCount today counted
  refine ⟨?_, ?_⟩
  · rw [← total]
    constructor
    · intro ⟨intent, made, _⟩
      exact ⟨intent, made⟩
    · intro ⟨intent, made⟩
      exact ⟨intent, made, extractTaskIntent_tells made⟩
  · rintro tasks task now rfl rfl rfl
    rw [planFromInstruction_ok_iff, total]

end

theorem decimal_plain_lt (c : Char) (n : Nat)
    (value : (if c.isDigit then some (c.toNat - 48) else none) = some n) : n < 10 := by
  split at value
  · rename_i digit
    obtain rfl := Option.some.inj value
    have ranges : (decide (c.val ≥ 48) && decide (c.val ≤ 57)) = true := digit
    simp only [Bool.and_eq_true, decide_eq_true_eq, UInt32.le_iff_toNat_le] at ranges
    have most : c.val.toNat ≤ 57 := ranges.2
    have code : c.toNat = c.val.toNat := rfl
    omega
  · cases value

theorem decimal_plain (n : Nat) (small : n < 10) :
    (if (Nat.digitChar n).isDigit then some ((Nat.digitChar n).toNat - 48) else none) = some n := by
  have all : (List.range 10).all fun n => (if (Nat.digitChar n).isDigit then
      some ((Nat.digitChar n).toNat - 48) else none) == some n := by decide
  exact eq_of_beq (List.all_eq_true.mp all n (List.mem_range.mpr small))

theorem casefold_plain (name : String) (_ : name ∈ russianMonths) (text : List Char)
    (letters : List.Forall₂ (fun c d => c ∈ [d]) text name.toList) : id text = name.toList := by
  have same : List.Forall₂ (· = ·) text name.toList :=
    letters.imp fun _ _ => List.mem_singleton.mp
  exact List.forall₂_eq_eq_eq ▸ same

/-- Characters without case, with the words and digits of ASCII. -/
def plainCharacters : CharLibrary where
  word c := c.isAlphanum || c = '_'
  decimal c := if c.isDigit then some (c.toNat - 48) else none
  variants c := [c]
  casefold := id
  decimal_lt := decimal_plain_lt
  decimal_ascii := decimal_plain
  casefold_month := casefold_plain

/-! An instruction with a term, a date and a time. -/

namespace TeaOrder

def instruction : List Char := "tea \"green\" 2.1.2030 after 9:00".toList

def undated : List Char := "tea \"green\"   after 9:00".toList

def task : AgentTask where
  id := ⟨1⟩
  instruction := String.ofList instruction
  targetUrl := "https://shop/"
  personIds := [⟨2⟩]
  createdAt := 0

theorem withoutDate_eq : withoutDate plainCharacters instruction ⟨1970, 1, 1⟩ = undated := by
  decide +kernel

theorem route : extractRoute plainCharacters undated = (none, none) := by decide +kernel

theorem fits : FitsIntent plainCharacters instruction ⟨1970, 1, 1⟩ where
  terms := by decide +kernel
  origin := by
    rw [withoutDate_eq, route]
    intro place none
    cases none
  destination := by
    rw [withoutDate_eq, route]
    intro place none
    cases none

end TeaOrder

theorem intent_extraction_total_iff_tea :
    (∃ intent, extractTaskIntent plainCharacters TeaOrder.instruction 1 ⟨1970, 1, 1⟩ = .ok intent ∧
      TellsIssues intent 1) ∧
    ∃ preview, planFromInstruction plainCharacters Sample.taskLibrary TeaOrder.task 0 = .ok preview := by
  have total := intent_extraction_total_iff plainCharacters TeaOrder.instruction 1 ⟨1970, 1, 1⟩
    (by decide)
  refine ⟨total.1.mpr TeaOrder.fits, ?_⟩
  exact (total.2 Sample.taskLibrary TeaOrder.task 0 String.toList_ofList rfl (by decide)).mpr
    ⟨TeaOrder.fits, by decide, fun _ => ⟨_, rfl, fun _ => ⟨_, rfl⟩⟩⟩

def quotedLetters : List Char :=
  (List.replicate 21 [Char.ofNat 39, 'a', Char.ofNat 39]).flatten

theorem quotedLetters_terms : (quotedTerms quotedLetters).length = 21 := by decide +kernel

/-- More quoted terms than an intent holds make the extraction raise. -/
theorem many_terms_raise : quotedLetters.length ≤ 4000 ∧
    ¬ ∃ intent, extractTaskIntent plainCharacters quotedLetters 1 ⟨1970, 1, 1⟩ = .ok intent := by
  refine ⟨by decide, ?_⟩
  intro extracted
  have fits := (extractTaskIntent_ok_iff (by decide)).mp extracted
  have few := fits.terms
  rw [quotedLetters_terms] at few
  omega

end PurchaseAgent
