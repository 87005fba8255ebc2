import PurchaseAgent.Collections.StableSort
import PurchaseAgent.Domain.Mission

/-!
Scoring of provider options against the constraints of a mission. Only the
compartment and the toilet constraints produce violations; price, lower berths
and the number of seats move the score.
-/

namespace PurchaseAgent

structure ScoredOption where
  option : ProviderOption
  score : Int
  reasons : List String
  violations : List String
deriving DecidableEq

namespace ProviderOption

/-- The set of compartments the seats are in. -/
def compartments (option : ProviderOption) : List (Int × Int) :=
  (option.seats.map fun seat => (seat.carriageNumber, seat.compartmentNumber)).dedup

def isSameCompartment (option : ProviderOption) : Bool :=
  option.compartments.length = 1

def isAdjacentCompartments (option : ProviderOption) : Bool :=
  match Collections.sortedBy toLex option.compartments with
  | [first, second] => first.1 = second.1 ∧ (first.2 - second.2).natAbs = 1
  | _ => false

def countLowerBerths (option : ProviderOption) : Nat :=
  option.seats.countP (·.berth = .lower)

def hasNearToiletSeat (option : ProviderOption) : Bool :=
  option.seats.any (·.nearToilet)

end ProviderOption

/-- Score, reason and violation one constraint contributes. -/
structure Contribution where
  score : Int := 0
  reasons : List String := []
  violations : List String := []

def Contribution.reason (score : Int) (reason : String) : Contribution :=
  { score := score, reasons := [reason] }

def Contribution.violation (score : Int) (violation : String) : Contribution :=
  { score := score, violations := [violation] }

/-- The contributions of `_evaluate_train_option`, in its order. -/
def trainOptionContributions (option : ProviderOption) (mission : Mission) :
    List Contribution :=
  let constraints := mission.constraints
  [ if option.isSameCompartment then .reason 40 "All seats are in the same compartment" else {},
    if constraints.mustBeSameCompartment = some true ∧ option.isSameCompartment = false then
      if mission.fallbackRules.allowAdjacentCompartments = some true ∧
          option.isAdjacentCompartments then
        .reason 20 "Seats are in adjacent compartments"
      else
        .violation 0 "Seats are not in the same compartment"
    else {},
    match constraints.minLowerBerths with
    | some minimum =>
      if minimum ≤ option.countLowerBerths then
        .reason 20 "Required lower berths count is satisfied"
      else {}
    | none => {},
    match constraints.maxTotalPrice with
    | some maximum =>
      if option.totalPrice ≤ maximum then .reason 20 "Option is within budget" else {}
    | none => {},
    if constraints.avoidToilet = some true ∧ option.hasNearToiletSeat then
      .violation (-30) "At least one seat is near toilet"
    else {},
    if (option.seats.length : Int) = constraints.passengersCount then
      .reason 20 "Passenger count matches seats count"
    else {} ]

def evaluateTrainOption (mission : Mission) (option : ProviderOption) : ScoredOption :=
  let contributions := trainOptionContributions option mission
  { option := option
    score := max 0 (min (contributions.foldl (fun score c => score + c.score) 0) 100)
    reasons := contributions.flatMap (·.reasons)
    violations := contributions.flatMap (·.violations) }

/-- The sort key: options without violations first, then by falling score. -/
def ScoredOption.rank (scored : ScoredOption) : Bool ×ₗ Int :=
  toLex (!scored.violations.isEmpty, -scored.score)

def evaluateTrainOptions (options : List ProviderOption) (mission : Mission) :
    List ScoredOption :=
  Collections.sortedBy ScoredOption.rank (options.map (evaluateTrainOption mission))

/-- The first option without violations. -/
def selectBest (options : List ProviderOption) (mission : Mission) : Option ScoredOption :=
  (evaluateTrainOptions options mission).find? (·.violations.isEmpty)

/-- The constraints that can rule an option out. -/
structure Acceptable (mission : Mission) (option : ProviderOption) : Prop where
  awayFromToilet :
    mission.constraints.avoidToilet = some true → ∀ seat ∈ option.seats, seat.nearToilet = false
  together : mission.constraints.mustBeSameCompartment = some true →
    option.isSameCompartment = true ∨
      (mission.fallbackRules.allowAdjacentCompartments = some true ∧
        option.isAdjacentCompartments = true)

theorem violations_eq_nil_iff (mission : Mission) (option : ProviderOption) :
    (evaluateTrainOption mission option).violations = [] ↔ Acceptable mission option := by
  have toilet : (∀ seat ∈ option.seats, seat.nearToilet = false) ↔
      option.hasNearToiletSeat = false := by
    simp [ProviderOption.hasNearToiletSeat]
  have shape : Acceptable mission option ↔
      (mission.constraints.avoidToilet = some true → option.hasNearToiletSeat = false) ∧
      (mission.constraints.mustBeSameCompartment = some true →
        option.isSameCompartment = true ∨
          (mission.fallbackRules.allowAdjacentCompartments = some true ∧
            option.isAdjacentCompartments = true)) :=
    ⟨fun h => ⟨fun avoid => toilet.mp (h.awayFromToilet avoid), h.together⟩,
      fun h => ⟨fun avoid => toilet.mpr (h.1 avoid), h.2⟩⟩
  rw [shape]
  simp only [evaluateTrainOption, trainOptionContributions, List.flatMap_cons, List.flatMap_nil,
    List.append_eq_nil_iff]
  have budget : ∀ c : Prop, ∀ [Decidable c], ∀ n : Int, ∀ text : String,
      (if c then Contribution.reason n text else {}).violations = [] := fun c _ n text => by
    split <;> rfl
  have berths : (match mission.constraints.minLowerBerths with
      | some minimum => if minimum ≤ option.countLowerBerths then
          Contribution.reason 20 "Required lower berths count is satisfied" else {}
      | none => {}).violations = [] := by
    split
    · exact budget _ _ _
    · rfl
  have price : (match mission.constraints.maxTotalPrice with
      | some maximum => if option.totalPrice ≤ maximum then
          Contribution.reason 20 "Option is within budget" else {}
      | none => {}).violations = [] := by
    split
    · exact budget _ _ _
    · rfl
  simp only [budget, berths, price, true_and, and_true]
  cases option.isSameCompartment <;> cases option.isAdjacentCompartments <;>
    cases option.hasNearToiletSeat <;>
    by_cases h₁ : mission.constraints.mustBeSameCompartment = some true <;>
    by_cases h₂ : mission.fallbackRules.allowAdjacentCompartments = some true <;>
    by_cases h₃ : mission.constraints.avoidToilet = some true <;>
    simp [h₁, h₂, h₃, Contribution.reason, Contribution.violation]

/-- Only the constraints and the fallback rules of the mission matter. -/
theorem Acceptable.of_same_rules {mission mission' : Mission} {option : ProviderOption}
    (h : Acceptable mission option) (constraints : mission'.constraints = mission.constraints)
    (fallbackRules : mission'.fallbackRules = mission.fallbackRules) :
    Acceptable mission' option where
  awayFromToilet avoid := h.awayFromToilet (constraints ▸ avoid)
  together same := by
    rw [fallbackRules]
    exact h.together (constraints ▸ same)

theorem evaluateTrainOption_of_same_rules {mission mission' : Mission}
    (constraints : mission'.constraints = mission.constraints)
    (fallbackRules : mission'.fallbackRules = mission.fallbackRules) :
    evaluateTrainOption mission' = evaluateTrainOption mission := by
  funext option
  simp only [evaluateTrainOption, trainOptionContributions, constraints, fallbackRules]

theorem selectBest_of_same_rules {mission mission' : Mission}
    (constraints : mission'.constraints = mission.constraints)
    (fallbackRules : mission'.fallbackRules = mission.fallbackRules)
    (options : List ProviderOption) : selectBest options mission' = selectBest options mission := by
  simp only [selectBest, evaluateTrainOptions,
    evaluateTrainOption_of_same_rules constraints fallbackRules]

/-- The option was offered, is acceptable, and scores at least as much as
everything acceptable that was offered. -/
structure Best (options : List ProviderOption) (mission : Mission) (option : ProviderOption) :
    Prop where
  offered : option ∈ options
  acceptable : Acceptable mission option
  highest : ∀ other ∈ options, Acceptable mission other →
    (evaluateTrainOption mission other).score ≤ (evaluateTrainOption mission option).score

theorem Best.of_same_rules {options : List ProviderOption} {mission mission' : Mission}
    {option : ProviderOption} (h : Best options mission option)
    (constraints : mission'.constraints = mission.constraints)
    (fallbackRules : mission'.fallbackRules = mission.fallbackRules) :
    Best options mission' option := by
  refine ⟨h.offered, h.acceptable.of_same_rules constraints fallbackRules,
    fun other among ok => ?_⟩
  rw [evaluateTrainOption_of_same_rules constraints fallbackRules]
  exact h.highest other among (ok.of_same_rules constraints.symm fallbackRules.symm)

theorem selectBest_some {options : List ProviderOption} {mission : Mission} {best : ScoredOption}
    (h : selectBest options mission = some best) : Best options mission best.option := by
  have member := List.mem_of_find?_eq_some h
  rw [evaluateTrainOptions, Collections.mem_sortedBy, List.mem_map] at member
  obtain ⟨option, offered, rfl⟩ := member
  have clean : (evaluateTrainOption mission option).violations = [] := by
    simpa using List.find?_some h
  refine ⟨offered, (violations_eq_nil_iff mission option).mp clean, ?_⟩
  intro other among acceptable
  change (evaluateTrainOption mission other).score ≤ (evaluateTrainOption mission option).score
  have otherClean := (violations_eq_nil_iff mission other).mpr acceptable
  have least := Collections.find_sortedBy_le _ _ h _
    (List.mem_map_of_mem among) (by simp [otherClean])
  simpa [ScoredOption.rank, clean, otherClean, Prod.Lex.toLex_le_toLex] using least

end PurchaseAgent
