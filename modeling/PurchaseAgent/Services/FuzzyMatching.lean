import Mathlib.Order.Lattice
import PurchaseAgent.Domain.AgentTask

/-!
How close a term is to a text: by the words that they share, by the words that resemble
each other, and by their characters.
-/

namespace PurchaseAgent

/-- The scores of the matching, which are floating point numbers, as far as it computes
with them, and what it takes from the standard library. -/
structure FuzzyText (Score : Type) [LinearOrder Score] where
  casefold : String → String
  isWord : Char → Bool
  zero : Score
  one : Score
  /-- `0.94`. -/
  allShared : Score
  /-- `0.78`. -/
  resembling : Score
  /-- `SequenceMatcher(None, a, b).ratio()`. -/
  ratio : String → String → Score
  /-- `shared / count * 0.88`. -/
  overlap : Nat → Nat → Score
  /-- `resembling / count * 0.9`. -/
  morphologicalOverlap : Nat → Nat → Score
  zero_le_one : zero ≤ one
  allShared_unit : zero ≤ allShared ∧ allShared ≤ one
  ratio_unit : ∀ a b, zero ≤ ratio a b ∧ ratio a b ≤ one
  overlap_unit : ∀ shared count, shared ≤ count → zero ≤ overlap shared count ∧
    overlap shared count ≤ one
  morphologicalOverlap_unit : ∀ resembling count, resembling ≤ count →
    zero ≤ morphologicalOverlap resembling count ∧ morphologicalOverlap resembling count ≤ one

namespace FuzzyText
variable {Score : Type} [LinearOrder Score] (matching : FuzzyText Score)

def normalizeFuzzyText (value : String) : String :=
  let folded := (matching.casefold value).toList.map fun c => if c = 'ё' then 'е' else c
  " ".intercalate (((folded.splitOnP fun c => ! matching.isWord c).filter fun word =>
    word ≠ []).map String.ofList)

/-- `text.split()`. -/
def words (text : String) : List String :=
  ((text.toList.splitOnP isSpace).filter fun word => word ≠ []).map String.ofList

/-- The best ratio of a word with the words of the candidate is high enough. -/
def resembles (candidateTokens : List String) (word : String) : Bool :=
  candidateTokens.any fun token => matching.resembling ≤ matching.ratio word token

def fuzzyTextScore (query candidate : String) : Score :=
  let normalizedQuery := matching.normalizeFuzzyText query
  let normalizedCandidate := matching.normalizeFuzzyText candidate
  if normalizedQuery = "" ∨ normalizedCandidate = "" then matching.zero
  else if normalizedQuery = normalizedCandidate then matching.one
  else
    let queryTokens := (words normalizedQuery).eraseDups
    let candidateTokens := (words normalizedCandidate).eraseDups
    if ∀ token ∈ queryTokens, token ∈ candidateTokens then matching.allShared
    else
      let shared := queryTokens.countP fun token => token ∈ candidateTokens
      let alike := queryTokens.countP (matching.resembles candidateTokens)
      max (max (matching.overlap shared queryTokens.length)
        (matching.morphologicalOverlap alike queryTokens.length))
        (matching.ratio normalizedQuery normalizedCandidate)

theorem fuzzyTextScore_unit (query candidate : String) :
    matching.zero ≤ matching.fuzzyTextScore query candidate ∧
      matching.fuzzyTextScore query candidate ≤ matching.one := by
  simp only [fuzzyTextScore]
  split
  · exact ⟨le_rfl, matching.zero_le_one⟩
  · split
    · exact ⟨matching.zero_le_one, le_rfl⟩
    · split
      · exact matching.allShared_unit
      · constructor
        · exact ((matching.overlap_unit _ _ List.countP_le_length).1.trans (le_max_left _ _)).trans
            (le_max_left _ _)
        · exact max_le (max_le (matching.overlap_unit _ _ List.countP_le_length).2
            (matching.morphologicalOverlap_unit _ _ List.countP_le_length).2)
            (matching.ratio_unit _ _).2

end FuzzyText
end PurchaseAgent
