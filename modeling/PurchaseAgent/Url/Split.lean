import Mathlib.Data.List.TakeWhile

/-!
`urllib.parse.urlsplit` and `urlunsplit` on texts as lists of characters, and what
splitting makes of a URL that was put together from its parts.
-/

namespace Url

/-- The text up to the first `c`, and what follows it. -/
def partition (c : Char) (text : List Char) : List Char × List Char :=
  (text.takeWhile (· != c), (text.dropWhile (· != c)).drop 1)

structure SplitResult where
  scheme : List Char
  netloc : List Char
  path : List Char
  query : List Char
  fragment : List Char
deriving DecidableEq, Repr

/-- `_WHATWG_C0_CONTROL_OR_SPACE`. -/
def isC0OrSpace (c : Char) : Bool := c.toNat ≤ 32

/-- `_UNSAFE_URL_BYTES_TO_REMOVE`. -/
def isUnsafe (c : Char) : Bool := c == '\t' || c == '\r' || c == '\n'

/-- `scheme_chars`. -/
def isSchemeChar (c : Char) : Bool := c.isAlphanum || c == '+' || c == '-' || c == '.'

def isNetlocEnd (c : Char) : Bool := c == '/' || c == '?' || c == '#'

def splitScheme (url : List Char) : List Char × List Char :=
  let name := url.takeWhile (· != ':')
  if name.length < url.length && name.head?.any Char.isAlpha && name.all isSchemeChar then
    (name.map Char.toLower, url.drop (name.length + 1))
  else ([], url)

/-- `_splitnetloc`, behind two slashes. -/
def splitNetloc : List Char → List Char × List Char
  | '/' :: '/' :: rest =>
    (rest.takeWhile (! isNetlocEnd ·), rest.dropWhile (! isNetlocEnd ·))
  | rest => ([], rest)

/-- The components of `urlsplit(url)`, before the network location is checked. -/
def components (url : List Char) : SplitResult :=
  let (scheme, rest) := splitScheme ((url.dropWhile isC0OrSpace).filter (! isUnsafe ·))
  let (netloc, rest) := splitNetloc rest
  let (hierarchy, fragment) := partition '#' rest
  let (path, query) := partition '?' hierarchy
  ⟨scheme, netloc, path, query, fragment⟩

/-- `url.rpartition("@")[2]`. -/
def hostPart (netloc : List Char) : List Char := (netloc.reverse.takeWhile (· != '@')).reverse

/-- `_hostinfo`: the host as it is written, and the text of the port. -/
def hostinfo (netloc : List Char) : List Char × List Char :=
  if '[' ∈ hostPart netloc then
    let bracketed := (partition '[' (hostPart netloc)).2
    ((partition ']' bracketed).1, (partition ':' (partition ']' bracketed).2).2)
  else partition ':' (hostPart netloc)

def queryPart (query : List Char) : List Char := if query = [] then [] else '?' :: query

/-- A URL from its scheme, its network location and what follows them. -/
def address (scheme netloc rest : List Char) : List Char :=
  scheme ++ ':' :: '/' :: '/' :: (netloc ++ rest)

/-- `urlunsplit` of a rooted path, without a fragment. -/
def unsplit (scheme netloc path query : List Char) : List Char :=
  address scheme netloc (path ++ queryPart query)

theorem partition_of_not_mem {c : Char} {text : List Char} (absent : c ∉ text) :
    partition c text = (text, []) := by
  have all : ∀ d ∈ text, (d != c) = true := by
    intro d member
    exact bne_iff_ne.mpr fun same => absent (same ▸ member)
  rw [partition, List.takeWhile_eq_self_iff.mpr all, List.dropWhile_eq_nil_iff.mpr all, List.drop_nil]

theorem partition_append {c : Char} {before : List Char} (absent : c ∉ before) (after : List Char) :
    partition c (before ++ c :: after) = (before, after) := by
  have all : ∀ d ∈ before, (d != c) = true := by
    intro d member
    exact bne_iff_ne.mpr fun same => absent (same ▸ member)
  rw [partition, List.takeWhile_append_of_pos all, List.dropWhile_append_of_pos all,
    List.takeWhile_cons_of_neg (by simp), List.dropWhile_cons_of_neg (by simp), List.append_nil]
  rfl

theorem not_mem_partition (c : Char) (text : List Char) : c ∉ (partition c text).1 := by
  intro member
  have kept := List.mem_takeWhile_imp member
  simp at kept

theorem partition_fst_subset {c : Char} {text : List Char} : (partition c text).1 ⊆ text :=
  (List.takeWhile_prefix _).subset

theorem partition_snd_subset {c : Char} {text : List Char} : (partition c text).2 ⊆ text :=
  ((List.drop_sublist 1 _).trans (List.dropWhile_suffix _).sublist).subset

/-- A text is its parts, with the separator between them if there is one. -/
theorem partition_split (c : Char) (text : List Char) :
    (c ∉ text ∧ partition c text = (text, [])) ∨
      text = (partition c text).1 ++ c :: (partition c text).2 := by
  by_cases found : c ∈ text
  · obtain ⟨before, after, rfl, absent⟩ := List.eq_append_cons_of_mem found
    right
    rw [partition_append absent]
  · exact .inl ⟨found, partition_of_not_mem found⟩

section Render
variable {scheme netloc path query : List Char}

theorem hostPart_of_not_mem (absent : '@' ∉ netloc) : hostPart netloc = netloc := by
  have all : ∀ d ∈ netloc.reverse, (d != '@') = true := by
    intro d member
    exact bne_iff_ne.mpr fun same => absent (same ▸ List.mem_reverse.mp member)
  rw [hostPart, List.takeWhile_eq_self_iff.mpr all, List.reverse_reverse]

theorem splitScheme_append (alpha : scheme.head?.any Char.isAlpha = true)
    (chars : ∀ c ∈ scheme, isSchemeChar c = true) (lower : scheme.map Char.toLower = scheme)
    (colon : ':' ∉ scheme) (rest : List Char) :
    splitScheme (scheme ++ ':' :: rest) = (scheme, rest) := by
  have name : (scheme ++ ':' :: rest).takeWhile (· != ':') = scheme :=
    congrArg Prod.fst (partition_append colon rest)
  have shorter : scheme.length < (scheme ++ ':' :: rest).length := by
    simp
  rw [splitScheme, name]
  simp only [alpha, decide_eq_true shorter, List.all_eq_true.mpr chars, Bool.and_self, if_true,
    lower]
  rw [← List.drop_drop, List.drop_left]
  rfl

theorem splitNetloc_append (clean : ∀ c ∈ netloc, isNetlocEnd c = false)
    {rest : List Char} (ends : rest.head?.all isNetlocEnd = true) :
    splitNetloc ('/' :: '/' :: (netloc ++ rest)) = (netloc, rest) := by
  have all : ∀ c ∈ netloc, (! isNetlocEnd c) = true := by
    intro c member
    rw [clean c member]
    rfl
  rw [splitNetloc, List.takeWhile_append_of_pos all, List.dropWhile_append_of_pos all]
  cases rest with
  | nil => simp
  | cons c rest =>
      have stop : isNetlocEnd c = true := ends
      rw [List.takeWhile_cons_of_neg (by simp [stop]), List.dropWhile_cons_of_neg (by simp [stop]),
        List.append_nil]

/-- The parts of a URL that can be put together and split again. -/
structure Parts (scheme netloc rest : List Char) : Prop where
  scheme_alpha : scheme.head?.any Char.isAlpha = true
  scheme_chars : ∀ c ∈ scheme, isSchemeChar c = true
  scheme_lower : scheme.map Char.toLower = scheme
  netloc_clean : ∀ c ∈ netloc, isNetlocEnd c = false
  rooted : rest.head? = some '/'
  unfragmented : '#' ∉ rest
  safe : ∀ c ∈ scheme ++ netloc ++ rest, isUnsafe c = false

theorem alpha_ne {c : Char} (alpha : c.isAlpha = true) : isC0OrSpace c = false := by
  rw [isC0OrSpace, decide_eq_false_iff_not]
  intro low
  have ranges : (decide (c.val ≥ 65 ∧ c.val ≤ 90) ||
    (decide (c.val ≥ 97) && decide (c.val ≤ 122))) = true := alpha
  simp only [Bool.or_eq_true, Bool.and_eq_true, decide_eq_true_eq, ge_iff_le,
    UInt32.le_iff_toNat_le] at ranges
  have value : c.toNat = c.val.toNat := rfl
  rw [value] at low
  rcases ranges with ⟨upper, -⟩ | ⟨lower, -⟩
  · have least : (65 : Nat) ≤ c.val.toNat := upper
    omega
  · have least : (97 : Nat) ≤ c.val.toNat := lower
    omega

/-- Splitting undoes putting together. -/
theorem components_address {rest : List Char} (parts : Parts scheme netloc rest) :
    components (address scheme netloc rest) =
      ⟨scheme, netloc, (partition '?' rest).1, (partition '?' rest).2, []⟩ := by
  have colon : ':' ∉ scheme := by
    intro member
    have char := parts.scheme_chars _ member
    revert char
    decide
  have front : (address scheme netloc rest).dropWhile isC0OrSpace = address scheme netloc rest := by
    cases start : scheme with
    | nil =>
        have alpha := parts.scheme_alpha
        rw [start] at alpha
        cases alpha
    | cons c others =>
        have alpha := parts.scheme_alpha
        rw [start] at alpha
        exact List.dropWhile_cons_of_neg (by rw [alpha_ne alpha]; exact Bool.false_ne_true)
  have kept : (address scheme netloc rest).filter (! isUnsafe ·) = address scheme netloc rest := by
    apply List.filter_eq_self.mpr
    intro c member
    have safe : isUnsafe c = false := by
      by_cases written : c ∈ scheme ++ netloc ++ rest
      · exact parts.safe c written
      · simp only [List.mem_append, not_or] at written
        simp only [address, List.mem_append, List.mem_cons, written, false_or, or_false] at member
        rcases member with rfl | rfl | rfl <;> rfl
    rw [safe]
    rfl
  have ends : rest.head?.all isNetlocEnd = true := by
    rw [parts.rooted]
    rfl
  rw [components, front, kept, address, splitScheme_append parts.scheme_alpha parts.scheme_chars
    parts.scheme_lower colon]
  simp only [splitNetloc_append parts.netloc_clean ends, partition_of_not_mem parts.unfragmented]

theorem partition_path (clean : '?' ∉ path) (query : List Char) :
    partition '?' (path ++ queryPart query) = (path, query) := by
  by_cases empty : query = []
  · rw [queryPart, if_pos empty, List.append_nil, partition_of_not_mem clean, empty]
  · rw [queryPart, if_neg empty, partition_append clean]

theorem components_unsplit (parts : Parts scheme netloc (path ++ queryPart query))
    (clean : '?' ∉ path) :
    components (unsplit scheme netloc path query) = ⟨scheme, netloc, path, query, []⟩ := by
  rw [unsplit, components_address parts, partition_path clean]

end Render

section Components
variable {url : List Char}

theorem splitScheme_subset (url : List Char) : (splitScheme url).2 ⊆ url := by
  unfold splitScheme
  dsimp only
  split
  · exact (List.drop_sublist _ _).subset
  · exact fun _ member => member

theorem splitNetloc_cases (rest : List Char) :
    splitNetloc rest = ([], rest) ∨ ∃ behind, rest = '/' :: '/' :: behind ∧
      splitNetloc rest = (behind.takeWhile (! isNetlocEnd ·), behind.dropWhile (! isNetlocEnd ·)) := by
  unfold splitNetloc
  split
  · exact .inr ⟨_, rfl, rfl⟩
  · exact .inl rfl

/-- The characters that splitting takes out of a URL, and where the parts may not hold
their separators. -/
structure Split (parsed : SplitResult) : Prop where
  netloc_clean : ∀ c ∈ parsed.netloc, isNetlocEnd c = false
  path_clean : '?' ∉ parsed.path ∧ '#' ∉ parsed.path
  query_clean : '#' ∉ parsed.query
  safe : ∀ c ∈ parsed.netloc ++ parsed.path ++ parsed.query, isUnsafe c = false
  rooted : parsed.netloc ≠ [] → parsed.path = [] ∨ parsed.path.head? = some '/'

theorem split_components (url : List Char) : Split (components url) := by
  have clean : ∀ c ∈ (url.dropWhile isC0OrSpace).filter (! isUnsafe ·), isUnsafe c = false := by
    intro c member
    simpa using (List.mem_filter.mp member).2
  unfold components
  dsimp only
  generalize (url.dropWhile isC0OrSpace).filter (! isUnsafe ·) = text at clean
  have behind := splitScheme_subset text
  generalize (splitScheme text).1 = scheme
  generalize (splitScheme text).2 = rest at behind
  have inText : ∀ c ∈ rest, isUnsafe c = false := fun c member => clean c (behind member)
  have hierarchy : '#' ∉ (partition '#' (splitNetloc rest).2).1 := not_mem_partition _ _
  have tail : (splitNetloc rest).2 ⊆ rest := by
    obtain same | ⟨after, rfl, same⟩ := splitNetloc_cases rest
    · rw [same]
      exact fun _ member => member
    · rw [same]
      intro c member
      exact List.mem_cons_of_mem _ (List.mem_cons_of_mem _ ((List.dropWhile_suffix _).subset member))
  constructor
  · intro c member
    obtain same | ⟨after, rfl, same⟩ := splitNetloc_cases rest
    · rw [same] at member
      cases member
    · rw [same] at member
      simpa using List.mem_takeWhile_imp member
  · refine ⟨not_mem_partition _ _, ?_⟩
    intro member
    exact hierarchy (partition_fst_subset member)
  · intro member
    exact hierarchy (partition_snd_subset member)
  · intro c member
    rw [List.mem_append, List.mem_append] at member
    rcases member with (inNetloc | inPath) | inQuery
    · obtain same | ⟨after, rfl, same⟩ := splitNetloc_cases rest
      · rw [same] at inNetloc
        cases inNetloc
      · rw [same] at inNetloc
        exact inText c (List.mem_cons_of_mem _ (List.mem_cons_of_mem _
          ((List.takeWhile_prefix _).subset inNetloc)))
    · exact inText c (tail (partition_fst_subset (partition_fst_subset inPath)))
    · exact inText c (tail (partition_fst_subset (partition_snd_subset inQuery)))
  · intro located
    obtain same | ⟨after, rfl, same⟩ := splitNetloc_cases rest
    · rw [same] at located
      exact absurd rfl located
    · rw [same]
      dsimp only
      cases remaining : after.dropWhile (! isNetlocEnd ·) with
      | nil => exact .inl rfl
      | cons c others =>
          have stop : isNetlocEnd c = true := by
            have first := List.head?_dropWhile_not (! isNetlocEnd ·) after
            rw [remaining] at first
            simpa using first
          simp only [isNetlocEnd, Bool.or_eq_true, beq_iff_eq] at stop
          rcases stop with (rfl | rfl) | rfl
          · exact .inr rfl
          · exact .inl rfl
          · exact .inl rfl

end Components
end Url
