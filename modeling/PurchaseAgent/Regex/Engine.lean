import Mathlib.Data.List.Basic

/-!
Regular expressions as a backtracking engine matches them: the ways to match a text,
in the order in which they are tried, with the groups they capture. What a way
consumes and captures is read off the expression.
-/

namespace Regex

inductive Re where
  | char (accepts : Char → Bool)
  | empty
  | seq (first second : Re)
  | alt (first second : Re)
  | rep (reluctant : Bool) (least : Nat) (most : Option Nat) (body : Re)
  | group (name : String) (body : Re)
  /-- A condition on the text before the position, latest first, and on the text behind it. -/
  | assertion (holds : List Char → List Char → Bool)
  | ahead (body : Re)
  | notAhead (body : Re)

/-- The sequence of expressions. -/
def Re.all : List Re → Re
  | [] => .empty
  | r :: rest => .seq r (Re.all rest)

/-- The alternatives, the first of them preferred. -/
def Re.anyOf (r : Re) : List Re → Re
  | [] => r
  | other :: rest => .alt r (Re.anyOf other rest)

/-- A position in a text, with what was captured up to it. -/
structure Position where
  before : List Char
  after : List Char
  groups : List (String × List Char)

/-- Repetition, at least `least` and at most the given number of times. -/
def repeated (match? : Position → List Position) (reluctant : Bool) :
    Nat → Nat → Position → List Position
  | _, 0, position => [position]
  | least, most + 1, position =>
    let further := (match? position).flatMap (repeated match? reluctant (least - 1) most)
    if 0 < least then further
    else if reluctant then position :: further
    else further ++ [position]

/-- The text between two positions. -/
def consumed (start finish : Position) : List Char :=
  start.after.take (start.after.length - finish.after.length)

/-- The positions after a match, in the order of preference. -/
def run : Re → Position → List Position
  | .char accepts, position =>
    match position.after with
    | [] => []
    | c :: rest => if accepts c then [⟨c :: position.before, rest, position.groups⟩] else []
  | .empty, position => [position]
  | .seq first second, position => (run first position).flatMap (run second)
  | .alt first second, position => run first position ++ run second position
  | .rep reluctant least most body, position =>
    repeated (run body) reluctant least (max least (most.getD (least + position.after.length)))
      position
  | .group name body, position => (run body position).map fun finish =>
      { finish with groups := (name, consumed position finish) :: finish.groups }
  | .assertion holds, position =>
    if holds position.before position.after then [position] else []
  | .ahead body, position =>
    ((run body position).take 1).map fun finish => { position with groups := finish.groups }
  | .notAhead body, position => if (run body position).isEmpty then [position] else []

/-- The texts an expression consumes. -/
def Matches : Re → List Char → Prop
  | .char accepts, text => ∃ c, accepts c = true ∧ text = [c]
  | .seq first second, text => ∃ x y, text = x ++ y ∧ Matches first x ∧ Matches second y
  | .alt first second, text => Matches first text ∨ Matches second text
  | .rep _ least most body, text => ∃ parts : List (List Char), text = parts.flatten ∧
      (∀ part ∈ parts, Matches body part) ∧ least ≤ parts.length ∧
        ∀ bound ∈ most, parts.length ≤ max least bound
  | .group _ body, text => Matches body text
  | .empty, text | .assertion _, text | .ahead _, text | .notAhead _, text => text = []

/-- What the groups of an expression capture. -/
def Captures : Re → String → List Char → Prop
  | .seq first second, name, text | .alt first second, name, text =>
    Captures first name text ∨ Captures second name text
  | .group name' body, name, text => name = name' ∧ Matches body text ∨ Captures body name text
  | .rep _ _ _ body, name, text | .ahead body, name, text => Captures body name text
  | .char _, _, _ | .empty, _, _ | .assertion _, _, _ | .notAhead _, _, _ => False

theorem consumed_eq {start finish : Position} {text : List Char}
    (split : start.after = text ++ finish.after) : consumed start finish = text := by
  rw [consumed, split, List.length_append, Nat.add_sub_cancel, List.take_left]

theorem repeated_sound {match? : Position → List Position} {reluctant : Bool}
    {accepts : List Char → Prop} {captures : String → List Char → Prop}
    (sound : ∀ start, ∀ finish ∈ match? start, ∃ text, start.after = text ++ finish.after ∧
      accepts text ∧ ∀ entry ∈ finish.groups, entry ∈ start.groups ∨ captures entry.1 entry.2)
    (least most : Nat) (enough : least ≤ most) (start finish : Position)
    (reached : finish ∈ repeated match? reluctant least most start) :
    ∃ parts : List (List Char), start.after = parts.flatten ++ finish.after ∧
      (∀ part ∈ parts, accepts part) ∧ least ≤ parts.length ∧ parts.length ≤ most ∧
        ∀ entry ∈ finish.groups, entry ∈ start.groups ∨ captures entry.1 entry.2 := by
  induction most generalizing least start with
  | zero =>
      obtain rfl := List.mem_singleton.mp reached
      exact ⟨[], rfl, by simp, enough, Nat.le_refl 0, fun entry member => .inl member⟩
  | succ most ih =>
      have further : finish ∈ (match? start).flatMap (repeated match? reluctant (least - 1) most) →
          ∃ parts : List (List Char), start.after = parts.flatten ++ finish.after ∧
            (∀ part ∈ parts, accepts part) ∧ least ≤ parts.length ∧ parts.length ≤ most + 1 ∧
              ∀ entry ∈ finish.groups, entry ∈ start.groups ∨ captures entry.1 entry.2 := by
        intro later
        obtain ⟨middle, first, rest⟩ := List.mem_flatMap.mp later
        obtain ⟨text, split, accepted, groups⟩ := sound start middle first
        obtain ⟨parts, split', all, some, bound, groups'⟩ := ih (least - 1) (by omega) middle rest
        refine ⟨text :: parts, ?_, ?_, ?_, ?_, ?_⟩
        · rw [split, split', List.flatten_cons, List.append_assoc]
        · intro part member
          rcases List.mem_cons.mp member with rfl | inside
          · exact accepted
          · exact all part inside
        · rw [List.length_cons]
          omega
        · rw [List.length_cons]
          omega
        · intro entry member
          rcases groups' entry member with early | captured
          · exact groups entry early
          · exact .inr captured
      have stop : finish = start → least = 0 → ∃ parts : List (List Char),
          start.after = parts.flatten ++ finish.after ∧ (∀ part ∈ parts, accepts part) ∧
            least ≤ parts.length ∧ parts.length ≤ most + 1 ∧
              ∀ entry ∈ finish.groups, entry ∈ start.groups ∨ captures entry.1 entry.2 := by
        rintro rfl rfl
        exact ⟨[], rfl, by simp, Nat.le_refl 0, Nat.zero_le _, fun entry member => .inl member⟩
      rw [repeated] at reached
      split at reached
      · exact further reached
      · rename_i none
        have zero : least = 0 := by omega
        split at reached
        · rcases List.mem_cons.mp reached with same | later
          · exact stop same zero
          · exact further later
        · rcases List.mem_append.mp reached with later | same
          · exact further later
          · exact stop (List.mem_singleton.mp same) zero

/-- A match consumes what the expression accepts, and captures what its groups accept. -/
theorem run_sound (r : Re) (start finish : Position) (reached : finish ∈ run r start) :
    ∃ text, start.after = text ++ finish.after ∧ Matches r text ∧
      ∀ entry ∈ finish.groups, entry ∈ start.groups ∨ Captures r entry.1 entry.2 := by
  induction r generalizing start finish with
  | char accepts =>
      rw [run] at reached
      split at reached
      · cases reached
      · rename_i c rest behind
        split at reached
        · rename_i accepted
          obtain rfl := List.mem_singleton.mp reached
          exact ⟨[c], behind, ⟨c, accepted, rfl⟩, fun entry member => .inl member⟩
        · cases reached
  | empty =>
      obtain rfl := List.mem_singleton.mp reached
      exact ⟨[], rfl, rfl, fun entry member => .inl member⟩
  | seq first second ih ih' =>
      obtain ⟨middle, early, late⟩ := List.mem_flatMap.mp reached
      obtain ⟨x, split, accepted, groups⟩ := ih start middle early
      obtain ⟨y, split', accepted', groups'⟩ := ih' middle finish late
      refine ⟨x ++ y, ?_, ⟨x, y, rfl, accepted, accepted'⟩, ?_⟩
      · rw [split, split', List.append_assoc]
      · intro entry member
        rcases groups' entry member with inside | captured
        · exact (groups entry inside).imp_right .inl
        · exact .inr (.inr captured)
  | alt first second ih ih' =>
      rcases List.mem_append.mp reached with left | right
      · obtain ⟨text, split, accepted, groups⟩ := ih start finish left
        exact ⟨text, split, .inl accepted, fun entry member => (groups entry member).imp_right .inl⟩
      · obtain ⟨text, split, accepted, groups⟩ := ih' start finish right
        exact ⟨text, split, .inr accepted, fun entry member => (groups entry member).imp_right .inr⟩
  | rep reluctant least most body ih =>
      rw [run] at reached
      obtain ⟨parts, split, all, some, bound, groups⟩ := repeated_sound ih least _
        (Nat.le_max_left _ _) start finish reached
      refine ⟨parts.flatten, split, ⟨parts, rfl, all, some, ?_⟩, groups⟩
      intro limit given
      cases given
      exact bound
  | group name body ih =>
      obtain ⟨inner, member, rfl⟩ := List.mem_map.mp reached
      obtain ⟨text, split, accepted, groups⟩ := ih start inner member
      refine ⟨text, split, accepted, ?_⟩
      intro entry captured
      rcases List.mem_cons.mp captured with rfl | early
      · rw [consumed_eq split]
        exact .inr (.inl ⟨rfl, accepted⟩)
      · exact (groups entry early).imp_right .inr
  | assertion holds =>
      rw [run] at reached
      split at reached
      · obtain rfl := List.mem_singleton.mp reached
        exact ⟨[], rfl, rfl, fun entry member => .inl member⟩
      · cases reached
  | ahead body ih =>
      obtain ⟨inner, member, rfl⟩ := List.mem_map.mp reached
      obtain ⟨text, -, -, groups⟩ := ih start inner (List.mem_of_mem_take member)
      exact ⟨[], rfl, rfl, groups⟩
  | notAhead body ih =>
      rw [run] at reached
      split at reached
      · obtain rfl := List.mem_singleton.mp reached
        exact ⟨[], rfl, rfl, fun entry member => .inl member⟩
      · cases reached

theorem captures_all {rs : List Re} {name : String} {text : List Char} :
    Captures (Re.all rs) name text ↔ ∃ r ∈ rs, Captures r name text := by
  induction rs with
  | nil => simp [Re.all, Captures]
  | cons r rest ih => simp [Re.all, Captures, ih]

theorem captures_anyOf {r : Re} {rs : List Re} {name : String} {text : List Char} :
    Captures (Re.anyOf r rs) name text ↔ ∃ other ∈ r :: rs, Captures other name text := by
  induction rs generalizing r with
  | nil => simp [Re.anyOf]
  | cons other rest ih => simp only [Re.anyOf, Captures, ih, List.mem_cons, exists_eq_or_imp]

theorem matches_anyOf {r : Re} {rs : List Re} {text : List Char} :
    Matches (Re.anyOf r rs) text ↔ ∃ other ∈ r :: rs, Matches other text := by
  induction rs generalizing r with
  | nil => simp [Re.anyOf]
  | cons other rest ih => simp only [Re.anyOf, Matches, ih, List.mem_cons, exists_eq_or_imp]

/-- A sequence of characters matches one by one. -/
theorem matches_chars {accepts : Char → Char → Bool} {ds text : List Char}
    (matched : Matches (Re.all (ds.map fun d => .char (accepts d))) text) :
    List.Forall₂ (fun c d => accepts d c = true) text ds := by
  induction ds generalizing text with
  | nil =>
      obtain rfl : text = [] := matched
      exact .nil
  | cons d rest ih =>
      obtain ⟨x, y, rfl, ⟨c, accepted, rfl⟩, later⟩ := matched
      exact .cons accepted (ih later)

/-- The groups that every match captures. -/
def Always : Re → String → Prop
  | .seq first second, name => Always first name ∨ Always second name
  | .alt first second, name => Always first name ∧ Always second name
  | .group name' body, name => name = name' ∨ Always body name
  | _, _ => False

theorem always_all {rs : List Re} {name : String} (found : ∃ r ∈ rs, Always r name) :
    Always (Re.all rs) name := by
  induction rs with
  | nil => simp at found
  | cons r rest ih =>
      obtain ⟨other, member, always⟩ := found
      rcases List.mem_cons.mp member with rfl | later
      · exact .inl always
      · exact .inr (ih ⟨other, later, always⟩)

theorem repeated_groups {match? : Position → List Position} {reluctant : Bool}
    (grows : ∀ start, ∀ finish ∈ match? start, start.groups ⊆ finish.groups)
    (least most : Nat) (start finish : Position)
    (reached : finish ∈ repeated match? reluctant least most start) :
    start.groups ⊆ finish.groups := by
  induction most generalizing least start with
  | zero =>
      obtain rfl := List.mem_singleton.mp reached
      exact fun _ member => member
  | succ most ih =>
      have further : finish ∈ (match? start).flatMap (repeated match? reluctant (least - 1) most) →
          start.groups ⊆ finish.groups := by
        intro later
        obtain ⟨middle, first, rest⟩ := List.mem_flatMap.mp later
        exact fun _ member => ih (least - 1) middle rest (grows start middle first member)
      have stop : finish = start → start.groups ⊆ finish.groups := by
        rintro rfl
        exact fun _ member => member
      rw [repeated] at reached
      split at reached
      · exact further reached
      · split at reached
        · exact (List.mem_cons.mp reached).elim stop further
        · exact (List.mem_append.mp reached).elim further fun same =>
            stop (List.mem_singleton.mp same)

theorem run_groups (r : Re) (start finish : Position) (reached : finish ∈ run r start) :
    start.groups ⊆ finish.groups := by
  induction r generalizing start finish with
  | char accepts =>
      rw [run] at reached
      split at reached
      · cases reached
      · split at reached
        · obtain rfl := List.mem_singleton.mp reached
          exact fun _ member => member
        · cases reached
  | empty =>
      obtain rfl := List.mem_singleton.mp reached
      exact fun _ member => member
  | seq first second ih ih' =>
      obtain ⟨middle, early, late⟩ := List.mem_flatMap.mp reached
      exact fun _ member => ih' middle finish late (ih start middle early member)
  | alt first second ih ih' =>
      exact (List.mem_append.mp reached).elim (ih start finish) (ih' start finish)
  | rep reluctant least most body ih =>
      rw [run] at reached
      exact repeated_groups ih least _ start finish reached
  | group name body ih =>
      obtain ⟨inner, member, rfl⟩ := List.mem_map.mp reached
      exact fun _ old => List.mem_cons_of_mem _ (ih start inner member old)
  | assertion holds =>
      rw [run] at reached
      split at reached
      · obtain rfl := List.mem_singleton.mp reached
        exact fun _ member => member
      · cases reached
  | ahead body ih =>
      obtain ⟨inner, member, rfl⟩ := List.mem_map.mp reached
      exact ih start inner (List.mem_of_mem_take member)
  | notAhead body ih =>
      rw [run] at reached
      split at reached
      · obtain rfl := List.mem_singleton.mp reached
        exact fun _ member => member
      · cases reached

theorem run_always (r : Re) (name : String) (always : Always r name) (start finish : Position)
    (reached : finish ∈ run r start) : ∃ text, (name, text) ∈ finish.groups := by
  induction r generalizing start finish with
  | seq first second ih ih' =>
      obtain ⟨middle, early, late⟩ := List.mem_flatMap.mp reached
      rcases always with left | right
      · obtain ⟨text, member⟩ := ih left start middle early
        exact ⟨text, run_groups second middle finish late member⟩
      · exact ih' right middle finish late
  | alt first second ih ih' =>
      exact (List.mem_append.mp reached).elim (ih always.1 start finish) (ih' always.2 start finish)
  | group name' body ih =>
      obtain ⟨inner, member, rfl⟩ := List.mem_map.mp reached
      rcases always with rfl | inside
      · exact ⟨_, List.mem_cons_self⟩
      · obtain ⟨text, found⟩ := ih inside start inner member
        exact ⟨text, List.mem_cons_of_mem _ found⟩
  | char | empty | rep | assertion | ahead | notAhead => cases always

/-- The first match in a text: the text in front of it, and the position behind it. -/
def search (r : Re) : List Char → List Char → Option (List Char × Position)
  | before, [] => (run r ⟨before, [], []⟩).head?.map fun finish => (before.reverse, finish)
  | before, c :: rest =>
    match (run r ⟨before, c :: rest, []⟩).head? with
    | some finish => some (before.reverse, finish)
    | none => search r (c :: before) rest

theorem search_reached {r : Re} {before after front : List Char} {finish : Position}
    (found : search r before after = some (front, finish)) :
    ∃ start, start.groups = [] ∧ finish ∈ run r start := by
  induction after generalizing before with
  | nil =>
      obtain ⟨finish', first, same⟩ := Option.map_eq_some_iff.mp found
      obtain ⟨-, rfl⟩ := Prod.mk.inj same
      exact ⟨_, rfl, List.mem_of_head? first⟩
  | cons c rest ih =>
      rw [search] at found
      split at found
      · rename_i finish' first
        obtain ⟨-, rfl⟩ := Prod.mk.inj (Option.some.inj found)
        exact ⟨_, rfl, List.mem_of_head? first⟩
      · exact ih found

/-- What a group captures in the matches of a text, one behind the other. -/
def findAll (r : Re) (name : String) : Nat → List Char → List Char → List (List Char)
  | 0, _, _ => []
  | fuel + 1, before, after =>
    match (run r ⟨before, after, []⟩).head? with
    | some finish =>
      (finish.groups.lookup name).getD [] :: findAll r name fuel finish.before finish.after
    | none =>
      match after with
      | [] => []
      | c :: rest => findAll r name fuel (c :: before) rest

/-- The capture of a group. -/
def Position.group (position : Position) (name : String) : Option (List Char) :=
  position.groups.lookup name

theorem mem_of_group {position : Position} {name : String} {text : List Char}
    (captured : position.group name = some text) : (name, text) ∈ position.groups := by
  obtain ⟨front, back, split, -⟩ := List.lookup_eq_some_iff.mp captured
  rw [split]
  exact List.mem_append_right _ List.mem_cons_self

/-- What a group of the first match holds is what it accepts. -/
theorem captures_of_search {r : Re} {before after : List Char} {found : List Char × Position}
    (first : search r before after = some found) {name : String} {text : List Char}
    (captured : found.2.group name = some text) : Captures r name text := by
  obtain ⟨start, fresh, reached⟩ := search_reached first
  obtain ⟨-, -, -, groups⟩ := run_sound r start found.2 reached
  rcases groups _ (mem_of_group captured) with old | new
  · rw [fresh] at old
    cases old
  · exact new

theorem group_of_search {r : Re} {before after : List Char} {found : List Char × Position}
    (first : search r before after = some found) {name : String} (always : Always r name) :
    ∃ text, found.2.group name = some text := by
  obtain ⟨start, -, reached⟩ := search_reached first
  obtain ⟨text, member⟩ := run_always r name always start found.2 reached
  cases captured : found.2.group name with
  | some text => exact ⟨text, rfl⟩
  | none =>
      have absent := List.lookup_eq_none_iff.mp captured (name, text) member
      simp at absent

end Regex
