import Mathlib.Data.List.Nodup
import Mathlib.Logic.Function.Basic
import Mathlib.Logic.Relation

/-!
Receipts in a table with a unique key. A transaction inserts the receipt of its
request, works and completes the receipt, and then commits both. An insert of a
key that another open transaction has inserted waits for its end; an insert of a
committed key does nothing, and the receipt is read in a statement of its own.
The transactions answer as if each was served at once.
-/

namespace Transactions.UniqueKey

open Relation

/-- A row of the table; a receipt without a result is not completed. -/
structure Row (K P R : Type) where
  key : K
  request : P
  result : Option R
  createdAt : Int
deriving DecidableEq

/-- How far the transaction of a request has come. -/
inductive Stage (R : Type) where
  | idle
  | conflicting
  | inserted (createdAt : Int)
  | completed (createdAt : Int) (result : R)
  | ended

/-- The transaction has a row that is not committed. -/
def Stage.holds {R : Type} : Stage R → Bool
  | .inserted _ | .completed _ _ => true
  | .idle | .conflicting | .ended => false

/-- What a request is answered. -/
inductive Answer (R : Type) where
  | created (result : R)
  | replayed (result : R)
  | conflict
  | inProgress
  | missing
deriving DecidableEq

inductive Entry (K R : Type) where
  | answered (i : Nat) (answer : Answer R)
  | pruned (keys : List K)

structure Config (K P R : Type) where
  rows : List (Row K P R)
  stage : Nat → Stage R
  log : List (Entry K R)

variable {K P R : Type} [DecidableEq K]

def find (rows : List (Row K P R)) (key : K) : Option (Row K P R) :=
  rows.find? fun row => row.key = key

/-- What is made of the receipt that is read after a conflict. -/
def readReceipt [DecidableEq P] (request : P) : Option (Row K P R) → Answer R
  | none => .missing
  | some row =>
    if row.request ≠ request then .conflict
    else
      match row.result with
      | none => .inProgress
      | some result => .replayed result

namespace Config

def start (rows : List (Row K P R)) : Config K P R := ⟨rows, fun _ => .idle, []⟩

def enter (c : Config K P R) (i : Nat) (stage : Stage R) : Config K P R :=
  { c with stage := Function.update c.stage i stage }

def answer (c : Config K P R) (i : Nat) (answer : Answer R) : Config K P R :=
  { c.enter i .ended with log := c.log ++ [.answered i answer] }

def commit (c : Config K P R) (i : Nat) (row : Row K P R) (result : R) : Config K P R :=
  { c.answer i (.created result) with rows := c.rows ++ [row] }

def prune (c : Config K P R) (keys : List K) : Config K P R :=
  { c with rows := c.rows.filter fun row => row.key ∉ keys, log := c.log ++ [.pruned keys] }

end Config

/-- The requests, what their work can result in, and which keys may be pruned. -/
structure Protocol (K P R : Type) where
  requests : Nat → K × P
  works : Nat → R → Prop
  prunes : List (Row K P R) → List K → Prop

/-- One statement of a transaction, or its end. -/
inductive Step [DecidableEq P] (p : Protocol K P R) : Config K P R → Config K P R → Prop
  | insert {c : Config K P R} {i : Nat} (idle : c.stage i = .idle) (createdAt : Int)
      (absent : find c.rows (p.requests i).1 = none)
      (free : ∀ j, (c.stage j).holds = true → (p.requests j).1 ≠ (p.requests i).1) :
      Step p c (c.enter i (.inserted createdAt))
  | conflict {c : Config K P R} {i : Nat} (idle : c.stage i = .idle)
      (taken : find c.rows (p.requests i).1 ≠ none) : Step p c (c.enter i .conflicting)
  | read {c : Config K P R} {i : Nat} (conflicting : c.stage i = .conflicting) :
      Step p c (c.answer i (readReceipt (p.requests i).2 (find c.rows (p.requests i).1)))
  | complete {c : Config K P R} {i : Nat} {createdAt : Int}
      (inserted : c.stage i = .inserted createdAt) (result : R) (works : p.works i result) :
      Step p c (c.enter i (.completed createdAt result))
  | commit {c : Config K P R} {i : Nat} {createdAt : Int} {result : R}
      (completed : c.stage i = .completed createdAt result) :
      Step p c (c.commit i ⟨(p.requests i).1, (p.requests i).2, some result, createdAt⟩ result)
  | rollback {c : Config K P R} {i : Nat} (holds : (c.stage i).holds = true) :
      Step p c (c.enter i .ended)
  | prune {c : Config K P R} {keys : List K} (prunes : p.prunes c.rows keys) :
      Step p c (c.prune keys)

/-! One request after the other. -/

/-- The requests and results that are kept, by key. -/
abbrev Kept (K P R : Type) : Type := K → Option (P × R)

/-- What an entry of the log does to them. -/
def Kept.after (requests : Nat → K × P) (kept : Kept K P R) : Entry K R → Kept K P R
  | .answered i (.created result) =>
      Function.update kept (requests i).1 (some ((requests i).2, result))
  | .answered _ _ => kept
  | .pruned keys => fun key => if key ∈ keys then none else kept key

/-- The entry is what serving the request at once would give, which misses no receipt. -/
def Kept.Allows (requests : Nat → K × P) (kept : Kept K P R) : Entry K R → Prop
  | .answered i (.created _) => kept (requests i).1 = none
  | .answered i (.replayed result) => kept (requests i).1 = some ((requests i).2, result)
  | .answered i .conflict =>
      ∃ request result, kept (requests i).1 = some (request, result) ∧ request ≠ (requests i).2
  | .answered _ .missing => False
  | .answered _ .inProgress => False
  | .pruned _ => True

def Kept.replay (requests : Nat → K × P) (kept : Kept K P R) (log : List (Entry K R)) :
    Kept K P R :=
  log.foldl (·.after requests) kept

/-- Every entry relates so to those before it. -/
def Each (related : List (Entry K R) → Entry K R → Prop) (log : List (Entry K R)) : Prop :=
  ∀ front entry back, log = front ++ entry :: back → related front entry

/-- Every entry, but for a missed receipt, is allowed after those before it. -/
def Serial (requests : Nat → K × P) (kept : Kept K P R) : List (Entry K R) → Prop :=
  Each fun front entry => (∀ i, entry ≠ .answered i .missing) →
    (kept.replay requests front).Allows requests entry

/-- A receipt is missed when its key stands for nothing and has been pruned before. -/
def Missed (requests : Nat → K × P) (kept : Kept K P R) : List (Entry K R) → Prop :=
  Each fun front entry => ∀ i, entry = .answered i .missing →
    kept.replay requests front (requests i).1 = none ∧
      ∃ keys, .pruned keys ∈ front ∧ (requests i).1 ∈ keys

/-- What the committed rows keep. -/
def keptOf (rows : List (Row K P R)) : Kept K P R := fun key =>
  (find rows key).bind fun row => row.result.map fun result => (row.request, result)

/-- The requests that have been answered, in the order of their answers. -/
def answered : List (Entry K R) → List Nat
  | [] => []
  | .answered i _ :: rest => i :: answered rest
  | .pruned _ :: rest => answered rest

section Rows
variable {rows : List (Row K P R)} {key : K}

theorem find_snoc_self (absent : find rows key = none) {row : Row K P R} (own : row.key = key) :
    find (rows ++ [row]) key = some row := by
  unfold find at absent ⊢
  rw [List.find?_append, absent]
  simp [own]

theorem find_snoc_of_ne {row : Row K P R} (other : row.key ≠ key) :
    find (rows ++ [row]) key = find rows key := by
  unfold find
  rw [List.find?_append]
  simp [other]

theorem find_prune (keys : List K) :
    find (rows.filter fun row => row.key ∉ keys) key = if key ∈ keys then none else find rows key := by
  unfold find
  induction rows with
  | nil => simp
  | cons row rest ih =>
      by_cases pruned : row.key ∈ keys
      · rw [List.filter_cons_of_neg (by simpa using pruned), ih, List.find?_cons]
        split
        · rfl
        · rename_i kept
          have differs : decide (row.key = key) = false := by
            simpa using fun same : row.key = key => kept (same ▸ pruned)
          rw [differs]
      · rw [List.filter_cons_of_pos (by simpa using pruned), List.find?_cons, List.find?_cons, ih]
        by_cases same : row.key = key
        · have kept : key ∉ keys := same ▸ pruned
          simp [same, kept]
        · simp [same]

theorem find_some {row : Row K P R} (found : find rows key = some row) :
    row ∈ rows ∧ row.key = key := by
  unfold find at found
  exact ⟨List.mem_of_find?_eq_some found, by simpa using List.find?_some found⟩

end Rows

omit [DecidableEq K] in
theorem answered_append (front back : List (Entry K R)) :
    answered (front ++ back) = answered front ++ answered back := by
  induction front with
  | nil => rfl
  | cons entry rest ih => cases entry <;> simp [answered, ih]

theorem Kept.replay_snoc (requests : Nat → K × P) (kept : Kept K P R) (log : List (Entry K R))
    (entry : Entry K R) :
    kept.replay requests (log ++ [entry]) = (kept.replay requests log).after requests entry := by
  simp [Kept.replay]

omit [DecidableEq K] in
theorem Each.snoc {related : List (Entry K R) → Entry K R → Prop} {log : List (Entry K R)}
    (each : Each related log) {entry : Entry K R} (own : related log entry) :
    Each related (log ++ [entry]) := by
  intro front last back split
  cases List.eq_nil_or_concat back with
  | inl empty =>
      subst empty
      obtain ⟨same, new⟩ := List.append_inj' split rfl
      obtain rfl := (List.cons.inj new).1
      exact same ▸ own
  | inr longer =>
      obtain ⟨rest, final, rfl⟩ := longer
      have split : log ++ [entry] = (front ++ last :: rest) ++ [final] := by simpa using split
      exact each front last rest (List.append_inj' split rfl).1

theorem Kept.after_eq_none {requests : Nat → K × P} {kept : Kept K P R} {entry : Entry K R} {key : K}
    (lost : kept.after requests entry key = none) :
    kept key = none ∨ ∃ keys, entry = .pruned keys ∧ key ∈ keys := by
  cases entry with
  | answered i answer =>
      cases answer with
      | created result =>
          by_cases same : key = (requests i).1
          · simp [Kept.after, same] at lost
          · exact .inl (by simpa [Kept.after, same] using lost)
      | _ => exact .inl lost
  | pruned keys =>
      by_cases pruned : key ∈ keys
      · exact .inr ⟨keys, rfl, pruned⟩
      · exact .inl (by simpa [Kept.after, pruned] using lost)

/-- What is kept stays until its key is pruned. -/
theorem Kept.replay_eq_none {requests : Nat → K × P} {kept : Kept K P R} {key : K}
    (log : List (Entry K R)) (lost : kept.replay requests log key = none) :
    kept key = none ∨ ∃ keys, .pruned keys ∈ log ∧ key ∈ keys := by
  induction log generalizing kept with
  | nil => exact .inl lost
  | cons entry rest ih =>
      rcases ih lost with now | ⟨keys, member, own⟩
      · rcases Kept.after_eq_none now with before | ⟨keys, rfl, own⟩
        · exact .inl before
        · exact .inr ⟨keys, List.mem_cons_self, own⟩
      · exact .inr ⟨keys, List.mem_cons_of_mem _ member, own⟩

/-- What is kept was kept before or has been created since. -/
theorem Kept.replay_eq_some {requests : Nat → K × P} {kept : Kept K P R} {key : K}
    {request : P} {result : R} (log : List (Entry K R))
    (found : kept.replay requests log key = some (request, result)) :
    kept key = some (request, result) ∨
      ∃ i, .answered i (.created result) ∈ log ∧ requests i = (key, request) := by
  induction log generalizing kept with
  | nil => exact .inl found
  | cons entry rest ih =>
      rcases ih found with now | ⟨i, member, own⟩
      · cases entry with
        | answered i answer =>
            cases answer with
            | created other =>
                by_cases same : key = (requests i).1
                · subst same
                  simp only [Kept.after, Function.update_self, Option.some.injEq,
                    Prod.mk.injEq] at now
                  obtain ⟨rfl, rfl⟩ := now
                  exact .inr ⟨i, List.mem_cons_self, rfl⟩
                · exact .inl (by simpa [Kept.after, same] using now)
            | _ => exact .inl now
        | pruned keys =>
            by_cases gone : key ∈ keys
            · simp [Kept.after, gone] at now
            · exact .inl (by simpa [Kept.after, gone] using now)
      · exact .inr ⟨i, List.mem_cons_of_mem _ member, own⟩

/-- An answer is what serving the request at once gives. -/
theorem Serial.allows {requests : Nat → K × P} {kept : Kept K P R} {log : List (Entry K R)}
    (serial : Serial requests kept log) {front back : List (Entry K R)} {i : Nat}
    {answer : Answer R} (split : log = front ++ .answered i answer :: back)
    (given : answer ≠ .missing) : (kept.replay requests front).Allows requests (.answered i answer) :=
  serial front _ back split fun _ same => given (Entry.answered.inj same).2

/-- Between two creations under one key the key has been pruned. -/
theorem Serial.pruned_between {requests : Nat → K × P} {kept : Kept K P R}
    {log front middle back : List (Entry K R)} (serial : Serial requests kept log) {i j : Nat}
    {result result' : R} (split : log = front ++ .answered i (.created result) ::
      (middle ++ .answered j (.created result') :: back))
    (same : (requests i).1 = (requests j).1) :
    ∃ keys, .pruned keys ∈ middle ∧ (requests i).1 ∈ keys := by
  have later : log = (front ++ .answered i (.created result) :: middle) ++
      .answered j (.created result') :: back := by simp [split]
  have allowed := serial.allows later (by simp)
  have lost : (((kept.replay requests front).after requests
      (.answered i (.created result))).replay requests middle) (requests i).1 = none := by
    rw [same]
    simpa [Kept.replay, Kept.Allows] using allowed
  refine (Kept.replay_eq_none middle lost).resolve_left fun none => ?_
  simp [Kept.after] at none

/-- Where nothing is pruned, a key is created only if it is new. -/
theorem Serial.created_new {requests : Nat → K × P} {kept : Kept K P R} {log : List (Entry K R)}
    (serial : Serial requests kept log) (unpruned : ∀ keys, .pruned keys ∉ log) {i : Nat}
    {result : R} (created : .answered i (.created result) ∈ log) : kept (requests i).1 = none := by
  obtain ⟨front, back, split⟩ := List.append_of_mem created
  rcases Kept.replay_eq_none front (serial.allows split (by simp)) with before | ⟨keys, pruned, -⟩
  · exact before
  · exact absurd (split ▸ List.mem_append_left _ pruned) (unpruned keys)

/-- Where nothing is pruned, a key is created once. -/
theorem Serial.created_once {requests : Nat → K × P} {kept : Kept K P R} {log : List (Entry K R)}
    (serial : Serial requests kept log) (unpruned : ∀ keys, .pruned keys ∉ log) {i j : Nat}
    {result result' : R} (first : .answered i (.created result) ∈ log)
    (second : .answered j (.created result') ∈ log) (same : (requests i).1 = (requests j).1) :
    i = j := by
  have apart : ∀ {front middle back : List (Entry K R)} {i j : Nat} {result result' : R},
      log = front ++ .answered i (.created result) ::
        (middle ++ .answered j (.created result') :: back) → (requests i).1 ≠ (requests j).1 := by
    intro front middle back i j result result' split same
    obtain ⟨keys, pruned, -⟩ := serial.pruned_between split same
    refine unpruned keys ?_
    rw [split]
    exact List.mem_append_right _ (.tail _ (List.mem_append_left _ pruned))
  by_contra differs
  obtain ⟨front, back, split⟩ := List.append_of_mem first
  rw [split, List.mem_append, List.mem_cons] at second
  rcases second with early | now | late
  · obtain ⟨before, middle, rest⟩ := List.append_of_mem early
    have reversed : log = before ++ .answered j (.created result') ::
        (middle ++ .answered i (.created result) :: back) := by
      rw [split, rest, List.append_assoc, List.cons_append]
    exact apart reversed same.symm
  · exact differs (Entry.answered.inj now).1.symm
  · obtain ⟨middle, after, rest⟩ := List.append_of_mem late
    exact apart (split.trans (by rw [rest])) same

section Runs
variable {p : Protocol K P R} {kept : Kept K P R} {c c' : Config K P R}

/-- What holds in every reachable configuration. -/
structure Inv (p : Protocol K P R) (kept : Kept K P R) (c : Config K P R) : Prop where
  completed : ∀ row ∈ c.rows, row.result ≠ none
  /-- The rows keep what serving the requests in turn has kept. -/
  replayed : kept.replay p.requests c.log = keptOf c.rows
  free : ∀ i, (c.stage i).holds = true → find c.rows (p.requests i).1 = none
  exclusive : ∀ i j, (c.stage i).holds = true → (c.stage j).holds = true →
    (p.requests i).1 = (p.requests j).1 → i = j
  serial : Serial p.requests kept c.log
  ended : ∀ i ∈ answered c.log, c.stage i = .ended
  once : (answered c.log).Nodup
  conflicting : ∀ i, c.stage i = .conflicting →
    find c.rows (p.requests i).1 ≠ none ∨ ∃ keys, .pruned keys ∈ c.log ∧ (p.requests i).1 ∈ keys
  missed : Missed p.requests kept c.log

omit [DecidableEq K] in
theorem each_nil (related : List (Entry K R) → Entry K R → Prop) : Each related [] := by
  intro front entry back split
  cases front <;> cases split

theorem inv_start {rows : List (Row K P R)} (completed : ∀ row ∈ rows, row.result ≠ none) :
    Inv p (keptOf rows) (.start rows) where
  completed := completed
  replayed := rfl
  free _ holds := nomatch holds
  exclusive _ _ holds := nomatch holds
  serial := each_nil _
  ended _ none := absurd none List.not_mem_nil
  once := .nil
  conflicting _ none := nomatch none
  missed := each_nil _

theorem Inv.enter (h : Inv p kept c) {i : Nat} {stage : Stage R} (going : c.stage i ≠ .ended)
    (free : stage.holds = true → find c.rows (p.requests i).1 = none)
    (alone : stage.holds = true → ∀ j, j ≠ i → (c.stage j).holds = true →
      (p.requests j).1 ≠ (p.requests i).1)
    (conflicting : stage = .conflicting → find c.rows (p.requests i).1 ≠ none) :
    Inv p kept (c.enter i stage) where
  completed := h.completed
  replayed := h.replayed
  free j holds := by
    by_cases same : j = i
    · subst same
      exact free (by simpa [Config.enter] using holds)
    · exact h.free j (by simpa [Config.enter, same] using holds)
  exclusive j k holds holds' key := by
    simp only [Config.enter] at holds holds'
    by_cases first : j = i
    · by_cases second : k = i
      · rw [first, second]
      · subst first
        rw [Function.update_self] at holds
        rw [Function.update_of_ne second] at holds'
        exact absurd key.symm (alone holds k second holds')
    · rw [Function.update_of_ne first] at holds
      by_cases second : k = i
      · subst second
        rw [Function.update_self] at holds'
        exact absurd key (alone holds' j first holds)
      · rw [Function.update_of_ne second] at holds'
        exact h.exclusive j k holds holds' key
  serial := h.serial
  ended j member := by
    have other : j ≠ i := fun same => going (same ▸ h.ended j member)
    simpa [Config.enter, other] using h.ended j member
  once := h.once
  conflicting j reads := by
    by_cases same : j = i
    · subst same
      exact .inl (conflicting (by simpa [Config.enter] using reads))
    · exact h.conflicting j (by simpa [Config.enter, same] using reads)
  missed := h.missed

/-- An answer that ends a transaction without a row. -/
theorem Inv.answer (h : Inv p kept c) {i : Nat} (going : c.stage i ≠ .ended) {answer : Answer R}
    (other : ∀ result, answer ≠ .created result)
    (allowed : answer ≠ .missing → (keptOf c.rows).Allows p.requests (.answered i answer))
    (missed : answer = .missing → keptOf c.rows (p.requests i).1 = none ∧
      ∃ keys, .pruned keys ∈ c.log ∧ (p.requests i).1 ∈ keys) :
    Inv p kept (c.answer i answer) := by
  have ended : Inv p kept (c.enter i .ended) := h.enter going nofun nofun nofun
  have same : (kept.replay p.requests c.log).after p.requests (.answered i answer) =
      kept.replay p.requests c.log := by
    cases answer with
    | created result => exact absurd rfl (other result)
    | _ => rfl
  exact
    { completed := ended.completed
      replayed := by
        simp only [Config.answer, Config.enter, Kept.replay_snoc, same]
        exact h.replayed
      free := ended.free
      exclusive := ended.exclusive
      serial := by
        apply h.serial.snoc
        intro served
        rw [h.replayed]
        exact allowed fun missing => served i (missing ▸ rfl)
      ended := by
        intro j member
        simp only [Config.answer, answered_append, List.mem_append] at member
        rcases member with before | now
        · exact ended.ended j before
        · obtain rfl : j = i := by simpa [answered] using now
          simp [Config.answer, Config.enter]
      once := by
        simp only [Config.answer, answered_append]
        refine List.nodup_append.mpr ⟨h.once, List.pairwise_singleton _ _, ?_⟩
        intro j before k now
        obtain rfl : k = i := by simpa [answered] using now
        exact fun twice => going (twice ▸ h.ended j before)
      conflicting := by
        intro j reads
        refine (ended.conflicting j reads).imp_right fun gone => ?_
        obtain ⟨keys, member, own⟩ := gone
        exact ⟨keys, List.mem_append_left _ member, own⟩
      missed := by
        apply h.missed.snoc
        intro j missing
        cases missing
        rw [h.replayed]
        exact missed rfl }

theorem keptOf_snoc {rows : List (Row K P R)} {row : Row K P R} {result : R}
    (absent : find rows row.key = none) (completed : row.result = some result) :
    keptOf (rows ++ [row]) = Function.update (keptOf rows) row.key (some (row.request, result)) := by
  funext key
  by_cases same : key = row.key
  · subst same
    rw [Function.update_self, keptOf, find_snoc_self absent rfl]
    simp [completed]
  · rw [Function.update_of_ne same, keptOf, find_snoc_of_ne fun eq => same eq.symm]
    rfl

theorem Inv.commit (h : Inv p kept c) {i : Nat} {createdAt : Int} {result : R}
    (completed : c.stage i = .completed createdAt result) :
    Inv p kept
      (c.commit i ⟨(p.requests i).1, (p.requests i).2, some result, createdAt⟩ result) := by
  have holds : (c.stage i).holds = true := by rw [completed]; rfl
  have going : c.stage i ≠ .ended := by rw [completed]; nofun
  have absent := h.free i holds
  have ended : Inv p kept (c.enter i .ended) := h.enter going nofun nofun nofun
  refine
    { completed := ?_
      replayed := ?_
      free := ?_
      exclusive := ended.exclusive
      serial := h.serial.snoc fun _ => ?_
      ended := ?_
      once := ?_
      conflicting := ?_
      missed := h.missed.snoc fun _ => nofun }
  · intro row member
    rcases List.mem_append.mp member with before | new
    · exact h.completed row before
    · rw [List.mem_singleton.mp new]
      nofun
  · simp only [Config.commit, Config.answer, Config.enter, Kept.replay_snoc, Kept.after,
      h.replayed]
    exact (@keptOf_snoc K P R _ c.rows ⟨(p.requests i).1, (p.requests i).2, some result, createdAt⟩
      result absent rfl).symm
  · intro j held
    have other : j ≠ i := by
      intro same
      simp [Config.commit, Config.answer, Config.enter, same, Stage.holds] at held
    have before : (c.stage j).holds = true := by
      simpa [Config.commit, Config.answer, Config.enter, other] using held
    have differs : (p.requests i).1 ≠ (p.requests j).1 := fun same =>
      other (h.exclusive j i before holds same.symm)
    exact (find_snoc_of_ne differs).trans (h.free j before)
  · rw [h.replayed]
    simp [Kept.Allows, keptOf, absent]
  · intro j member
    simp only [Config.commit, Config.answer, answered_append, List.mem_append] at member
    rcases member with before | now
    · exact ended.ended j before
    · obtain rfl : j = i := by simpa [answered] using now
      simp [Config.commit, Config.answer, Config.enter]
  · simp only [Config.commit, Config.answer, answered_append]
    refine List.nodup_append.mpr ⟨h.once, List.pairwise_singleton _ _, ?_⟩
    intro j before k now
    obtain rfl : k = i := by simpa [answered] using now
    exact fun twice => going (twice ▸ h.ended j before)
  · intro j reads
    rcases ended.conflicting j reads with found | ⟨keys, member, own⟩
    · left
      by_cases same : (p.requests i).1 = (p.requests j).1
      · rw [← same] at found
        exact absurd absent found
      · intro none
        exact found ((find_snoc_of_ne same).symm.trans none)
    · exact .inr ⟨keys, List.mem_append_left _ member, own⟩

theorem keptOf_prune (rows : List (Row K P R)) (keys : List K) :
    keptOf (rows.filter fun row => row.key ∉ keys) = fun key =>
      if key ∈ keys then none else keptOf rows key := by
  funext key
  rw [keptOf, find_prune]
  split <;> rfl

theorem Inv.prune (h : Inv p kept c) (keys : List K) : Inv p kept (c.prune keys) where
  completed row member := h.completed row (List.mem_of_mem_filter member)
  replayed := by
    simp only [Config.prune, Kept.replay_snoc, Kept.after, h.replayed, keptOf_prune]
  free i holds := by
    simp only [Config.prune, find_prune]
    split
    · rfl
    · exact h.free i holds
  exclusive := h.exclusive
  serial := h.serial.snoc fun _ => trivial
  ended i member := h.ended i (by simpa [Config.prune, answered_append, answered] using member)
  once := by simpa [Config.prune, answered_append, answered] using h.once
  conflicting i reads := by
    simp only [Config.prune, find_prune]
    by_cases pruned : (p.requests i).1 ∈ keys
    · exact .inr ⟨keys, List.mem_append_right _ List.mem_cons_self, pruned⟩
    · rw [if_neg pruned]
      refine (h.conflicting i reads).imp_right fun gone => ?_
      obtain ⟨keys', member, own⟩ := gone
      exact ⟨keys', List.mem_append_left _ member, own⟩
  missed := h.missed.snoc fun _ => nofun

variable [DecidableEq P]

/-- The answer that is read is the one that the kept results give, if there is a receipt. -/
theorem allows_readReceipt (h : Inv p kept c) (i : Nat)
    (found : readReceipt (p.requests i).2 (find c.rows (p.requests i).1) ≠ .missing) :
    (keptOf c.rows).Allows p.requests
      (.answered i (readReceipt (p.requests i).2 (find c.rows (p.requests i).1))) := by
  unfold readReceipt at found ⊢
  split
  · rename_i absent
    rw [absent] at found
    exact absurd rfl found
  · rename_i row found
    split
    · rename_i differs
      cases stored : row.result with
      | none => exact absurd stored (h.completed row (find_some found).1)
      | some result => exact ⟨row.request, result, by simp [keptOf, found, stored], differs⟩
    · rename_i same
      rw [not_not] at same
      split
      · rename_i unfinished
        exact absurd unfinished (h.completed row (find_some found).1)
      · rename_i result stored
        simp [Kept.Allows, keptOf, found, stored, same]

omit [DecidableEq K] in
theorem readReceipt_created (request : P) (row : Option (Row K P R)) (result : R) :
    readReceipt request row ≠ .created result := by
  unfold readReceipt
  split
  · nofun
  · split
    · nofun
    · split <;> nofun

omit [DecidableEq K] in
theorem readReceipt_missing {request : P} {row : Option (Row K P R)}
    (missing : readReceipt request row = .missing) : row = none := by
  unfold readReceipt at missing
  split at missing
  · rfl
  · split at missing
    · cases missing
    · split at missing <;> cases missing

theorem Inv.step (h : Inv p kept c) (step : Step p c c') : Inv p kept c' := by
  cases step with
  | @insert i idle createdAt absent free =>
      refine h.enter (by rw [idle]; nofun) (fun _ => absent) (fun _ j _ holds => free j holds) nofun
  | @conflict i idle taken =>
      exact h.enter (by rw [idle]; nofun) nofun nofun fun _ => taken
  | @read i conflicting =>
      refine h.answer (by rw [conflicting]; nofun)
        (fun result => readReceipt_created _ _ result) (allows_readReceipt h i) fun missing => ?_
      have absent := readReceipt_missing missing
      exact ⟨by rw [keptOf, absent]; rfl,
        (h.conflicting i conflicting).resolve_left fun found => found absent⟩
  | @complete i createdAt inserted result works =>
      have holds : (c.stage i).holds = true := by rw [inserted]; rfl
      refine h.enter (by rw [inserted]; nofun) (fun _ => h.free i holds) ?_ nofun
      exact fun _ j other held same => other (h.exclusive j i held holds same)
  | commit completed => exact h.commit completed
  | @rollback i holds =>
      refine h.enter (fun ended => ?_) nofun nofun nofun
      rw [ended] at holds
      cases holds
  | prune prunes => exact h.prune _

theorem Inv.run (h : Inv p kept c) (run : ReflTransGen (Step p) c c') : Inv p kept c' := by
  induction run with
  | refl => exact h
  | tail _ step ih => exact ih.step step

/-- Where the entries of the log come from. -/
structure Accountable (p : Protocol K P R) (c : Config K P R) : Prop where
  works : ∀ i createdAt result, c.stage i = .completed createdAt result → p.works i result
  created : ∀ i result, .answered i (.created result) ∈ c.log → p.works i result
  pruned : ∀ keys, .pruned keys ∈ c.log → ∃ rows, p.prunes rows keys

omit [DecidableEq K] [DecidableEq P] in
theorem accountable_start (rows : List (Row K P R)) : Accountable p (.start rows) where
  works _ _ _ completed := nomatch completed
  created _ _ none := absurd none List.not_mem_nil
  pruned _ none := absurd none List.not_mem_nil

omit [DecidableEq K] [DecidableEq P] in
theorem Accountable.enter (h : Accountable p c) {i : Nat} {stage : Stage R}
    (works : ∀ createdAt result, stage = .completed createdAt result → p.works i result) :
    Accountable p (c.enter i stage) where
  works j createdAt result completed := by
    by_cases same : j = i
    · subst same
      simp only [Config.enter, Function.update_self] at completed
      exact works createdAt result completed
    · simp only [Config.enter, Function.update_of_ne same] at completed
      exact h.works j createdAt result completed
  created := h.created
  pruned := h.pruned

omit [DecidableEq K] [DecidableEq P] in
theorem Accountable.answer (h : Accountable p c) {i : Nat} {answer : Answer R}
    (works : ∀ result, answer = .created result → p.works i result) :
    Accountable p (c.answer i answer) where
  works j createdAt other completed := by
    have ended : Accountable p (c.enter i .ended) := h.enter nofun
    exact ended.works j createdAt other completed
  created j result member := by
    rcases List.mem_append.mp member with before | now
    · exact h.created j result before
    · cases List.mem_singleton.mp now
      exact works result rfl
  pruned keys member := by
    rcases List.mem_append.mp member with before | now
    · exact h.pruned keys before
    · cases List.mem_singleton.mp now

theorem Accountable.step (h : Accountable p c) (step : Step p c c') : Accountable p c' := by
  cases step with
  | insert idle createdAt absent free => exact h.enter nofun
  | conflict idle taken => exact h.enter nofun
  | read conflicting =>
      exact h.answer fun result same => absurd same (readReceipt_created _ _ result)
  | complete inserted result works =>
      apply h.enter
      intro createdAt other same
      cases same
      exact works
  | commit completed =>
      have after : Accountable p (c.answer _ (.created _)) := h.answer fun result same => by
        cases same
        exact h.works _ _ _ completed
      exact ⟨after.works, after.created, after.pruned⟩
  | rollback holds => exact h.enter nofun
  | @prune keys prunes =>
      refine ⟨h.works, fun i result member => ?_, fun others member => ?_⟩
      · rcases List.mem_append.mp member with before | now
        · exact h.created i result before
        · cases List.mem_singleton.mp now
      · rcases List.mem_append.mp member with before | now
        · exact h.pruned others before
        · cases List.mem_singleton.mp now
          exact ⟨c.rows, prunes⟩

theorem Accountable.run (h : Accountable p c) (run : ReflTransGen (Step p) c c') :
    Accountable p c' := by
  induction run with
  | refl => exact h
  | tail _ step ih => exact ih.step step

end Runs

end Transactions.UniqueKey
