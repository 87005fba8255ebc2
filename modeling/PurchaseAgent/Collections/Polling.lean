import Mathlib.Logic.Relation
import PurchaseAgent.Collections.Keyset

/-!
Polling a growing list by position: each answer shows the first elements behind
the position, and its latest element is the next position. Whatever is appended
in between, the answers make up the elements behind the first position.
-/

namespace Collections.Polling
open Relation

variable {α σ ε : Type} {key : α → Nat}

def behind (key : α → Nat) (position : Nat) (xs : List α) : List α :=
  Keyset.after key (some position) xs

theorem mem_behind {position : Nat} {xs : List α} {x : α} :
    x ∈ behind key position xs ↔ x ∈ xs ∧ position < key x := by
  simp [behind, Keyset.mem_after]

theorem behind_append (position : Nat) (xs ys : List α) :
    behind key position (xs ++ ys) = behind key position xs ++ behind key position ys :=
  List.filter_append ..

theorem behind_all {position : Nat} {xs : List α} (h : ∀ x ∈ xs, position < key x) :
    behind key position xs = xs :=
  List.filter_eq_self.mpr fun x member => by simpa using h x member

/-- What a poll brings. -/
structure Answer (α : Type) where
  latest : Nat
  hasMore : Bool
  items : List α
deriving DecidableEq

def answer (key : α → Nat) (position limit : Nat) (xs : List α) : Answer α where
  latest := (((behind key position xs).take limit).getLast?.map key).getD position
  hasMore := decide (limit < (behind key position xs).length)
  items := (behind key position xs).take limit

/-- Behind the latest element of an answer is what it left out. -/
theorem behind_latest {position limit : Nat} {xs : List α} (positive : 0 < limit)
    (sorted : xs.Pairwise fun a b => key a < key b) :
    behind key (answer key position limit xs).latest xs = (behind key position xs).drop limit := by
  cases found : ((behind key position xs).take limit).getLast? with
  | none =>
      have empty : behind key position xs = [] := by
        have none := List.getLast?_eq_none_iff.mp found
        exact (List.take_eq_nil_iff.mp none).resolve_left (by omega)
      change behind key ((((behind key position xs).take limit).getLast?.map key).getD position) xs =
        _
      rw [found, empty, List.drop_nil]
      exact empty
  | some last =>
      simp only [answer, found, Option.map_some, Option.getD_some]
      exact Keyset.after_last sorted found

/-- There is more when there are elements behind the latest one. -/
theorem hasMore_iff {position limit : Nat} {xs : List α} (positive : 0 < limit)
    (sorted : xs.Pairwise fun a b => key a < key b) :
    (answer key position limit xs).hasMore = true ↔
      ∃ x ∈ xs, (answer key position limit xs).latest < key x := by
  have left : behind key (answer key position limit xs).latest xs =
      (behind key position xs).drop limit := behind_latest positive sorted
  constructor
  · intro more
    have longer : limit < (behind key position xs).length := of_decide_eq_true more
    have rest : 0 < (behind key (answer key position limit xs).latest xs).length := by
      rw [left, List.length_drop]
      omega
    obtain ⟨x, member⟩ := List.exists_mem_of_length_pos rest
    exact ⟨x, mem_behind.mp member⟩
  · rintro ⟨x, member, later⟩
    have inside : x ∈ (behind key position xs).drop limit :=
      left ▸ mem_behind.mpr ⟨member, later⟩
    have longer := List.length_pos_of_mem inside
    rw [List.length_drop] at longer
    exact decide_eq_true (by omega)

/-- A client and what it has been answered so far. -/
structure Client (α : Type) where
  position : Nat
  gathered : List α

def Client.take (client : Client α) (answer : Answer α) : Client α :=
  ⟨answer.latest, client.gathered ++ answer.items⟩

/-- The client has seen the elements behind `start` up to its position. -/
structure Follows (key : α → Nat) (start : Nat) (xs : List α) (client : Client α) : Prop where
  split : client.gathered ++ behind key client.position xs = behind key start xs
  position : client.position = (client.gathered.getLast?.map key).getD start

namespace Follows
variable {start : Nat} {xs ys : List α} {client : Client α}

theorem initial (start : Nat) (xs : List α) : Follows key start xs ⟨start, []⟩ := ⟨rfl, rfl⟩

theorem isPrefix (h : Follows key start xs client) : client.gathered <+: behind key start xs :=
  ⟨_, h.split⟩

theorem grow (h : Follows key start xs client)
    (sorted : (xs ++ ys).Pairwise fun a b => key a < key b) :
    Follows key start (xs ++ ys) client := by
  refine ⟨?_, h.position⟩
  rw [behind_append, behind_append, ← List.append_assoc, h.split]
  congr 1
  cases found : client.gathered.getLast? with
  | none => rw [h.position, found, Option.map_none, Option.getD_none]
  | some last =>
      -- all that is new lies behind the last element that was shown
      have shown : last ∈ behind key start xs :=
        h.isPrefix.mem (List.mem_of_getLast? found)
      obtain ⟨member, after⟩ := mem_behind.mp shown
      have position : client.position = key last := by
        rw [h.position, found, Option.map_some, Option.getD_some]
      have newer : ∀ y ∈ ys, key last < key y :=
        (List.pairwise_append.mp sorted).2.2 last member
      rw [position, behind_all newer, behind_all fun y inside => after.trans (newer y inside)]

theorem answered (h : Follows key start xs client) {limit : Nat} (positive : 0 < limit)
    (sorted : xs.Pairwise fun a b => key a < key b) :
    Follows key start xs (client.take (answer key client.position limit xs)) := by
  refine ⟨?_, ?_⟩
  · change (client.gathered ++ (behind key client.position xs).take limit) ++
      behind key (answer key client.position limit xs).latest xs = _
    rw [behind_latest positive sorted, List.append_assoc, List.take_append_drop, h.split]
  · change (((behind key client.position xs).take limit).getLast?.map key).getD client.position =
      ((client.gathered ++ (behind key client.position xs).take limit).getLast?.map key).getD start
    rw [List.getLast?_append]
    cases ((behind key client.position xs).take limit).getLast? with
    | none => exact h.position
    | some last => rfl

end Follows

section Runs
variable (grows : σ → σ → Prop) (read : σ → Nat → Nat → Except ε (Answer α))

/-- A call: the state is read, and read again later as long as nothing was found
and time is left. -/
inductive Answered (position limit : Nat) : σ → σ → Answer α → Prop
  | returned {s : σ} {a : Answer α} (reads : read s position limit = .ok a) :
      Answered position limit s s a
  | waited {s s' s'' : σ} {a a' : Answer α} (reads : read s position limit = .ok a)
      (empty : a.items = []) (grown : ReflTransGen grows s s')
      (rest : Answered position limit s' s'' a') : Answered position limit s s'' a'

/-- The list grows, or the client is answered and goes on from the latest element. -/
inductive Step : σ × Client α → σ × Client α → Prop
  | grew {s s' : σ} {client : Client α} (grown : grows s s') : Step (s, client) (s', client)
  | called {s s' : σ} {client : Client α} {limit : Nat} {a : Answer α} (positive : 0 < limit)
      (answered : Answered grows read client.position limit s s' a) :
      Step (s, client) (s', client.take a)

end Runs

/-- Readers over an append-only list, with the invariant that makes them work. -/
structure Serves (grows : σ → σ → Prop) (read : σ → Nat → Nat → Except ε (Answer α))
    (key : α → Nat) (visible : σ → List α) (invariant : σ → Prop) : Prop where
  keeps : ∀ s s', invariant s → grows s s' → invariant s'
  appends : ∀ s s', invariant s → grows s s' → visible s <+: visible s'
  sorted : ∀ s, invariant s → (visible s).Pairwise fun a b => key a < key b
  reads : ∀ s position limit a, invariant s → 0 < limit → read s position limit = .ok a →
    a = answer key position limit (visible s)

namespace Serves
variable {grows : σ → σ → Prop} {read : σ → Nat → Nat → Except ε (Answer α)}
  {visible : σ → List α} {invariant : σ → Prop}

theorem follows_grown (h : Serves grows read key visible invariant) {s s' : σ} {start : Nat}
    {client : Client α} (grown : ReflTransGen grows s s') (holds : invariant s)
    (follows : Follows key start (visible s) client) :
    invariant s' ∧ Follows key start (visible s') client := by
  induction grown with
  | refl => exact ⟨holds, follows⟩
  | tail _ step ih =>
      obtain ⟨new, appended⟩ := h.appends _ _ ih.1 step
      have kept := h.keeps _ _ ih.1 step
      refine ⟨kept, appended ▸ ih.2.grow ?_⟩
      rw [appended]
      exact h.sorted _ kept

/-- An answer is that of one read, of the state the call ends in. -/
theorem answered_read (h : Serves grows read key visible invariant) {s s' : σ} {start limit : Nat}
    {client : Client α} {a : Answer α}
    (answered : Answered grows read client.position limit s s' a) (holds : invariant s)
    (follows : Follows key start (visible s) client) :
    read s' client.position limit = .ok a ∧ invariant s' ∧
      Follows key start (visible s') client := by
  induction answered with
  | returned reads => exact ⟨reads, holds, follows⟩
  | waited _ _ grown _ ih =>
      obtain ⟨holds, follows⟩ := h.follows_grown grown holds follows
      exact ih holds follows

theorem step (h : Serves grows read key visible invariant) {start : Nat} {s s' : σ}
    {client client' : Client α} (step : Step grows read (s, client) (s', client'))
    (holds : invariant s) (follows : Follows key start (visible s) client) :
    invariant s' ∧ Follows key start (visible s') client' := by
  cases step with
  | grew grown => exact h.follows_grown (.single grown) holds follows
  | called positive answered =>
      obtain ⟨reads, holds, follows⟩ := h.answered_read answered holds follows
      obtain rfl := h.reads _ _ _ _ holds positive reads
      exact ⟨holds, follows.answered positive (h.sorted _ holds)⟩

theorem run (h : Serves grows read key visible invariant) {start : Nat} {before after : σ × Client α}
    (run : ReflTransGen (Step grows read) before after) (holds : invariant before.1)
    (follows : Follows key start (visible before.1) before.2) :
    invariant after.1 ∧ Follows key start (visible after.1) after.2 := by
  induction run with
  | refl => exact ⟨holds, follows⟩
  | tail _ last ih => exact h.step last ih.1 ih.2

end Serves
end Collections.Polling
