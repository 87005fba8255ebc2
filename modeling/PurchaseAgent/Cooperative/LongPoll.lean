import Mathlib.Data.Nat.Init

/-!
Long polling against a deadline: a state is read, and read again after sleeps, until a
reading shows something or the deadline has come. The clock stands still except in sleep,
where it advances by the requested delay or more, so the time that is left bounds the
rounds. Between the actions the state may change in any other way.
-/

namespace Cooperative

/-- A clock with what happens to the state while the caller sleeps or reads. -/
structure Waiter (σ : Type) where
  monotonic : σ → Int
  sleep (delay : Int) : σ → σ
  meanwhile : σ → σ
  slept (delay : Int) (s : σ) : monotonic s + delay ≤ monotonic (sleep delay s)
  stands (s : σ) : monotonic (meanwhile s) = monotonic s

namespace LongPoll
variable {σ ε ρ : Type}

/-- An action with the state in which it was started. -/
inductive Action (σ ε ρ : Type) where
  | read (s : σ) (answer : Except ε ρ)
  | sleep (s : σ) (delay : Int)

/-- A call that has returned: its actions, the last state and what it returned or raised. -/
structure Returned (σ ε ρ : Type) where
  actions : List (Action σ ε ρ)
  final : σ
  result : Except ε ρ

/-- The call with more actions in front. -/
def Returned.after (earlier : List (Action σ ε ρ)) (returned : Returned σ ε ρ) :
    Returned σ ε ρ :=
  { returned with actions := earlier ++ returned.actions }

section Loop
variable (waiter : Waiter σ) (read : σ → Except ε ρ) (found : ρ → Bool)

/-- A reading, which is returned if it raises, shows anything or is the last one. -/
def readUnless (s : σ) (last : Bool) (next : Option (Returned σ ε ρ)) :
    Option (Returned σ ε ρ) :=
  match read s with
  | .error error => some ⟨[.read s (read s)], waiter.meanwhile s, .error error⟩
  | .ok page =>
    if found page || last then some ⟨[.read s (read s)], waiter.meanwhile s, .ok page⟩
    else next.map (Returned.after [.read s (read s)])

/-- The loop behind the first reading, for as many rounds as there is fuel. -/
def loop (pollInterval deadline : Int) : Nat → σ → Option (Returned σ ε ρ)
  | 0, _ => none
  | fuel + 1, s =>
    if deadline - waiter.monotonic s ≤ 0 then
      some ⟨[.read s (read s)], waiter.meanwhile s, read s⟩
    else
      let delay := min pollInterval (deadline - waiter.monotonic s)
      let woken := waiter.sleep delay s
      let after := waiter.meanwhile woken
      (readUnless waiter read found woken (deadline ≤ waiter.monotonic after)
        (loop pollInterval deadline fuel after)).map (Returned.after [.sleep s delay])

/-- A call: what is absent raises, the first reading is returned if it shows anything or
there is no time to wait, and otherwise the loop runs up to the deadline. -/
def call (absent : σ → Option ε) (pollInterval timeout : Int) (fuel : Nat) (s : σ) :
    Option (Returned σ ε ρ) :=
  let opened := waiter.meanwhile s
  let after := waiter.meanwhile opened
  match absent s with
  | some error => some ⟨[], opened, .error error⟩
  | none =>
    readUnless waiter read found opened (timeout ≤ 0)
      (loop waiter read found pollInterval (waiter.monotonic after + timeout) fuel after)

end Loop

/-- What is promised of a call that has read something: the answers are those of the states
that were read, all but the last of them were pages that showed nothing, the last one is
returned, it only shows nothing once the deadline has come, and no sleep is longer than the
interval or the time that was left. -/
structure Prompt (waiter : Waiter σ) (read : σ → Except ε ρ) (found : ρ → Bool)
    (pollInterval deadline : Int) (returned : Returned σ ε ρ) : Prop where
  reads : ∀ s answer, .read s answer ∈ returned.actions → answer = read s
  answers : ∃ earlier s, returned.actions = earlier ++ [.read s returned.result] ∧
    ∀ s' answer, .read s' answer ∈ earlier → ∃ page, answer = .ok page ∧ found page = false
  timely : ∀ page, returned.result = .ok page → found page = false →
    deadline ≤ waiter.monotonic returned.final
  sleeps : ∀ s delay, .sleep s delay ∈ returned.actions →
    0 < delay ∧ delay ≤ pollInterval ∧ delay ≤ deadline - waiter.monotonic s

/-- With so much fuel or more, the call returns and keeps the promise. -/
def Settles (waiter : Waiter σ) (read : σ → Except ε ρ) (found : ρ → Bool)
    (pollInterval deadline : Int) (enough : Nat) (run : Nat → Option (Returned σ ε ρ)) : Prop :=
  ∃ returned, Prompt waiter read found pollInterval deadline returned ∧
    ∀ fuel, enough ≤ fuel → run fuel = some returned

namespace Prompt
variable {waiter : Waiter σ} {read : σ → Except ε ρ} {found : ρ → Bool}
  {pollInterval deadline : Int} {returned : Returned σ ε ρ}

/-- Readings that show nothing, and sleeps that keep to the time, may come first. -/
theorem after (h : Prompt waiter read found pollInterval deadline returned)
    {earlier : List (Action σ ε ρ)}
    (reads : ∀ s answer, .read s answer ∈ earlier →
      answer = read s ∧ ∃ page, answer = .ok page ∧ found page = false)
    (sleeps : ∀ s delay, .sleep s delay ∈ earlier →
      0 < delay ∧ delay ≤ pollInterval ∧ delay ≤ deadline - waiter.monotonic s) :
    Prompt waiter read found pollInterval deadline (returned.after earlier) := by
  obtain ⟨before, last, actions, shown⟩ := h.answers
  refine ⟨?_, ⟨earlier ++ before, last, ?_, ?_⟩, h.timely, ?_⟩
  · intro s answer member
    cases List.mem_append.mp member with
    | inl front => exact (reads s answer front).1
    | inr back => exact h.reads s answer back
  · change earlier ++ returned.actions = _
    rw [actions, List.append_assoc]
    rfl
  · intro s answer member
    cases List.mem_append.mp member with
    | inl front => exact (reads s answer front).2
    | inr back => exact shown s answer back
  · intro s delay member
    cases List.mem_append.mp member with
    | inl front => exact sleeps s delay front
    | inr back => exact h.sleeps s delay back

/-- One reading, which ends the call when it shows something or the deadline has come. -/
theorem once {s final : σ}
    (timely : ∀ page, read s = .ok page → found page = false →
      deadline ≤ waiter.monotonic final) :
    Prompt waiter read found pollInterval deadline ⟨[.read s (read s)], final, read s⟩ where
  reads := by
    intro s' answer member
    cases List.mem_singleton.mp member
    rfl
  answers := ⟨[], s, rfl, by simp⟩
  timely := timely
  sleeps := by simp

end Prompt

section Termination
variable {waiter : Waiter σ} {read : σ → Except ε ρ} {found : ρ → Bool}
  {pollInterval deadline : Int}

/-- A sleep within the interval and the time that is left comes in front. -/
theorem Prompt.afterSleep {returned : Returned σ ε ρ}
    (h : Prompt waiter read found pollInterval deadline returned) (positive : 0 < pollInterval)
    {s : σ} (left : 0 < deadline - waiter.monotonic s) :
    Prompt waiter read found pollInterval deadline
      (returned.after [.sleep s (min pollInterval (deadline - waiter.monotonic s))]) := by
  refine h.after (by simp) fun s' delay member => ?_
  cases List.mem_singleton.mp member
  exact ⟨by omega, by omega, by omega⟩

/-- A reading that shows nothing comes in front. -/
theorem Prompt.afterRead {returned : Returned σ ε ρ}
    (h : Prompt waiter read found pollInterval deadline returned) {s : σ} {page : ρ}
    (answer : read s = .ok page) (empty : found page = false) :
    Prompt waiter read found pollInterval deadline
      (returned.after [.read s (read s)]) := by
  refine h.after (fun s' answer' member => ?_) (by simp)
  cases List.mem_singleton.mp member
  exact ⟨rfl, page, answer, empty⟩

/-- A reading keeps the promise if what follows it does, or it is the last one in time. -/
theorem Settles.readUnless {s : σ} {last : Bool} {enough : Nat}
    {next : Nat → Option (Returned σ ε ρ)}
    (late : last = true → deadline ≤ waiter.monotonic s)
    (rest : last = false → Settles waiter read found pollInterval deadline enough next) :
    Settles waiter read found pollInterval deadline enough fun fuel =>
      LongPoll.readUnless waiter read found s last (next fuel) := by
  have stands := waiter.stands s
  cases answer : read s with
  | error error =>
      refine ⟨⟨[.read s (read s)], waiter.meanwhile s, read s⟩, .once fun page shown => ?_,
        fun fuel _ => ?_⟩
      · rw [answer] at shown
        cases shown
      · simp only [LongPoll.readUnless, answer]
  | ok page =>
      by_cases ends : (found page || last) = true
      · refine ⟨⟨[.read s (read s)], waiter.meanwhile s, read s⟩,
          .once fun page' shown empty => ?_, fun fuel _ => ?_⟩
        · rw [answer] at shown
          cases shown
          rw [empty, Bool.false_or] at ends
          rw [stands]
          exact late ends
        · simp only [LongPoll.readUnless, answer, ends, if_true]
      · have empty : found page = false ∧ last = false := by simpa using ends
        obtain ⟨returned, prompt, returns⟩ := rest empty.2
        refine ⟨_, prompt.afterRead answer empty.1, fun fuel more => ?_⟩
        simp only [LongPoll.readUnless, answer, ends, returns fuel more, Option.map_some]
        rfl

/-- The loop returns when there is more fuel than time is left. -/
theorem loop_settles (positive : 0 < pollInterval) (s : σ) :
    Settles waiter read found pollInterval deadline ((deadline - waiter.monotonic s).toNat + 1)
      fun fuel => loop waiter read found pollInterval deadline fuel s := by
  induction left : (deadline - waiter.monotonic s).toNat using Nat.strong_induction_on
    generalizing s with
  | h n ih =>
  by_cases late : deadline - waiter.monotonic s ≤ 0
  · refine ⟨⟨[.read s (read s)], waiter.meanwhile s, read s⟩, .once fun _ _ _ => ?_, ?_⟩
    · rw [waiter.stands]
      omega
    · intro fuel more
      cases fuel with
      | zero => omega
      | succ fuel => simp only [loop, late, if_true]
  · have remaining : 0 < deadline - waiter.monotonic s := by omega
    -- the sleep takes at least one tick off the time that is left
    have advanced := waiter.slept (min pollInterval (deadline - waiter.monotonic s)) s
    have stands := waiter.stands
      (waiter.sleep (min pollInterval (deadline - waiter.monotonic s)) s)
    have reading : Settles waiter read found pollInterval deadline n fun fuel =>
        readUnless waiter read found
          (waiter.sleep (min pollInterval (deadline - waiter.monotonic s)) s)
          (deadline ≤ waiter.monotonic (waiter.meanwhile
            (waiter.sleep (min pollInterval (deadline - waiter.monotonic s)) s)))
          (loop waiter read found pollInterval deadline fuel (waiter.meanwhile
            (waiter.sleep (min pollInterval (deadline - waiter.monotonic s)) s))) := by
      refine Settles.readUnless (fun last => ?_) fun _ => ?_
      · have := of_decide_eq_true last
        omega
      · obtain ⟨returned, prompt, returns⟩ := ih (deadline - waiter.monotonic (waiter.meanwhile
          (waiter.sleep (min pollInterval (deadline - waiter.monotonic s)) s))).toNat
          (by omega) _ rfl
        exact ⟨returned, prompt, fun fuel more => returns fuel (by omega)⟩
    obtain ⟨returned, prompt, returns⟩ := reading
    refine ⟨_, prompt.afterSleep positive remaining, fun fuel more => ?_⟩
    cases fuel with
    | zero => omega
    | succ fuel =>
        simp only [loop, late, if_false]
        exact congrArg (Option.map _) (returns fuel (by omega))

/-- A call of what is there returns before it could sleep more often than the timeout has
ticks. -/
theorem call_settles (positive : 0 < pollInterval) {timeout : Int} (waits : 0 < timeout)
    {absent : σ → Option ε} {s : σ} (present : absent s = none) :
    Settles waiter read found pollInterval (waiter.monotonic s + timeout) (timeout.toNat + 1)
      fun fuel => call waiter read found absent pollInterval timeout fuel s := by
  have opened := waiter.stands s
  have after := waiter.stands (waiter.meanwhile s)
  have reading : Settles waiter read found pollInterval (waiter.monotonic s + timeout)
      (timeout.toNat + 1) fun fuel =>
        readUnless waiter read found (waiter.meanwhile s) (timeout ≤ 0)
          (loop waiter read found pollInterval
            (waiter.monotonic (waiter.meanwhile (waiter.meanwhile s)) + timeout) fuel
            (waiter.meanwhile (waiter.meanwhile s))) := by
    refine Settles.readUnless (fun last => ?_) fun _ => ?_
    · have := of_decide_eq_true last
      omega
    · rw [after, opened]
      have left : waiter.monotonic s + timeout -
          waiter.monotonic (waiter.meanwhile (waiter.meanwhile s)) = timeout := by omega
      have settles := @loop_settles σ ε ρ waiter read found pollInterval
        (waiter.monotonic s + timeout) positive (waiter.meanwhile (waiter.meanwhile s))
      rwa [left] at settles
  simp only [call, present]
  exact reading

end Termination
end LongPoll
end Cooperative
