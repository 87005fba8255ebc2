import PurchaseAgent.Cooperative.Receipts

/-!
The protocol of the receipts as a discipline: whoever begins with its own
request, works only at the stages meant for it, completes what succeeded and
aborts what failed keeps the receipts sound, in any interleaving.
-/

namespace Cooperative.Receipts

open Collections

variable {K P R S : Type} [DecidableEq K] [DecidableEq P] {F : Signature} {M : Machine F S}

/-- Receipts in use: what each task asks for, what its work may do at which
stage, what the work keeps and what is known of a result from then on. -/
structure Protocol (K P R : Type) (M : Machine F S) where
  requests : TaskId → K × P
  /-- The tasks that have a request. -/
  uses : TaskId → Prop
  work : TaskId → F.Op → Option (Stage R) → Prop
  invariant : S → Prop
  good : K → R → S → Prop
  /-- Tasks may also abort after a replay. -/
  abortsReplays : Prop
  keeps : ∀ t o s, invariant s → invariant (M.exec t o s).2
  stable : ∀ t o key r s, invariant s → good key r s → good key r (M.exec t o s).2

namespace Protocol
variable (p : Protocol K P R M)

structure Inv (w : World K P R S) : Prop where
  sound : Sound p.requests w
  users : ∀ t, w.stage t ≠ none → p.uses t
  inner : p.invariant w.inner
  stored : ∀ key request r, w.table.get? key = some ⟨request, some r⟩ → p.good key r w.inner
  pending : ∀ t r, w.stage t = some (.succeeded r) → p.good (p.requests t).1 r w.inner

/-- The operations the protocol allows a task. -/
def Allowed (t : TaskId) : Op K P R F → World K P R S → Prop
  | .begin key request, w => (key, request) = p.requests t ∧ p.uses t ∧ w.stage t = none
  | .complete key result, w => key = (p.requests t).1 ∧ w.stage t = some (.succeeded result)
  | .abort key request, w => (key, request) = p.requests t ∧
      (w.stage t = some .failed ∨
        (p.abortsReplays ∧ ∃ result, w.stage t = some (.replayed result)))
  | .left result, w => w.stage t = some .begun ∧ ∀ r ∈ result, p.good (p.requests t).1 r w.inner
  | .inner o, w => p.work t o (w.stage t)

variable {p} {t : TaskId} {o : Op K P R F} {w : World K P R S}

omit [DecidableEq P] in
/-- Before any request. -/
theorem inv_start {inner : S} (h : p.invariant inner) : p.Inv ⟨[], inner, []⟩ where
  sound := {
    held := fun _ o => absurd o (World.not_open_of_none rfl)
    exclusive := fun _ _ o => absurd o (World.not_open_of_none rfl)
    owned := fun _ _ found => nomatch found
    settled := fun _ _ member => nomatch member
    answers := fun _ _ _ reached => nomatch reached
    once := .nil }
  users := fun _ reached => absurd rfl reached
  inner := h
  stored := fun _ _ _ found => nomatch found
  pending := fun _ _ reached => nomatch reached

/-- An operation reports on the task that performs it only. -/
theorem exec_stage_of_ne {other : TaskId} (differs : other ≠ t) :
    (exec M t o w).2.stage other = w.stage other := by
  cases o with
  | begin key request => exact World.stage_note_of_ne _ differs _
  | complete key result => exact World.stage_note_of_ne _ differs _
  | abort key request => exact World.stage_note_of_ne _ differs _
  | left result =>
      cases result with
      | none => exact World.stage_note_of_ne _ differs _
      | some r => exact World.stage_note_of_ne _ differs _
  | inner o => rfl

theorem Inv.exec_sound (h : p.Inv w) (allowed : p.Allowed t o w) :
    Sound p.requests (exec M t o w).2 ∧ Kept w (exec M t o w).2 := by
  cases o with
  | begin key request =>
      obtain ⟨own, -, fresh⟩ := allowed
      obtain rfl : key = (p.requests t).1 := congrArg Prod.fst own
      obtain rfl : request = (p.requests t).2 := congrArg Prod.snd own
      exact h.sound.begin fresh
  | complete key result =>
      obtain ⟨rfl, success⟩ := allowed
      exact h.sound.complete success
  | abort key request =>
      obtain ⟨own, reached⟩ := allowed
      obtain rfl : key = (p.requests t).1 := congrArg Prod.fst own
      obtain rfl : request = (p.requests t).2 := congrArg Prod.snd own
      rcases reached with failure | ⟨-, result, replayed⟩
      · exact h.sound.abort failure
      · exact h.sound.abort_replayed replayed
  | left result => exact h.sound.left allowed.1 result
  | inner o =>
      exact ⟨⟨h.sound.held, h.sound.exclusive, h.sound.owned, h.sound.settled, h.sound.answers,
        h.sound.once⟩, Kept.refl w⟩

/-- A finished receipt was finished before or completes the success of the task. -/
theorem Inv.finished (h : p.Inv w) (allowed : p.Allowed t o w) {key : K} {request : P} {r : R}
    (found : (exec M t o w).2.table.get? key = some ⟨request, some r⟩) :
    w.table.get? key = some ⟨request, some r⟩ ∨
      (key = (p.requests t).1 ∧ w.stage t = some (.succeeded r)) := by
  cases o with
  | begin own asked =>
      refine .inl ?_
      cases stored : w.table.get? own with
      | none =>
          simp only [exec, World.note_table, begin_of_free stored] at found
          by_cases same : key = own
          · subst same
            rw [Dict.get?_set_self] at found
            simp at found
          · rwa [Dict.get?_set_of_ne _ same] at found
      | some receipt =>
          simpa only [exec, World.note_table, begin_of_stored stored] using found
  | complete own result =>
      obtain ⟨rfl, success⟩ := allowed
      have held := h.sound.held t (.of_stage success rfl)
      simp only [exec, World.note_table, complete_of_held held] at found
      by_cases same : key = (p.requests t).1
      · subst same
        rw [Dict.get?_set_self] at found
        obtain rfl := Option.some.inj (Receipt.mk.inj (Option.some.inj found)).2
        exact .inr ⟨rfl, success⟩
      · rw [Dict.get?_set_of_ne _ same] at found
        exact .inl found
  | abort own asked =>
      refine .inl ?_
      simp only [exec, World.note_table, Table.abort] at found
      split at found
      · split at found
        · by_cases same : key = own
          · subst same
            rw [Dict.get?_erase_self] at found
            cases found
          · rwa [Dict.get?_erase_of_ne _ same] at found
        · exact found
      · exact found
  | left result =>
      cases result with
      | none => exact .inl found
      | some r => exact .inl found
  | inner o => exact .inl found

theorem Inv.exec (h : p.Inv w) (allowed : p.Allowed t o w) : p.Inv (exec M t o w).2 := by
  have stays : ∀ key r, p.good key r w.inner → p.good key r (Receipts.exec M t o w).2.inner := by
    intro key r known
    cases o with
    | inner o => exact p.stable t o key r w.inner h.inner known
    | left result => cases result <;> exact known
    | _ => exact known
  have inner : p.invariant (Receipts.exec M t o w).2.inner := by
    cases o with
    | inner o => exact p.keeps t o w.inner h.inner
    | left result => cases result <;> exact h.inner
    | _ => exact h.inner
  have users : ∀ t', (Receipts.exec M t o w).2.stage t' ≠ none → p.uses t' := by
    intro t' reached
    by_cases same : t' = t
    · subst same
      cases o with
      | begin key request => exact allowed.2.1
      | complete key result => exact h.users t' (by simp [allowed.2])
      | abort key request =>
          rcases allowed.2 with failed | ⟨-, result, replayed⟩
          · exact h.users t' (by simp [failed])
          · exact h.users t' (by simp [replayed])
      | left result => exact h.users t' (by simp [allowed.1])
      | inner o => exact h.users t' reached
    · rw [exec_stage_of_ne same] at reached
      exact h.users t' reached
  refine ⟨(h.exec_sound allowed).1, users, inner, fun key request r found => ?_, fun t' r reached => ?_⟩
  · rcases h.finished allowed found with stored | ⟨rfl, success⟩
    · exact stays key r (h.stored key request r stored)
    · exact stays _ r (h.pending t r success)
  · by_cases same : t' = t
    · subst same
      cases o with
      | begin key request =>
          simp only [Receipts.exec, World.stage_note_self] at reached
          unfold begunStage at reached
          split at reached <;> cases reached
      | left result =>
          cases result with
          | none =>
              simp only [Receipts.exec, World.stage_note_self] at reached
              cases reached
          | some result =>
              simp only [Receipts.exec, World.stage_note_self, Option.some.injEq,
                Stage.succeeded.injEq] at reached
              subst reached
              exact allowed.2 _ rfl
      | inner o => exact stays _ r (h.pending t' r reached)
      | complete key result =>
          simp only [Receipts.exec, World.stage_note_self] at reached
          cases reached
      | abort key request =>
          simp only [Receipts.exec, World.stage_note_self] at reached
          unfold abortedStage at reached
          split at reached <;> cases reached
    · exact stays _ r (h.pending t' r ((exec_stage_of_ne same).symm.trans reached))

variable (p)

/-- Others leave the stage of a task and the finished receipts alone. -/
def discipline : Discipline (machine K P R M) where
  rely t w w' := p.Inv w → p.Inv w' ∧ w'.stage t = w.stage t ∧ Kept w w'
  guarantee t o w w' := p.Inv w → p.Allowed t o w ∧ p.Inv w' ∧
    (∀ other, other ≠ t → w'.stage other = w.stage other) ∧ Kept w w'
  rely_refl _ w h := ⟨h, rfl, Kept.refl w⟩
  rely_trans _ w₁ w₂ w₃ first second h := by
    obtain ⟨inv, stage, kept⟩ := first h
    obtain ⟨inv', stage', kept'⟩ := second inv
    exact ⟨inv', stage'.trans stage, kept.trans kept'⟩

variable {p} {α β : Type} {Q : α → World K P R S → Prop}

/-- The rule for one operation, wherever the others have led. -/
theorem safe_step {next : o.Answer → Prog (signature K P R F) α} (h : p.Inv w)
    (step : ∀ w', p.Inv w' → w'.stage t = w.stage t → Kept w w' → p.Allowed t o w' ∧
      (p.Inv (Receipts.exec M t o w').2 → p.discipline.Safe t Q (next (Receipts.exec M t o w').1)
        (Receipts.exec M t o w').2)) :
    p.discipline.Safe t Q (.op o next) w := by
  intro w' arrives _
  have rely : p.discipline.rely t w w' := by
    unfold Discipline.Arrives at arrives
    split at arrives
    · exact arrives
    · subst arrives
      exact p.discipline.rely_refl t _
  obtain ⟨inv, stage, kept⟩ := rely h
  obtain ⟨allowed, later⟩ := step w' inv stage kept
  exact ⟨fun _ => ⟨allowed, inv.exec allowed, fun _ => exec_stage_of_ne,
    (inv.exec_sound allowed).2⟩, later (inv.exec allowed)⟩

/-- Work meant for the stage the task is at, that ends well whatever it finds. -/
theorem safe_embed (work : Prog F α) (f : α → Prog (signature K P R F) β) {stage : Option (Stage R)}
    {ends : α → S → Prop} {Q : β → World K P R S → Prop} (h : p.Inv w)
    (reached : w.stage t = stage)
    (meant : work.Each (fun _ _ => True) (fun o => p.work t o stage) fun _ => True)
    (ending : (Discipline.anything M).Safe t ends work w.inner)
    (next : ∀ a w', ends a w'.inner → p.Inv w' → w'.stage t = stage → Kept w w' →
      p.discipline.Safe t Q (f a) w') :
    p.discipline.Safe t Q ((embed work).bind f) w := by
  induction work generalizing w with
  | pure a => exact next a w ending h reached (Kept.refl w)
  | op o rest ih =>
      intro w' arrives ready
      have rely : p.discipline.rely t w w' ∧ (Discipline.anything M).Arrives t o w.inner w'.inner := by
        change (if M.awaits o then _ else _) at arrives
        show _ ∧ (if M.awaits o then _ else _)
        split at arrives
        · rename_i awaits
          rw [if_pos awaits]
          exact ⟨arrives, trivial⟩
        · rename_i quiet
          rw [if_neg quiet]
          subst arrives
          exact ⟨p.discipline.rely_refl t _, rfl⟩
      obtain ⟨rely, here⟩ := rely
      obtain ⟨inv, same, kept⟩ := rely h
      have at_stage : w'.stage t = stage := same.trans reached
      have allowed : p.Allowed t (.inner o) w' := by
        show p.work t o (w'.stage t)
        rw [at_stage]
        exact meant.1
      have later := inv.exec allowed
      refine ⟨fun _ => ⟨allowed, later, fun _ => exec_stage_of_ne, (inv.exec_sound allowed).2⟩, ?_⟩
      exact ih _ later at_stage (meant.2 _ trivial) (Discipline.safe_anything_op ending here ready)
        fun a w'' ended inv' stage' kept' => next a w'' ended inv' stage' (kept.trans kept')

variable {c : Config (signature K P R F) (World K P R S) α}

/-- Tasks that follow the protocol keep the receipts sound in any interleaving
and only ever do what the protocol allows. What a task ends with may depend on
the stage it has reached. -/
theorem along (post : TaskId → Option (Stage R) → α → Prop) (start : p.Inv c.shared)
    (idle : c.running = none)
    (safe : ∀ t w, p.Inv w → w.stage t = c.shared.stage t →
      p.discipline.Safe t (fun a w => post t (w.stage t) a) (c.tasks t) w)
    (sched : List TaskId) :
    p.Inv (c.run (machine K P R M) sched).shared ∧
      (∀ t a, (c.run (machine K P R M) sched).tasks t = .pure a →
        post t ((c.run (machine K P R M) sched).shared.stage t) a) ∧
      c.Along (machine K P R M) (fun c t => p.Inv c.shared ∧
        ∀ o, c.Performs (machine K P R M) t o → p.Allowed t o c.shared) sched := by
  have pool : p.discipline.Pool (fun t a w => post t (w.stage t) a) (fun _ => True) c := by
    intro t _
    refine ⟨fun a ended => ?_, fun runs => ?_, fun _ _ w' rely => ?_⟩
    · have safe := safe t c.shared start rfl
      rw [ended] at safe
      exact safe
    · rw [idle] at runs
      cases runs
    · obtain ⟨inv, stage, -⟩ := rely start
      exact safe t w' inv stage
  obtain ⟨last, pool, along⟩ := Discipline.Pool.always (I := p.Inv)
    (fun t o w w' inv keeps => (keeps inv).2.1) (fun c t o inv _ keeps other differs _ => by
      obtain ⟨-, inv', others, kept⟩ := keeps inv
      refine ⟨fun _ _ => ⟨inv', others other differs, kept⟩, fun a _ reached => ?_⟩
      rw [others other differs]
      exact reached) sched pool start
  refine ⟨last, fun t a ended => (pool t trivial).1 a ended,
    Config.along_mono _ (fun c t h => ⟨h.1, fun o performs => ?_⟩) c sched along⟩
  exact (h.2 o performs h.1).1

end Protocol
end Cooperative.Receipts
