import PurchaseAgent.Correctness.Initial

/-!
The invariant of the in-memory world that every operation keeps: the dictionary
leads to missions with its keys, event ids still to be drawn are new to every
log, and a claim number belongs to one task and was reached by its mission. Logs
and the trace only grow.
-/

namespace PurchaseAgent

open Cooperative InMemoryMissionRepository

variable {σ : Type} (env : Environment σ)

/-- Ids drawn from now on are new to the log. -/
def FreshFrom (drawn : Nat) (mission : Mission) : Prop :=
  ∀ event ∈ mission.executionLog, ∀ n, drawn ≤ n → event.eventId ≠ env.newEventId n

structure WellFormed (w : MemoryWorld σ) : Prop where
  consistent : Consistent w
  fresh : ∀ r, Stored w r → FreshFrom env w.idsDrawn (w.mission r)
  reached : ∀ t id n, (t, Event.claimed id n) ∈ w.trace →
    ∀ r, w.repository.missions.get? id = some r → n ≤ (w.mission r).executionAttempts
  unique : ∀ t t' id n, (t, Event.claimed id n) ∈ w.trace → (t', Event.claimed id n) ∈ w.trace →
    t = t'

/-- What can happen to a well-formed world. -/
structure Evolves (w w' : MemoryWorld σ) : Prop where
  wellFormed : WellFormed env w'
  missions : w'.repository.missions = w.repository.missions
  trace : ∀ event ∈ w.trace, event ∈ w'.trace
  logs : ∀ r, (w.mission r).executionLog <+: (w'.mission r).executionLog

variable {env}

theorem WellFormed.freshFor {w : MemoryWorld σ} (h : WellFormed env w) {r : Ref}
    (stored : Stored w r) : (w.mission r).FreshFor (env.newEventId w.idsDrawn) :=
  ⟨env.newEventId_ne_nil _, fun event member => h.fresh r stored event member _ le_rfl⟩

theorem Evolves.refl {w : MemoryWorld σ} (h : WellFormed env w) : Evolves env w w :=
  ⟨h, rfl, fun _ => id, fun _ => List.prefix_rfl⟩

theorem Evolves.trans {w₁ w₂ w₃ : MemoryWorld σ} (h : Evolves env w₁ w₂) (k : Evolves env w₂ w₃) :
    Evolves env w₁ w₃ :=
  ⟨k.wellFormed, k.missions.trans h.missions, fun event member => k.trace event (h.trace event member),
    fun r => (h.logs r).trans (k.logs r)⟩

theorem Evolves.stored {w w' : MemoryWorld σ} (h : Evolves env w w') {r : Ref}
    (stored : Stored w r) : Stored w' r ∧ (w'.mission r).id = (w.mission r).id := by
  have found : w'.repository.missions.get? (w.mission r).id = some r := by
    rw [h.missions]
    exact stored
  have := h.wellFormed.consistent.stored_of_get? found
  exact this

/-- Before any claim. -/
theorem wellFormed_start {w : MemoryWorld σ} (consistent : Consistent w)
    (fresh : ∀ r, Stored w r → FreshFrom env w.idsDrawn (w.mission r)) (trace : w.trace = []) :
    WellFormed env w where
  consistent := consistent
  fresh := fresh
  reached := by simp [trace]
  unique := by simp [trace]

/-- A change of a mission that leaves its identity and its claims alone and adds
at most one event, whose id was drawn in between. -/
structure Extends (env : Environment σ) (drawn drawn' : Nat) (before after : Mission) : Prop where
  id : after.id = before.id
  executionAttempts : after.executionAttempts = before.executionAttempts
  log : after.executionLog = before.executionLog ∨ ∃ event n, drawn ≤ n ∧ n < drawn' ∧
    event.eventId = env.newEventId n ∧ after.executionLog = before.executionLog ++ [event]

theorem Extends.refl (drawn drawn' : Nat) (mission : Mission) :
    Extends env drawn drawn' mission mission :=
  ⟨rfl, rfl, .inl rfl⟩

theorem Extends.logs {drawn drawn' : Nat} {before after : Mission}
    (h : Extends env drawn drawn' before after) : before.executionLog <+: after.executionLog := by
  rcases h.log with same | ⟨event, n, -, -, -, appended⟩
  · exact ⟨[], by rw [same, List.append_nil]⟩
  · exact ⟨_, appended.symm⟩

theorem Extends.fresh {drawn drawn' : Nat} {before after : Mission}
    (h : Extends env drawn drawn' before after) (le : drawn ≤ drawn')
    (fresh : FreshFrom env drawn before) : FreshFrom env drawn' after := by
  intro event member n later
  rcases h.log with same | ⟨added, m, -, bound, id, appended⟩
  · rw [same] at member
    exact fresh event member n (le.trans later)
  · rw [appended, List.mem_append, List.mem_singleton] at member
    rcases member with old | rfl
    · exact fresh event old n (le.trans later)
    · rw [id]
      intro same
      have := env.newEventId_injective same
      omega

def Event.isClaim : Event → Bool
  | .claimed _ _ => true
  | _ => false

/-- The trace grows by events that are not claims. -/
def Quiet (w w' : MemoryWorld σ) : Prop :=
  ∃ events, w'.trace = w.trace ++ events ∧ ∀ event ∈ events, event.2.isClaim = false

theorem Quiet.same {w w' : MemoryWorld σ} (h : w'.trace = w.trace) : Quiet w w' :=
  ⟨[], by simpa using h, by simp⟩

/-- A step without a claim. -/
theorem evolves_of_extends {w w' : MemoryWorld σ} (h : WellFormed env w)
    (missions : w'.repository.missions = w.repository.missions) (drawn : w.idsDrawn ≤ w'.idsDrawn)
    (objects : ∀ r, Extends env w.idsDrawn w'.idsDrawn (w.mission r) (w'.mission r))
    (trace : Quiet w w') : Evolves env w w' := by
  obtain ⟨events, grown, quiet⟩ := trace
  have claims : ∀ t id n, (t, Event.claimed id n) ∈ w'.trace →
      (t, Event.claimed id n) ∈ w.trace := fun t id n member => by
    rw [grown, List.mem_append] at member
    refine member.resolve_right fun new => ?_
    simpa [Event.isClaim] using quiet _ new
  refine ⟨⟨⟨?_, ?_⟩, ?_, ?_, ?_⟩, missions, ?_, fun r => (objects r).logs⟩
  · rw [missions]
    exact h.consistent.keys
  · intro entry member
    rw [missions] at member
    rw [(objects entry.2).id]
    exact h.consistent.ids entry member
  · intro r stored
    rw [Stored, missions, (objects r).id] at stored
    exact (objects r).fresh drawn (h.fresh r stored)
  · intro t id n member r found
    rw [missions] at found
    rw [(objects r).executionAttempts]
    exact h.reached t id n (claims t id n member) r found
  · intro t t' id n member member'
    exact h.unique t t' id n (claims t id n member) (claims t' id n member')
  · intro event member
    rw [grown]
    exact List.mem_append_left _ member

/-- One object changes, with no claim. -/
theorem evolves_setMission {w : MemoryWorld σ} (h : WellFormed env w) {r : Ref} {mission : Mission}
    (extends' : Extends env w.idsDrawn w.idsDrawn (w.mission r) mission) :
    Evolves env w (w.setMission r mission) := by
  refine evolves_of_extends h rfl le_rfl (fun other => ?_) (.same rfl)
  rcases w.setMission_cases r mission other with ⟨rfl, same⟩ | same
  · rw [same]
    exact extends'
  · rw [same]
    exact .refl _ _ _

theorem evolves_drawId {w : MemoryWorld σ} (h : WellFormed env w) : Evolves env w w.drawId :=
  evolves_of_extends h rfl (Nat.le_succ _) (fun _ => .refl _ _ _) (.same rfl)

/-- An event is recorded, possibly after other fields have changed. -/
theorem evolves_append {w : MemoryWorld σ} (h : WellFormed env w) {r : Ref} {mission : Mission}
    {event : ExecutionEvent} (id : mission.id = (w.mission r).id)
    (attempts : mission.executionAttempts = (w.mission r).executionAttempts)
    (log : mission.executionLog = (w.mission r).executionLog)
    (drawn : event.eventId = env.newEventId w.idsDrawn) :
    Evolves env w (w.drawId.setMission r (mission.append event)) := by
  refine evolves_of_extends h rfl (Nat.le_succ _) (fun other => ?_) (.same rfl)
  rcases w.drawId.setMission_cases r (mission.append event) other with ⟨rfl, same⟩ | same
  · rw [same]
    exact ⟨id, attempts, .inr ⟨event, w.idsDrawn, le_rfl, Nat.lt_succ_self _, drawn, by simp [log]⟩⟩
  · rw [same]
    exact .refl _ _ _

theorem evolves_withAttempts {w : MemoryWorld σ} (h : WellFormed env w)
    (attempts : UUID → List MissionExecutionAttempt) : Evolves env w (withAttempts w attempts) :=
  evolves_of_extends h rfl le_rfl (fun _ => .refl _ _ _) (.same rfl)

/-- A claim takes the next attempt number, which no task has claimed. -/
theorem evolves_claimed {w : MemoryWorld σ} (h : WellFormed env w) {r : Ref} (stored : Stored w r)
    (t : TaskId) (currentTime : Time) :
    Evolves env w ((w.setMission r (claimedMission currentTime (w.mission r))).log t
      (.claimed (w.mission r).id ((w.mission r).executionAttempts + 1))) := by
  have cases := w.setMission_cases r (claimedMission currentTime (w.mission r))
  have split : ∀ t' id n, (t', Event.claimed id n) ∈ w.trace ++
      [(t, Event.claimed (w.mission r).id ((w.mission r).executionAttempts + 1))] →
      (t', Event.claimed id n) ∈ w.trace ∨ (t' = t ∧ id = (w.mission r).id ∧
        n = (w.mission r).executionAttempts + 1) := by
    intro t' id n member
    simpa using member
  have unclaimed : ∀ t', (t', Event.claimed (w.mission r).id
      ((w.mission r).executionAttempts + 1)) ∉ w.trace := fun t' member => by
    have := h.reached t' _ _ member r stored
    omega
  refine ⟨⟨⟨h.consistent.keys, ?_⟩, ?_, ?_, ?_⟩, rfl, ?_, ?_⟩
  · intro entry member
    have same := h.consistent.ids entry member
    rcases cases entry.2 with ⟨eq, changed⟩ | unchanged
    · rw [World.log_mission, changed]
      exact (congrArg (fun r => (w.mission r).id) eq).symm.trans same
    · rwa [World.log_mission, unchanged]
  · intro other stored'
    rw [World.log_mission]
    rcases cases other with ⟨rfl, changed⟩ | unchanged
    · rw [changed]
      exact h.fresh other stored
    · rw [unchanged]
      refine h.fresh other ?_
      rwa [Stored, World.log_mission, unchanged] at stored'
  · intro t' id n member other found
    rw [World.log_mission]
    rcases split t' id n member with old | ⟨rfl, rfl, rfl⟩
    · have := h.reached t' id n old other found
      rcases cases other with ⟨rfl, changed⟩ | unchanged
      · rw [changed]
        exact Nat.le_succ_of_le this
      · rwa [unchanged]
    · obtain rfl := Option.some.inj (stored.symm.trans found)
      rw [World.mission_setMission]
      exact le_rfl
  · intro t₁ t₂ id n member₁ member₂
    rcases split t₁ id n member₁ with old₁ | ⟨rfl, rfl, rfl⟩
    · rcases split t₂ id n member₂ with old₂ | ⟨rfl, rfl, rfl⟩
      · exact h.unique t₁ t₂ id n old₁ old₂
      · exact absurd old₁ (unclaimed t₁)
    · rcases split t₂ _ _ member₂ with old₂ | ⟨rfl, -, -⟩
      · exact absurd old₂ (unclaimed t₂)
      · rfl
  · exact fun event member => List.mem_append_left _ member
  · intro other
    rw [World.log_mission]
    rcases cases other with ⟨rfl, changed⟩ | unchanged
    · exact ⟨[], by rw [changed, List.append_nil]; rfl⟩
    · exact ⟨[], by rw [unchanged, List.append_nil]⟩

theorem evolves_claim {w : MemoryWorld σ} (h : WellFormed env w) {r : Ref} (stored : Stored w r)
    (t : TaskId) (currentTime : Time) : Evolves env w (claim t currentTime r w).2 := by
  obtain ⟨attempts, eq⟩ := claim_of_stored stored t currentTime
  rw [eq]
  have claimed := evolves_claimed h stored t currentTime
  exact claimed.trans (evolves_withAttempts claimed.wellFormed attempts)

theorem evolves_expire {w : MemoryWorld σ} (h : WellFormed env w) {r : Ref} (stored : Stored w r)
    (currentTime : Time) : Evolves env w (expire env currentTime r w).2 := by
  unfold expire
  dsimp only
  split
  · exact .refl h
  · rename_i expired transitioned
    obtain ⟨-, rfl⟩ := MissionStateMachine.transition_ok transitioned
    have drawn := evolves_drawId h
    split
    · exact drawn.trans (evolves_setMission drawn.wellFormed ⟨rfl, rfl, .inl rfl⟩)
    · rename_i recorded ok
      obtain ⟨-, rfl⟩ := Mission.recordEvent_ok ok
      rw [store_of_stored (by simpa [Stored] using stored)]
      exact evolves_append h rfl rfl rfl rfl

theorem evolves_recover {w : MemoryWorld σ} (h : WellFormed env w) {r : Ref} (stored : Stored w r)
    (currentTime : Time) : Evolves env w (recover env currentTime r w).2 := by
  have id := recoverStale_id (w.mission r) (env.newEventId w.idsDrawn) currentTime
  have changed : Evolves env w (w.drawId.setMission r (MissionStateMachine.recoverStale
      (w.mission r) (env.newEventId w.idsDrawn) currentTime).2) := by
    have drawn := evolves_drawId h
    simp only [MissionStateMachine.recoverStale]
    split
    · exact drawn.trans (evolves_setMission drawn.wellFormed (.refl _ _ _))
    · rename_i recovered transitioned
      obtain ⟨-, rfl⟩ := MissionStateMachine.transition_ok transitioned
      split
      · exact drawn.trans (evolves_setMission drawn.wellFormed ⟨rfl, rfl, .inl rfl⟩)
      · rename_i after recorded
        obtain ⟨-, rfl⟩ := Mission.recordEvent_ok recorded
        exact evolves_append h rfl rfl rfl rfl
  unfold recover
  dsimp only
  split
  · exact changed
  · obtain ⟨attempts, eq⟩ := updateOpenAttempt_eq
      (w.drawId.setMission r (MissionStateMachine.recoverStale (w.mission r)
        (env.newEventId w.idsDrawn) currentTime).2) _ _
    unfold closeExecutionAttempt
    rw [eq, store_of_stored (by simpa [Stored, id] using stored)]
    exact changed.trans (evolves_withAttempts changed.wellFormed attempts)

/-- A loop over stored missions. -/
theorem evolves_forEach {body : Ref → MemoryWorld σ → Except PyException Unit × MemoryWorld σ}
    (evolves : ∀ r w, WellFormed env w → Stored w r → Evolves env w (body r w).2)
    (selected : List Ref) (w : MemoryWorld σ) (h : WellFormed env w)
    (stored : ∀ r ∈ selected, Stored w r) : Evolves env w (forEach body selected w).2 := by
  induction selected generalizing w with
  | nil => exact .refl h
  | cons r rest ih =>
      obtain ⟨first, later⟩ := List.forall_mem_cons.mp stored
      have step := evolves r w h first
      unfold forEach
      split
      · rename_i raised
        rwa [raised] at step
      · rename_i returned
        rw [returned] at step
        exact step.trans (ih _ step.wellFormed fun other member =>
          (step.stored (later other member)).1)

/-- A loop over distinct stored missions whose body does not raise there. -/
theorem forEach_returns {body : Ref → MemoryWorld σ → Except PyException Unit × MemoryWorld σ}
    {p : Mission → Bool}
    (returns : ∀ r w, WellFormed env w → Stored w r → p (w.mission r) →
      (body r w).1 = .ok () ∧ (body r w).2.trace = w.trace)
    (evolves : ∀ r w, WellFormed env w → Stored w r → Evolves env w (body r w).2)
    (others : ∀ r w, Stored w r → p (w.mission r) → ∀ other, other ≠ r →
      (body r w).2.mission other = w.mission other)
    (selected : List Ref) (w : MemoryWorld σ) (h : WellFormed env w) (nodup : selected.Nodup)
    (stored : ∀ r ∈ selected, Stored w r ∧ p (w.mission r)) :
    (forEach body selected w).1 = .ok () ∧ (forEach body selected w).2.trace = w.trace := by
  induction selected generalizing w with
  | nil => exact ⟨rfl, rfl⟩
  | cons r rest ih =>
      obtain ⟨fresh, nodup⟩ := List.nodup_cons.mp nodup
      obtain ⟨first, later⟩ := List.forall_mem_cons.mp stored
      obtain ⟨returned, trace⟩ := returns r w h first.1 first.2
      have step := evolves r w h first.1
      have next : forEach body (r :: rest) w = forEach body rest (body r w).2 := by
        rw [forEach]
        split
        · rename_i raised
          rw [raised] at returned
          cases returned
        · rename_i eq
          rw [eq]
      rw [next, ← trace]
      refine ih _ step.wellFormed nodup fun other member => ?_
      have unchanged := others r w first.1 first.2 other fun same => fresh (same ▸ member)
      exact ⟨(step.stored (later other member).1).1, unchanged ▸ (later other member).2⟩

/-- Expiring missions raises for the limit only. -/
theorem expireDue_alone {w : MemoryWorld σ} (h : WellFormed env w) (currentTime : Time)
    {limit : Int} (positive : 0 < limit) :
    (∃ rs, (expireDue env currentTime limit w).1 = .ok rs) ∧
      (expireDue env currentTime limit w).2.trace = w.trace := by
  have returns : ∀ r (w : MemoryWorld σ), WellFormed env w → Stored w r →
      isExpired currentTime (w.mission r) → (expire env currentTime r w).1 = .ok () ∧
        (expire env currentTime r w).2.trace = w.trace := by
    intro r w h stored due
    have recorded := Mission.recordEvent_of_fresh ((w.mission r).withStatus .expired none)
      (h.freshFor stored) currentTime "mission_expired" "Mission expired before execution."
      [("expires_at", .ofTime (w.mission r).expiresAt),
        ("previous_status", .str (w.mission r).status.value)]
    simp [expire, transition_expired due, recorded, store]
  obtain ⟨nodup, stored⟩ :=
    h.consistent.selected (isExpired currentTime) (·.expiresAt.getD currentTime) limit
  unfold expireDue
  rw [if_neg (Int.not_le.mpr positive), processSelected]
  obtain ⟨ok, trace⟩ := forEach_returns returns
    (fun r w h stored => evolves_expire h stored currentTime)
    (fun r w stored due => (expire_touches env stored currentTime due).others) _ w h nodup stored
  rw [ok]
  exact ⟨⟨_, rfl⟩, trace⟩

theorem evolves_update {w : MemoryWorld σ} (h : WellFormed env w) {r : Ref} (stored : Stored w r) :
    Evolves env w (update r w).2 := by
  rcases update_of_stored stored with ⟨attempts, eq⟩ | ⟨⟨error, eq⟩, -⟩
  · rw [eq]
    exact evolves_withAttempts h attempts
  · rw [eq]
    exact .refl h

theorem evolves_memory {w : MemoryWorld σ} (h : WellFormed env w) (t : TaskId) (o : MemoryOp)
    (uses : Op.Uses w.Known (fun _ => True) (.repository o)) : Evolves env w (o.exec env t w).2 := by
  have selected := fun p key limit r member => ((h.consistent.selected p key limit).2 r member).1
  cases o with
  | create r => exact uses.elim
  | get id => exact .refl h
  | update r => exact evolves_update h (h.consistent.stored_of_known uses)
  | claimDue currentTime limit =>
      change Evolves env w (claimDue t currentTime limit w).2
      unfold claimDue
      split
      · exact .refl h
      · exact evolves_forEach (fun r w h stored => evolves_claim h stored t currentTime) _ w h
          (selected _ _ _)
  | expireDue currentTime limit =>
      change Evolves env w (expireDue env currentTime limit w).2
      unfold expireDue
      split
      · exact .refl h
      · exact evolves_forEach (fun r w h stored => evolves_expire h stored currentTime) _ w h
          (selected _ _ _)
  | recoverStaleProcessing currentTime claimTimeout limit =>
      change Evolves env w (recoverStaleProcessing env currentTime claimTimeout limit w).2
      unfold recoverStaleProcessing
      split
      · exact .refl h
      · split
        · exact .refl h
        · split
          · exact .refl h
          · exact evolves_forEach (fun r w h stored => evolves_recover h stored currentTime) _ w h
              (selected _ _ _)

theorem extends_assign (drawn : Nat) (mission : Mission) (assignment : Assignment) :
    Extends env drawn drawn mission (mission.assign assignment) := by
  cases assignment <;> exact ⟨rfl, rfl, .inl rfl⟩

/-- Missions without events are fresh for every id. -/
theorem fresh_initialWorld {missions : List Mission} {blank : Mission} (outside : σ)
    (logs : ∀ mission ∈ blank :: missions, mission.executionLog = []) (r : Ref) :
    FreshFrom env 0 ((initialWorld missions blank outside).mission r) := by
  have member : missions.getD r blank ∈ blank :: missions := by
    rw [List.getD_eq_getElem?_getD]
    cases found : missions[r]? with
    | none => exact List.mem_cons_self
    | some mission => exact List.mem_cons_of_mem _ (List.mem_of_getElem? found)
  intro event logged
  change event ∈ (missions.getD r blank).executionLog at logged
  rw [logs _ member] at logged
  cases logged

end PurchaseAgent
