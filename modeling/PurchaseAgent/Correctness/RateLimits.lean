import PurchaseAgent.Api.RateLimit
import PurchaseAgent.Collections.DictKeys
import PurchaseAgent.Collections.Recency

/-!
The rate limiter over runs of requests whose clock does not go back: what a client gets is
decided by the times at which it was accepted before, as long as it is not forgotten.
-/

namespace PurchaseAgent

open Collections Recency Relation

abbrev RequestRegistry.clients (requests : RequestRegistry) : List String := requests.map (·.1)

/-- A limited request with its answer, and the client that was forgotten for it. -/
structure LimitedRequest where
  now : Rat
  clientId : String
  answer : RateLimitAnswer
  evicted : Option String

namespace RateLimitMiddleware
variable (middleware : RateLimitMiddleware) {requests : RequestRegistry} {client : String}

/-- The client that a request of another one pushes out. -/
def evicted (requests : RequestRegistry) (clientId : String) : Option String :=
  if (requests.get? clientId).isNone && decide (middleware.maxClients ≤ requests.length) then
    requests.head?.map (·.1)
  else none

/-- What a request leaves of the others: all of them, but for the one in front when the
registry is full and the client is new. -/
structure Leaves (requests : RequestRegistry) (client : String) (others : RequestRegistry) :
    Prop where
  sublist : others.Sublist requests
  absent : client ∉ RequestRegistry.clients others
  room : others.length < middleware.maxClients
  others : ∀ other ≠ client, others.get? other = requests.get? other ∨
    middleware.evicted requests client = some other ∧ others.get? other = none

theorem leaves_lookUp (distinct : (RequestRegistry.clients requests).Nodup)
    (few : requests.length ≤ middleware.maxClients) (client : String) :
    middleware.Leaves requests client (middleware.lookUp requests client).1 := by
  cases found : requests.get? client with
  | none =>
      have absent := Dict.get?_eq_none_iff.mp found
      have positive := middleware.maxClients_pos
      simp only [lookUp, found, evictClientIfFull]
      by_cases full : middleware.maxClients ≤ requests.length
      · rw [if_pos full]
        cases requests with
        | nil => exact absurd full (Nat.not_le.mpr positive)
        | cons oldest rest =>
            obtain ⟨fresh, distinct⟩ := List.nodup_cons.mp distinct
            refine ⟨List.sublist_cons_self .., ?_, ?_, fun other differs => ?_⟩
            · exact fun member => absent (List.mem_cons_of_mem _ member)
            · rw [List.length_cons] at few
              exact few
            · by_cases pushed : other = oldest.1
              · subst pushed
                refine .inr ⟨?_, Dict.get?_eq_none_iff.mpr fresh⟩
                rw [evicted, found, decide_eq_true full]
                rfl
              · left
                rw [List.tail_cons, Dict.get?, Dict.get?, List.lookup_cons,
                  beq_false_of_ne pushed]
      · rw [if_neg full]
        exact ⟨List.Sublist.refl _, absent, Nat.lt_of_not_le full, fun _ _ => .inl rfl⟩
  | some timestamps =>
      simp only [lookUp, found]
      refine ⟨List.filter_sublist, ?_, ?_, fun other differs => .inl ?_⟩
      · intro member
        obtain ⟨entry, listed, same⟩ := List.mem_map.mp member
        exact of_decide_eq_true (List.mem_filter.mp listed).2 same
      · refine Nat.lt_of_lt_of_le ?_ few
        have member := Dict.mem_of_get? found
        refine List.length_filter_lt_length_iff_exists.mpr ⟨_, member, ?_⟩
        simp
      · exact Dict.get?_erase_of_ne _ differs

/-- The timestamps that a request finds, without the expired ones. -/
def current (requests : RequestRegistry) (now : Rat) (client : String) : List Rat :=
  middleware.expire now ((requests.get? client).getD [])

theorem lookUp_snd (requests : RequestRegistry) (client : String) :
    (middleware.lookUp requests client).2 = (requests.get? client).getD [] := by
  rw [lookUp]
  cases requests.get? client with
  | none => rfl
  | some timestamps => rfl

/-- The answer depends on the number of timestamps. -/
theorem limit_accepted_iff (requests : RequestRegistry) (now : Rat) (client : String) :
    (middleware.limit requests now client).2.isAccepted = true ↔
      (middleware.current requests now client).length < middleware.requestLimit := by
  rw [current, ← lookUp_snd, limit]
  simp only
  split
  · rename_i full
    exact iff_of_false Bool.false_ne_true (Nat.not_lt.mpr full)
  · rename_i room
    exact iff_of_true rfl (Nat.lt_of_not_le room)

/-- What the client has afterwards. -/
def renewed (requests : RequestRegistry) (now : Rat) (client : String) : List Rat :=
  if (middleware.limit requests now client).2.isAccepted then
    middleware.current requests now client ++ [now]
  else middleware.current requests now client

theorem limit_fst (requests : RequestRegistry) (now : Rat) (client : String) :
    (middleware.limit requests now client).1 =
      (middleware.lookUp requests client).1 ++ [(client, middleware.renewed requests now client)] := by
  rw [renewed, current, ← lookUp_snd, limit]
  simp only
  split
  · rfl
  · rfl

end RateLimitMiddleware

/-- The registry, and the limited requests so far. -/
structure RateLimitState where
  registry : RequestRegistry
  log : List LimitedRequest

namespace RateLimitState

/-- The middleware as it is constructed. -/
def start : RateLimitState := ⟨[], []⟩

/-- The clock has not gone back since the last request. -/
def Until (s : RateLimitState) (now : Rat) : Prop := ∀ request ∈ s.log, request.now ≤ now

/-- The clients of the requests. -/
def seen (s : RateLimitState) : List String := s.log.map (·.clientId)

/-- When the requests of a client were accepted. -/
def acceptedTimes (s : RateLimitState) (client : String) : List Rat :=
  (s.log.filter fun request => request.clientId = client && request.answer.isAccepted).map (·.now)

/-- The accepted requests of a client in the window before `now`. -/
def acceptedWithin (s : RateLimitState) (client : String) (start now : Rat) : Nat :=
  s.log.countP fun request =>
    request.clientId = client && request.answer.isAccepted && decide (start < request.now) &&
      decide (request.now ≤ now)

/-- A client that was not pushed out so far. -/
def Remembered (s : RateLimitState) (client : String) : Prop :=
  ∀ request ∈ s.log, request.evicted ≠ some client

end RateLimitState

namespace RateLimitMiddleware
variable (middleware : RateLimitMiddleware)

def serve (s : RateLimitState) (now : Rat) (client : String) : RateLimitState :=
  let limited := middleware.limit s.registry now client
  ⟨limited.1, s.log ++ [⟨now, client, limited.2, middleware.evicted s.registry client⟩]⟩

/-- A request of one of these clients. -/
def Serves (clients : String → Prop) (s s' : RateLimitState) : Prop :=
  ∃ now client, clients client ∧ s.Until now ∧ s' = middleware.serve s now client

/-- A request as it arrives. One that is not limited leaves no trace. -/
def receive (sha256 : List UInt8 → String) (s : RateLimitState) (now : Rat) (scope : Scope) :
    RateLimitState :=
  let called := middleware.call sha256 s.registry now scope
  ⟨called.1,
    s.log ++ called.2.toList.map fun answer =>
      ⟨now, scope.clientId sha256, answer,
        middleware.evicted s.registry (scope.clientId sha256)⟩⟩

def Receives (sha256 : List UInt8 → String) (s s' : RateLimitState) : Prop :=
  ∃ now scope, s.Until now ∧ s' = middleware.receive sha256 s now scope

theorem receive_eq (sha256 : List UInt8 → String) (s : RateLimitState) (now : Rat)
    (scope : Scope) : middleware.receive sha256 s now scope =
      if scope.shouldLimit then middleware.serve s now (scope.clientId sha256) else s := by
  rw [receive, call]
  cases scope.shouldLimit with
  | true => rfl
  | false =>
      change RateLimitState.mk s.registry (s.log ++ []) = s
      rw [List.append_nil]

/-- Only the limited requests count. -/
theorem serves_of_receives {sha256 : List UInt8 → String} {s s' : RateLimitState}
    (run : ReflTransGen (middleware.Receives sha256) s s') :
    ReflTransGen (middleware.Serves fun _ => True) s s' := by
  induction run with
  | refl => exact .refl
  | tail _ step ih =>
      obtain ⟨now, scope, clock, rfl⟩ := step
      rw [receive_eq]
      split
      · exact ih.tail ⟨now, scope.clientId sha256, trivial, clock, rfl⟩
      · exact ih

/-- The timestamps of a remembered client are its accepted requests behind some cutoff that
no later window reaches back to. -/
structure Tracks (s : RateLimitState) (client : String) : Prop where
  unseen : s.registry.get? client = none → client ∉ s.seen
  timestamps : ∀ timestamps, s.registry.get? client = some timestamps →
    ∃ cutoff, (∀ now, s.Until now → cutoff ≤ now - middleware.windowSeconds) ∧
      timestamps = (s.acceptedTimes client).filter (cutoff < ·)

/-- What holds after every run. -/
structure Consistent (s : RateLimitState) : Prop where
  ordered : Ordered s.seen (RequestRegistry.clients s.registry)
  few : s.registry.length ≤ middleware.maxClients
  times : s.log.Pairwise (·.now ≤ ·.now)
  short : ∀ client timestamps, s.registry.get? client = some timestamps →
    timestamps.length ≤ middleware.requestLimit
  tracks : ∀ client, s.Remembered client → middleware.Tracks s client

theorem Consistent.start : middleware.Consistent .start where
  ordered := .nil
  few := Nat.zero_le _
  times := .nil
  short := by
    intro client timestamps found
    cases found
  tracks := by
    intro client _
    refine ⟨fun _ => List.not_mem_nil, fun timestamps found => ?_⟩
    cases found

/-- Dropping up to the cutoff keeps what is behind it, where the times are in order. -/
theorem dropWhile_eq_filter {cutoff : Rat} {times : List Rat} (sorted : times.Pairwise (· ≤ ·)) :
    times.dropWhile (fun time => time ≤ cutoff) = times.filter (cutoff < ·) := by
  induction times with
  | nil => rfl
  | cons time rest ih =>
      obtain ⟨least, sorted⟩ := List.pairwise_cons.mp sorted
      by_cases old : time ≤ cutoff
      · rw [List.dropWhile_cons_of_pos (by simpa using old), ih sorted,
          List.filter_cons_of_neg (by simpa using old)]
      · have newer : ∀ later ∈ time :: rest, decide (cutoff < later) = true := by
          intro later member
          refine decide_eq_true (lt_of_lt_of_le (not_le.mp old) ?_)
          cases List.mem_cons.mp member with
          | inl same => exact same.ge
          | inr after => exact least later after
        rw [List.dropWhile_cons_of_neg (by simpa using old), List.filter_eq_self.mpr newer]

theorem expire_filter {now cutoff : Rat} {times : List Rat} (sorted : times.Pairwise (· ≤ ·))
    (reaches : cutoff ≤ now - middleware.windowSeconds) :
    middleware.expire now (times.filter (cutoff < ·)) =
      times.filter (now - middleware.windowSeconds < ·) := by
  rw [expire, dropWhile_eq_filter (sorted.sublist List.filter_sublist), List.filter_filter]
  apply List.filter_congr
  intro time _
  rw [← Bool.decide_and, decide_eq_decide]
  exact ⟨fun both => both.1, fun inside => ⟨inside, lt_of_le_of_lt reaches inside⟩⟩

section Step
variable {middleware} {s : RateLimitState} {now : Rat} {client : String}

theorem acceptedTimes_sorted (times : s.log.Pairwise (·.now ≤ ·.now)) (client : String) :
    (s.acceptedTimes client).Pairwise (· ≤ ·) :=
  List.pairwise_map.mpr (times.sublist List.filter_sublist)

/-- The timestamps that a remembered client finds are its accepted requests in the window. -/
theorem Consistent.current_eq (h : middleware.Consistent s) (clock : s.Until now)
    (remembered : s.Remembered client) :
    middleware.current s.registry now client =
      (s.acceptedTimes client).filter (now - middleware.windowSeconds < ·) := by
  have tracks := h.tracks client remembered
  rw [current]
  cases found : s.registry.get? client with
  | none =>
      have never : s.acceptedTimes client = [] := by
        rw [RateLimitState.acceptedTimes, List.map_eq_nil_iff, List.filter_eq_nil_iff]
        intro request member accepted
        have own : request.clientId = client := by
          simp only [Bool.and_eq_true, decide_eq_true_eq] at accepted
          exact accepted.1
        exact tracks.unseen found (own ▸ List.mem_map_of_mem member)
      rw [never]
      rfl
  | some timestamps =>
      obtain ⟨cutoff, reaches, rfl⟩ := tracks.timestamps timestamps found
      exact middleware.expire_filter (acceptedTimes_sorted h.times client) (reaches now clock)

theorem renewed_length (h : middleware.Consistent s) :
    (middleware.renewed s.registry now client).length ≤ middleware.requestLimit := by
  rw [renewed]
  split
  · rename_i accepted
    rw [List.length_append, List.length_singleton]
    exact (middleware.limit_accepted_iff _ _ _).mp accepted
  · have fewer : (middleware.current s.registry now client).length ≤
        ((s.registry.get? client).getD []).length := (List.dropWhile_sublist _).length_le
    refine fewer.trans ?_
    cases found : s.registry.get? client with
    | none => exact Nat.zero_le _
    | some timestamps => exact h.short client timestamps found

theorem seen_serve : (middleware.serve s now client).seen = s.seen ++ [client] :=
  List.map_append

theorem acceptedTimes_serve_self : (middleware.serve s now client).acceptedTimes client =
    s.acceptedTimes client ++
      if (middleware.limit s.registry now client).2.isAccepted then [now] else [] := by
  rw [RateLimitState.acceptedTimes, RateLimitState.acceptedTimes, serve, List.filter_append,
    List.map_append]
  congr 1
  cases accepted : (middleware.limit s.registry now client).2.isAccepted with
  | true => simp [accepted]
  | false => simp [accepted]

theorem acceptedTimes_serve_of_ne {other : String} (differs : other ≠ client) :
    (middleware.serve s now client).acceptedTimes other = s.acceptedTimes other := by
  have skipped : ¬ client = other := fun same => differs same.symm
  rw [RateLimitState.acceptedTimes, RateLimitState.acceptedTimes, serve, List.filter_append,
    List.map_append]
  simp [skipped]

theorem remembered_of_serve {other : String}
    (remembered : (middleware.serve s now client).Remembered other) :
    s.Remembered other ∧ middleware.evicted s.registry client ≠ some other := by
  obtain ⟨before, last⟩ := List.forall_mem_append.mp remembered
  exact ⟨before, last _ (List.mem_singleton_self _)⟩

theorem until_of_serve {later : Rat} (clock : (middleware.serve s now client).Until later) :
    s.Until later ∧ now ≤ later := by
  obtain ⟨before, last⟩ := List.forall_mem_append.mp clock
  exact ⟨before, last _ (List.mem_singleton_self _)⟩

/-- The timestamps of the client itself reach back to its own window. -/
theorem Tracks.serve_self (h : middleware.Consistent s) (clock : s.Until now)
    (remembered : s.Remembered client)
    (found : (middleware.serve s now client).registry.get? client =
      some (middleware.renewed s.registry now client)) :
    middleware.Tracks (middleware.serve s now client) client := by
  refine ⟨fun missing => ?_, fun timestamps same => ?_⟩
  · rw [found] at missing
    cases missing
  · cases Option.some.inj (found.symm.trans same)
    refine ⟨now - middleware.windowSeconds, fun later after => ?_, ?_⟩
    · exact sub_le_sub_right (until_of_serve after).2 _
    · rw [acceptedTimes_serve_self, renewed, h.current_eq clock remembered]
      split
      · have inside : now - middleware.windowSeconds < now :=
          sub_lt_self now middleware.windowSeconds_pos
        rw [List.filter_append]
        simp [inside]
      · rw [List.append_nil]

theorem Tracks.serve_of_ne {other : String} (differs : other ≠ client)
    (h : middleware.Tracks s other)
    (same : (middleware.serve s now client).registry.get? other = s.registry.get? other) :
    middleware.Tracks (middleware.serve s now client) other := by
  refine ⟨fun missing => ?_, fun timestamps found => ?_⟩
  · rw [seen_serve]
    intro member
    cases List.mem_append.mp member with
    | inl before => exact h.unseen (same ▸ missing) before
    | inr last => exact differs (List.mem_singleton.mp last)
  · obtain ⟨cutoff, reaches, kept⟩ := h.timestamps timestamps (same ▸ found)
    refine ⟨cutoff, fun later after => reaches later (until_of_serve after).1, ?_⟩
    rw [acceptedTimes_serve_of_ne differs]
    exact kept

theorem Consistent.leaves (h : middleware.Consistent s) (client : String) :
    middleware.Leaves s.registry client (middleware.lookUp s.registry client).1 :=
  middleware.leaves_lookUp h.ordered.nodup h.few client

theorem Consistent.get?_serve_self (h : middleware.Consistent s) (now : Rat) (client : String) :
    (middleware.serve s now client).registry.get? client =
      some (middleware.renewed s.registry now client) := by
  change (middleware.limit s.registry now client).1.get? client = _
  rw [limit_fst]
  exact Dict.get?_snoc_self (h.leaves client).absent _

theorem Consistent.get?_serve_of_ne (h : middleware.Consistent s) (now : Rat) {other : String}
    (differs : other ≠ client) :
    (middleware.serve s now client).registry.get? other = s.registry.get? other ∨
      middleware.evicted s.registry client = some other ∧
        (middleware.serve s now client).registry.get? other = none := by
  have kept : (middleware.serve s now client).registry.get? other =
      (middleware.lookUp s.registry client).1.get? other := by
    change (middleware.limit s.registry now client).1.get? other = _
    rw [limit_fst]
    exact Dict.get?_snoc_of_ne differs _
  rw [kept]
  exact (h.leaves client).others other differs

/-- One request. -/
theorem Consistent.serve (h : middleware.Consistent s) (clock : s.Until now) (client : String) :
    middleware.Consistent (middleware.serve s now client) := by
  have leaves := h.leaves client
  have registry : (middleware.serve s now client).registry =
      (middleware.lookUp s.registry client).1 ++
        [(client, middleware.renewed s.registry now client)] := middleware.limit_fst _ _ _
  constructor
  · rw [seen_serve, registry, RequestRegistry.clients, List.map_append]
    exact (h.ordered.sublist (leaves.sublist.map _)).use leaves.absent
  · rw [registry, List.length_append, List.length_singleton]
    exact leaves.room
  · refine List.pairwise_append.mpr ⟨h.times, List.pairwise_singleton _ _, ?_⟩
    intro earlier member last is_last
    rw [List.mem_singleton.mp is_last]
    exact clock earlier member
  · intro other timestamps found
    by_cases own : other = client
    · subst own
      rw [h.get?_serve_self] at found
      cases found
      exact renewed_length h
    · cases h.get?_serve_of_ne now own with
      | inl same => exact h.short other timestamps (same ▸ found)
      | inr gone =>
          rw [gone.2] at found
          cases found
  · intro other remembered
    obtain ⟨before, unevicted⟩ := remembered_of_serve remembered
    by_cases own : other = client
    · subst own
      exact .serve_self h clock before (h.get?_serve_self now other)
    · cases h.get?_serve_of_ne now own with
      | inl same => exact (h.tracks other before).serve_of_ne own same
      | inr gone => exact absurd gone.1 unevicted

/-- Whole runs. -/
theorem Consistent.run {clients : String → Prop} {s s' : RateLimitState}
    (h : middleware.Consistent s) (run : ReflTransGen (middleware.Serves clients) s s') :
    middleware.Consistent s' := by
  induction run with
  | refl => exact h
  | tail _ step ih =>
      obtain ⟨now, client, -, clock, rfl⟩ := step
      exact ih.serve clock client

/-- The window ends at the present request. -/
theorem acceptedWithin_eq (clock : s.Until now) (start : Rat) (client : String) :
    s.acceptedWithin client start now = ((s.acceptedTimes client).filter (start < ·)).length := by
  rw [RateLimitState.acceptedWithin, RateLimitState.acceptedTimes, List.filter_map,
    List.length_map, List.filter_filter, ← List.countP_eq_length_filter]
  apply List.countP_congr
  intro request member
  have past := clock request member
  simp only [past, decide_true, Bool.and_true, Function.comp_apply, Bool.and_eq_true,
    decide_eq_true_eq]
  exact and_comm

theorem Consistent.accepted_iff (h : middleware.Consistent s) (clock : s.Until now)
    (remembered : s.Remembered client) :
    (middleware.limit s.registry now client).2.isAccepted = true ↔
      s.acceptedWithin client (now - middleware.windowSeconds) now < middleware.requestLimit := by
  rw [limit_accepted_iff, h.current_eq clock remembered, acceptedWithin_eq clock]

theorem remaining_nonneg (requests : RequestRegistry) (now : Rat) (client : String) :
    0 ≤ (middleware.limit requests now client).2.remaining := by
  rw [limit]
  simp only
  split
  · exact Int.le_refl 0
  · rename_i room
    simp only [RateLimitAnswer.remaining, List.length_append, List.length_singleton]
    omega

/-- The announced delay reaches to the end of the oldest timestamp. -/
theorem rejected_delay {retryAfter : Int}
    (rejected : (middleware.limit s.registry now client).2 = .rejected retryAfter) :
    middleware.requestLimit ≤ (middleware.current s.registry now client).length ∧
      ∀ oldest ∈ (middleware.current s.registry now client).head?,
        oldest + middleware.windowSeconds - now ≤ retryAfter := by
  rw [limit] at rejected
  rw [current, ← lookUp_snd]
  simp only at rejected
  split at rejected
  · rename_i full
    refine ⟨full, fun oldest first => ?_⟩
    cases rejected
    rw [secondsLeft, List.headD_eq_head?_getD, Option.mem_def.mp first, Option.getD_some]
    refine (Int.le_ceil _).trans ?_
    exact_mod_cast Int.le_max_right _ _
  · cases rejected

/-- While only others make requests, a client keeps its timestamps or is forgotten. -/
theorem Consistent.get?_waiting {s' : RateLimitState} (h : middleware.Consistent s)
    (waits : ReflTransGen (middleware.Serves (· ≠ client)) s s') :
    s'.registry.get? client = s.registry.get? client ∨ s'.registry.get? client = none := by
  induction waits with
  | refl => exact .inl rfl
  | tail before step ih =>
      obtain ⟨now, other, differs, -, rfl⟩ := step
      cases (h.run before).get?_serve_of_ne now differs.symm with
      | inl same => rwa [same]
      | inr gone => exact .inr gone.2

theorem Consistent.accepted_after_waiting {s' : RateLimitState} {retryAfter : Int} {later : Rat}
    (h : middleware.Consistent s) (clock : s.Until now)
    (rejected : (middleware.limit s.registry now client).2 = .rejected retryAfter)
    (waits : ReflTransGen (middleware.Serves (· ≠ client)) (middleware.serve s now client) s')
    (waited : now + retryAfter ≤ later) :
    (middleware.limit s'.registry later client).2.isAccepted = true := by
  have positive := middleware.requestLimit_pos
  obtain ⟨full, delay⟩ := rejected_delay rejected
  have kept : middleware.renewed s.registry now client =
      middleware.current s.registry now client := by
    rw [renewed, rejected]
    rfl
  rw [limit_accepted_iff, current]
  cases (h.serve clock client).get?_waiting waits with
  | inr gone =>
      rw [gone]
      exact positive
  | inl same =>
      have length : (middleware.renewed s.registry now client).length ≤ middleware.requestLimit :=
        renewed_length h
      rw [same, h.get?_serve_self, Option.getD_some]
      rw [kept] at length ⊢
      cases timestamps : middleware.current s.registry now client with
      | nil =>
          rw [timestamps] at full
          exact absurd full (Nat.not_le.mpr positive)
      | cons oldest rest =>
          rw [timestamps] at length delay
          -- the announced seconds are those until the oldest timestamp leaves the window
          have expired : oldest ≤ later - middleware.windowSeconds := by
            have reaches := delay oldest rfl
            linarith
          rw [expire, List.dropWhile_cons_of_pos (by simpa using expired)]
          rw [List.length_cons] at length
          exact Nat.lt_of_le_of_lt (List.dropWhile_sublist _).length_le length

/-- Only a full registry forgets a client, the one that was seen longest ago. -/
theorem Consistent.evicted_oldest {old : String} (h : middleware.Consistent s)
    (pushed : middleware.evicted s.registry client = some old) :
    s.registry.get? client = none ∧ s.registry.length = middleware.maxClients ∧
      old ∈ RequestRegistry.clients s.registry ∧
        ∀ other ∈ RequestRegistry.clients s.registry, other ≠ old → UsedBefore s.seen old other := by
  rw [evicted] at pushed
  split at pushed
  · rename_i full
    simp only [Bool.and_eq_true, decide_eq_true_eq, Option.isNone_iff_eq_none] at full
    obtain ⟨first, head, rfl⟩ := Option.map_eq_some_iff.mp pushed
    obtain ⟨rest, registry⟩ := List.head?_eq_some_iff.mp head
    refine ⟨full.1, Nat.le_antisymm h.few full.2, ?_, ?_⟩
    · rw [registry]
      exact List.mem_cons_self
    · have pairwise := h.ordered.pairwise
      rw [registry] at pairwise ⊢
      intro other member differs
      cases List.mem_cons.mp member with
      | inl same => exact absurd same differs
      | inr later => exact (List.pairwise_cons.mp pairwise).1 other later
  · cases pushed

end Step

/-- What a request at this time gets, and what it leaves. -/
structure SlidingWindow (s : RateLimitState) (now : Rat) (client : String) : Prop where
  exact : s.Remembered client →
    ((middleware.limit s.registry now client).2.isAccepted = true ↔
      s.acceptedWithin client (now - middleware.windowSeconds) now < middleware.requestLimit)
  free : (middleware.limit s.registry now client).2.isAccepted = false →
    ∀ start later, (middleware.serve s now client).acceptedWithin client start later =
      s.acceptedWithin client start later
  waits : ∀ retryAfter, (middleware.limit s.registry now client).2 = .rejected retryAfter →
    ∀ s' later, ReflTransGen (middleware.Serves (· ≠ client)) (middleware.serve s now client) s' →
      s'.Until later → now + retryAfter ≤ later →
        (middleware.limit s'.registry later client).2.isAccepted = true
  remaining : 0 ≤ (middleware.limit s.registry now client).2.remaining
  bounded : (middleware.serve s now client).registry.length ≤ middleware.maxClients
  others : ∀ other ≠ client,
    (middleware.serve s now client).registry.get? other = s.registry.get? other ∨
      middleware.evicted s.registry client = some other ∧
        (middleware.serve s now client).registry.get? other = none
  oldest : ∀ old, middleware.evicted s.registry client = some old →
    s.registry.get? client = none ∧ s.registry.length = middleware.maxClients ∧
      old ∈ RequestRegistry.clients s.registry ∧
        ∀ other ∈ RequestRegistry.clients s.registry, other ≠ old → UsedBefore s.seen old other

/-- Every limited request, after every run of requests. -/
theorem sliding_window {sha256 : List UInt8 → String} {s : RateLimitState}
    (run : ReflTransGen (middleware.Receives sha256) .start s) {now : Rat} (clock : s.Until now)
    (client : String) : middleware.SlidingWindow s now client := by
  have consistent := (Consistent.start middleware).run (middleware.serves_of_receives run)
  constructor
  · exact consistent.accepted_iff clock
  · intro rejected start later
    rw [RateLimitState.acceptedWithin, serve, List.countP_append]
    simp [rejected, RateLimitState.acceptedWithin]
  · intro retryAfter rejected s' later waits _ waited
    exact consistent.accepted_after_waiting clock rejected waits waited
  · exact remaining_nonneg s.registry now client
  · exact (consistent.serve clock client).few
  · intro other differs
    exact consistent.get?_serve_of_ne now differs
  · intro old pushed
    exact consistent.evicted_oldest pushed

end RateLimitMiddleware

/-! One request of one client in a registry of one. -/

namespace OneClient

theorem limit_pos : 1 ≤ 1 := by decide

theorem window_pos : (0 : Rat) < 60 := by decide

def middleware : RateLimitMiddleware := ⟨1, 60, 1, limit_pos, window_pos, limit_pos⟩

def digest (_ : List UInt8) : String := "digest"

def scope : Scope := { type := "http", method := some "GET", path := some "/", client := some "a" }

def served : RateLimitState := middleware.receive digest .start 5 scope

theorem run : ReflTransGen (middleware.Receives digest) .start served :=
  .single ⟨5, scope, fun _ member => absurd member List.not_mem_nil, rfl⟩

theorem clock : served.Until 30 := by
  intro request member
  rw [served, RateLimitMiddleware.receive_eq] at member
  cases List.mem_singleton.mp member
  decide

end OneClient

open OneClient in
theorem sliding_window_rejected : middleware.SlidingWindow served 30 "ip:a" :=
  middleware.sliding_window run clock "ip:a"

end PurchaseAgent
