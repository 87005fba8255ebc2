import PurchaseAgent.Adapters.RequestGuard
import PurchaseAgent.Correctness.TargetUrls

/-!
What the guard of the page lets through, over the life of a runner: requests to public
addresses, and in the top frame only those of the origin of the last task.
-/

namespace PurchaseAgent

open Url

namespace RequestGuard
variable {Address : Type} (library : UrlLibrary) (addresses : AddressLibrary Address)
  (resolve : HostResolver Address) (allowLocalNetwork : Bool)

/-- The URL is one of HTTP(S) without credentials, whose host has only public addresses
unless the local network is allowed. -/
structure Reachable (url : List Char) (parsed : SplitResult) : Prop where
  split : library.urlsplit url = .ok parsed
  scheme : parsed.scheme = "http".toList ∨ parsed.scheme = "https".toList
  credentials : ¬ hasCredentials parsed
  resolved : ∃ host found, library.hostname parsed = some host ∧
    hostAddresses addresses resolve parsed (library.casefold host) = .ok found ∧ found ≠ [] ∧
      (allowLocalNetwork = false → ∀ address ∈ found, addresses.isGlobal address = true)

/-- The host of a URL that a resolver does not find. -/
def Unresolved (url : List Char) (error : PyException) : Prop :=
  ∃ parsed host, library.urlsplit url = .ok parsed ∧ library.hostname parsed = some host ∧
    hostAddresses addresses resolve parsed (library.casefold host) = .error error

variable {library addresses resolve allowLocalNetwork} {url : List Char} {parsed : SplitResult}

theorem Reachable.validate (h : Reachable library addresses resolve allowLocalNetwork url parsed) :
    validateBrowserUrl library addresses resolve allowLocalNetwork url = .ok () := by
  obtain ⟨host, found, named, looked, nonempty, isPublic⟩ := h.resolved
  have scheme : ¬ (parsed.scheme ≠ "http".toList ∧ parsed.scheme ≠ "https".toList) := by
    rintro ⟨plain, secure⟩
    exact h.scheme.elim plain secure
  have answered : ¬ found.isEmpty = true := fun empty => nonempty (List.isEmpty_iff.mp empty)
  have allowed : ¬ (allowLocalNetwork = false ∧ found.any (! addresses.isGlobal ·) = true) := by
    rintro ⟨guarded, private'⟩
    obtain ⟨address, member, reserved⟩ := List.any_eq_true.mp private'
    simp [isPublic guarded address member] at reserved
  simp only [validateBrowserUrl, bind, Except.bind, h.split, named]
  rw [if_neg scheme, if_neg h.credentials, looked]
  dsimp only
  rw [if_neg answered, if_neg allowed]

/-- A URL that the guard does not accept is refused with a `ValueError`, or its host is not
resolved. -/
theorem validate_cases (url : List Char) :
    (∃ parsed, Reachable library addresses resolve allowLocalNetwork url parsed) ∨
      ∃ error, validateBrowserUrl library addresses resolve allowLocalNetwork url = .error error ∧
        (isValueError error = true ∨ Unresolved library addresses resolve url error) := by
  simp only [validateBrowserUrl, bind, Except.bind]
  cases split : library.urlsplit url with
  | error error =>
    refine .inr ⟨error, rfl, .inl ?_⟩
    unfold UrlLibrary.urlsplit at split
    dsimp only at split
    split at split
    · cases split
      rfl
    · split at split
      · cases split
        rfl
      · cases split
  | ok parsed =>
    dsimp only
    cases named : library.hostname parsed with
    | none => exact .inr ⟨_, rfl, .inl rfl⟩
    | some host =>
      dsimp only
      by_cases scheme : parsed.scheme ≠ "http".toList ∧ parsed.scheme ≠ "https".toList
      · rw [if_pos scheme]
        exact .inr ⟨_, rfl, .inl rfl⟩
      by_cases credentials : hasCredentials parsed
      · rw [if_neg scheme, if_pos credentials]
        exact .inr ⟨_, rfl, .inl rfl⟩
      rw [if_neg scheme, if_neg credentials]
      cases looked : hostAddresses addresses resolve parsed (library.casefold host) with
      | error error => exact .inr ⟨error, rfl, .inr ⟨parsed, host, split, named, looked⟩⟩
      | ok found =>
        dsimp only
        by_cases answered : found.isEmpty = true
        · rw [if_pos answered]
          exact .inr ⟨_, rfl, .inl rfl⟩
        by_cases allowed : allowLocalNetwork = false ∧ found.any (! addresses.isGlobal ·) = true
        · rw [if_neg answered, if_pos allowed]
          exact .inr ⟨_, rfl, .inl rfl⟩
        · refine .inl ⟨parsed, split, or_iff_not_and_not.mpr scheme, credentials, host, found,
            named, looked, fun empty => answered (List.isEmpty_iff.mpr empty), ?_⟩
          intro guarded address member
          by_contra reserved
          refine allowed ⟨guarded, List.any_eq_true.mpr ⟨address, member, ?_⟩⟩
          simpa using reserved

/-- The origin of a URL is split into its scheme and its network location. -/
theorem components_origin (split : Split parsed)
    (scheme : parsed.scheme = "http".toList ∨ parsed.scheme = "https".toList) :
    components (address parsed.scheme parsed.netloc []) =
      ⟨parsed.scheme, parsed.netloc, [], [], []⟩ := by
  have plain : parsed.scheme.all (fun c => isSchemeChar c && !isUnsafe c && c != ':') = true ∧
      parsed.scheme.head?.any Char.isAlpha = true ∧
      parsed.scheme.map Char.toLower = parsed.scheme ∧ parsed.scheme.head? = some 'h' := by
    rcases scheme with same | same <;> rw [same] <;> decide
  obtain ⟨chars, alpha, lower, first⟩ := plain
  have char : ∀ c ∈ parsed.scheme, (isSchemeChar c = true ∧ isUnsafe c = false) ∧ c ≠ ':' := by
    intro c member
    simpa using List.all_eq_true.mp chars c member
  have front : (address parsed.scheme parsed.netloc []).dropWhile isC0OrSpace =
      address parsed.scheme parsed.netloc [] := by
    obtain ⟨others, same⟩ := List.head?_eq_some_iff.mp first
    rw [same]
    exact List.dropWhile_cons_of_neg (by decide)
  have kept : (address parsed.scheme parsed.netloc []).filter (! isUnsafe ·) =
      address parsed.scheme parsed.netloc [] := by
    apply List.filter_eq_self.mpr
    intro c member
    simp only [address, List.append_nil, List.mem_append, List.mem_cons] at member
    rcases member with inScheme | rfl | rfl | rfl | inNetloc
    · simp [(char c inScheme).1.2]
    · rfl
    · rfl
    · rfl
    · simp [split.safe c (List.mem_append_left _ (List.mem_append_left _ inNetloc))]
  rw [components, front, kept, address,
    splitScheme_append alpha (fun c member => (char c member).1.1) lower
      (fun member => (char ':' member).2 rfl)]
  simp only [splitNetloc_append split.netloc_clean (show ([] : List Char).head?.all isNetlocEnd =
    true from rfl)]
  rfl

theorem urlsplit_origin (split : library.urlsplit url = .ok parsed)
    (scheme : parsed.scheme = "http".toList ∨ parsed.scheme = "https".toList) :
    library.urlsplit (address parsed.scheme parsed.netloc []) =
      .ok ⟨parsed.scheme, parsed.netloc, [], [], []⟩ := by
  obtain ⟨rfl, brackets, checked⟩ := urlsplit_ok_iff.mp split
  exact urlsplit_ok_iff.mpr
    ⟨(components_origin (split_components url) scheme).symm, brackets, checked⟩

def originOf (parsed : SplitResult) : List Char := address parsed.scheme parsed.netloc []

variable (library) in
/-- The URL of the last task that the runner was called for, as it is split. -/
def targetAfter : Option SplitResult → List (GuardEvent Address) → Option SplitResult
  | target, [] => target
  | target, .called targetUrl :: rest =>
    match library.urlsplit targetUrl with
    | .error _ => targetAfter target rest
    | .ok parsed => targetAfter (some parsed) rest
  | target, .requested _ _ :: rest => targetAfter target rest

theorem route_append (target : Option SplitResult) (before rest : List (GuardEvent Address)) :
    route library addresses allowLocalNetwork (target.map originOf) (before ++ rest) =
      route library addresses allowLocalNetwork (target.map originOf) before ++
        route library addresses allowLocalNetwork ((targetAfter library target before).map originOf)
          rest := by
  induction before generalizing target with
  | nil => rfl
  | cons event before ih =>
    cases event with
    | called targetUrl =>
      rw [List.cons_append, route, route, targetAfter, targetOrigin]
      cases library.urlsplit targetUrl with
      | error error => exact ih target
      | ok parsed => exact ih (some parsed)
    | requested request resolve =>
      rw [List.cons_append, route, route, targetAfter, List.cons_append, ih]

variable (library) in
/-- A URL of HTTP(S), as it is split. -/
def WebTarget (target : SplitResult) : Prop :=
  ∃ url, library.urlsplit url = .ok target ∧
    (target.scheme = "http".toList ∨ target.scheme = "https".toList)

/-- A task's URL is one of HTTP(S). -/
theorem webTarget_of_normalized {value : List Char}
    (accepted : AgentTask.normalizeTargetUrl library value = .ok url)
    (split : library.urlsplit url = .ok parsed) : WebTarget library parsed := by
  obtain ⟨before, host, number, was, rfl⟩ := normalize_accepted accepted
  refine ⟨_, split, ?_⟩
  obtain ⟨rfl, -, -⟩ := urlsplit_ok_iff.mp split
  rw [was.reparsed]
  exact was.scheme

theorem webTarget_targetAfter {events : List (GuardEvent Address)} {target : Option SplitResult}
    (web : ∀ t ∈ target, WebTarget library t)
    (tasks : ∀ targetUrl, .called targetUrl ∈ events →
      ∃ value, AgentTask.normalizeTargetUrl library value = .ok targetUrl) :
    ∀ t ∈ targetAfter library target events, WebTarget library t := by
  induction events generalizing target with
  | nil => exact web
  | cons event rest ih =>
    have later := fun targetUrl member => tasks targetUrl (List.mem_cons_of_mem event member)
    cases event with
    | called targetUrl =>
      rw [targetAfter]
      cases split : library.urlsplit targetUrl with
      | error error => exact ih web later
      | ok parsed =>
        refine ih ?_ later
        rintro t ⟨⟩
        obtain ⟨value, accepted⟩ := tasks targetUrl List.mem_cons_self
        exact webTarget_of_normalized accepted split
    | requested request resolve => exact ih web later

/-- The request does not take the top frame away from the origin of the task. -/
def StaysOn (target : Option SplitResult) (request : PageRequest) (parsed : SplitResult) : Prop :=
  request.isNavigationRequest = true → request.inTopFrame = true →
    ∀ t ∈ target, parsed.scheme = t.scheme ∧ parsed.netloc = t.netloc

theorem sameOrigin_originOf {target : SplitResult} (web : WebTarget library target) :
    sameOrigin library url (originOf target) = (library.urlsplit url).map fun parsed =>
      decide ((parsed.scheme, parsed.netloc) = (target.scheme, target.netloc)) := by
  obtain ⟨_, split, scheme⟩ := web
  unfold sameOrigin originOf
  rw [urlsplit_origin split scheme]
  cases library.urlsplit url with
  | error error => rfl
  | ok parsed => rfl

/-- What the handler finds out about the origin. -/
theorem leavesOrigin_cases {target : Option SplitResult} (web : ∀ t ∈ target, WebTarget library t)
    (request : PageRequest) :
    (leavesOrigin library (target.map originOf) request = .ok false ∧
        ∀ parsed, library.urlsplit request.url = .ok parsed → StaysOn target request parsed) ∨
      (leavesOrigin library (target.map originOf) request = .ok true ∧
        ∀ parsed, library.urlsplit request.url = .ok parsed → ¬ StaysOn target request parsed) ∨
      ∃ error, leavesOrigin library (target.map originOf) request = .error error ∧
        library.urlsplit request.url = .error error := by
  cases target with
  | none => exact .inl ⟨rfl, fun _ _ _ _ _ member => nomatch member⟩
  | some target =>
    have same : sameOrigin library request.url (originOf target) =
        (library.urlsplit request.url).map fun parsed =>
          decide ((parsed.scheme, parsed.netloc) = (target.scheme, target.netloc)) :=
      sameOrigin_originOf (web target rfl)
    unfold leavesOrigin
    dsimp only [Option.map_some]
    cases navigation : request.isNavigationRequest with
    | false => exact .inl ⟨rfl, fun _ _ navigates => nomatch navigation.symm.trans navigates⟩
    | true =>
      cases top : request.inTopFrame with
      | false => exact .inl ⟨rfl, fun _ _ _ inTop => nomatch top.symm.trans inTop⟩
      | true =>
        rw [Bool.and_self, if_pos rfl, same]
        cases split : library.urlsplit request.url with
        | error error => exact .inr (.inr ⟨error, rfl, rfl⟩)
        | ok parsed =>
          by_cases stays : (parsed.scheme, parsed.netloc) = (target.scheme, target.netloc)
          · refine .inl ⟨by simp [Except.map, stays], ?_⟩
            rintro _ ⟨⟩ _ _ _ ⟨⟩
            exact ⟨congrArg Prod.fst stays, congrArg Prod.snd stays⟩
          · refine .inr (.inl ⟨by simp [Except.map, stays], ?_⟩)
            rintro _ ⟨⟩ kept
            obtain ⟨scheme, netloc⟩ := kept navigation top target rfl
            exact stays (Prod.ext scheme netloc)

/-- The one answer that a request gets. -/
structure Guarded (library : UrlLibrary) (addresses : AddressLibrary Address)
    (allowLocalNetwork : Bool) (target : Option SplitResult) (routed : Routed Address) : Prop where
  continued : routed.outcome = .continued ↔ ∃ parsed,
    Reachable library addresses routed.resolve allowLocalNetwork routed.request.url parsed ∧
      StaysOn target routed.request parsed
  /-- A request is left without an answer if its host is not resolved, or if the top frame
  goes to what is no URL. -/
  raised : ∀ error, routed.outcome = .raised error →
    (Unresolved library addresses routed.resolve routed.request.url error ∧
      isValueError error = false) ∨
      (library.urlsplit routed.request.url = .error error ∧
        routed.request.isNavigationRequest = true ∧ routed.request.inTopFrame = true ∧
        target.isSome = true)

theorem leavesOrigin_error {allowedOrigin : Option (List Char)} {request : PageRequest}
    {error : PyException} (failed : leavesOrigin library allowedOrigin request = .error error) :
    request.isNavigationRequest = true ∧ request.inTopFrame = true ∧
      allowedOrigin.isSome = true := by
  unfold leavesOrigin at failed
  split at failed
  · cases failed
  · split at failed
    · rename_i navigates
      obtain ⟨navigation, top⟩ := Bool.and_eq_true_iff.mp navigates
      exact ⟨navigation, top, rfl⟩
    · cases failed

theorem guarded_guardRequest {target : Option SplitResult}
    (web : ∀ t ∈ target, WebTarget library t) (request : PageRequest)
    (resolve : HostResolver Address) :
    Guarded library addresses allowLocalNetwork target ⟨request, resolve,
      guardRequest library addresses resolve allowLocalNetwork (target.map originOf) request⟩ := by
  unfold guardRequest
  obtain ⟨checked, stays⟩ | ⟨checked, leaves⟩ | ⟨error, checked, split⟩ :=
    leavesOrigin_cases web request
  · rw [checked]
    obtain ⟨parsed, reachable⟩ | ⟨error, refused, why⟩ :=
      @validate_cases Address library addresses resolve allowLocalNetwork request.url
    · dsimp only
      rw [reachable.validate]
      exact ⟨iff_of_true rfl ⟨parsed, reachable, stays parsed reachable.split⟩,
        fun _ raised => nomatch raised⟩
    · dsimp only
      rw [refused]
      have unreachable : ¬ ∃ parsed, Reachable library addresses resolve allowLocalNetwork
          request.url parsed ∧ StaysOn target request parsed := by
        rintro ⟨parsed, reachable, -⟩
        cases reachable.validate.symm.trans refused
      cases caught : isValueError error with
      | true =>
        dsimp only
        rw [if_pos caught]
        exact ⟨iff_of_false (fun same => nomatch same) unreachable, fun _ raised => nomatch raised⟩
      | false =>
        dsimp only
        rw [if_neg (Bool.not_eq_true _ ▸ caught)]
        refine ⟨iff_of_false (fun same => nomatch same) unreachable, ?_⟩
        rintro _ ⟨⟩
        exact .inl ⟨why.resolve_left (caught ▸ Bool.false_ne_true), caught⟩
  · rw [checked]
    refine ⟨iff_of_false (fun same => nomatch same) ?_, fun _ raised => nomatch raised⟩
    rintro ⟨parsed, reachable, stays⟩
    exact leaves parsed reachable.split stays
  · rw [checked]
    refine ⟨iff_of_false (fun same => nomatch same) ?_, ?_⟩
    · rintro ⟨parsed, reachable, -⟩
      cases reachable.split.symm.trans split
    · rintro _ ⟨⟩
      obtain ⟨navigation, top, called⟩ := leavesOrigin_error checked
      exact .inr ⟨split, navigation, top, by simpa using called⟩

/-- In every life of a runner whose tasks have normalised URLs, each request is let through
just when it is reachable and keeps the top frame on the origin of the last task. -/
theorem requests_guarded {before after : List (GuardEvent Address)} {request : PageRequest}
    {resolve : HostResolver Address}
    (tasks : ∀ targetUrl, .called targetUrl ∈ before →
      ∃ value, AgentTask.normalizeTargetUrl library value = .ok targetUrl) :
    ∃ outcome, route library addresses allowLocalNetwork none
        (before ++ .requested request resolve :: after) =
      route library addresses allowLocalNetwork none before ++ ⟨request, resolve, outcome⟩ ::
        route library addresses allowLocalNetwork
          ((targetAfter library none before).map originOf) after ∧
      Guarded library addresses allowLocalNetwork (targetAfter library none before)
        ⟨request, resolve, outcome⟩ := by
  have web : ∀ t ∈ targetAfter library none before, WebTarget library t :=
    webTarget_targetAfter (fun _ member => nomatch member) tasks
  exact ⟨_, route_append none before _, guarded_guardRequest web request resolve⟩

namespace Sample

/-- Addresses are numbers, of which those from ten on are public. -/
def numbers : AddressLibrary Nat where
  ipAddress _ := none
  isGlobal address := 10 ≤ address

def task : GuardEvent Nat := .called "https://example.com/".toList

def search : PageRequest := ⟨"https://example.com/search".toList, true, true⟩

def resolver : HostResolver Nat := fun _ _ => .ok [12]

end Sample

theorem requests_guarded_search :
    ∃ outcome, route .plain Sample.numbers false none
        ([Sample.task] ++ .requested Sample.search Sample.resolver :: []) =
      route .plain Sample.numbers false none [Sample.task] ++
        ⟨Sample.search, Sample.resolver, outcome⟩ :: route .plain Sample.numbers false
          ((targetAfter .plain none [Sample.task]).map originOf) [] ∧
      Guarded .plain Sample.numbers false (targetAfter .plain none [Sample.task])
        ⟨Sample.search, Sample.resolver, outcome⟩ := by
  refine requests_guarded fun targetUrl member => ?_
  cases List.mem_singleton.mp member
  exact ⟨" https://Example.com".toList, by decide⟩

end RequestGuard

end PurchaseAgent
