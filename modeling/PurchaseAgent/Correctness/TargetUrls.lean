import PurchaseAgent.Domain.TargetUrl

/-!
When a normalised target URL is accepted again, stays as it is, and leads to the
destination of the URL it was made from.
-/

namespace PurchaseAgent

open Url

/-- What lower-casing turns into something below the small letters was that before. -/
theorem toLower_eq {c d : Char} (small : d.toNat < 97) (same : c.toLower = d) : c = d := by
  unfold Char.toLower at same
  split at same
  · rename_i upper
    have value : (c.val + 32).toNat = d.toNat := congrArg Char.toNat same
    have range : 65 ≤ c.val.toNat ∧ c.val.toNat ≤ 90 := upper
    have lower : (c.val + 32).toNat = c.val.toNat + 32 := by
      rw [UInt32.toNat_add]
      exact Nat.mod_eq_of_lt (by have : (32 : UInt32).toNat = 32 := rfl; omega)
    omega
  · exact same

section
variable (library : UrlLibrary)

/-- The same scheme, host, port, path and query. -/
structure SameDestination (before after : SplitResult) : Prop where
  scheme : after.scheme = before.scheme
  host : ∃ old new, library.hostname before = some old ∧ library.hostname after = some new ∧
    SameCase new old
  port : PurchaseAgent.port after = PurchaseAgent.port before
  path : rootedPath after.path = rootedPath before.path
  query : after.query = before.query

/-- What normalisation should do: its result is accepted, unchanged, and leads to the
same destination. -/
structure KeepsDestination (value result : List Char) : Prop where
  again : AgentTask.normalizeTargetUrl library result = .ok result
  same : ∃ before after, library.urlsplit (stripped value) = .ok before ∧
    library.urlsplit result = .ok after ∧ SameDestination library before after

/-- The URLs of which normalisation keeps the destination: the host is not bracketed for its
colons, folding it changes nothing but ASCII case, and nothing that strips away is laid bare
where an empty query or fragment is dropped. -/
def KeepableTarget (value : List Char) : Prop :=
  ∃ parsed host, library.urlsplit (stripped value) = .ok parsed ∧
    library.hostname parsed = some host ∧ ':' ∉ host ∧ '[' ∉ host ∧
    SameCase (library.hostLower (library.casefold host)) host ∧
    ∀ last ∈ (rootedPath parsed.path ++ queryPart parsed.query).getLast?, isSpace last = false

/-- An accepted URL, with what the validator read of it. -/
structure AcceptedUrl (value : List Char) (parsed : SplitResult) (host : List Char)
    (number : Option Nat) : Prop where
  split : library.urlsplit (stripped value) = .ok parsed
  named : library.hostname parsed = some host
  scheme : parsed.scheme = "http".toList ∨ parsed.scheme = "https".toList
  credentials : ¬ hasCredentials parsed
  fragment : parsed.fragment = []
  hostAllowed : parsed.scheme = "http".toList → library.casefold host ∈ localHosts
  numbered : PurchaseAgent.port parsed = .ok number

variable {library} {value : List Char} {parsed : SplitResult} {host : List Char}
  {number : Option Nat}

/-- What the validator makes of an accepted URL. -/
def normalizedUrl (library : UrlLibrary) (parsed : SplitResult) (host : List Char)
    (number : Option Nat) : List Char :=
  unsplit parsed.scheme (normalizedNetloc (library.casefold host) number) (rootedPath parsed.path)
    parsed.query

theorem AcceptedUrl.normalize (accepted : AcceptedUrl library value parsed host number) :
    AgentTask.normalizeTargetUrl library value = .ok (normalizedUrl library parsed host number) := by
  have scheme : ¬ (parsed.scheme ≠ "http".toList ∧ parsed.scheme ≠ "https".toList) := by
    intro ⟨plain, secure⟩
    exact accepted.scheme.elim plain secure
  have allowed : ¬ (parsed.scheme = "http".toList ∧
      !localHosts.contains (library.casefold host)) := by
    intro ⟨plain, other⟩
    rw [List.contains_iff_mem.mpr (accepted.hostAllowed plain)] at other
    cases other
  simp only [AgentTask.normalizeTargetUrl, accepted.split, bind, Except.bind, accepted.named,
    if_neg scheme, if_neg accepted.credentials, accepted.fragment, ne_eq, not_true_eq_false,
    if_false, if_neg allowed, accepted.numbered, normalizedUrl]

theorem normalize_accepted {result : List Char}
    (ok : AgentTask.normalizeTargetUrl library value = .ok result) :
    ∃ parsed host number, AcceptedUrl library value parsed host number ∧
      result = normalizedUrl library parsed host number := by
  unfold AgentTask.normalizeTargetUrl at ok
  cases split : library.urlsplit (stripped value) with
  | error error =>
      rw [split] at ok
      cases ok
  | ok parsed =>
      simp only [split, bind, Except.bind] at ok
      cases named : library.hostname parsed with
      | none =>
          rw [named] at ok
          cases ok
      | some host =>
          simp only [named] at ok
          by_cases scheme : parsed.scheme ≠ "http".toList ∧ parsed.scheme ≠ "https".toList
          · rw [if_pos scheme] at ok
            cases ok
          rw [if_neg scheme] at ok
          by_cases credentials : hasCredentials parsed
          · rw [if_pos credentials] at ok
            cases ok
          rw [if_neg credentials] at ok
          by_cases fragment : parsed.fragment = []
          · rw [if_neg (not_not.mpr fragment)] at ok
            by_cases allowed : parsed.scheme = "http".toList ∧
                !localHosts.contains (library.casefold host)
            · rw [if_pos allowed] at ok
              cases ok
            rw [if_neg allowed] at ok
            cases numbered : PurchaseAgent.port parsed with
            | error error =>
                rw [numbered] at ok
                cases ok
            | ok number =>
                simp only [numbered] at ok
                refine ⟨parsed, host, number, ⟨split, named, ?_, credentials, fragment, ?_, numbered⟩,
                  (Except.ok.inj ok).symm⟩
                · exact or_iff_not_and_not.mpr scheme
                · intro plain
                  cases known : localHosts.contains (library.casefold host) with
                  | true => exact List.contains_iff_mem.mp known
                  | false => exact absurd ⟨plain, by rw [known]; rfl⟩ allowed
          · rw [if_pos fragment] at ok
            cases ok

theorem urlsplit_ok_iff {url : List Char} : library.urlsplit url = .ok parsed ↔
    parsed = components url ∧ library.checkBrackets parsed.netloc = true ∧
      library.checkNetloc parsed.netloc = true := by
  unfold UrlLibrary.urlsplit
  dsimp only
  constructor
  · intro ok
    split at ok
    · cases ok
    · rename_i brackets
      split at ok
      · cases ok
      · rename_i netloc
        obtain rfl := Except.ok.inj ok
        exact ⟨rfl, Bool.not_eq_false _ ▸ brackets, Bool.not_eq_false _ ▸ netloc⟩
  · intro ⟨same, brackets, netloc⟩
    rw [← same, if_neg (by simp [brackets]), if_neg (by simp [netloc])]

theorem mem_hostLower (host : List Char) {c : Char} (reserved : isReserved c = true) :
    c ∈ library.hostLower host ↔ c ∈ host := by
  unfold UrlLibrary.hostLower
  split
  · rename_i zoned
    obtain ⟨absent, -⟩ | split := partition_split '%' host
    · exact absurd zoned absent
    · conv_rhs => rw [split]
      rw [List.mem_append, List.mem_append, library.mem_lower _ c reserved]
  · exact library.mem_lower _ c reserved

theorem hostLower_expands {host : List Char} (kept : ∀ c ∈ host, library.expands c = false) :
    ∀ c ∈ library.hostLower host, library.expands c = false := by
  intro c member
  unfold UrlLibrary.hostLower at member
  split at member
  · rename_i zoned
    rcases List.mem_append.mp member with lowered | rest
    · exact library.lower_expands _ (fun d inside => kept d (partition_fst_subset inside)) c lowered
    · rcases List.mem_cons.mp rest with rfl | zone
      · exact kept _ zoned
      · exact kept c (partition_snd_subset zone)
  · exact library.lower_expands _ kept c member

theorem hostPart_subset (netloc : List Char) : hostPart netloc ⊆ netloc := by
  intro c member
  exact List.mem_reverse.mp ((List.takeWhile_prefix _).subset (List.mem_reverse.mp member))

theorem hostinfo_subset (netloc : List Char) : (hostinfo netloc).1 ⊆ netloc := by
  unfold hostinfo
  split
  · exact fun c member =>
      hostPart_subset netloc (partition_snd_subset (partition_fst_subset member))
  · exact fun c member => hostPart_subset netloc (partition_fst_subset member)

section Accepted
variable (accepted : AcceptedUrl library value parsed host number)
include accepted

theorem AcceptedUrl.parsed_split : Split parsed := by
  obtain ⟨rfl, -, -⟩ := urlsplit_ok_iff.mp accepted.split
  exact split_components _

theorem AcceptedUrl.written : (hostinfo parsed.netloc).1 ≠ [] ∧
    host = library.hostLower (hostinfo parsed.netloc).1 := by
  have named := accepted.named
  unfold UrlLibrary.hostname at named
  dsimp only at named
  split at named
  · cases named
  · rename_i written
    exact ⟨written, (Option.some.inj named).symm⟩

theorem AcceptedUrl.closing : ']' ∉ (hostinfo parsed.netloc).1 := by
  intro member
  have inNetloc := hostinfo_subset _ member
  obtain ⟨-, brackets, -⟩ := urlsplit_ok_iff.mp accepted.split
  rw [UrlLibrary.checkBrackets, if_pos (.inr inNetloc)] at brackets
  simp only [Bool.and_eq_true, decide_eq_true_eq] at brackets
  have opening : '[' ∈ hostPart parsed.netloc := by
    rw [hostPart_of_not_mem accepted.credentials]
    exact brackets.1.1
  rw [hostinfo, if_pos opening] at member
  exact not_mem_partition _ _ member

/-- Of the reserved characters, only a colon or an opening bracket can be in a host. -/
theorem AcceptedUrl.reserved {c : Char} (reserved : isReserved c = true) (colon : c ≠ ':')
    (bracket : c ≠ '[') : c ∉ library.casefold host := by
  intro member
  obtain ⟨-, rfl⟩ := accepted.written
  have inside : c ∈ (hostinfo parsed.netloc).1 :=
    (mem_hostLower _ reserved).mp ((library.mem_casefold _ c reserved).mp member)
  have inNetloc := hostinfo_subset _ inside
  have clean := accepted.parsed_split.netloc_clean c inNetloc
  have safe := accepted.parsed_split.safe c (List.mem_append_left _ (List.mem_append_left _ inNetloc))
  simp only [isReserved, List.contains_cons, List.contains_nil, Bool.or_eq_true, beq_iff_eq,
    Bool.or_false, safe] at reserved
  rcases reserved with rfl | rfl | rfl | rfl | rfl | rfl | rfl
  · cases clean
  · cases clean
  · cases clean
  · exact accepted.credentials inNetloc
  · exact colon rfl
  · exact bracket rfl
  · exact accepted.closing inside

omit accepted in
theorem digit_plain {c : Char} (digit : c.isDigit = true) : 48 ≤ c.toNat ∧ c.toNat ≤ 57 := by
  simp only [Char.isDigit, Bool.and_eq_true, decide_eq_true_eq, ge_iff_le,
    UInt32.le_iff_toNat_le] at digit
  exact digit

omit accepted in
theorem digit_unreserved {c : Char} (digit : c.isDigit = true) : isReserved c = false := by
  have range := digit_plain digit
  apply Bool.eq_false_iff.mpr
  intro reserved
  simp only [isReserved, isUnsafe, List.contains_cons, List.contains_nil, Bool.or_eq_true,
    beq_iff_eq, Bool.or_false] at reserved
  rcases reserved with (rfl | rfl | rfl | rfl | rfl | rfl | rfl) | (rfl | rfl) | rfl <;>
    exact absurd range (by decide)

omit accepted in
/-- What stands in a normalised network location. -/
theorem mem_normalizedNetloc {folded : List Char} {c : Char}
    (member : c ∈ normalizedNetloc folded number) : c ∈ folded ∨ c = ':' ∨ c.isDigit = true := by
  cases number with
  | none => exact .inl member
  | some number =>
      rcases List.mem_append.mp member with inHost | rest
      · exact .inl inHost
      · rcases List.mem_cons.mp rest with colon | digit
        · exact .inr (.inl colon)
        · exact .inr (.inr (Nat.isDigit_of_mem_toDigits (by decide) (by decide) digit))

/-- Nor are there other reserved characters in the normalised network location. -/
theorem AcceptedUrl.netloc_reserved {c : Char} (reserved : isReserved c = true) (colon : c ≠ ':')
    (bracket : c ≠ '[') : c ∉ normalizedNetloc (library.casefold host) number := by
  intro member
  rcases mem_normalizedNetloc member with inHost | same | digit
  · exact accepted.reserved reserved colon bracket inHost
  · exact colon same
  · rw [digit_unreserved digit] at reserved
    cases reserved

theorem AcceptedUrl.path_cases : parsed.path = [] ∨ parsed.path.head? = some '/' := by
  apply accepted.parsed_split.rooted
  intro empty
  apply accepted.written.1
  exact List.eq_nil_of_subset_nil (empty ▸ hostinfo_subset parsed.netloc)

theorem AcceptedUrl.rootedPath_head : (rootedPath parsed.path).head? = some '/' := by
  unfold rootedPath
  split
  · rfl
  · rename_i given
    exact accepted.path_cases.resolve_left given

omit accepted in
theorem rootedPath_rootedPath (path : List Char) :
    rootedPath (rootedPath path) = rootedPath path := by
  unfold rootedPath
  split
  · rfl
  · rfl

omit accepted in
theorem mem_rootedPath {path : List Char} {c : Char} (member : c ∈ rootedPath path) :
    c ∈ path ∨ c = '/' := by
  unfold rootedPath at member
  split at member
  · exact .inr (List.mem_singleton.mp member)
  · exact .inl member

omit accepted in
theorem mem_queryPart {query : List Char} {c : Char} (member : c ∈ queryPart query) :
    c = '?' ∨ c ∈ query := by
  unfold queryPart at member
  split at member
  · cases member
  · exact List.mem_cons.mp member

theorem AcceptedUrl.path_clean : '?' ∉ rootedPath parsed.path := by
  intro member
  rcases mem_rootedPath member with inPath | slash
  · exact accepted.parsed_split.path_clean.1 inPath
  · cases slash

theorem AcceptedUrl.parts : Parts parsed.scheme (normalizedNetloc (library.casefold host) number)
    (rootedPath parsed.path ++ queryPart parsed.query) := by
  have netlocSafe : ∀ c, isNetlocEnd c = true ∨ isUnsafe c = true →
      c ∉ normalizedNetloc (library.casefold host) number := by
    intro c forbidden
    have reserved : isReserved c = true := by
      simp only [isReserved, isNetlocEnd, List.contains_cons, Bool.or_eq_true, beq_iff_eq] at *
      tauto
    apply accepted.netloc_reserved reserved
    · rintro rfl
      revert forbidden
      decide
    · rintro rfl
      revert forbidden
      decide
  have chars : parsed.scheme.all (fun c => isSchemeChar c && !isUnsafe c) = true := by
    rcases accepted.scheme with scheme | scheme <;> rw [scheme] <;> decide
  have char : ∀ c ∈ parsed.scheme, isSchemeChar c = true ∧ isUnsafe c = false := by
    intro c member
    simpa using List.all_eq_true.mp chars c member
  constructor
  · rcases accepted.scheme with scheme | scheme <;> rw [scheme] <;> decide
  · exact fun c member => (char c member).1
  · rcases accepted.scheme with scheme | scheme <;> rw [scheme] <;> decide
  · intro c member
    exact Bool.eq_false_iff.mpr fun ends => netlocSafe c (.inl ends) member
  · rw [List.head?_append, accepted.rootedPath_head]
    rfl
  · intro member
    rcases List.mem_append.mp member with inPath | inQuery
    · rcases mem_rootedPath inPath with written | slash
      · exact accepted.parsed_split.path_clean.2 written
      · cases slash
    · rcases mem_queryPart inQuery with mark | written
      · cases mark
      · exact accepted.parsed_split.query_clean written
  · intro c member
    rw [List.mem_append, List.mem_append, List.mem_append] at member
    rcases member with (inScheme | inNetloc) | inPath | inQuery
    · exact (char c inScheme).2
    · exact Bool.eq_false_iff.mpr fun removed => netlocSafe c (.inr removed) inNetloc
    · rcases mem_rootedPath inPath with written | rfl
      · exact accepted.parsed_split.safe c
          (List.mem_append_left _ (List.mem_append_right _ written))
      · rfl
    · rcases mem_queryPart inQuery with rfl | written
      · rfl
      · exact accepted.parsed_split.safe c (List.mem_append_right _ written)

/-- What the normalised URL is split into. -/
theorem AcceptedUrl.reparsed : components (normalizedUrl library parsed host number) =
    ⟨parsed.scheme, normalizedNetloc (library.casefold host) number, rootedPath parsed.path,
      parsed.query, []⟩ :=
  components_unsplit accepted.parts accepted.path_clean

omit accepted in
theorem SameCase.colon {new old : List Char} (same : SameCase new old) (colon : ':' ∈ old) :
    ':' ∈ new := by
  have lowered : ':' ∈ new.map Char.toLower := by
    rw [same]
    exact List.mem_map.mpr ⟨':', colon, rfl⟩
  obtain ⟨c, member, lower⟩ := List.mem_map.mp lowered
  exact toLower_eq (by decide) lower ▸ member

omit accepted in
def portText : Option Nat → List Char
  | none => []
  | some number => Nat.toDigits 10 number

omit accepted in
theorem partition_normalizedNetloc {folded : List Char} (plain : ':' ∉ folded) :
    partition ':' (normalizedNetloc folded number) = (folded, portText number) := by
  cases number with
  | none => exact partition_of_not_mem plain
  | some number => exact partition_append plain _

theorem AcceptedUrl.hostinfo_reparsed (unbracketed : '[' ∉ host) :
    hostinfo (normalizedNetloc (library.casefold host) number) =
      partition ':' (normalizedNetloc (library.casefold host) number) := by
  have credentials : '@' ∉ normalizedNetloc (library.casefold host) number :=
    accepted.netloc_reserved rfl (by decide) (by decide)
  have brackets : '[' ∉ normalizedNetloc (library.casefold host) number := by
    intro member
    rcases mem_normalizedNetloc member with inHost | same | digit
    · exact unbracketed ((library.mem_casefold _ _ rfl).mp inHost)
    · cases same
    · cases digit
  rw [hostinfo, hostPart_of_not_mem credentials, if_neg brackets]

/-- A normalised URL that is split at all has no bracket left of its host. -/
theorem AcceptedUrl.unbracketed {after : SplitResult}
    (split : library.urlsplit (normalizedUrl library parsed host number) = .ok after) :
    '[' ∉ host := by
  intro member
  obtain ⟨rfl, brackets, -⟩ := urlsplit_ok_iff.mp split
  have opening : '[' ∈ normalizedNetloc (library.casefold host) number := by
    have folded := (library.mem_casefold host '[' rfl).mpr member
    cases number with
    | none => exact folded
    | some number => exact List.mem_append_left _ folded
  rw [accepted.reparsed, UrlLibrary.checkBrackets, if_pos (.inl opening)] at brackets
  simp only [Bool.and_eq_true, decide_eq_true_eq] at brackets
  exact accepted.netloc_reserved rfl (by decide) (by decide) brackets.1.2

theorem AcceptedUrl.number_le {n : Nat} (given : number = some n) : n ≤ 65535 := by
  have numbered := accepted.numbered
  unfold port at numbered
  dsimp only at numbered
  split at numbered
  · rw [← Except.ok.inj numbered] at given
    cases given
  · split at numbered
    · cases numbered
    · split at numbered
      · cases numbered
      · rename_i bound
        rw [← Except.ok.inj numbered] at given
        obtain rfl := Option.some.inj given
        exact Nat.le_of_not_lt bound

omit accepted in
theorem port_portText (bound : ∀ n, number = some n → n ≤ 65535) {after : SplitResult}
    (text : (hostinfo after.netloc).2 = portText number) : port after = .ok number := by
  unfold port
  dsimp only
  rw [text]
  cases number with
  | none => rfl
  | some n =>
      have digits : (Nat.toDigits 10 n).all Char.isDigit = true :=
        List.all_eq_true.mpr fun c member =>
          Nat.isDigit_of_mem_toDigits (by decide) (by decide) member
      rw [portText, if_neg Nat.toDigits_ne_nil, digits, if_neg Bool.noConfusion,
        Nat.ofDigitChars_ten_toDigits, if_neg (Nat.not_lt_of_le (bound n rfl))]

/-- The host of a normalised URL whose host was kept. -/
theorem AcceptedUrl.rehost (unbracketed : '[' ∉ host) (plain : ':' ∉ host) {after : SplitResult}
    (netloc : after.netloc = normalizedNetloc (library.casefold host) number) :
    library.hostname after = some (library.hostLower (library.casefold host)) ∧
      port after = .ok number := by
  have folded : ':' ∉ library.casefold host := fun member =>
    plain ((library.mem_casefold _ _ rfl).mp member)
  have info : hostinfo after.netloc = (library.casefold host, portText number) := by
    rw [netloc, accepted.hostinfo_reparsed unbracketed, partition_normalizedNetloc folded]
  have given : host ≠ [] := by
    obtain ⟨written, same⟩ := accepted.written
    rw [same]
    unfold UrlLibrary.hostLower
    split
    · exact List.append_ne_nil_of_right_ne_nil _ (List.cons_ne_nil _ _)
    · exact library.lower_ne_nil _ written
  constructor
  · rw [UrlLibrary.hostname, info, if_neg (library.casefold_ne_nil _ given)]
  · exact port_portText (fun n => accepted.number_le) (congrArg Prod.snd info)

theorem AcceptedUrl.expands_host (plain : ':' ∉ host) :
    ∀ c ∈ library.casefold host, library.expands c = false := by
  apply library.casefold_expands
  obtain ⟨-, same⟩ := accepted.written
  rw [same]
  apply hostLower_expands
  intro c member
  have inNetloc := hostinfo_subset _ member
  obtain ⟨-, -, checked⟩ := urlsplit_ok_iff.mp accepted.split
  have kept := List.all_eq_true.mp checked c inNetloc
  simp only [isUnchecked, List.contains_cons, List.contains_nil, Bool.or_eq_true, beq_iff_eq,
    Bool.or_false, Bool.not_eq_true'] at kept
  have clean := accepted.parsed_split.netloc_clean c inNetloc
  rcases kept with (rfl | rfl | rfl | rfl) | kept
  · exact absurd inNetloc accepted.credentials
  · exact absurd (same ▸ (mem_hostLower _ rfl).mpr member) plain
  · cases clean
  · cases clean
  · exact kept

/-- A host without colons and brackets makes a network location that is split. -/
theorem AcceptedUrl.resplit (unbracketed : '[' ∉ host) (plain : ':' ∉ host) :
    library.urlsplit (normalizedUrl library parsed host number) =
      .ok (components (normalizedUrl library parsed host number)) := by
  apply urlsplit_ok_iff.mpr
  rw [accepted.reparsed]
  refine ⟨rfl, ?_, ?_⟩
  · have opening : '[' ∉ normalizedNetloc (library.casefold host) number := by
      intro member
      rcases mem_normalizedNetloc member with inHost | same | digit
      · exact unbracketed ((library.mem_casefold _ _ rfl).mp inHost)
      · cases same
      · cases digit
    have closing : ']' ∉ normalizedNetloc (library.casefold host) number :=
      accepted.netloc_reserved rfl (by decide) (by decide)
    exact if_neg (not_or.mpr ⟨opening, closing⟩)
  · apply List.all_eq_true.mpr
    intro c member
    rcases mem_normalizedNetloc member with inHost | rfl | digit
    · rw [accepted.expands_host plain c inHost]
      exact Bool.or_true _
    · rfl
    · have range := digit_plain digit
      have kept : library.expands c = false := by
        rw [library.expands_ascii c (by omega)]
        have unreserved := digit_unreserved digit
        simp only [isReserved, List.contains_cons, List.contains_nil, Bool.or_eq_false_iff] at *
        tauto
      rw [kept]
      exact Bool.or_true _

omit accepted in
/-- Stripping a URL strips what follows its network location. -/
theorem stripped_address {scheme netloc rest : List Char} (first : scheme.head? = some 'h')
    (rooted : rest.head? = some '/') :
    stripped (address scheme netloc rest) = address scheme netloc (rest.rdropWhile isSpace) := by
  obtain ⟨others, rfl⟩ := List.head?_eq_some_iff.mp first
  obtain ⟨path, rfl⟩ := List.head?_eq_some_iff.mp rooted
  have kept : (address ('h' :: others) netloc ('/' :: path)).dropWhile isSpace =
      address ('h' :: others) netloc ('/' :: path) := List.dropWhile_cons_of_neg (by decide)
  have nonempty : (('/' :: path).reverse.dropWhile isSpace).isEmpty = false := by
    apply Bool.eq_false_iff.mpr
    intro empty
    have all := List.dropWhile_eq_nil_iff.mp (List.isEmpty_iff.mp empty)
    have slash := all '/' (List.mem_reverse.mpr List.mem_cons_self)
    revert slash
    decide
  rw [stripped, kept]
  simp only [List.rdropWhile, address]
  rw [show ('h' :: others) ++ ':' :: '/' :: '/' :: (netloc ++ '/' :: path) =
      (('h' :: others) ++ ':' :: '/' :: '/' :: netloc) ++ '/' :: path by simp,
    List.reverse_append, List.dropWhile_append, nonempty, if_neg Bool.noConfusion,
    List.reverse_append, List.reverse_reverse]
  simp

theorem AcceptedUrl.scheme_head : parsed.scheme.head? = some 'h' := by
  rcases accepted.scheme with scheme | scheme <;> rw [scheme] <;> decide

omit accepted in
theorem stripped_shorter {text : List Char} {last : Char} (final : last ∈ text.getLast?)
    (space : isSpace last = true) : (text.rdropWhile isSpace).length < text.length := by
  obtain ⟨front, rfl⟩ := List.getLast?_eq_some_iff.mp final
  rw [List.rdropWhile_concat_pos _ _ _ space, List.length_append, List.length_singleton]
  exact Nat.lt_succ_of_le (List.rdropWhile_prefix isSpace front).length_le

omit accepted in
theorem rejoined_length_le {rest : List Char} (rooted : rest.head? = some '/') :
    (rootedPath (partition '?' rest).1 ++ queryPart (partition '?' rest).2).length ≤
      rest.length := by
  have given : rest ≠ [] := by
    rintro rfl
    cases rooted
  obtain ⟨-, whole⟩ | split := partition_split '?' rest
  · rw [whole, rootedPath, if_neg given, queryPart, if_pos rfl, List.append_nil]
  · have path : (partition '?' rest).1 ≠ [] := by
      intro empty
      rw [empty] at split
      rw [split] at rooted
      cases rooted
    have mark : (queryPart (partition '?' rest).2).length ≤ (partition '?' rest).2.length + 1 := by
      unfold queryPart
      split
      · exact Nat.zero_le _
      · exact Nat.le_refl _
    have length := congrArg List.length split
    rw [List.length_append, List.length_cons] at length
    rw [rootedPath, if_neg path, List.length_append]
    omega

omit accepted in
theorem parts_stripped {scheme netloc rest : List Char} (parts : Parts scheme netloc rest) :
    Parts scheme netloc (rest.rdropWhile isSpace) := by
  have within := List.rdropWhile_prefix isSpace rest
  have kept : rest.rdropWhile isSpace ≠ [] := by
    intro empty
    obtain ⟨path, rfl⟩ := List.head?_eq_some_iff.mp parts.rooted
    have slash := List.rdropWhile_eq_nil_iff.mp empty '/' List.mem_cons_self
    revert slash
    decide
  refine ⟨parts.scheme_alpha, parts.scheme_chars, parts.scheme_lower, parts.netloc_clean, ?_,
    fun member => parts.unfragmented (within.subset member), ?_⟩
  · obtain ⟨trailing, same⟩ := within
    have rooted := parts.rooted
    rw [← same, List.head?_append_of_ne_nil _ kept] at rooted
    exact rooted
  · intro c member
    apply parts.safe c
    rcases List.mem_append.mp member with front | inside
    · exact List.mem_append_left _ front
    · exact List.mem_append_right _ (within.subset inside)

/-- If the normalised URL is normalised to itself, it does not end in whitespace. -/
theorem AcceptedUrl.trimmed (again : AgentTask.normalizeTargetUrl library
    (normalizedUrl library parsed host number) = .ok (normalizedUrl library parsed host number)) :
    ∀ last ∈ (rootedPath parsed.path ++ queryPart parsed.query).getLast?, isSpace last = false := by
  intro last final
  apply Bool.eq_false_iff.mpr
  intro space
  obtain ⟨parsed', host', number', accepted', same⟩ := normalize_accepted again
  have parts := accepted.parts
  have reparsed := accepted.reparsed
  rw [same, accepted'.reparsed] at reparsed
  obtain ⟨-, -, path, query, -⟩ := SplitResult.mk.inj reparsed
  obtain ⟨split, -, -⟩ := urlsplit_ok_iff.mp accepted'.split
  rw [normalizedUrl, unsplit, stripped_address accepted.scheme_head parts.rooted] at split
  have shorter := stripped_shorter final space
  have trimmed := parts_stripped parts
  rw [components_address trimmed] at split
  have rejoined := rejoined_length_le trimmed.rooted
  -- putting together what was split off is no longer than the stripped text
  have whole : rootedPath parsed.path ++ queryPart parsed.query =
      rootedPath parsed'.path ++ queryPart parsed'.query := by
    rw [path, query]
  rw [split] at whole
  dsimp only at whole
  rw [← whole] at rejoined
  omega

/-- A host that is found again is not one with colons, which would be cut off. -/
theorem AcceptedUrl.colonless (unbracketed : '[' ∉ host) {new : List Char}
    (renamed : library.hostname (components (normalizedUrl library parsed host number)) = some new)
    (sameHost : SameCase new host) : ':' ∉ host := by
  intro member
  have colon := sameHost.colon member
  rw [UrlLibrary.hostname, accepted.reparsed] at renamed
  dsimp only at renamed
  rw [accepted.hostinfo_reparsed unbracketed] at renamed
  split at renamed
  · cases renamed
  · rw [← Option.some.inj renamed] at colon
    exact not_mem_partition _ _ ((mem_hostLower _ rfl).mp colon)

/-- A normalised URL that does not end in whitespace has none around it. -/
theorem AcceptedUrl.untouched (trimmed : ∀ last ∈
    (rootedPath parsed.path ++ queryPart parsed.query).getLast?, isSpace last = false) :
    stripped (normalizedUrl library parsed host number) = normalizedUrl library parsed host number := by
  rw [normalizedUrl, unsplit, stripped_address accepted.scheme_head accepted.parts.rooted]
  apply congrArg
  apply List.rdropWhile_eq_self_iff.mpr
  intro nonempty
  rw [trimmed _ (List.getLast?_eq_some_getLast nonempty)]
  exact Bool.false_ne_true

end Accepted

/-- Normalisation keeps the destination of exactly the keepable targets. -/
theorem target_url_kept_iff {result : List Char}
    (ok : AgentTask.normalizeTargetUrl library value = .ok result) :
    KeepsDestination library value result ↔ KeepableTarget library value := by
  obtain ⟨parsed, host, number, accepted, rfl⟩ := normalize_accepted ok
  constructor
  · intro ⟨again, before, after, first, second, same⟩
    obtain rfl := Except.ok.inj (accepted.split.symm.trans first)
    have unbracketed := accepted.unbracketed second
    obtain ⟨rfl, -, -⟩ := urlsplit_ok_iff.mp second
    obtain ⟨old, new, named, renamed, sameHost⟩ := same.host
    obtain rfl := Option.some.inj (accepted.named.symm.trans named)
    have plain := accepted.colonless unbracketed renamed sameHost
    have rehost := (accepted.rehost unbracketed plain
      (congrArg SplitResult.netloc accepted.reparsed)).1
    rw [rehost] at renamed
    obtain rfl := Option.some.inj renamed
    exact ⟨parsed, host, accepted.split, accepted.named, plain, unbracketed, sameHost,
      accepted.trimmed again⟩
  · intro ⟨parsed', host', split, named, plain, unbracketed, sameHost, trimmed⟩
    obtain rfl := Except.ok.inj (accepted.split.symm.trans split)
    obtain rfl := Option.some.inj (accepted.named.symm.trans named)
    have resplit := accepted.resplit unbracketed plain
    have rehost := accepted.rehost unbracketed plain
      (congrArg SplitResult.netloc accepted.reparsed)
    have untouched := accepted.untouched trimmed
    have reaccepted : AcceptedUrl library (normalizedUrl library parsed host number)
        (components (normalizedUrl library parsed host number))
        (library.hostLower (library.casefold host)) number := by
      refine ⟨?_, rehost.1, ?_, ?_, ?_, ?_, rehost.2⟩
      · rw [untouched]
        exact resplit
      · rw [accepted.reparsed]
        exact accepted.scheme
      · rw [accepted.reparsed]
        exact accepted.netloc_reserved rfl (by decide) (by decide)
      · rw [accepted.reparsed]
      · rw [accepted.reparsed, library.casefold_sameCase _ _ sameHost]
        exact accepted.hostAllowed
    constructor
    · rw [reaccepted.normalize]
      apply congrArg
      rw [normalizedUrl, accepted.reparsed, library.casefold_sameCase _ _ sameHost]
      dsimp only
      rw [rootedPath_rootedPath]
      rfl
    · refine ⟨parsed, _, accepted.split, resplit, ?_, ⟨host, _, accepted.named, rehost.1, sameHost⟩,
        rehost.2.trans accepted.numbered.symm, ?_, ?_⟩
      · rw [accepted.reparsed]
      · rw [accepted.reparsed]
        exact rootedPath_rootedPath _
      · rw [accepted.reparsed]

end

/-! ASCII texts, with one IPv6 address. -/

namespace UrlLibrary

def lowerAll (text : List Char) : List Char := text.map Char.toLower

theorem lowerAll_ne_nil (text : List Char) (given : text ≠ []) : lowerAll text ≠ [] := fun empty =>
  given (List.map_eq_nil_iff.mp empty)

theorem toLower_reserved {c : Char} (reserved : isReserved c = true) :
    c.toNat < 97 ∧ c.toLower = c := by
  simp only [isReserved, isUnsafe, List.contains_cons, List.contains_nil, Bool.or_eq_true,
    beq_iff_eq, Bool.or_false] at reserved
  rcases reserved with (rfl | rfl | rfl | rfl | rfl | rfl | rfl) | (rfl | rfl) | rfl <;> decide

theorem mem_lowerAll (text : List Char) (c : Char) (reserved : isReserved c = true) :
    c ∈ lowerAll text ↔ c ∈ text := by
  obtain ⟨small, same⟩ := toLower_reserved reserved
  constructor
  · intro member
    obtain ⟨d, inside, lower⟩ := List.mem_map.mp member
    exact toLower_eq small lower ▸ inside
  · intro member
    exact List.mem_map.mpr ⟨c, member, same⟩

def isDelimiter (c : Char) : Bool := ['/', '?', '#', '@', ':'].contains c

theorem lowerAll_delimiter (text : List Char) (kept : ∀ c ∈ text, isDelimiter c = false) (c : Char)
    (member : c ∈ lowerAll text) : isDelimiter c = false := by
  obtain ⟨d, inside, lower⟩ := List.mem_map.mp member
  apply Bool.eq_false_iff.mpr
  intro delimiter
  have reserved : isReserved c = true := by
    simp only [isDelimiter, isReserved, List.contains_cons, List.contains_nil, Bool.or_eq_true,
      Bool.or_false] at *
    tauto
  obtain rfl := toLower_eq (toLower_reserved reserved).1 lower
  rw [kept d inside] at delimiter
  cases delimiter

def plain : UrlLibrary where
  lower := lowerAll
  casefold := lowerAll
  expands := isDelimiter
  isIpv6 text := text = "::1".toList
  lower_ne_nil := lowerAll_ne_nil
  casefold_ne_nil := lowerAll_ne_nil
  mem_lower := mem_lowerAll
  mem_casefold := mem_lowerAll
  lower_expands := lowerAll_delimiter
  casefold_expands := lowerAll_delimiter
  casefold_sameCase _ _ same := same
  expands_ascii _ _ := rfl

theorem example_normalized : AgentTask.normalizeTargetUrl plain " https://Example.com".toList =
    .ok "https://example.com/".toList := by decide

theorem loopback_normalized : AgentTask.normalizeTargetUrl plain "https://[::1]/".toList =
    .ok "https://::1/".toList := by decide

theorem loopback_refused : AgentTask.normalizeTargetUrl plain "https://::1/".toList =
    .error (validationError "target_url must be an absolute HTTP(S) URL") := by decide

end UrlLibrary

theorem target_url_kept_iff_example :
    KeepsDestination .plain " https://Example.com".toList "https://example.com/".toList ↔
      KeepableTarget .plain " https://Example.com".toList :=
  target_url_kept_iff UrlLibrary.example_normalized

/-- The brackets of an IPv6 host are lost, and the URL is refused from then on. -/
theorem bracketed_host_lost :
    AgentTask.normalizeTargetUrl .plain "https://[::1]/".toList = .ok "https://::1/".toList ∧
    ¬ KeepsDestination .plain "https://[::1]/".toList "https://::1/".toList := by
  refine ⟨UrlLibrary.loopback_normalized, ?_⟩
  intro keeps
  have again := keeps.again
  rw [UrlLibrary.loopback_refused] at again
  cases again

end PurchaseAgent
