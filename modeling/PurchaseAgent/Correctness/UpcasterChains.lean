import Mathlib.Data.List.Forall2
import Mathlib.Data.List.Nodup
import PurchaseAgent.Collections.DictKeys
import PurchaseAgent.Correctness.EventFields
import PurchaseAgent.Services.UpcasterRegistry

/-!
Registries of upcasters are accepted just when they are a chain of adjacent versions, and
the loop that follows an accepted one comes to the current version by every version between.
-/

namespace PurchaseAgent

open Collections

/-- An upcaster from a version to the next. -/
structure UpcasterObject.Links (upcaster : UpcasterObject) (version : Int) : Prop where
  source : upcaster.sourceVersion = .int version
  target : upcaster.targetVersion = .int (version + 1)

/-- The two attributes of an upcaster. -/
def UpcasterObject.versions (upcaster : UpcasterObject) : PyValue × PyValue :=
  (upcaster.sourceVersion, upcaster.targetVersion)

/-- One upcaster from each version below the current one, and nothing else. -/
def FormsChain (upcasters : List UpcasterObject) (current : Nat) : Prop :=
  (upcasters.map UpcasterObject.versions).Perm
    ((List.range current).map fun (version : Nat) =>
      (PyValue.int version, PyValue.int (version + 1)))

/-- The versions from one up to another. -/
def versionsFrom (first last : Int) : List Int :=
  (List.range (last - first).toNat).map fun (steps : Nat) => first + steps

theorem exactInt_eq_some_iff {value : PyValue} {n : Int} : value.exactInt = some n ↔ value = .int n := by
  cases value <;> simp [PyValue.exactInt]

theorem adjacent_eq_some_iff {upcaster : UpcasterObject} {current version : Int} :
    upcaster.adjacent current = some version ↔
      upcaster.Links version ∧ 0 ≤ version ∧ version + 1 ≤ current := by
  unfold UpcasterObject.adjacent
  simp only [Option.bind_eq_some_iff, exactInt_eq_some_iff]
  constructor
  · intro ⟨source, sourceIs, target, targetIs, found⟩
    split at found
    · cases found
    · rename_i allowed
      obtain rfl := Option.some.inj found
      rw [legacyMissionEventSchemaVersion] at allowed
      obtain rfl : target = source + 1 := by omega
      exact ⟨⟨sourceIs, targetIs⟩, by omega, by omega⟩
  · intro ⟨links, nonneg, below⟩
    refine ⟨version, links.source, version + 1, links.target, if_neg ?_⟩
    rw [legacyMissionEventSchemaVersion]
    omega

section
variable {current : Int}

/-- What the loop over the collection comes to. -/
theorem registerUpcasters_ok_iff {upcasters : List UpcasterObject} {registry result : UpcasterRegistry}
    (keys : (registry.map (·.1)).Nodup) :
    registerUpcasters current registry upcasters = .ok result ↔
      ∃ versions, List.Forall₂ (fun upcaster version => upcaster.adjacent current = some version)
          upcasters versions ∧
        (registry.map (·.1) ++ versions).Nodup ∧ result = registry ++ versions.zip upcasters := by
  induction upcasters generalizing registry with
  | nil =>
      rw [registerUpcasters, Except.ok.injEq]
      constructor
      · rintro rfl
        exact ⟨[], .nil, by simpa using keys, by simp⟩
      · rintro ⟨versions, all, -, rfl⟩
        cases all
        simp
  | cons upcaster rest ih =>
      rw [registerUpcasters]
      cases adjacent : upcaster.adjacent current with
      | none =>
          simp only [reduceCtorEq, false_iff, not_exists, not_and]
          intro versions all
          cases all with
          | cons first _ => cases adjacent.symm.trans first
      | some source =>
          cases held : registry.get? source with
          | some old =>
              have listed : source ∈ registry.map (·.1) :=
                List.mem_map.mpr ⟨_, Dict.mem_of_get? held, rfl⟩
              simp only [held, Option.isSome_some, if_true, reduceCtorEq, false_iff, not_exists, not_and]
              intro versions all distinct
              cases all with
              | cons first _ =>
                  obtain rfl := Option.some.inj (adjacent.symm.trans first)
                  exact absurd rfl
                    ((List.nodup_append.mp distinct).2.2 source listed source List.mem_cons_self)
          | none =>
              -- the keys set so far stay distinct, which the induction needs of the rest
              have fresh : ((registry ++ [(source, upcaster)]).map (·.1)).Nodup := by
                rw [List.map_append]
                refine List.nodup_append.mpr ⟨keys, List.pairwise_singleton _ _, ?_⟩
                rintro key listed other single rfl
                obtain rfl : key = source := by simpa using single
                exact Dict.get?_eq_none_iff.mp held listed
              simp only [held, Option.isSome_none, Bool.false_eq_true, if_false]
              rw [Dict.set_of_absent (Dict.get?_eq_none_iff.mp held), ih fresh]
              constructor
              · rintro ⟨versions, all, distinct, rfl⟩
                refine ⟨source :: versions, .cons adjacent all, ?_, by simp⟩
                simpa using distinct
              · rintro ⟨versions, all, distinct, rfl⟩
                cases all with
                | cons first later =>
                    obtain rfl := Option.some.inj (adjacent.symm.trans first)
                    exact ⟨_, later, by simpa using distinct, by simp⟩

theorem get?_zip_isSome {upcasters : List UpcasterObject} {versions : List Int}
    (same : upcasters.length = versions.length) (version : Int) :
    (Dict.get? (versions.zip upcasters) version).isSome = true ↔ version ∈ versions := by
  rw [Option.isSome_iff_ne_none, ne_eq, Dict.get?_eq_none_iff, not_not]
  have keys : (versions.zip upcasters).map (·.1) = versions := List.map_fst_zip (by omega)
  rw [keys]

/-- The versions that a registry covers, each once, are those below the current one. -/
theorem coversVersions_iff {upcasters : List UpcasterObject} {versions : List Int} {current : Nat}
    (same : upcasters.length = versions.length) (distinct : versions.Nodup) :
    coversVersions (versions.zip upcasters) current = true ↔
      versions.Perm ((List.range current).map fun (version : Nat) => (version : Int)) := by
  have keys : (versions.zip upcasters).map (·.1) = versions := List.map_fst_zip (by omega)
  have range : ((List.range current).map fun (version : Nat) => (version : Int)).Nodup :=
    List.Nodup.map (fun _ _ => Int.ofNat.inj) List.nodup_range
  rw [List.perm_ext_iff_of_nodup distinct range]
  have within : (versions.zip upcasters).all (fun entry =>
      decide (legacyMissionEventSchemaVersion ≤ entry.1) && decide (entry.1 < (current : Int))) = true ↔
        ∀ version ∈ versions, 0 ≤ version ∧ version < current := by
    rw [List.all_eq_true]
    constructor
    · intro all version member
      obtain ⟨entry, listed, rfl⟩ := List.mem_map.mp (keys ▸ member)
      have both := all entry listed
      simp only [Bool.and_eq_true, decide_eq_true_eq] at both
      exact both
    · intro all entry listed
      have member : entry.1 ∈ versions := by
        rw [← keys]
        exact List.mem_map.mpr ⟨entry, listed, rfl⟩
      simp only [Bool.and_eq_true, decide_eq_true_eq]
      exact all entry.1 member
  rw [coversVersions, Bool.and_eq_true, within, List.all_eq_true]
  simp only [get?_zip_isSome same, List.mem_range, List.mem_map, Int.toNat_natCast]
  constructor
  · intro both version
    obtain ⟨bounds, covered⟩ := both
    constructor
    · intro member
      obtain ⟨nonneg, below⟩ := bounds version member
      exact ⟨version.toNat, by omega, by omega⟩
    · rintro ⟨n, below, rfl⟩
      exact covered n below
  · intro all
    refine ⟨?_, fun n below => (all n).mpr ⟨n, below, rfl⟩⟩
    intro version member
    obtain ⟨n, below, rfl⟩ := (all version).mp member
    omega

theorem formsChain_of_versions {upcasters : List UpcasterObject} {versions : List Int} {current : Nat}
    (all : List.Forall₂ (fun upcaster version => upcaster.adjacent current = some version)
      upcasters versions)
    (covered : versions.Perm ((List.range current).map fun (version : Nat) => (version : Int))) :
    FormsChain upcasters current := by
  have attributes : upcasters.map UpcasterObject.versions =
      versions.map fun (version : Int) => (PyValue.int version, PyValue.int (version + 1)) := by
    clear covered
    induction all with
    | nil => rfl
    | cons first _ ih =>
        obtain ⟨links, -, -⟩ := adjacent_eq_some_iff.mp first
        rw [List.map_cons, List.map_cons, ih, UpcasterObject.versions, links.source, links.target]
  rw [FormsChain, attributes]
  have mapped := covered.map fun (version : Int) => (PyValue.int version, PyValue.int (version + 1))
  rw [List.map_map] at mapped
  exact mapped

/-- The version from which an upcaster leads. -/
def UpcasterObject.source (upcaster : UpcasterObject) : Int :=
  upcaster.sourceVersion.exactInt.getD 0

theorem links_of_formsChain {upcasters : List UpcasterObject} {current : Nat}
    (chain : FormsChain upcasters current) {upcaster : UpcasterObject} (member : upcaster ∈ upcasters) :
    upcaster.adjacent current = some upcaster.source := by
  obtain ⟨version, below, same⟩ := List.mem_map.mp
    (chain.mem_iff.mp (List.mem_map.mpr ⟨upcaster, member, rfl⟩))
  obtain ⟨source, target⟩ := Prod.mk.inj same
  have read : upcaster.source = version := by
    rw [UpcasterObject.source, ← source]
    rfl
  have small := List.mem_range.mp below
  rw [adjacent_eq_some_iff, read]
  exact ⟨⟨source.symm, target.symm⟩, by omega, by omega⟩

theorem sources_of_formsChain {upcasters : List UpcasterObject} {current : Nat}
    (chain : FormsChain upcasters current) :
    (upcasters.map UpcasterObject.source).Perm
      ((List.range current).map fun (version : Nat) => (version : Int)) := by
  have mapped := List.Perm.map (fun entry : PyValue × PyValue => entry.1.exactInt.getD 0) chain
  rw [List.map_map, List.map_map] at mapped
  exact mapped

theorem nodup_range_cast (current : Nat) :
    ((List.range current).map fun (version : Nat) => (version : Int)).Nodup :=
  List.Nodup.map (fun _ _ => Int.ofNat.inj) List.nodup_range

/-- What an accepted collection is registered as. -/
theorem build_eq_ok_iff {upcasters : List UpcasterObject} {current : Nat} {registry : UpcasterRegistry} :
    buildMissionEventUpcasterRegistry upcasters (.int current) = .ok registry ↔
      ∃ versions, List.Forall₂ (fun upcaster version => upcaster.adjacent current = some version)
          upcasters versions ∧
        versions.Perm ((List.range current).map fun (version : Nat) => (version : Int)) ∧
        registry = versions.zip upcasters := by
  have nonneg : ¬ (current : Int) < legacyMissionEventSchemaVersion := by
    rw [legacyMissionEventSchemaVersion]
    omega
  have empty : (([] : UpcasterRegistry).map (·.1)).Nodup := List.nodup_nil
  have read : (PyValue.int current).exactInt = some (current : Int) := rfl
  unfold buildMissionEventUpcasterRegistry
  simp only [read, if_neg nonneg]
  constructor
  · intro built
    split at built
    · cases built
    · rename_i registered
      obtain ⟨versions, all, distinct, rfl⟩ := (registerUpcasters_ok_iff empty).mp registered
      split at built
      · rename_i covers
        obtain rfl := Except.ok.inj built
        exact ⟨versions, all,
          (coversVersions_iff all.length_eq (by simpa using distinct)).mp covers, rfl⟩
      · cases built
  · intro ⟨versions, all, covered, same⟩
    have distinct : versions.Nodup := covered.nodup_iff.mpr (nodup_range_cast current)
    have registered := (registerUpcasters_ok_iff empty).mpr
      ⟨versions, all, by simpa using distinct, rfl⟩
    rw [registered, same]
    exact if_pos ((coversVersions_iff all.length_eq distinct).mpr covered)

/-- The collections that are accepted. -/
theorem buildMissionEventUpcasterRegistry_ok_iff (upcasters : List UpcasterObject)
    (currentSchemaVersion : PyValue) :
    (∃ registry, buildMissionEventUpcasterRegistry upcasters currentSchemaVersion = .ok registry) ↔
      ∃ current : Nat, currentSchemaVersion = .int current ∧ FormsChain upcasters current := by
  constructor
  · intro ⟨registry, built⟩
    obtain ⟨current, rfl⟩ : ∃ current : Nat, currentSchemaVersion = .int current := by
      unfold buildMissionEventUpcasterRegistry at built
      split at built
      · cases built
      · rename_i version exact
        split at built
        · cases built
        · rename_i nonneg
          rw [legacyMissionEventSchemaVersion] at nonneg
          refine ⟨version.toNat, ?_⟩
          rw [exactInt_eq_some_iff.mp exact, Int.toNat_of_nonneg (by omega)]
    obtain ⟨versions, all, covered, -⟩ := build_eq_ok_iff.mp built
    exact ⟨current, rfl, formsChain_of_versions all covered⟩
  · rintro ⟨current, rfl, chain⟩
    have all : List.Forall₂ (fun upcaster version => upcaster.adjacent current = some version)
        upcasters (upcasters.map UpcasterObject.source) := by
      rw [List.forall₂_map_right_iff, List.forall₂_same]
      exact fun upcaster member => links_of_formsChain chain member
    exact ⟨_, build_eq_ok_iff.mpr ⟨_, all, sources_of_formsChain chain, rfl⟩⟩

/-- Every version below the current one has its upcaster in an accepted registry. -/
theorem upcaster_of_built {upcasters : List UpcasterObject} {current : Nat}
    {registry : UpcasterRegistry}
    (built : buildMissionEventUpcasterRegistry upcasters (.int current) = .ok registry)
    {version : Int} (nonneg : 0 ≤ version) (below : version < current) :
    ∃ upcaster ∈ upcasters, registry.get? version = some upcaster ∧ upcaster.Links version := by
  obtain ⟨versions, all, covered, rfl⟩ := build_eq_ok_iff.mp built
  have member : version ∈ versions :=
    covered.mem_iff.mpr (List.mem_map.mpr ⟨version.toNat, List.mem_range.mpr (by omega), by omega⟩)
  obtain ⟨upcaster, found⟩ :=
    Option.isSome_iff_exists.mp ((get?_zip_isSome all.length_eq version).mpr member)
  have listed := Dict.mem_of_get? found
  have linked := List.forall₂_zip all.flip listed
  exact ⟨upcaster, (List.of_mem_zip listed).2, found, (adjacent_eq_some_iff.mp linked).1⟩

end

section Runs
variable {fields : EventFields} {upcasters : List UpcasterObject} {current : Nat}
  {registry : UpcasterRegistry} {raw : RawEvent} {context : MissionEventDeserializationContext}

/-- An upcaster that ends the loop: it raises, or what it returns does not report its target. -/
inductive UpcasterFails (fields : EventFields) (raw : RawEvent)
    (context : MissionEventDeserializationContext) (upcaster : UpcasterObject) (version : Int) :
    PyException → Prop
  | raises {input : RawEvent} {error : PyException}
      (raised : upcaster.upcast input context = .error error) :
      UpcasterFails fields raw context upcaster version error
  | returnsWrong {input : RawEvent} {value : PyValue}
      (returned : upcaster.upcast input context = .ok value)
      (wrong : ∀ event ∈ value.mapping, reportsVersion (version + 1) event = false) :
      UpcasterFails fields raw context upcaster version
        (schemaVersionError fields "InvalidMissionEventUpcastResultError" raw
          (value.mapping.bind fun event => event.get? "schema_version"))

/-- A run from a version and its event: every upcaster up to the current version, which the
last of them reports, or up to one that fails. -/
def RunsUp (fields : EventFields) (upcasters : List UpcasterObject) (current : Nat) (raw : RawEvent)
    (context : MissionEventDeserializationContext) (version : Int) (event : RawEvent)
    (run : UpcastRun) : Prop :=
  (∃ final, run.result = .ok (current, final) ∧ run.called = versionsFrom version current ∧
    (version = current ∧ final = event ∨ reportsVersion current final = true)) ∨
  ∃ last, version ≤ last ∧ last < current ∧ run.called = versionsFrom version (last + 1) ∧
    ∃ upcaster ∈ upcasters, upcaster.Links last ∧
      ∃ error, run.result = .error error ∧ UpcasterFails fields raw context upcaster last error

theorem versionsFrom_self (version : Int) : versionsFrom version version = [] := by
  simp [versionsFrom]

theorem versionsFrom_cons {first last : Int} (below : first < last) :
    versionsFrom first last = first :: versionsFrom (first + 1) last := by
  have steps : (last - first).toNat = (last - (first + 1)).toNat + 1 := by omega
  rw [versionsFrom, versionsFrom, steps, List.range_succ_eq_map, List.map_cons, List.map_map]
  congr 1
  · exact Int.add_zero first
  · apply List.map_congr_left
    intro n _
    show first + (n.succ : Int) = first + 1 + n
    omega

/-- What one round comes to. -/
theorem upcastOnce_cases {upcaster : UpcasterObject} {version : Int} (links : upcaster.Links version)
    (input : RawEvent) :
    (∃ event, upcastOnce fields raw context upcaster input = .ok (version + 1, event) ∧
        reportsVersion (version + 1) event = true) ∨
      ∃ error, upcastOnce fields raw context upcaster input = .error error ∧
        UpcasterFails fields raw context upcaster version error := by
  have target : upcaster.targetVersion.exactInt = some (version + 1) :=
    exactInt_eq_some_iff.mpr links.target
  unfold upcastOnce
  cases answer : upcaster.upcast input context with
  | error error => exact .inr ⟨error, rfl, .raises answer⟩
  | ok value =>
      simp only [target]
      cases mapped : value.mapping with
      | none =>
          have failure : UpcasterFails fields raw context upcaster version _ :=
            .returnsWrong answer (by simp [mapped])
          rw [mapped] at failure
          exact .inr ⟨_, rfl, failure⟩
      | some event =>
          cases reports : reportsVersion (version + 1) event with
          | true => exact .inl ⟨event, by simp [reports], reports⟩
          | false =>
              have failure : UpcasterFails fields raw context upcaster version _ :=
                .returnsWrong answer (by simpa [mapped] using reports)
              rw [mapped] at failure
              exact .inr ⟨_, by simp [reports], failure⟩

theorem RunsUp.after {version : Int} {event next : RawEvent} {run : UpcastRun}
    (below : version < current) (reports : reportsVersion (version + 1) next = true)
    (later : RunsUp fields upcasters current raw context (version + 1) next run) :
    RunsUp fields upcasters current raw context version event (run.after version) := by
  obtain ⟨final, result, called, reached⟩ | ⟨last, least, less, called, failure⟩ := later
  · refine .inl ⟨final, result, ?_, .inr ?_⟩
    · rw [versionsFrom_cons below, ← called]
      rfl
    · rcases reached with ⟨same, rfl⟩ | reached
      · exact same ▸ reports
      · exact reached
  · refine .inr ⟨last, by omega, less, ?_, failure⟩
    rw [versionsFrom_cons (by omega), ← called]
    rfl

/-- The loop, by the number of versions that are left. -/
theorem followRegistry_runsUp
    (built : buildMissionEventUpcasterRegistry upcasters (.int current) = .ok registry)
    (left : Nat) (version : Int) (nonneg : 0 ≤ version) (distance : (current : Int) = version + left)
    (currentRaw : RawEvent) :
    ∃ run, (∀ fuel, left ≤ fuel →
        followRegistry fields registry current raw context fuel version currentRaw = some run) ∧
      RunsUp fields upcasters current raw context version currentRaw run := by
  induction left generalizing version currentRaw with
  | zero =>
      obtain rfl : version = current := by omega
      refine ⟨⟨[], .ok (current, currentRaw)⟩, ?_,
        .inl ⟨currentRaw, rfl, (versionsFrom_self _).symm, .inl ⟨rfl, rfl⟩⟩⟩
      intro fuel _
      cases fuel with
      | zero => rw [followRegistry, if_pos (Int.le_refl _)]
      | succ fuel => rw [followRegistry, if_pos (Int.le_refl _)]
  | succ left ih =>
      have below : version < current := by omega
      obtain ⟨upcaster, listed, found, links⟩ := upcaster_of_built built nonneg below
      -- either the upcaster moves on by one version, or the run ends here with its error
      obtain ⟨event, moved, reports⟩ | ⟨error, failed, failure⟩ :=
        @upcastOnce_cases fields raw context upcaster version links currentRaw
      · obtain ⟨run, ran, runs⟩ := ih (version + 1) (by omega) (by omega) event
        refine ⟨run.after version, ?_, runs.after below reports⟩
        intro fuel enough
        obtain ⟨rest, rfl⟩ := Nat.exists_eq_add_of_le' (Nat.lt_of_lt_of_le (Nat.succ_pos left) enough)
        rw [followRegistry, if_neg (Int.not_le.mpr below)]
        simp only [found, moved, ran rest (by omega), Option.map_some]
      · refine ⟨⟨[version], .error error⟩, ?_, .inr ⟨version, Int.le_refl _, below, ?_, upcaster,
          listed, links, error, rfl, failure⟩⟩
        · intro fuel enough
          obtain ⟨rest, rfl⟩ := Nat.exists_eq_add_of_le' (Nat.lt_of_lt_of_le (Nat.succ_pos left) enough)
          rw [followRegistry, if_neg (Int.not_le.mpr below)]
          simp only [found, failed]
        · rw [versionsFrom_cons (by omega), versionsFrom_self]

theorem extractSchemaVersion_nonneg {version : Int}
    (extracted : extractSchemaVersion fields raw = .ok version) : 0 ≤ version := by
  unfold extractSchemaVersion at extracted
  split at extracted
  · exact Except.ok.inj extracted ▸ Int.le_refl 0
  · split at extracted
    · cases extracted
    · rename_i nonneg
      exact Except.ok.inj extracted ▸ Int.not_lt.mp nonneg
  · cases extracted

end Runs

/-- A collection is accepted just when it forms the chain of versions, and with an accepted
registry the loop ends for every event of a version that is not newer. -/
theorem upcaster_registry_total (upcasters : List UpcasterObject) :
    (∀ currentSchemaVersion : PyValue,
      (∃ registry,
        buildMissionEventUpcasterRegistry upcasters currentSchemaVersion = .ok registry) ↔
      ∃ current : Nat, currentSchemaVersion = .int current ∧ FormsChain upcasters current) ∧
    ∀ (current : Nat) (registry : UpcasterRegistry),
      buildMissionEventUpcasterRegistry upcasters (.int current) = .ok registry →
      ∀ (fields : EventFields) (raw : RawEvent) (context : MissionEventDeserializationContext)
        (version : Int), extractSchemaVersion fields raw = .ok version → version ≤ current →
      ∃ run, (∀ fuel, (current - version).toNat ≤ fuel →
          followRegistry fields registry current raw context fuel version raw = some run) ∧
        RunsUp fields upcasters current raw context version raw run := by
  refine ⟨buildMissionEventUpcasterRegistry_ok_iff upcasters, ?_⟩
  intro current registry built fields raw context version extracted below
  have nonneg := extractSchemaVersion_nonneg extracted
  exact followRegistry_runsUp built (current - version).toNat version nonneg (by omega) raw

/-! The registry of the default upcasters. -/

/-- A default upcaster as an object of the protocol. -/
def MissionEventUpcaster.object (upcaster : MissionEventUpcaster) : UpcasterObject where
  sourceVersion := .int upcaster.sourceVersion
  targetVersion := .int upcaster.targetVersion
  upcast raw context := (upcaster.upcast raw context).map .dict

section Default
variable {fields : EventFields} {raw : RawEvent} {context : MissionEventDeserializationContext}

def defaultRegistry (fields : EventFields) : UpcasterRegistry :=
  (defaultMissionEventUpcasters fields).map fun upcaster => (upcaster.sourceVersion, upcaster.object)

theorem defaultRegistry_built :
    buildMissionEventUpcasterRegistry
      ((defaultMissionEventUpcasters fields).map MissionEventUpcaster.object)
      (.int currentMissionEventSchemaVersion) = .ok (defaultRegistry fields) := rfl

/-- What a default upcaster returns reports its target. -/
theorem default_reports {upcaster : MissionEventUpcaster}
    (listed : upcaster ∈ defaultMissionEventUpcasters fields) {input upcasted : RawEvent}
    (returned : upcaster.upcast input context = .ok upcasted) :
    upcasted.get? "schema_version" = some (.int upcaster.targetVersion) := by
  simp only [defaultMissionEventUpcasters, List.mem_cons, List.not_mem_nil, or_false] at listed
  rcases listed with rfl | rfl | rfl
  · obtain rfl := Except.ok.inj returned
    exact Dict.get?_set_self _ _ _
  · simp only [missionEventUpcasterV1ToV2] at returned
    split at returned
    · cases returned
    · split at returned
      · split at returned
        · cases returned
        · split at returned
          · obtain rfl := Except.ok.inj returned
            exact Dict.get?_set_self _ _ _
          · obtain rfl := Except.ok.inj returned
            rw [Dict.get?_set_of_ne _ (by decide)]
            exact Dict.get?_set_self _ _ _
      · cases returned
  · simp only [missionEventUpcasterV2ToV3] at returned
    split at returned
    · cases returned
    · split at returned
      · cases returned
      · split at returned
        · split at returned
          · obtain rfl := Except.ok.inj returned
            exact Dict.get?_set_self _ _ _
          · obtain rfl := Except.ok.inj returned
            rw [Dict.get?_set_of_ne _ (by decide)]
            exact Dict.get?_set_self _ _ _
        · split at returned
          · obtain rfl := Except.ok.inj returned
            rw [Dict.get?_set_of_ne _ (by decide)]
            exact Dict.get?_set_self _ _ _
          · obtain rfl := Except.ok.inj returned
            rw [Dict.get?_set_of_ne _ (by decide), Dict.get?_set_of_ne _ (by decide)]
            exact Dict.get?_set_self _ _ _

/-- The upcaster that both loops find. -/
theorem default_found {version : Int} (nonneg : 0 ≤ version)
    (below : version < currentMissionEventSchemaVersion) :
    ∃ upcaster ∈ defaultMissionEventUpcasters fields,
      (defaultMissionEventUpcasters fields).find? (·.sourceVersion = version) = some upcaster ∧
      Dict.get? (defaultRegistry fields) version = some upcaster.object ∧
      upcaster.targetVersion = version + 1 := by
  rw [currentMissionEventSchemaVersion] at below
  obtain rfl | rfl | rfl : version = 0 ∨ version = 1 ∨ version = 2 := by omega
  · exact ⟨_, List.mem_cons_self, rfl, rfl, rfl⟩
  · exact ⟨_, List.mem_cons_of_mem _ List.mem_cons_self, rfl, rfl, rfl⟩
  · exact ⟨_, List.mem_cons_of_mem _ (List.mem_cons_of_mem _ List.mem_cons_self), rfl, rfl, rfl⟩

/-- The loop with the default upcasters is the loop with their registry. -/
theorem upcastLoop_follows (steps : Nat) {version : Int} (nonneg : 0 ≤ version)
    (distance : version + steps = currentMissionEventSchemaVersion) (current : RawEvent) :
    (followRegistry fields (defaultRegistry fields) currentMissionEventSchemaVersion raw context steps
        version current).map (fun run => run.result.map (·.2)) =
      some (upcastLoop fields raw context steps version current) := by
  induction steps generalizing version current with
  | zero =>
      obtain rfl : version = currentMissionEventSchemaVersion := by omega
      rw [followRegistry, if_pos (Int.le_refl _)]
      rfl
  | succ steps ih =>
      have below : version < currentMissionEventSchemaVersion := by omega
      obtain ⟨upcaster, listed, found, registered, target⟩ :=
        @default_found fields version nonneg below
      rw [followRegistry, if_neg (Int.not_le.mpr below), upcastLoop]
      simp only [found, registered, upcastOnce, MissionEventUpcaster.object]
      cases returned : upcaster.upcast current context with
      | error error => rfl
      | ok upcasted =>
          have reported := default_reports listed returned
          have reports : reportsVersion upcaster.targetVersion upcasted = true := by
            simp [reportsVersion, reported, PyValue.equalsInt]
          have later := @ih upcaster.targetVersion (by omega) (by omega) upcasted
          simp only [Except.map, PyValue.exactInt, PyValue.mapping, reports, if_true, reported, ne_eq,
            not_true_eq_false, if_false, Option.map_map, ← later]
          rfl

end Default

namespace UpcastEvent

def fields : EventFields := .plain fun id _ => id

def raw : RawEvent := [("schema_version", .int 1)]

end UpcastEvent

/-- The default upcasters take an event of the first version to the current one. -/
theorem upcaster_registry_total_default :
    ∃ run, (∀ fuel, 2 ≤ fuel → followRegistry UpcastEvent.fields (defaultRegistry UpcastEvent.fields)
        3 UpcastEvent.raw {} fuel 1 UpcastEvent.raw = some run) ∧
      RunsUp UpcastEvent.fields
        ((defaultMissionEventUpcasters UpcastEvent.fields).map MissionEventUpcaster.object) 3
        UpcastEvent.raw {} 1 UpcastEvent.raw run :=
  (upcaster_registry_total _).2 3 (defaultRegistry UpcastEvent.fields) defaultRegistry_built
    UpcastEvent.fields UpcastEvent.raw {} 1 rfl (by decide)

end PurchaseAgent
