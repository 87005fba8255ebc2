import PurchaseAgent.Adapters.PageSnapshot
import PurchaseAgent.Correctness.PageFilling
import PurchaseAgent.Correctness.ProviderHistory
import PurchaseAgent.Correctness.ReservationExclusion

/-!
When a snapshot of a page can be taken. The models check the lengths of what they are given,
so a text that is only cut to its length afterwards is refused when it is too long.
-/

namespace PurchaseAgent

open PlaywrightBrowserStepRunner

theorem reject_bind_ok {α : Type} {faulty : Prop} [Decidable faulty] {message : String}
    {rest : Unit → Except PyException α} {value : α} :
    (reject faulty message >>= rest) = .ok value ↔ ¬ faulty ∧ rest () = .ok value := by
  by_cases holds : faulty
  · rw [reject, if_pos holds]
    constructor
    · intro raised
      cases raised
    · intro both
      exact absurd holds both.1
  · rw [reject_of_not holds]
    exact ⟨fun returned => ⟨holds, returned⟩, fun both => both.2⟩

namespace BrowserPageControl

theorem atMost_bind_ok {α : Type} {n : Nat} {value : Option String}
    {rest : Unit → Except PyException α} {result : α} :
    (atMost n value >>= rest) = .ok result ↔
      (∀ text ∈ value, text.length ≤ n) ∧ rest () = .ok result := by
  rw [atMost, reject_bind_ok]
  simp only [not_exists, not_and, Nat.not_lt]

/-- What the model asks of its arguments. -/
structure Accepted (raw : BrowserPageControl) : Prop where
  controlId : isControlId raw.controlId = true
  frameIndex : raw.frameIndex ≤ 9
  frameUrl : ∀ url ∈ raw.frameUrl, url.length ≤ 2048
  label_ne : raw.label ≠ ""
  label_length : raw.label.length ≤ 200
  label_nonblank : collapse raw.label ≠ ""
  fieldName : ∀ name ∈ raw.fieldName, name.length ≤ 200
  role : ∀ role ∈ raw.role, role.length ≤ 64
  nearbyText : ∀ text ∈ raw.nearbyText, text.length ≤ 600
  options : raw.options.length ≤ 100

/-- The control as the model keeps it. -/
def normalized (raw : BrowserPageControl) : BrowserPageControl :=
  { raw with
    frameUrl := normalizeFieldName raw.frameUrl
    label := collapse raw.label
    fieldName := normalizeFieldName raw.fieldName
    role := normalizeFieldName raw.role
    nearbyText := normalizeFieldName raw.nearbyText
    options := normalizeOptions raw.options }

theorem validate_ok_iff {raw control : BrowserPageControl} :
    raw.validate = .ok control ↔ raw.Accepted ∧ control = raw.normalized := by
  simp only [validate, normalizeLabel, bind_assoc, pure_bind, reject_bind_ok, atMost_bind_ok]
  constructor
  · rintro ⟨id, index, url, label, length, nonblank, name, role, nearby, options, kept⟩
    refine ⟨⟨Bool.eq_true_of_not_eq_false id, Nat.not_lt.mp index, url, label, length _ rfl,
      nonblank, name, role, nearby, Nat.not_lt.mp options⟩, ?_⟩
    cases kept
    rfl
  · rintro ⟨accepted, rfl⟩
    refine ⟨Bool.ne_false_iff.mpr accepted.controlId, Nat.not_lt.mpr accepted.frameIndex,
      accepted.frameUrl, accepted.label_ne, ?_, accepted.label_nonblank, accepted.fieldName,
      accepted.role, accepted.nearbyText, Nat.not_lt.mpr accepted.options, rfl⟩
    intro text same
    cases same
    exact accepted.label_length

end BrowserPageControl

namespace BrowserPageSnapshot

theorem length_normalizeVisibleText (value : String) :
    (normalizeVisibleText value).length ≤ 12000 := by
  rw [normalizeVisibleText]
  generalize "\n".intercalate (((splitLines value).map collapse).filter (· ≠ "")) = text
  by_cases short : text.length ≤ 12000
  · rw [if_pos short]
    exact short
  · rw [if_neg short, String.length_ofList, List.length_append, List.length_append,
      List.length_take, List.length_drop, String.length_toList]
    have mark : "\n[…]\n".toList.length = 5 := by decide
    rw [mark]
    omega

/-- The snapshot as the model keeps it. -/
def normalized (raw : BrowserPageSnapshot) : BrowserPageSnapshot :=
  { raw with
    title := normalizeTitle raw.title
    visibleText := normalizeVisibleText raw.visibleText }

theorem visibleText_normalized (raw : BrowserPageSnapshot) :
    raw.normalized.visibleText = normalizeVisibleText raw.visibleText := by
  rw [normalized]

theorem length_visibleText_normalized (raw : BrowserPageSnapshot) :
    raw.normalized.visibleText.length ≤ 12000 := by
  rw [visibleText_normalized]
  exact length_normalizeVisibleText raw.visibleText

theorem validate_ok_iff {raw snapshot : BrowserPageSnapshot} :
    raw.validate = .ok snapshot ↔
      (raw.url ≠ "" ∧ raw.url.length ≤ 2048 ∧ raw.title ≠ "" ∧ raw.title.length ≤ 300 ∧
        raw.controls.length ≤ 300) ∧
      snapshot = raw.normalized := by
  simp only [validate, reject_bind_ok, BrowserPageControl.atMost_bind_ok]
  constructor
  · rintro ⟨url, urlLength, title, titleLength, controls, kept⟩
    refine ⟨⟨url, urlLength _ rfl, title, titleLength _ rfl, Nat.not_lt.mp controls⟩, ?_⟩
    cases kept
    rfl
  · rintro ⟨⟨url, urlLength, title, titleLength, controls⟩, rfl⟩
    refine ⟨url, ?_, title, ?_, Nat.not_lt.mpr controls, rfl⟩
    · intro text same
      cases same
      exact urlLength
    · intro text same
      cases same
      exact titleLength

end BrowserPageSnapshot

theorem length_cut (n : Nat) (value : String) : (cut n value).length ≤ n := by
  rw [cut, String.length_ofList]
  exact List.length_take_le n _

theorem truthy_mem {value : Option String} {text : String} :
    text ∈ truthy value ↔ value = some text ∧ text ≠ "" := by
  cases value with
  | none => simp [truthy]
  | some other =>
      simp only [truthy, Option.mem_def, Option.filter_eq_some_iff, decide_eq_true_eq]

theorem mem_splitOnP {p : Char → Bool} {c : Char} (kept : p c = false) {text : List Char}
    (member : c ∈ text) : ∃ word ∈ text.splitOnP p, c ∈ word := by
  induction text with
  | nil => cases member
  | cons d rest ih =>
      rw [List.splitOnP_cons_eq_if_modifyHead]
      cases parts : rest.splitOnP p with
      | nil => exact absurd parts (List.splitOnP_ne_nil p rest)
      | cons first others =>
          rw [parts] at ih
          cases List.mem_cons.mp member with
          | inl same =>
              subst same
              rw [if_neg (by simp [kept])]
              exact ⟨c :: first, List.mem_cons_self, List.mem_cons_self⟩
          | inr later =>
              obtain ⟨word, listed, inside⟩ := ih later
              by_cases space : p d = true
              · rw [if_pos space]
                exact ⟨word, List.mem_cons_of_mem _ listed, inside⟩
              · rw [if_neg space, List.modifyHead_cons]
                cases List.mem_cons.mp listed with
                | inl same =>
                    subst same
                    exact ⟨d :: word, List.mem_cons_self, List.mem_cons_of_mem _ inside⟩
                | inr more => exact ⟨word, List.mem_cons_of_mem _ more, inside⟩

theorem mem_intercalate {separator word : List Char} {c : Char} (inside : c ∈ word)
    {words : List (List Char)} (member : word ∈ words) : c ∈ separator.intercalate words := by
  induction words with
  | nil => cases member
  | cons first others ih =>
      cases others with
      | nil =>
          rw [List.intercalate_singleton]
          exact List.mem_singleton.mp member ▸ inside
      | cons second others =>
          rw [List.intercalate_cons_cons, List.append_assoc]
          cases List.mem_cons.mp member with
          | inl same => exact List.mem_append_left _ (same ▸ inside)
          | inr later => exact List.mem_append_right _ (List.mem_append_right _ (ih later))

/-- A text with a character that is no space is not blank. -/
theorem collapse_ne_empty {text : String} {c : Char} (member : c ∈ text.toList)
    (kept : isSpace c = false) : collapse text ≠ "" := by
  obtain ⟨word, inside, shown⟩ := mem_splitOnP kept member
  have listed : word ∈ (text.toList.splitOnP isSpace).filter fun word => word ≠ [] :=
    List.mem_filter.mpr ⟨inside, decide_eq_true (List.ne_nil_of_mem shown)⟩
  have found : c ∈ (collapse text).toList := by
    rw [collapse, String.toList_ofList]
    exact mem_intercalate shown listed
  intro blank
  rw [blank] at found
  cases found

/-- The cuts that the script makes. -/
structure InventoryItem.WithinCuts (item : InventoryItem) : Prop where
  label : ∀ label ∈ item.label, label.length ≤ 200
  name : ∀ name ∈ item.name, name.length ≤ 200
  role : ∀ role ∈ item.role, role.length ≤ 200
  nearbyText : ∀ text ∈ item.nearbyText, text.length ≤ 600
  options : item.options.length ≤ 100
  option : ∀ option ∈ item.options, option.length ≤ 200

/-- What the model asks of a control beyond the cuts of the script: a role of at most 64
characters, a label that is not blank, or a tag short enough to make one of it, and for a
control of an embedded frame a URL of at most 2048 characters. -/
structure RawControl.Fits (raw : RawControl) : Prop where
  role : ∀ role ∈ raw.item.role, role.length ≤ 64
  label : ∀ label ∈ truthy raw.item.label, collapse label ≠ ""
  tag : truthy raw.item.label = none → (raw.item.tag.getD "control").length ≤ 189
  frameUrl : 0 < raw.frameIndex → raw.frameUrl.length ≤ 2048

/-- The digits behind `control_`. -/
def isControlNumber (digits : List Char) : Bool :=
  digits.length ≤ 24 && (digits.head?.any fun c => '1' ≤ c ∧ c ≤ '9') &&
    digits.all fun c => '0' ≤ c ∧ c ≤ '9'

theorem isControlId_append {digits : List Char} (number : isControlNumber digits = true) :
    isControlId ("control_" ++ String.ofList digits) = true := by
  have texts : ("control_" ++ String.ofList digits).toList = "control_".toList ++ digits :=
    String.toList_append.trans (congrArg _ String.toList_ofList)
  have front : "control_".toList.length = 8 := by decide
  simp only [isControlNumber, Bool.and_eq_true, decide_eq_true_eq] at number
  have length : ("control_" ++ String.ofList digits).length = 8 + digits.length :=
    (String.length_append _ _).trans (congrArg _ String.length_ofList)
  rw [isControlId, texts, ← front, List.take_left, List.drop_left, length]
  refine decide_eq_true ⟨?_, rfl, number.1.2, number.2⟩
  omega

theorem isControlId_repr {index : Nat} (least : 1 ≤ index) (most : index ≤ 300) :
    isControlId ("control_" ++ index.repr) = true := by
  have all : ((List.range' 1 300).all fun i => isControlNumber (Nat.toDigits 10 i)) = true := by
    decide +kernel
  have number := List.all_eq_true.mp all index (List.mem_range'_1.mpr ⟨least, by omega⟩)
  have text : index.repr = String.ofList (Nat.toDigits 10 index) := by
    rw [← Nat.toList_repr, String.ofList_toList]
  rw [text]
  exact isControlId_append number
/-- The label that a control gets, of its item or of its tag. -/
theorem controlLabel_accepted {raw : RawControl} (within : raw.item.WithinCuts) (fits : raw.Fits) :
    controlLabel raw.item ≠ "" ∧ (controlLabel raw.item).length ≤ 200 ∧
      collapse (controlLabel raw.item) ≠ "" := by
  rw [controlLabel]
  cases shown : truthy raw.item.label with
  | some label =>
      obtain ⟨written, nonempty⟩ := truthy_mem.mp shown
      exact ⟨nonempty, within.label label written, fits.label label shown⟩
  | none =>
      have tag := fits.tag shown
      rw [Option.getD_none, String.length_append]
      refine ⟨?_, ?_, ?_⟩
      · intro empty
        have length := congrArg String.length empty
        rw [String.length_append] at length
        change 11 + _ = 0 at length
        omega
      · change 11 + _ ≤ 200
        omega
      · refine @collapse_ne_empty _ 'U' ?_ (by decide)
        rw [String.toList_append]
        exact List.mem_append_left _ (by decide)

section
variable {library : TaskLibrary} {redaction : RedactionLibrary} {identities : List IdentityRecord}

theorem pageControl_accepted {raw : RawControl} (within : raw.item.WithinCuts)
    (frameIndex : raw.frameIndex ≤ 9) {index : Nat} (least : 1 ≤ index) (most : index ≤ 300) :
    (pageControl library redaction identities raw index).Accepted ↔ raw.Fits := by
  constructor
  · intro accepted
    refine ⟨?_, ?_, ?_, ?_⟩
    · intro role shown
      by_cases empty : role = ""
      · subst empty
        exact Nat.zero_le _
      · exact accepted.role role (truthy_mem.mpr ⟨shown, empty⟩)
    · intro label shown
      have nonblank := accepted.label_nonblank
      rwa [pageControl, controlLabel, Option.mem_def.mp shown] at nonblank
    · intro missing
      have length := accepted.label_length
      rw [pageControl, controlLabel, missing, Option.getD_none, String.length_append] at length
      change 11 + _ ≤ 200 at length
      omega
    · intro embedded
      by_cases empty : raw.frameUrl = ""
      · rw [empty]
        exact Nat.zero_le _
      · refine accepted.frameUrl raw.frameUrl ?_
        rw [pageControl, if_pos embedded]
        exact truthy_mem.mpr ⟨rfl, empty⟩
  · intro fits
    have label := controlLabel_accepted within fits
    exact
      { controlId := isControlId_repr least most
        frameIndex := frameIndex
        frameUrl := by
          intro url shown
          by_cases embedded : 0 < raw.frameIndex
          · rw [pageControl, if_pos embedded] at shown
            have written : url ∈ truthy (some raw.frameUrl) := shown
            cases (truthy_mem.mp written).1
            exact fits.frameUrl embedded
          · rw [pageControl, if_neg embedded] at shown
            cases shown
        label_ne := label.1
        label_length := label.2.1
        label_nonblank := label.2.2
        fieldName := fun name shown => within.name name (truthy_mem.mp shown).1
        role := fun role shown => fits.role role (truthy_mem.mp shown).1
        nearbyText := by
          intro text shown
          obtain ⟨long, -, rfl⟩ := Option.map_eq_some_iff.mp shown
          exact length_cut 600 _
        options := within.options }

/-- The controls of a frame, if it may be read and can be. -/
def frameControls (library : TaskLibrary) (pageUrl : String) (indexed : PageFrame × Nat) :
    List RawControl :=
  if frameIsAllowed library indexed.1.url indexed.2 pageUrl then
    indexed.1.content.toOption.elim [] fun read => rawControls indexed.1 indexed.2 read.2
  else []

theorem take_full {α : Type} {n : Nat} {xs ys zs : List α} (room : xs.length < n)
    (full : n ≤ (xs ++ ys.take (n - xs.length)).length) :
    (xs ++ (ys ++ zs)).take n = xs ++ ys.take (n - xs.length) := by
  rw [List.length_append, List.length_take] at full
  rw [List.take_append, List.take_of_length_le (Nat.le_of_lt room),
    List.take_append_of_le_length (by omega)]

theorem append_take_room {α : Type} {n : Nat} {xs ys : List α}
    (room : ¬ n ≤ (xs ++ ys.take (n - xs.length)).length) :
    xs ++ ys.take (n - xs.length) = xs ++ ys := by
  rw [List.length_append, List.length_take] at room
  rw [List.take_of_length_le (by omega)]

/-- The loop gathers the first 300 controls, unless the page itself cannot be read. -/
theorem scanFrames_eq {pageUrl : String} (frames : List (PageFrame × Nat)) {scan : FrameScan}
    (room : scan.rawControls.length < 300)
    (readable : ∀ indexed ∈ frames, indexed.2 = 0 → indexed.1.content.isOk = true) :
    ∃ textParts, scanFrames library redaction identities pageUrl frames scan =
      .ok ⟨(scan.rawControls ++ frames.flatMap (frameControls library pageUrl)).take 300,
        textParts⟩ := by
  induction frames generalizing scan with
  | nil =>
      refine ⟨scan.textParts, ?_⟩
      rw [List.flatMap_nil, List.append_nil, List.take_of_length_le (Nat.le_of_lt room)]
      rfl
  | cons indexed rest ih =>
      obtain ⟨frame, frameIndex⟩ := indexed
      obtain ⟨first, others⟩ := List.forall_mem_cons.mp readable
      rw [List.flatMap_cons, scanFrames]
      by_cases allowed : frameIsAllowed library frame.url frameIndex pageUrl = true
      · rw [if_neg (by simp [allowed])]
        cases content : frame.content with
        | error error =>
            have embedded : frameIndex ≠ 0 := by
              intro main
              have read := first main
              rw [content] at read
              cases read
            have nothing : frameControls library pageUrl (frame, frameIndex) = [] := by
              rw [frameControls, if_pos allowed, content]
              rfl
            rw [nothing, List.nil_append]
            simp only [embedded, if_false]
            exact ih room others
        | ok read =>
            obtain ⟨text, items⟩ := read
            have shown : frameControls library pageUrl (frame, frameIndex) =
                rawControls frame frameIndex items := by
              rw [frameControls, if_pos allowed, content]
              rfl
            rw [shown]
            simp only
            by_cases full : 300 ≤ (scan.rawControls ++
                (rawControls frame frameIndex items).take (300 - scan.rawControls.length)).length
            · rw [if_pos full, take_full room full]
              exact ⟨_, rfl⟩
            · rw [if_neg full, ← List.append_assoc, ← append_take_room full]
              exact ih (Nat.lt_of_not_le full) others
      · have nothing : frameControls library pageUrl (frame, frameIndex) = [] := by
          rw [frameControls, if_neg allowed]
        rw [if_pos (Bool.eq_false_of_not_eq_true allowed), nothing, List.nil_append]
        exact ih room others

/-- A page that cannot be read ends the loop. -/
theorem scanFrames_unreadable {pageUrl : String} {frame : PageFrame} {error : PyException}
    (unreadable : frame.content = .error error) (rest : List (PageFrame × Nat)) (scan : FrameScan) :
    scanFrames library redaction identities pageUrl ((frame, 0) :: rest) scan = .error error := by
  rw [scanFrames, if_neg (by simp [frameIsAllowed]), unreadable]
  rfl

/-- The controls that a snapshot is made of: the first 300 of the frames that may be read. -/
def inventory (library : TaskLibrary) (pageUrl : String) (frames : List PageFrame) :
    List RawControl :=
  ((frames.take 10).zipIdx.flatMap (frameControls library pageUrl)).take 300

theorem mem_inventory {pageUrl : String} {frames : List PageFrame} {raw : RawControl}
    (member : raw ∈ inventory library pageUrl frames) :
    raw.frameIndex ≤ 9 ∧
      ∃ frame ∈ frames, ∃ read, frame.content = .ok read ∧ raw.item ∈ read.2 := by
  obtain ⟨⟨frame, frameIndex⟩, listed, shown⟩ := List.mem_flatMap.mp (List.mem_of_mem_take member)
  have found := List.mem_zipIdx_iff_getElem?.mp listed
  have below := (List.getElem?_eq_some_iff.mp found).1
  rw [List.length_take] at below
  rw [frameControls] at shown
  split at shown
  · cases content : frame.content with
    | error error =>
        rw [content] at shown
        cases shown
    | ok read =>
        rw [content] at shown
        obtain ⟨item, written, rfl⟩ := List.mem_map.mp shown
        refine ⟨?_, frame, List.mem_of_mem_take (List.mem_of_getElem? found), read, content, written⟩
        change frameIndex ≤ 9
        omega
  · cases shown

theorem readable_of_head {frames : List PageFrame}
    (head : ∀ frame ∈ frames.head?, frame.content.isOk = true) :
    ∀ indexed ∈ (frames.take 10).zipIdx, indexed.2 = 0 → indexed.1.content.isOk = true := by
  rintro ⟨frame, frameIndex⟩ listed rfl
  have found := List.mem_zipIdx_iff_getElem?.mp listed
  apply head frame
  have first : (frames.take 10)[0]? = frames[0]? := List.getElem?_take_of_lt (by decide)
  exact List.head?_eq_getElem?.trans (first.symm.trans found)

variable (library redaction identities) in
/-- What a snapshot promises of the inventory it was made of: its controls are the validated
entries in their order, with the ids `control_1` up to their number, and its text is bounded. -/
structure InventorySnapshot (raws : List RawControl) (snapshot : BrowserPageSnapshot) : Prop where
  controls : List.Forall₂ (fun indexed control =>
    (pageControl library redaction identities indexed.1 indexed.2).validate = .ok control)
    (raws.zipIdx 1) snapshot.controls
  length : snapshot.controls.length ≤ 300
  ids : snapshot.controls.map (·.controlId) =
    (List.range' 1 snapshot.controls.length).map fun index => "control_" ++ index.repr
  distinct : (snapshot.controls.map (·.controlId)).Nodup
  visibleText : snapshot.visibleText.length ≤ 12000

/-- What a page must be like for its snapshot: it can be read itself, its URL and its title
have the lengths of the model, and its first 300 controls fit theirs. -/
structure Snapshotable (library : TaskLibrary) (pageUrl : String) (frames : List PageFrame)
    (title : String) : Prop where
  readable : ∀ frame ∈ frames.head?, frame.content.isOk = true
  url : pageUrl ≠ ""
  url_length : pageUrl.length ≤ 2048
  title : title.length ≤ 300
  controls : ∀ raw ∈ inventory library pageUrl frames, raw.Fits

theorem controlIds_nodup (n : Nat) :
    ((List.range' 1 n).map fun index => "control_" ++ index.repr).Nodup := by
  refine List.Nodup.map ?_ List.nodup_range'
  intro i j same
  have texts := congrArg String.toList same
  simp only [String.toList_append, List.append_cancel_left_eq, Nat.toList_repr] at texts
  have values := congrArg (Nat.ofDigitChars 10 · 0) texts
  simpa only [Nat.ofDigitChars_ten_toDigits] using values

theorem zipIdx_bounds {raws : List RawControl} {indexed : RawControl × Nat}
    (member : indexed ∈ raws.zipIdx 1) :
    indexed.1 ∈ raws ∧ 1 ≤ indexed.2 ∧ indexed.2 ≤ raws.length := by
  obtain ⟨raw, index⟩ := indexed
  obtain ⟨least, most, found⟩ := List.mem_zipIdx member
  exact ⟨found ▸ List.getElem_mem _, least, by omega⟩

theorem inventorySnapshot_of_forall₂ {raws : List RawControl} {controls : List BrowserPageControl}
    (few : raws.length ≤ 300)
    (built : List.Forall₂ (fun indexed control =>
      (pageControl library redaction identities indexed.1 indexed.2).validate = .ok control)
      (raws.zipIdx 1) controls) :
    controls.length ≤ 300 ∧ controls.map (·.controlId) =
      (List.range' 1 controls.length).map fun index => "control_" ++ index.repr := by
  have length : controls.length = raws.length := by
    rw [← built.length_eq, List.length_zipIdx]
  refine ⟨length ▸ few, ?_⟩
  have ids : List.Forall₂ (fun (indexed : RawControl × Nat) control =>
      "control_" ++ indexed.2.repr = control.controlId) (raws.zipIdx 1) controls := by
    refine built.imp fun indexed control validated => ?_
    obtain ⟨-, rfl⟩ := BrowserPageControl.validate_ok_iff.mp validated
    rfl
  have texts := List.forall₂_map_left_iff.mpr (List.forall₂_map_right_iff.mpr ids)
  rw [List.forall₂_eq_eq_eq] at texts
  rw [← texts, length, ← List.zipIdx_map_snd 1 raws, List.map_map]
  rfl

/-- What a snapshot that was taken says of its page. -/
theorem snapshotPage_ok {pageUrl pageTitle : String} {frames : List PageFrame} {now : Time}
    {snapshot : BrowserPageSnapshot}
    (taken : snapshotPage library redaction identities pageUrl frames pageTitle now =
      .ok snapshot) : pageUrl ≠ "" ∧ pageUrl.length ≤ 2048 ∧ pageTitle.length ≤ 300 := by
  obtain ⟨scan, -, taken⟩ := bind_eq_ok taken
  obtain ⟨controls, -, taken⟩ := bind_eq_ok taken
  obtain ⟨⟨url, urlLength, -, titleLength, -⟩, -⟩ := BrowserPageSnapshot.validate_ok_iff.mp taken
  refine ⟨url, urlLength, ?_⟩
  by_cases untitled : pageTitle = ""
  · rw [untitled]
    exact Nat.zero_le _
  · rwa [truthy_mem.mpr ⟨rfl, untitled⟩] at titleLength

/-- Every snapshot is one that plans can be made for. -/
theorem snapshotPage_valid {pageUrl pageTitle : String} {frames : List PageFrame} {now : Time}
    {snapshot : BrowserPageSnapshot}
    (taken : snapshotPage library redaction identities pageUrl frames pageTitle now =
      .ok snapshot) : snapshot.Valid := by
  obtain ⟨scan, -, taken⟩ := bind_eq_ok taken
  obtain ⟨controls, built, taken⟩ := bind_eq_ok taken
  obtain ⟨⟨url, urlLength, -, -, few⟩, rfl⟩ := BrowserPageSnapshot.validate_ok_iff.mp taken
  refine ⟨url, urlLength, few, fun control member => ?_⟩
  obtain ⟨indexed, -, valid⟩ := exists_of_forall₂ (forall₂_of_mapM built).flip control member
  obtain ⟨accepted, rfl⟩ := BrowserPageControl.validate_ok_iff.mp valid
  exact accepted.controlId

/-- A control of an inventory within the cuts is accepted just when it fits. -/
theorem inventory_accepted {pageUrl : String} {frames : List PageFrame}
    (cuts : ∀ frame ∈ frames, ∀ read, frame.content = .ok read →
      ∀ item ∈ read.2, item.WithinCuts) :
    ∀ indexed ∈ (inventory library pageUrl frames).zipIdx 1,
      (pageControl library redaction identities indexed.1 indexed.2).Accepted ↔
        indexed.1.Fits := by
  intro indexed member
  obtain ⟨shown, least, most⟩ := zipIdx_bounds member
  obtain ⟨frameIndex, frame, listed, read, content, written⟩ := mem_inventory shown
  exact pageControl_accepted (cuts frame listed read content _ written) frameIndex least
    (most.trans (List.length_take_le 300 _))

theorem readable_of_scanFrames {pageUrl : String} {frames : List PageFrame} {start scan : FrameScan}
    (scanned : scanFrames library redaction identities pageUrl (frames.take 10).zipIdx start =
      .ok scan) : ∀ frame ∈ frames.head?, frame.content.isOk = true := by
  intro frame head
  obtain ⟨rest, rfl⟩ := List.head?_eq_some_iff.mp head
  cases content : frame.content with
  | ok read => rfl
  | error error =>
      rw [List.take_succ_cons, List.zipIdx_cons, scanFrames_unreadable content] at scanned
      cases scanned

/-- The page of a snapshot that was taken. -/
theorem snapshotable_of_taken {pageUrl pageTitle : String} {frames : List PageFrame} {now : Time}
    {snapshot : BrowserPageSnapshot}
    (accepted : ∀ indexed ∈ (inventory library pageUrl frames).zipIdx 1,
      (pageControl library redaction identities indexed.1 indexed.2).Accepted ↔ indexed.1.Fits)
    (taken : snapshotPage library redaction identities pageUrl frames pageTitle now =
      .ok snapshot) : Snapshotable library pageUrl frames pageTitle := by
  obtain ⟨url, urlLength, titleLength⟩ := snapshotPage_ok taken
  obtain ⟨scan, scanned, taken⟩ := bind_eq_ok taken
  obtain ⟨controls, built, -⟩ := bind_eq_ok taken
  have readable := readable_of_scanFrames scanned
  obtain ⟨textParts, gathered⟩ := @scanFrames_eq library redaction identities pageUrl
    (frames.take 10).zipIdx ⟨[], []⟩ (by decide) (readable_of_head readable)
  cases Except.ok.inj (gathered.symm.trans scanned)
  refine ⟨readable, url, urlLength, titleLength, fun raw member => ?_⟩
  obtain ⟨index, found⟩ := List.mem_iff_getElem?.mp member
  have indexed : (raw, 1 + index) ∈ (inventory library pageUrl frames).zipIdx 1 :=
    List.mk_add_mem_zipIdx_iff_getElem?.mpr found
  have validated := forall₂_of_mapM built
  rw [List.nil_append, List.take_take, Nat.min_self] at validated
  obtain ⟨control, -, valid⟩ := exists_of_forall₂ validated _ indexed
  exact (accepted _ indexed).mp (BrowserPageControl.validate_ok_iff.mp valid).1

theorem title_accepted {pageTitle : String} (short : pageTitle.length ≤ 300) :
    (truthy (some pageTitle)).getD "Untitled page" ≠ "" ∧
      ((truthy (some pageTitle)).getD "Untitled page").length ≤ 300 := by
  by_cases untitled : pageTitle = ""
  · subst untitled
    decide
  · rw [truthy_mem.mpr ⟨rfl, untitled⟩]
    exact ⟨untitled, short⟩

/-- The snapshot of a page that is like that. -/
theorem taken_of_snapshotable {pageUrl pageTitle : String} {frames : List PageFrame} (now : Time)
    (accepted : ∀ indexed ∈ (inventory library pageUrl frames).zipIdx 1,
      (pageControl library redaction identities indexed.1 indexed.2).Accepted ↔ indexed.1.Fits)
    (page : Snapshotable library pageUrl frames pageTitle) :
    ∃ snapshot,
      snapshotPage library redaction identities pageUrl frames pageTitle now = .ok snapshot ∧
        InventorySnapshot library redaction identities (inventory library pageUrl frames)
          snapshot := by
  obtain ⟨textParts, scanned⟩ := @scanFrames_eq library redaction identities pageUrl
    (frames.take 10).zipIdx ⟨[], []⟩ (by decide) (readable_of_head page.readable)
  have whole : (inventory library pageUrl frames).take 300 = inventory library pageUrl frames :=
    List.take_of_length_le (List.length_take_le 300 _)
  obtain ⟨controls, built⟩ : ∃ controls,
      ((inventory library pageUrl frames).zipIdx 1).mapM (fun indexed =>
        (pageControl library redaction identities indexed.1 indexed.2).validate) =
      .ok controls := by
    refine ⟨_, mapM_eq_ok fun indexed member =>
      BrowserPageControl.validate_ok_iff.mpr ⟨?_, rfl⟩⟩
    exact (accepted indexed member).mpr (page.controls _ (zipIdx_bounds member).1)
  have title := title_accepted page.title
  have forall₂ := forall₂_of_mapM built
  obtain ⟨few, ids⟩ := inventorySnapshot_of_forall₂ (List.length_take_le 300 _) forall₂
  let raw : BrowserPageSnapshot :=
    { url := pageUrl
      title := (truthy (some pageTitle)).getD "Untitled page"
      capturedAt := now
      controls := controls
      visibleText := "\n".intercalate textParts }
  have valid : raw.validate = .ok raw.normalized := BrowserPageSnapshot.validate_ok_iff.mpr
    ⟨⟨page.url, page.url_length, title.1, title.2, few⟩, rfl⟩
  refine ⟨raw.normalized, ?_, forall₂, few, ids, ?_, ?_⟩
  · rw [snapshotPage, scanned]
    change (List.mapM _ (((inventory library pageUrl frames).take 300).zipIdx 1) :
      Except PyException (List BrowserPageControl)) >>= _ = _
    rw [whole, built]
    exact valid
  · change (controls.map (·.controlId)).Nodup
    rw [ids]
    exact controlIds_nodup _
  · exact raw.length_visibleText_normalized

variable (redaction identities) in
/-- A snapshot of an inventory within the cuts of the script is taken just when the page is
like that. -/
theorem snapshots_taken_iff (library : TaskLibrary) (pageUrl : String) (frames : List PageFrame)
    (pageTitle : String) (now : Time)
    (cuts : ∀ frame ∈ frames, ∀ read, frame.content = .ok read →
      ∀ item ∈ read.2, item.WithinCuts) :
    (∃ snapshot,
      snapshotPage library redaction identities pageUrl frames pageTitle now = .ok snapshot ∧
        InventorySnapshot library redaction identities (inventory library pageUrl frames)
          snapshot) ↔
      Snapshotable library pageUrl frames pageTitle := by
  have accepted := @inventory_accepted library redaction identities pageUrl frames cuts
  constructor
  · intro shown
    obtain ⟨snapshot, taken, -⟩ := shown
    exact snapshotable_of_taken accepted taken
  · intro page
    exact taken_of_snapshotable now accepted page

end

/-! A page with one button. -/

namespace OneButton

def library : TaskLibrary :=
  { Sample.taskLibrary with urlsplit := fun _ => .ok ⟨"https", "example.com"⟩ }

def redaction : RedactionLibrary := ⟨fun left right => left = right, id⟩

def button : InventoryItem := { tag := some "button", label := some "Search" }

def frames : List PageFrame := [⟨"https://example.com/", .ok ("Timetable", [button])⟩]

theorem button_within : button.WithinCuts where
  label := by
    intro label same
    cases same
    decide
  name := by
    intro name same
    cases same
  role := by
    intro role same
    cases same
  nearbyText := by
    intro text same
    cases same
  options := by decide
  option := by
    intro option member
    cases member

theorem cuts : ∀ frame ∈ frames, ∀ read, frame.content = .ok read →
    ∀ item ∈ read.2, item.WithinCuts := by
  intro frame member read content item listed
  cases List.mem_singleton.mp member
  cases content
  cases List.mem_singleton.mp listed
  exact button_within

/-- 301 characters, with nothing to collapse. -/
def longTitle : String := String.ofList (List.replicate 301 'a')

theorem longTitle_length : longTitle.length = 301 :=
  String.length_ofList.trans List.length_replicate

end OneButton

open OneButton in
theorem snapshots_taken_iff_button :
    (∃ snapshot,
      snapshotPage library redaction [] "https://example.com/" frames "Timetable" 0 =
          .ok snapshot ∧
        InventorySnapshot library redaction [] (inventory library "https://example.com/" frames)
          snapshot) ↔
      Snapshotable library "https://example.com/" frames "Timetable" :=
  snapshots_taken_iff redaction [] library "https://example.com/" frames "Timetable" 0 cuts

open OneButton in
/-- The title would be cut to 300 characters, were it not refused for its length before. -/
theorem snapshot_refused_for_title :
    ¬ ∃ snapshot,
      snapshotPage library redaction [] "https://example.com/" frames longTitle 0 =
          .ok snapshot ∧
        InventorySnapshot library redaction [] (inventory library "https://example.com/" frames)
          snapshot := by
  rintro ⟨snapshot, taken, -⟩
  have short := (snapshotPage_ok taken).2.2
  rw [longTitle_length] at short
  exact absurd short (by decide)

end PurchaseAgent
