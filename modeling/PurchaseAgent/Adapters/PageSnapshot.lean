import Mathlib.Data.List.Dedup
import PurchaseAgent.Adapters.PlaywrightBrowser
import PurchaseAgent.Services.PageFillValidation

/-!
How the runner takes a snapshot of a page: the frames are read, profile values are blanked
out, and the controls and the snapshot pass the validators of their models, which check the
lengths before they normalize. Texts are sequences of Unicode scalar values.
-/

namespace PurchaseAgent

/-- `value[:n]`. -/
def cut (n : Nat) (value : String) : String := String.ofList (value.toList.take n)

/-- `value or None`. -/
def truthy (value : Option String) : Option String := value.filter (· ≠ "")

/-- The boundaries of `str.splitlines`. -/
def isLineBreak (c : Char) : Bool :=
  [10, 11, 12, 13, 28, 29, 30, 133, 8232, 8233].contains c.toNat

/-- `str.splitlines`, behind the start of a line. -/
def splitLinesFrom (line : List Char) : List Char → List (List Char)
  | [] => if line = [] then [] else [line.reverse]
  | '\r' :: '\n' :: rest => line.reverse :: splitLinesFrom [] rest
  | c :: rest =>
    if isLineBreak c then line.reverse :: splitLinesFrom [] rest
    else splitLinesFrom (c :: line) rest

def splitLines (value : String) : List String :=
  (splitLinesFrom [] value.toList).map String.ofList

namespace BrowserPageControl

def normalizeLabel (value : String) : Except PyException String := do
  reject (collapse value = "") "control label must not be blank"
  pure (collapse value)

def normalizeFieldName (value : Option String) : Option String := truthy (value.map collapse)

def normalizeOptions (value : List String) : List String :=
  ((value.map fun item => cut 200 (collapse item)).filter (· ≠ "")).eraseDups

def atMost (n : Nat) (value : Option String) : Except PyException Unit :=
  reject (∃ text ∈ value, n < text.length) s!"String should have at most {n} characters"

/-- The constraints and validators of the fields, in their order. -/
def validate (raw : BrowserPageControl) : Except PyException BrowserPageControl := do
  reject (isControlId raw.controlId = false)
    "String should match pattern '^control_[1-9][0-9]*$'"
  reject (9 < raw.frameIndex) "Input should be less than or equal to 9"
  atMost 2048 raw.frameUrl
  reject (raw.label = "") "String should have at least 1 character"
  atMost 200 (some raw.label)
  let label ← normalizeLabel raw.label
  atMost 200 raw.fieldName
  atMost 64 raw.role
  atMost 600 raw.nearbyText
  reject (100 < raw.options.length) "Tuple should have at most 100 items"
  pure
    { raw with
      frameUrl := normalizeFieldName raw.frameUrl
      label := label
      fieldName := normalizeFieldName raw.fieldName
      role := normalizeFieldName raw.role
      nearbyText := normalizeFieldName raw.nearbyText
      options := normalizeOptions raw.options }

end BrowserPageControl

namespace BrowserPageSnapshot

def normalizeTitle (value : String) : String :=
  (truthy (some (cut 300 (collapse value)))).getD "Untitled page"

def normalizeVisibleText (value : String) : String :=
  let normalized := "\n".intercalate (((splitLines value).map collapse).filter (· ≠ ""))
  if normalized.length ≤ 12000 then normalized
  else
    String.ofList (normalized.toList.take 5995 ++ "\n[…]\n".toList ++
      normalized.toList.drop (normalized.length - 6000))

def validate (raw : BrowserPageSnapshot) : Except PyException BrowserPageSnapshot := do
  reject (raw.url = "") "String should have at least 1 character"
  BrowserPageControl.atMost 2048 (some raw.url)
  reject (raw.title = "") "String should have at least 1 character"
  BrowserPageControl.atMost 300 (some raw.title)
  reject (300 < raw.controls.length) "Tuple should have at most 300 items"
  pure
    { raw with
      title := normalizeTitle raw.title
      visibleText := normalizeVisibleText raw.visibleText }

end BrowserPageSnapshot

/-- An entry of the inventory that the script makes of a frame. -/
structure InventoryItem where
  tag : Option String := none
  type : Option String := none
  label : Option String := none
  name : Option String := none
  role : Option String := none
  nearbyText : Option String := none
  clickable : Bool := false
  required : Bool := false
  disabled : Bool := false
  checked : Option Bool := none
  selected : Option Bool := none
  expanded : Option Bool := none
  pressed : Option Bool := none
  options : List String := []

/-- A frame with its text and its inventory, or the `PlaywrightError` of reading them. -/
structure PageFrame where
  url : String
  content : Except PyException (String × List InventoryItem)

/-- `{**item, "frameIndex": ..., "frameUrl": ...}`. -/
structure RawControl where
  item : InventoryItem
  frameIndex : Nat
  frameUrl : String

/-- What redacting takes from the interpreter: the letters that `re.IGNORECASE` does not
tell apart, and the order in which a set is iterated. -/
structure RedactionLibrary where
  sameLetter : Char → Char → Bool
  setOrder : List String → List String

namespace RedactionLibrary
variable (library : RedactionLibrary)

def matchesAt : List Char → List Char → Bool
  | [], _ => true
  | _ :: _, [] => false
  | p :: pattern, c :: text => library.sameLetter p c && matchesAt pattern text

/-- `re.sub(re.escape(pattern), replacement, text, flags=re.IGNORECASE)`, behind a match of
which `skip` characters are left. -/
def substitute (pattern replacement : List Char) : Nat → List Char → List Char
  | _, [] => []
  | skip + 1, _ :: text => substitute pattern replacement skip text
  | 0, c :: text =>
    if library.matchesAt pattern (c :: text) then
      replacement ++ substitute pattern replacement (pattern.length - 1) text
    else c :: substitute pattern replacement 0 text

def profileValues (identities : List IdentityRecord) : List String :=
  identities.flatMap fun identity =>
    [identity.displayName, identity.firstName, identity.lastName,
      PlaywrightBrowserStepRunner.dateIsoformat identity.birthDate] ++
    identity.documents.map (·.number)

/-- `_redact_profile_values`; sorting by the length keeps the order of the set. -/
def redactProfileValues (text : String) (identities : List IdentityRecord) : String :=
  ((library.setOrder (profileValues identities).dedup).mergeSort
      fun left right => right.length ≤ left.length).foldl
    (fun redacted value =>
      if 3 ≤ (strip value).length then
        String.ofList (library.substitute (strip value).toList "[profile data]".toList 0
          redacted.toList)
      else redacted) text

end RedactionLibrary

namespace PlaywrightBrowserStepRunner

def controlKind (library : TaskLibrary) (item : InventoryItem) : BrowserControlKind :=
  let tag := library.casefold (item.tag.getD "")
  let inputType := library.casefold (item.type.getD "")
  let role := library.casefold (item.role.getD "")
  if tag = "canvas" then .canvas
  else if tag = "svg" then .svg
  else if tag = "select" then .select
  else if tag = "button" ∨ role = "button" ∨ ["button", "submit", "reset"].contains inputType then
    .button
  else if tag = "a" ∨ role = "link" then .link
  else if inputType = "radio" then .radio
  else if inputType = "checkbox" then .checkbox
  else if inputType = "date" then .date
  else if inputType = "email" then .email
  else if inputType = "tel" then .tel
  else if inputType = "number" then .number
  else if tag = "textarea" ∨ ["", "text", "search"].contains inputType then
    if ¬ ["input", "textarea"].contains tag then .clickable else .text
  else if ["tab", "option", "menuitem", "switch"].contains role ∨ item.clickable then .clickable
  else .other

/-- `item.get("label") or f"Unlabelled {item.get('tag', 'control')}"`. -/
def controlLabel (item : InventoryItem) : String :=
  (truthy item.label).getD ("Unlabelled " ++ item.tag.getD "control")

section
variable (library : TaskLibrary) (redaction : RedactionLibrary)
  (identities : List IdentityRecord)

/-- The arguments of `BrowserPageControl`. -/
def pageControl (raw : RawControl) (index : Nat) : BrowserPageControl where
  controlId := "control_" ++ index.repr
  frameIndex := raw.frameIndex
  frameUrl := if 0 < raw.frameIndex then truthy (some raw.frameUrl) else none
  kind := controlKind library raw.item
  label := controlLabel raw.item
  fieldName := truthy raw.item.name
  role := truthy raw.item.role
  nearbyText := (truthy raw.item.nearbyText).map fun text =>
    cut 600 (redaction.redactProfileValues text identities)
  required := raw.item.required
  disabled := raw.item.disabled
  checked := raw.item.checked
  selected := raw.item.selected
  expanded := raw.item.expanded
  pressed := raw.item.pressed
  options := raw.item.options

/-- `raw_controls` and `text_parts`. -/
structure FrameScan where
  rawControls : List RawControl
  textParts : List String

/-- The part that a frame adds to the text. -/
def textPart (frameIndex : Nat) (text : String) : List String :=
  if frameIndex = 0 then [text]
  else if text ≠ "" then ["[Embedded frame " ++ frameIndex.repr ++ "]\n" ++ text]
  else []

/-- The inventory of a frame with the index and the URL. -/
def rawControls (frame : PageFrame) (frameIndex : Nat) (items : List InventoryItem) :
    List RawControl :=
  items.map fun item => ⟨item, frameIndex, frame.url⟩

/-- The loop over the frames. -/
def scanFrames (pageUrl : String) : List (PageFrame × Nat) → FrameScan →
    Except PyException FrameScan
  | [], scan => .ok scan
  | (frame, frameIndex) :: rest, scan =>
    if frameIsAllowed library frame.url frameIndex pageUrl = false then
      scanFrames pageUrl rest scan
    else
      match frame.content with
      | .error error => if frameIndex = 0 then .error error else scanFrames pageUrl rest scan
      | .ok (text, items) =>
        let scanned : FrameScan :=
          { rawControls := scan.rawControls ++
              (rawControls frame frameIndex items).take (300 - scan.rawControls.length)
            textParts := scan.textParts ++
              textPart frameIndex (redaction.redactProfileValues text identities) }
        if 300 ≤ scanned.rawControls.length then .ok scanned else scanFrames pageUrl rest scanned

/-- `_snapshot_page` of a page with its URL, its frames and its title. -/
def snapshotPage (pageUrl : String) (frames : List PageFrame) (title : String) (now : Time) :
    Except PyException BrowserPageSnapshot := do
  let scan ← scanFrames library redaction identities pageUrl (frames.take 10).zipIdx ⟨[], []⟩
  let controls ← ((scan.rawControls.take 300).zipIdx 1).mapM fun indexed =>
    (pageControl library redaction identities indexed.1 indexed.2).validate
  BrowserPageSnapshot.validate
    { url := pageUrl
      title := (truthy (some title)).getD "Untitled page"
      capturedAt := now
      controls := controls
      visibleText := "\n".intercalate scan.textParts }

end

end PlaywrightBrowserStepRunner
end PurchaseAgent
