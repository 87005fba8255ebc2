import PurchaseAgent.Adapters.PlaywrightBrowser

/-!
The plan to fill the captured page: every control gets at most one binding, to a
person's profile or to the intent of the task.
-/

namespace PurchaseAgent

namespace PageFieldMapper

def fieldTerms : List (ProfileField × List String) :=
  [(.firstName, ["first name", "firstname", "given name", "имя"]),
    (.lastName, ["last name", "lastname", "surname", "family name", "фамилия"]),
    (.birthDate, ["birth date", "date of birth", "birthday", "дата рождения", "рождение"]),
    (.documentNumber, ["document number", "passport number", "passport", "номер документа",
      "номер паспорта", "паспорт"])]

def intentFieldTerms : List (IntentField × List String) :=
  [(.origin, ["origin", "departure city", "departure station", "from city", "откуда",
      "город отправления", "станция отправления"]),
    (.destination, ["destination", "arrival city", "arrival station", "to city", "куда",
      "город прибытия", "станция прибытия"]),
    (.requestedDate, ["travel date", "departure date", "check in date", "date", "дата поездки",
      "дата отправления", "дата заезда", "дата"]),
    (.earliestTime, ["earliest time", "time from", "not earlier", "время от", "не раньше",
      "после"]),
    (.latestTime, ["latest time", "time until", "not later", "время до", "не позже"]),
    (.requestedQuantity, ["quantity", "ticket count", "guest count", "room count", "количество",
      "число билетов", "число гостей"])]

def normalize (library : TaskLibrary) (value : String) : String :=
  collapse (String.ofList ((library.casefold value).toList.map fun c =>
    if c = '_' ∨ c = '-' then ' ' else c))

def containsTerm (library : TaskLibrary) (searchable term : String) : Bool :=
  let normalizedTerm := normalize library term
  if containsText normalizedTerm " " then containsText searchable normalizedTerm
  else normalizedTerm.toList ∈ searchable.toList.splitOnP isSpace

def searchable (library : TaskLibrary) (control : BrowserPageControl) : String :=
  normalize library (control.label ++ " " ++ control.fieldName.getD "")

def detectProfileField (library : TaskLibrary) (control : BrowserPageControl) :
    Option ProfileField :=
  if control.disabled ∨
      control.kind ∈ [BrowserControlKind.button, .link, .checkbox, .radio, .select] then none
  else
    (fieldTerms.find? fun (_, terms) =>
      terms.any (containsText (searchable library control))).map (·.1)

/-- The facts of an intent that a field of a page can hold. -/
def available (intent : TaskIntent) : IntentField → Bool
  | .origin => intent.origin.isSome
  | .destination => intent.destination.isSome
  | .requestedDate => intent.requestedDate.isSome
  | .earliestTime => intent.earliestTime.isSome
  | .latestTime => intent.latestTime.isSome
  | .requestedQuantity => intent.requestedQuantity.isSome
  | .searchTerm => false

def detectIntentBinding (library : TaskLibrary) (intent : Option TaskIntent)
    (control : BrowserPageControl) (bound : List PageIntentBinding) : Option PageIntentBinding :=
  match intent with
  | none => none
  | some intent =>
    if control.disabled ∨ control.kind ∈ [BrowserControlKind.button, .link] then none
    else
      let searchable := searchable library control
      let field := intentFieldTerms.find? fun (field, terms) =>
        available intent field ∧ bound.all (·.intentField ≠ field) ∧
          terms.any (containsTerm library searchable)
      match field with
      | some (field, _) => some ⟨control.controlId, field, none⟩
      | none =>
        let optionText := normalize library (" ".intercalate control.options)
        let term := intent.searchTerms.zipIdx.find? fun (term, index) =>
          bound.all (·.searchTermIndex ≠ some index) ∧
            (containsText searchable (normalize library term) ∨
              containsText optionText (normalize library term))
        term.map fun (_, index) => ⟨control.controlId, .searchTerm, some index⟩

structure Mapping where
  /-- How often each profile field has been seen. -/
  occurrences : ProfileField → Nat
  bindings : List PageFieldBinding
  intentBindings : List PageIntentBinding
  unmatchedRequired : List String

/-- A control that takes no profile field. -/
def bindIntent (library : TaskLibrary) (intent : Option TaskIntent) (mapping : Mapping)
    (control : BrowserPageControl) : Mapping :=
  match detectIntentBinding library intent control mapping.intentBindings with
  | some binding => { mapping with intentBindings := mapping.intentBindings ++ [binding] }
  | none =>
    if control.required ∧ ¬ control.disabled then
      { mapping with unmatchedRequired := mapping.unmatchedRequired ++ [control.controlId] }
    else mapping

/-- One turn of the loop over the controls. -/
def bindControl (library : TaskLibrary) (intent : Option TaskIntent) (people : List UUID)
    (mapping : Mapping) (control : BrowserPageControl) : Mapping :=
  match detectProfileField library control with
  | none => bindIntent library intent mapping control
  | some field =>
    let counted := { mapping with
      occurrences := Function.update mapping.occurrences field (mapping.occurrences field + 1) }
    match people[mapping.occurrences field]? with
    | some personId =>
      { counted with
        bindings := counted.bindings ++
          [⟨control.controlId, field, personId, field = .documentNumber⟩] }
    | none => bindIntent library intent counted control

end PageFieldMapper

/-- `build_page_fill_plan` for the snapshot of a task. The identities are those of its
people. -/
def buildPageFillPlan (library : TaskLibrary) (task : AgentTask) (snapshot : BrowserPageSnapshot)
    (now : Time) : PageFillPlan :=
  let mapping := snapshot.controls.foldl
    (PageFieldMapper.bindControl library task.intent task.personIds) ⟨fun _ => 0, [], [], []⟩
  ⟨snapshot.url, now, mapping.bindings, mapping.intentBindings, mapping.unmatchedRequired⟩

end PurchaseAgent
