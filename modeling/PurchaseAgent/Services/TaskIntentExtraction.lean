import PurchaseAgent.Domain.ProviderResolution
import PurchaseAgent.Regex.Engine
import PurchaseAgent.Services.TaskIntentParser
import PurchaseAgent.Services.TaskPlanner

/-!
`extract_task_intent`: the patterns, what is read from their matches, and the checks of
the `TaskIntent` that is made of it.
-/

namespace PurchaseAgent

open Regex

/-- What `re` and `str` know of characters: `\w`, the value of a `\d`, the characters that
stand for a character when case is ignored, and `str.casefold`. -/
structure CharLibrary where
  word : Char → Bool
  decimal : Char → Option Nat
  variants : Char → List Char
  casefold : List Char → List Char
  decimal_lt : ∀ c n, decimal c = some n → n < 10
  decimal_ascii : ∀ n, n < 10 → decimal (Nat.digitChar n) = some n
  casefold_month : ∀ name ∈ russianMonths, ∀ text,
    List.Forall₂ (fun c d => c ∈ variants d) text name.toList → casefold text = name.toList

def optional (r : Re) : Re := .rep false 0 (some 1) r

/-- The characters of a text as they are. -/
def exactly (text : String) : Re := Re.all (text.toList.map fun d => .char (· = d))

def spaces : Re := .rep false 1 none (.char isSpace)

def someSpaces : Re := .rep false 0 none (.char isSpace)

/-- `$`: the end, or a last line break. -/
def atEnd : Re := .assertion fun _ after => after.isEmpty || after = ['\n']

section Patterns
variable (library : CharLibrary)

/-- A text, whatever the case of its letters. -/
def ignoringCase (text : String) : Re :=
  Re.all (text.toList.map fun d => .char ((library.variants d).contains ·))

/-- Texts between which a pattern chooses. -/
def choice (text : String) (others : List String) : Re :=
  Re.anyOf (ignoringCase library text) (others.map (ignoringCase library))

def digit : Re := .char fun c => (library.decimal c).isSome

def digits (least most : Nat) : Re := .rep false least (some most) (digit library)

/-- `\b`. -/
def boundary : Re := .assertion fun before after =>
  (before.head?.any library.word) != (after.head?.any library.word)

def noDigitBefore : Re := .assertion fun before _ => !before.head?.any fun c =>
  (library.decimal c).isSome

def noDigitAfter : Re := .assertion fun _ after => !after.head?.any fun c =>
  (library.decimal c).isSome

def year : Re := Re.all [exactly "20", digits library 2 2]

def dateSeparator : Re := .char (['-', '.', '/'].contains ·)

def dotOrSlash : Re := .char (['.', '/'].contains ·)

def datePattern : Re :=
  Re.all [noDigitBefore library,
    .alt
      (Re.all [.group "year" (year library), dateSeparator, .group "month" (digits library 1 2),
        dateSeparator, .group "day" (digits library 1 2)])
      (Re.all [.group "day_first" (digits library 1 2), dotOrSlash,
        .group "month_first" (digits library 1 2), dotOrSlash, .group "year_last" (year library)]),
    noDigitAfter library]

def russianDatePattern : Re :=
  Re.all [noDigitBefore library, .group "day" (digits library 1 2), spaces,
    .group "month" (choice library "января" russianMonths.tail),
    optional (Re.all [spaces, .group "year" (year library),
      optional (Re.all [someSpaces, ignoringCase library "г",
        optional (.alt (ignoringCase library "ода") (exactly "."))])])]

/-- `[01]?\d|2[0-3]`. -/
def hourPattern : Re :=
  .alt (.seq (optional (.char (['0', '1'].contains ·))) (digit library))
    (.seq (.char (['2'].contains ·)) (.char (['0', '1', '2', '3'].contains ·)))

/-- `[0-5]\d`. -/
def minutePattern : Re :=
  .seq (.char (['0', '1', '2', '3', '4', '5'].contains ·)) (digit library)

/-- `(?P<hour>...):(?P<minute>...)`. -/
def clockTime : Re :=
  Re.all [.group "hour" (hourPattern library), exactly ":", .group "minute" (minutePattern library)]

def timeAfterPattern : Re :=
  Re.all [choice library "после" ["не раньше", "after", "from"], spaces, clockTime library]

def timeBeforePattern : Re :=
  Re.all [choice library "до" ["не позже", "before", "until"], spaces, clockTime library]

def quotationMarks : List Char := [Char.ofNat 34, Char.ofNat 39]

def quotedTermPattern : Re :=
  Re.all [.char (('«' :: quotationMarks).contains ·),
    .group "term" (.rep false 1 (some 200) (.char (!('»' :: quotationMarks).contains ·))),
    .char (('»' :: quotationMarks).contains ·)]

/-- The titles end before a date, before one of the words, or with the text. -/
def titleEnd (word : String) (others : List String) : Re :=
  .ahead (Re.anyOf
    (Re.all [spaces, ignoringCase library "на", spaces, digits library 1 2, boundary library])
    [Re.all [spaces, choice library word others, boundary library], atEnd])

def title : Re :=
  .group "title" (.rep true 2 (some 200) (.char fun c => library.word c ||
    [' ', '.', ',', ':', ';', '!', '?', '(', ')', '-'].contains c))

def unquotedTitlePatterns : List Re :=
  [Re.all [choice library "фильм" ["сеанс"], spaces, title library,
      titleEnd library "после" ["до", "любое", "любой", "места", "мест"]],
    Re.all [.alt (Re.all [ignoringCase library "в", spaces, ignoringCase library "кино"])
        (Re.all [ignoringCase library "билет", optional (choice library "а" ["ов"]), spaces,
          ignoringCase library "в", spaces, ignoringCase library "кино"]),
      spaces, ignoringCase library "на", spaces, title library,
      titleEnd library "после" ["до", "любое", "любой", "места", "мест"]],
    Re.all [ignoringCase library "билет", optional (choice library "ы" ["а", "ов"]), spaces,
      ignoringCase library "на", spaces,
      .notAhead (Re.anyOf (Re.all [ignoringCase library "поезд", boundary library])
        [Re.all [choice library "самолет" ["самолёт"], boundary library],
          Re.all [ignoringCase library "автобус", boundary library],
          Re.all [ignoringCase library "электричк", .rep false 0 none (.char library.word),
            boundary library]]),
      title library,
      titleEnd library "после" ["до", "любое", "любой", "любые", "места", "мест", "время", "утром",
        "днем", "днём", "вечером"]]]

def quantityPattern : Re :=
  Re.all [noDigitBefore library, .group "count" (digits library 1 3), someSpaces,
    Re.anyOf (Re.all [ignoringCase library "билет", optional (choice library "а" ["ов"])])
      [Re.all [ignoringCase library "мест", optional (choice library "о" ["а"])],
        Re.all [ignoringCase library "ticket", optional (ignoringCase library "s")],
        Re.all [ignoringCase library "seat", optional (ignoringCase library "s")],
        Re.all [ignoringCase library "room", optional (ignoringCase library "s")],
        Re.all [ignoringCase library "номер", optional (choice library "а" ["ов"])]],
    .assertion fun _ after => !after.head?.any library.word]

/-- `[А-ЯЁA-Z]`. -/
def isCapital (c : Char) : Bool :=
  ('А' ≤ c && c ≤ 'Я') || c = 'Ё' || ('A' ≤ c && c ≤ 'Z')

/-- Up to three capitalised words. -/
def capitalised (capital : Char → Bool) : Re :=
  let word := Re.all [.char capital, .rep false 0 none (.char fun c => library.word c || c = '-')]
  Re.all [word, .rep false 0 (some 2) (Re.all [spaces, word])]

/-- `[\w -]{2,100}`. -/
def placeName (reluctant : Bool) : Re :=
  .rep reluctant 2 (some 100) (.char fun c => library.word c || c = ' ' || c = '-')

def routePatterns : List Re :=
  [Re.all [boundary library, choice library "из" ["от"], spaces,
      .group "origin" (placeName library true), spaces, boundary library,
      choice library "в" ["до"], spaces, .group "destination" (placeName library false)],
    Re.all [boundary library, ignoringCase library "from", spaces,
      .group "origin" (placeName library true), spaces, ignoringCase library "to", spaces,
      .group "destination" (placeName library false)],
    Re.all [.group "origin" (capitalised library isCapital), someSpaces,
      Re.anyOf (exactly "—") [exactly "->"], someSpaces,
      .group "destination" (capitalised library isCapital)]]

def destinationPattern : Re :=
  Re.all [choice library "авиабилет" ["билет", "поездку", "номер"], spaces,
    choice library "в" ["до", "to"], spaces,
    .group "destination" (capitalised library fun c => (library.variants c).any isCapital)]

def stopWords : Re :=
  Re.all [spaces, choice library "после" ["до", "не раньше", "не позже", "на", "для", "after",
    "before", "for"], boundary library]

end Patterns

/-- `" ".join(text.split())`. -/
def joinWords (text : List Char) : List Char :=
  List.intercalate [' '] ((text.splitOnP isSpace).filter (· ≠ []))

/-- `text.strip(" ,.;:—-")`. -/
def stripPunctuation (text : List Char) : List Char :=
  let mark (c : Char) : Bool := [' ', ',', '.', ';', ':', '—', '-'].contains c
  (text.dropWhile mark).rdropWhile mark

section Extraction
variable (library : CharLibrary)

/-- `int(text)`, of digits. -/
def intOf (text : List Char) : Nat :=
  text.foldl (fun value c => 10 * value + (library.decimal c).getD 0) 0

/-- The number a group holds. -/
def groupInt (found : Position) (name : String) : Nat :=
  intOf library ((found.group name).getD [])

/-- The matches of the pattern for dates in words. -/
def searchRussianDate (value : String) : Option RussianDateMatch :=
  (search (russianDatePattern library) [] value.toList).map fun found =>
    { front := String.ofList found.1
      day := groupInt library found.2 "day"
      month := String.ofList ((found.2.group "month").getD [])
      year := (found.2.group "year").map (intOf library)
      back := String.ofList found.2.after }

def extractDate (value : List Char) (today : Date) : Except PyException ExtractedDate :=
  match search (datePattern library) [] value with
  | none =>
    extractRussianDate (fun text => String.ofList (library.casefold text.toList))
      (searchRussianDate library) (String.ofList value) today
  | some found =>
    let parsed :=
      if (found.2.group "year").isSome then
        Date.make? (groupInt library found.2 "year") (groupInt library found.2 "month")
          (groupInt library found.2 "day")
      else
        Date.make? (groupInt library found.2 "year_last") (groupInt library found.2 "month_first")
          (groupInt library found.2 "day_first")
    match parsed with
    | none => .ok ⟨none, String.ofList value, true⟩
    | some parsed => .ok ⟨some parsed, String.ofList (found.1 ++ [' '] ++ found.2.after), false⟩

def trimRouteValue (value : List Char) : List Char :=
  stripPunctuation (((search (stopWords library) [] value).map (·.1)).getD value)

/-- `_extract_route`: the origin and the destination. -/
def extractRoute (value : List Char) : Option (List Char) × Option (List Char) :=
  let normalized := joinWords value
  match (routePatterns library).findSome? fun pattern => search pattern [] normalized with
  | some found =>
    (some (trimRouteValue library ((found.2.group "origin").getD [])),
      some (trimRouteValue library ((found.2.group "destination").getD [])))
  | none =>
    match search (destinationPattern library) [] normalized with
    | some found => (none, some (trimRouteValue library ((found.2.group "destination").getD [])))
    | none => (none, none)

/-- `_extract_unquoted_title`, from one of the patterns on. -/
def extractUnquotedTitle (value : List Char) : List Re → List (List Char)
  | [] => []
  | pattern :: rest =>
    match search pattern [] value with
    | none => extractUnquotedTitle value rest
    | some found =>
      let title := joinWords (stripPunctuation ((found.2.group "title").getD []))
      if title = [] then extractUnquotedTitle value rest else [title]

/-- `time(hour, minute)`, in minutes. -/
def timeOfDay (hour minute : Nat) : Except PyException Nat :=
  if 23 < hour then .error (.valueError "hour must be in 0..23")
  else if 59 < minute then .error (.valueError "minute must be in 0..59")
  else .ok (60 * hour + minute)

def extractTime (pattern : Re) (value : List Char) : Except PyException (Option Nat) :=
  match search pattern [] value with
  | none => .ok none
  | some found =>
    (timeOfDay (groupInt library found.2 "hour") (groupInt library found.2 "minute")).map some

def wordQuantities : List (String × Nat) :=
  [("один билет", 1), ("одна комната", 1), ("два билета", 2), ("две комнаты", 2),
    ("три билета", 3), ("четыре билета", 4), ("one ticket", 1), ("two tickets", 2),
    ("three tickets", 3), ("four tickets", 4)]

def extractQuantity (value : List Char) : Option Nat :=
  match search (quantityPattern library) [] value with
  | some found =>
    let count := groupInt library found.2 "count"
    if 1 ≤ count ∧ count ≤ 100 then some count else none
  | none =>
    (wordQuantities.find? fun entry =>
      containsText (String.ofList (library.casefold value)) entry.1).map (·.2)

/-- `_QUOTED_TERM_PATTERN.findall`. -/
def quotedTerms (value : List Char) : List (List Char) :=
  findAll quotedTermPattern "term" (value.length + 1) [] value

def normalizePlace (value : Option (List Char)) : Option String :=
  value.bind fun text =>
    let normalized := (joinWords (stripPunctuation text)).take 200
    if normalized = [] then none else some (String.ofList normalized)

def normalizeTerms (terms : List (List Char)) : List String :=
  (((terms.map fun term => (joinWords term).take 200).filter (· ≠ [])).map String.ofList).eraseDups

/-- `TaskIntent(...)`. -/
def TaskIntent.create (origin destination : Option (List Char)) (requestedDate : Option Date)
    (earliestTime latestTime requestedQuantity : Option Nat) (participantCount : Nat)
    (searchTerms : List (List Char)) (issues : List TaskIntentIssue) :
    Except PyException TaskIntent :=
  if origin.any (200 < ·.length) || destination.any (200 < ·.length) then
    .error (validationError "String should have at most 200 characters")
  else if requestedQuantity.any (fun quantity => quantity < 1 || 100 < quantity) then
    .error (validationError "Input should be between 1 and 100")
  else if participantCount < 1 ∨ 100 < participantCount then
    .error (validationError "Input should be between 1 and 100")
  else if 20 < searchTerms.length then
    .error (validationError "Tuple should have at most 20 items")
  else if 20 < issues.length then .error (validationError "Tuple should have at most 20 items")
  else
    .ok ⟨normalizePlace origin, normalizePlace destination, requestedDate, earliestTime,
      latestTime, requestedQuantity, participantCount, normalizeTerms searchTerms, issues⟩

/-- The issues that are found, in their order. -/
def intentIssues (invalidDate : Bool) (earliestTime latestTime requestedQuantity : Option Nat)
    (participantCount : Nat) : List TaskIntentIssue :=
  (if invalidDate then [.invalidDate] else []) ++
  (if earliestTime.any (fun earliest => latestTime.any (· < earliest)) then [.invalidTimeWindow]
    else []) ++
  (if requestedQuantity.any (· ≠ participantCount) then [.quantityMismatch] else [])

/-- `extract_task_intent`, where `today` is the reference date or else the day of the call. -/
def extractTaskIntent (instruction : List Char) (participantCount : Nat) (today : Date) :
    Except PyException TaskIntent := do
  let extracted ← extractDate library instruction today
  let route := extractRoute library extracted.instruction.toList
  let earliestTime ← extractTime library (timeAfterPattern library) instruction
  let latestTime ← extractTime library (timeBeforePattern library) instruction
  let requestedQuantity := extractQuantity library instruction
  let issues := intentIssues extracted.invalid earliestTime latestTime requestedQuantity
    participantCount
  let quoted := quotedTerms instruction
  let searchTerms :=
    if quoted = [] then extractUnquotedTitle instruction (unquotedTitlePatterns library) else quoted
  TaskIntent.create route.1 route.2 extracted.date earliestTime latestTime requestedQuantity
    participantCount searchTerms issues

/-- `build_task_plan` with this extraction. -/
def planFromInstruction (tasks : TaskLibrary) (task : AgentTask) (now : Time) :
    Except PyException TaskPlanPreview :=
  buildTaskPlan { tasks with
    extractTaskIntent := fun instruction => extractTaskIntent library instruction.toList } task now

end Extraction
end PurchaseAgent
