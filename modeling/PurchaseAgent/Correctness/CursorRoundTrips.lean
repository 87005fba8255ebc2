import PurchaseAgent.Api.CursorCodecs
import PurchaseAgent.Encoding.JsonRoundTrip

/-!
A cursor is decoded from its text, although the padding was stripped, and from the text of no
cursor with other fields.
-/

namespace PurchaseAgent.CursorCodecs

open Collections Encoding Json

section Plain

theorem isPlain_digit {c : Char} (digit : c.isDigit = true) : IsPlain c := by
  have ranges : (decide (c.val ≥ 48) && decide (c.val ≤ 57)) = true := digit
  simp only [Bool.and_eq_true, decide_eq_true_eq, ge_iff_le, UInt32.le_iff_toNat_le] at ranges
  have least : 48 ≤ c.toNat := ranges.1
  have most : c.toNat ≤ 57 := ranges.2
  refine ⟨by omega, by omega, ?_, ?_⟩
  · intro same
    subst same
    exact absurd least (by decide)
  · intro same
    subst same
    exact absurd most (by decide)

theorem isPlain_version : IsPlain 'v' := by
  have all : 32 ≤ 'v'.toNat ∧ 'v'.toNat ≤ 126 ∧ 'v' ≠ '"' ∧ 'v' ≠ '\\' := by decide
  exact all

theorem plain_cons {c : Char} {text : List Char} (first : IsPlain c) (rest : Plain text) :
    Plain (c :: text) := List.forall_mem_cons.mpr ⟨first, rest⟩

theorem plain_append {front back : List Char} (first : Plain front) (rest : Plain back) :
    Plain (front ++ back) := List.forall_mem_append.mpr ⟨first, rest⟩

theorem plain_fixedDecimal (width n : Nat) : Plain (fixedDecimal width n) :=
  fun _ member => isPlain_digit (isDigit_fixedDecimal member)

/-- The separators of ids and times. -/
theorem isPlain_mark {c : Char} (mark : ['-', ':', 'T', '.', '+'].contains c = true) :
    IsPlain c := by
  have all : (['-', ':', 'T', '.', '+'].all fun c =>
      32 ≤ c.toNat && (c.toNat ≤ 126 && (c ≠ '"' && c ≠ '\\'))) = true := by decide
  have plain := List.all_eq_true.mp all c (List.contains_iff_mem.mp mark)
  simp only [Bool.and_eq_true, decide_eq_true_eq] at plain
  exact plain

theorem isPlain_hexDigit {d : Nat} (below : d < 16) : IsPlain d.digitChar := by
  have all : ∀ d < 16, 32 ≤ d.digitChar.toNat ∧ d.digitChar.toNat ≤ 126 ∧
      d.digitChar ≠ '"' ∧ d.digitChar ≠ '\\' := by decide
  exact all d below

theorem plain_toDigits (n : Nat) : Plain (Nat.toDigits 16 n) := by
  induction n using Nat.base_induction 16 (by decide) with
  | single m below =>
      rw [Nat.toDigits_of_lt_base below]
      exact List.forall_mem_singleton.mpr (isPlain_hexDigit below)
  | digit m k below positive ih =>
      rw [← Nat.toDigits_append_toDigits (by decide) positive below,
        Nat.toDigits_of_lt_base below]
      exact List.forall_mem_append.mpr
        ⟨ih, List.forall_mem_singleton.mpr (isPlain_hexDigit below)⟩

theorem plain_zeros (k : Nat) : Plain (List.replicate k '0') := by
  intro c member
  rw [List.eq_of_mem_replicate member]
  exact isPlain_digit (by decide)

theorem plain_intercalate {groups : List (List Char)} (plain : ∀ group ∈ groups, Plain group) :
    Plain (List.intercalate ['-'] groups) := by
  induction groups with
  | nil => exact fun _ member => absurd member List.not_mem_nil
  | cons first others ih =>
      obtain ⟨first_plain, others_plain⟩ := List.forall_mem_cons.mp plain
      cases others with
      | nil =>
          rw [List.intercalate_singleton]
          exact first_plain
      | cons second others =>
          rw [List.intercalate_cons_cons]
          exact plain_append (plain_append first_plain
            (List.forall_mem_singleton.mpr (isPlain_mark (by decide)))) (ih others_plain)

/-- The 32 digits of an id. -/
def paddedDigits (n : Nat) : List Char :=
  List.replicate (32 - (Nat.toDigits 16 n).length) '0' ++ Nat.toDigits 16 n

theorem toList_uuid (id : UUID) : id.str.toList = uuidGroups (paddedDigits id.int) := by
  rw [UUID.str, String.toList_ofList]
  rfl

theorem plain_paddedDigits (n : Nat) : Plain (paddedDigits n) :=
  plain_append (plain_zeros _) (plain_toDigits n)

theorem plain_uuid (id : UUID) : Plain id.str.toList := by
  have digits := plain_paddedDigits id.int
  rw [toList_uuid]
  refine plain_intercalate fun group member => ?_
  have part : group.Sublist (paddedDigits id.int) := by
    simp only [List.mem_cons, List.not_mem_nil, or_false] at member
    rcases member with rfl | rfl | rfl | rfl | rfl
    · exact (List.take_sublist _ _).trans (List.drop_sublist _ _)
    · exact (List.take_sublist _ _).trans (List.drop_sublist _ _)
    · exact (List.take_sublist _ _).trans (List.drop_sublist _ _)
    · exact (List.take_sublist _ _).trans (List.drop_sublist _ _)
    · exact List.drop_sublist _ _
  exact fun c inside => digits c (part.subset inside)

theorem readUuid_str (id : UUID128) : readUuid id.id.str.toList = some id.id.int := by
  have short : (Nat.toDigits 16 id.id.int).length ≤ 32 :=
    (Nat.length_toDigits_le_iff (by decide) (by decide)).mpr (id.int_lt.trans_eq (by decide))
  have length : (paddedDigits id.id.int).length = 32 := by
    rw [paddedDigits, List.length_append, List.length_replicate]
    omega
  rw [toList_uuid, readUuid, readGroups_uuidGroups length, Option.bind_some]
  exact hexNumber_padded _ _

theorem plain_offset (utcoffset : Int) : Plain (IsoTime.offsetText utcoffset) := by
  refine plain_cons ?_ (plain_append (plain_fixedDecimal _ _)
    (plain_cons (isPlain_mark (by decide)) (plain_fixedDecimal _ _)))
  split
  · exact isPlain_mark (by decide)
  · exact isPlain_mark (by decide)

theorem plain_fraction (microsecond : Nat) : Plain (IsoTime.fractionText microsecond) := by
  rw [IsoTime.fractionText]
  split
  · exact fun _ member => absurd member List.not_mem_nil
  · exact plain_cons (isPlain_mark (by decide)) (plain_fixedDecimal _ _)

theorem plain_isoformat (fields : DateTimeFields) : Plain (IsoTime.isoformat fields) := by
  have time : Plain (IsoTime.timeText fields) :=
    plain_append (plain_fixedDecimal _ _) (plain_cons (isPlain_mark (by decide))
      (plain_append (plain_fixedDecimal _ _) (plain_cons (isPlain_mark (by decide))
        (plain_append (plain_fixedDecimal _ _)
          (plain_append (plain_fraction _) (plain_offset _))))))
  exact plain_append (plain_fixedDecimal _ _) (plain_cons (isPlain_mark (by decide))
    (plain_append (plain_fixedDecimal _ _) (plain_cons (isPlain_mark (by decide))
      (plain_append (plain_fixedDecimal _ _) (plain_cons (isPlain_mark (by decide)) time)))))

end Plain

section Text
variable {κ : Type} (codec : JsonCodec κ)

theorem fromUTF8?_toUTF8 (text : String) :
    String.fromUTF8? ⟨text.toUTF8.data.toList.toArray⟩ = some text := by
  rw [Array.toArray_toList]
  exact dif_pos text.isValidUTF8

theorem readPayload_encode {cursor : κ} (nonempty : codec.members cursor ≠ [])
    (plain : PlainMembers (codec.members cursor))
    (sorted : (codec.members cursor).Pairwise fun left right =>
      codePoints left.1 ≤ codePoints right.1)
    (distinct : ((codec.members cursor).map fun member => codePoints member.1).Nodup) :
    JsonCodec.readPayload (codec.encode cursor) =
      some (.object ((codec.members cursor).map readMember)) := by
  rw [JsonCodec.readPayload, JsonCodec.encode, String.toList_ofList, String.length_ofList,
    Base64.decode_stripped, Option.bind_some, fromUTF8?_toUTF8, Option.bind_some,
    String.toList_ofList]
  exact loads_dumps nonempty plain sorted distinct

theorem checkVersion_of_fields (library : PydanticLibrary) {fields : Payload}
    (absent : key "v" ∉ fields.map (·.1)) :
    JsonCodec.checkVersion library (.object (fields ++ [(key "v", .int 1)])) = some fields := by
  rw [JsonCodec.checkVersion, Dict.get?_snoc_self absent, Dict.erase_snoc_self absent]
  rfl

/-- What a codec writes in front of the version: plain members, whose names are distinct and
in order, also with the one of the version. -/
structure Writes (cursor : κ) (fields : List (List Char × Scalar)) : Prop where
  members : codec.members cursor = fields ++ [version]
  plain : PlainMembers fields
  sorted : ((fields ++ [version]).map fun field => codePoints field.1).Pairwise (· ≤ ·)
  distinct : ((fields ++ [version]).map fun field => codePoints field.1).Nodup

variable {codec} {cursor : κ} {fields : List (List Char × Scalar)}

theorem Writes.absent (writes : Writes codec cursor fields) :
    key "v" ∉ (fields.map readMember).map (·.1) := by
  have distinct := writes.distinct
  rw [List.map_append, List.nodup_append] at distinct
  rw [List.map_map]
  intro member
  exact distinct.2.2 _ member _ (List.mem_singleton_self _) rfl

theorem readPayload_of_writes (writes : Writes codec cursor fields) :
    JsonCodec.readPayload (codec.encode cursor) =
      some (.object (fields.map readMember ++ [(key "v", .int 1)])) := by
  have version_plain : Plain version.1 ∧ PlainScalar version.2 :=
    ⟨List.forall_mem_singleton.mpr isPlain_version, trivial⟩
  rw [readPayload_encode, writes.members, List.map_append]
  · rfl
  · rw [writes.members]
    exact List.append_ne_nil_of_right_ne_nil _ (List.cons_ne_nil _ _)
  · rw [writes.members]
    exact List.forall_mem_append.mpr
      ⟨writes.plain, List.forall_mem_singleton.mpr version_plain⟩
  · rw [writes.members]
    exact List.pairwise_map.mp writes.sorted
  · rw [writes.members]
    exact writes.distinct

/-- What any codec makes of the text. -/
theorem decode_of_writes {κ' : Type} (library : PydanticLibrary) (other : JsonCodec κ')
    (writes : Writes codec cursor fields) : other.decode library (codec.encode cursor) =
      (other.modelValidate (fields.map readMember)).elim (.error other.invalid) .ok := by
  rw [JsonCodec.decode, readPayload_of_writes writes, Option.bind_some,
    checkVersion_of_fields library writes.absent, Option.bind_some]
  cases other.modelValidate (fields.map readMember) with
  | none => rfl
  | some decoded => rfl

theorem modelValidate_of_known {payload : Payload}
    (known : (payload.all fun field => (codec.names.map key).contains field.1) = true) :
    codec.modelValidate payload = codec.validate payload := if_pos known

/-- A field that the class does not have is forbidden. -/
theorem modelValidate_of_extra {payload : Payload} {field : List Nat × Json}
    (member : field ∈ payload) (extra : (codec.names.map key).contains field.1 = false) :
    codec.modelValidate payload = none := by
  rw [JsonCodec.modelValidate, if_neg]
  intro all
  have known := List.all_eq_true.mp all field member
  rw [extra] at known
  cases known

end Text

section Fields

def isNameChar (c : Char) : Bool := (97 ≤ c.toNat && c.toNat ≤ 122) || c = '_'

theorem plain_name {name : List Char} (chars : name.all isNameChar = true) : Plain name := by
  intro c member
  have char := List.all_eq_true.mp chars c member
  simp only [isNameChar, Bool.or_eq_true, Bool.and_eq_true, decide_eq_true_eq] at char
  rcases char with ⟨least, most⟩ | underscore
  · refine ⟨by omega, by omega, ?_, ?_⟩
    · intro same
      subst same
      exact absurd least (by decide)
    · intro same
      subst same
      exact absurd least (by decide)
  · subst underscore
    have all : 32 ≤ '_'.toNat ∧ '_'.toNat ≤ 126 ∧ '_' ≠ '"' ∧ '_' ≠ '\\' := by decide
    exact all

variable (library : PydanticLibrary)

theorem uuidField_eq {payload : Payload} {name : String} {id : UUID128}
    (found : payload.get? (key name) = some (.str (codePoints id.id.str.toList))) :
    uuidField library payload name = some id := by
  rw [uuidField, found, Option.bind_some]
  exact library.parseUUID_text _ _ (readUuid_str id) id.int_lt

theorem timeField_eq {payload : Payload} {name : String} {time : AwareDateTime}
    (found : payload.get? (key name) = some (.str (codePoints (IsoTime.isoformat time.fields)))) :
    timeField library payload name = some time := by
  rw [timeField, found, Option.bind_some,
    library.parseDatetime_text _ _ (IsoTime.read_isoformat time.valid) time.valid]
  rfl

theorem indexField_eq {payload : Payload} {name : String} {n : Nat}
    (found : payload.get? (key name) = some (.int n)) :
    indexField library payload name = some n := by
  rw [indexField, found, Option.bind_some, library.parseInt_int, Option.bind_some,
    if_pos (Int.natCast_nonneg n), Int.toNat_natCast]

theorem plain_index (n : Nat) : Plain "event_index".toList ∧ PlainScalar (.number n) :=
  ⟨plain_name (by decide), trivial⟩

theorem plain_time (time : AwareDateTime) :
    Plain "occurred_at".toList ∧ PlainScalar (timeText time) :=
  ⟨plain_name (by decide), plain_isoformat time.fields⟩

theorem plain_id (name : String) (chars : name.toList.all isNameChar = true) (id : UUID128) :
    Plain name.toList ∧ PlainScalar (uuidText id) :=
  ⟨plain_name chars, plain_uuid id.id⟩

def ProviderHistoryCursor.fields (cursor : ProviderHistoryCursor) : List (List Char × Scalar) :=
  [("event_index".toList, .number cursor.eventIndex),
    ("mission_id".toList, uuidText cursor.missionId),
    ("occurred_at".toList, timeText cursor.occurredAt)]

theorem ProviderHistoryCursor.writes (cursor : ProviderHistoryCursor) :
    Writes (ProviderHistoryCursorCodec library) cursor cursor.fields where
  members := rfl
  plain := List.forall_mem_cons.mpr ⟨plain_index cursor.eventIndex, List.forall_mem_cons.mpr
    ⟨plain_id "mission_id" (by decide) cursor.missionId,
      List.forall_mem_singleton.mpr (plain_time cursor.occurredAt)⟩⟩
  sorted := by
    have names : [key "event_index", key "mission_id", key "occurred_at", key "v"].Pairwise
      (· ≤ ·) := by decide
    exact names
  distinct := by
    have names : [key "event_index", key "mission_id", key "occurred_at", key "v"].Nodup := by
      decide
    exact names

theorem ProviderHistoryCursor.validates (cursor : ProviderHistoryCursor) :
    (ProviderHistoryCursorCodec library).modelValidate (cursor.fields.map readMember) =
      some cursor := by
  have mission : uuidField library (cursor.fields.map readMember) "mission_id" =
      some cursor.missionId := uuidField_eq library rfl
  have occurred : timeField library (cursor.fields.map readMember) "occurred_at" =
      some cursor.occurredAt := timeField_eq library rfl
  have index : indexField library (cursor.fields.map readMember) "event_index" =
      some cursor.eventIndex := indexField_eq library rfl
  rw [modelValidate_of_known rfl]
  change (uuidField library (cursor.fields.map readMember) "mission_id").bind _ = _
  rw [mission, Option.bind_some, occurred, Option.bind_some, index]
  rfl

def NotificationOutboxCursor.fields (cursor : NotificationOutboxCursor) :
    List (List Char × Scalar) :=
  [("message_id".toList, uuidText cursor.messageId),
    ("occurred_at".toList, timeText cursor.occurredAt)]

theorem NotificationOutboxCursor.writes (cursor : NotificationOutboxCursor) :
    Writes (NotificationOutboxCursorCodec library) cursor cursor.fields where
  members := rfl
  plain := List.forall_mem_cons.mpr ⟨plain_id "message_id" (by decide) cursor.messageId,
    List.forall_mem_singleton.mpr (plain_time cursor.occurredAt)⟩
  sorted := by
    have names : [key "message_id", key "occurred_at", key "v"].Pairwise (· ≤ ·) := by decide
    exact names
  distinct := by
    have names : [key "message_id", key "occurred_at", key "v"].Nodup := by decide
    exact names

theorem NotificationOutboxCursor.validates (cursor : NotificationOutboxCursor) :
    (NotificationOutboxCursorCodec library).modelValidate (cursor.fields.map readMember) =
      some cursor := by
  have occurred : timeField library (cursor.fields.map readMember) "occurred_at" =
      some cursor.occurredAt := timeField_eq library rfl
  have message : uuidField library (cursor.fields.map readMember) "message_id" =
      some cursor.messageId := uuidField_eq library rfl
  rw [modelValidate_of_known rfl]
  change (timeField library (cursor.fields.map readMember) "occurred_at").bind _ = _
  rw [occurred, Option.bind_some, message]
  rfl

def MissionCursor.fields (cursor : MissionCursor) : List (List Char × Scalar) :=
  [("mission_id".toList, uuidText cursor.missionId)]

theorem MissionCursor.writes (cursor : MissionCursor) :
    Writes (MissionCursorCodec library) cursor cursor.fields where
  members := rfl
  plain := List.forall_mem_singleton.mpr (plain_id "mission_id" (by decide) cursor.missionId)
  sorted := by
    have names : [key "mission_id", key "v"].Pairwise (· ≤ ·) := by decide
    exact names
  distinct := by
    have names : [key "mission_id", key "v"].Nodup := by decide
    exact names

theorem MissionCursor.validates (cursor : MissionCursor) :
    (MissionCursorCodec library).modelValidate (cursor.fields.map readMember) = some cursor := by
  have mission : uuidField library (cursor.fields.map readMember) "mission_id" =
      some cursor.missionId := uuidField_eq library rfl
  rw [modelValidate_of_known rfl]
  change (uuidField library (cursor.fields.map readMember) "mission_id").map _ = _
  rw [mission]
  rfl

def IdentityCursor.fields (cursor : IdentityCursor) : List (List Char × Scalar) :=
  [("identity_id".toList, uuidText cursor.identityId)]

theorem IdentityCursor.writes (cursor : IdentityCursor) :
    Writes (IdentityCursorCodec library) cursor cursor.fields where
  members := rfl
  plain := List.forall_mem_singleton.mpr (plain_id "identity_id" (by decide) cursor.identityId)
  sorted := by
    have names : [key "identity_id", key "v"].Pairwise (· ≤ ·) := by decide
    exact names
  distinct := by
    have names : [key "identity_id", key "v"].Nodup := by decide
    exact names

theorem IdentityCursor.validates (cursor : IdentityCursor) :
    (IdentityCursorCodec library).modelValidate (cursor.fields.map readMember) = some cursor := by
  have identity : uuidField library (cursor.fields.map readMember) "identity_id" =
      some cursor.identityId := uuidField_eq library rfl
  rw [modelValidate_of_known rfl]
  change (uuidField library (cursor.fields.map readMember) "identity_id").map _ = _
  rw [identity]
  rfl

/-- The fields of a cursor, as any codec reads them. -/
def CursorKind.fields : (kind : CursorKind) → kind.Cursor → List (List Char × Scalar)
  | .providerHistory => ProviderHistoryCursor.fields
  | .notificationOutbox => NotificationOutboxCursor.fields
  | .mission => MissionCursor.fields
  | .identity => IdentityCursor.fields

theorem CursorKind.writes (kind : CursorKind) (cursor : kind.Cursor) :
    Writes (kind.codec library) cursor (kind.fields cursor) := by
  cases kind with
  | providerHistory => exact ProviderHistoryCursor.writes library cursor
  | notificationOutbox => exact NotificationOutboxCursor.writes library cursor
  | mission => exact MissionCursor.writes library cursor
  | identity => exact IdentityCursor.writes library cursor

theorem CursorKind.validates (kind : CursorKind) (cursor : kind.Cursor) :
    (kind.codec library).modelValidate ((kind.fields cursor).map readMember) = some cursor := by
  cases kind with
  | providerHistory => exact ProviderHistoryCursor.validates library cursor
  | notificationOutbox => exact NotificationOutboxCursor.validates library cursor
  | mission => exact MissionCursor.validates library cursor
  | identity => exact IdentityCursor.validates library cursor

/-- The history cursor of a mission needs more than the mission. -/
theorem ProviderHistoryCursor.rejects_mission (cursor : MissionCursor) :
    (ProviderHistoryCursorCodec library).modelValidate (cursor.fields.map readMember) = none := by
  have mission : uuidField library (cursor.fields.map readMember) "mission_id" =
      some cursor.missionId := uuidField_eq library rfl
  have occurred : timeField library (cursor.fields.map readMember) "occurred_at" = none := rfl
  rw [modelValidate_of_known rfl]
  -- every field is known, but the time is missing
  change (uuidField library (cursor.fields.map readMember) "mission_id").bind _ = _
  rw [mission, Option.bind_some, occurred]
  rfl

/-- The first field of the payload is not one of another kind, except for a mission's. -/
theorem CursorKind.rejects {kind other : CursorKind} (different : other ≠ kind)
    (cursor : kind.Cursor) :
    (other.codec library).modelValidate ((kind.fields cursor).map readMember) = none := by
  cases kind with
  | providerHistory =>
      cases other with
      | providerHistory => exact absurd rfl different
      | notificationOutbox => exact modelValidate_of_extra List.mem_cons_self rfl
      | mission => exact modelValidate_of_extra List.mem_cons_self rfl
      | identity => exact modelValidate_of_extra List.mem_cons_self rfl
  | notificationOutbox =>
      cases other with
      | providerHistory => exact modelValidate_of_extra List.mem_cons_self rfl
      | notificationOutbox => exact absurd rfl different
      | mission => exact modelValidate_of_extra List.mem_cons_self rfl
      | identity => exact modelValidate_of_extra List.mem_cons_self rfl
  | mission =>
      cases other with
      | providerHistory => exact ProviderHistoryCursor.rejects_mission library cursor
      | notificationOutbox => exact modelValidate_of_extra List.mem_cons_self rfl
      | mission => exact absurd rfl different
      | identity => exact modelValidate_of_extra List.mem_cons_self rfl
  | identity =>
      cases other with
      | providerHistory => exact modelValidate_of_extra List.mem_cons_self rfl
      | notificationOutbox => exact modelValidate_of_extra List.mem_cons_self rfl
      | mission => exact modelValidate_of_extra List.mem_cons_self rfl
      | identity => exact absurd rfl different

theorem CursorKind.decode_encode (kind : CursorKind) (cursor : kind.Cursor) :
    (kind.codec library).decode library ((kind.codec library).encode cursor) = .ok cursor := by
  rw [decode_of_writes library _ (kind.writes library cursor), kind.validates library cursor]
  rfl

theorem CursorKind.decode_other {kind other : CursorKind} (different : other ≠ kind)
    (cursor : kind.Cursor) :
    (other.codec library).decode library ((kind.codec library).encode cursor) =
      .error (other.codec library).invalid := by
  rw [decode_of_writes library _ (kind.writes library cursor),
    CursorKind.rejects library different cursor]
  rfl

end Fields

section Texts

/-- A library that parses the texts that the codecs write, and no other. -/
def textUUID : Json → Option UUID128
  | .str codes => (readUuid (codes.map Char.ofNat)).bind fun n =>
      if below : n < 2 ^ 128 then some ⟨⟨n⟩, below⟩ else none
  | _ => none

def textDatetime : Json → Option (Option AwareDateTime)
  | .str codes => (IsoTime.read (codes.map Char.ofNat)).bind fun fields =>
      if valid : fields.isValid = true then some (some ⟨fields, DateTimeFields.valid_of_isValid valid⟩)
      else none
  | _ => none

def textInt : Json → Option Int
  | .int n => some n
  | _ => none

theorem map_ofNat_codePoints (text : List Char) : (codePoints text).map Char.ofNat = text := by
  rw [codePoints, List.map_map]
  exact List.map_id'' (fun c => Char.ofNat_toNat c) text

theorem textUUID_text (text : List Char) (n : Nat) (read : readUuid text = some n)
    (below : n < 2 ^ 128) : textUUID (.str (codePoints text)) = some ⟨⟨n⟩, below⟩ := by
  rw [textUUID, map_ofNat_codePoints, read, Option.bind_some, dif_pos below]

theorem textDatetime_text (text : List Char) (fields : DateTimeFields)
    (read : IsoTime.read text = some fields) (valid : fields.Valid) :
    textDatetime (.str (codePoints text)) = some (some ⟨fields, valid⟩) := by
  rw [textDatetime, map_ofNat_codePoints, read, Option.bind_some,
    dif_pos (DateTimeFields.isValid_iff.mpr valid)]

theorem textInt_int (n : Int) : textInt (.int n) = some n := rfl

def textLibrary : PydanticLibrary where
  parseUUID := textUUID
  parseDatetime := textDatetime
  parseInt := textInt
  floatIsOne literal := literal = "1.0".toList
  parseUUID_text := textUUID_text
  parseDatetime_text := textDatetime_text
  parseInt_int := textInt_int

end Texts

/-- A cursor is decoded from its text, different cursors of a kind have different texts, and
no text of a cursor is decoded as a cursor of another kind. -/
theorem cursors_round_trip (library : PydanticLibrary) (kind : CursorKind) :
    (∀ cursor : kind.Cursor,
      (kind.codec library).decode library ((kind.codec library).encode cursor) = .ok cursor) ∧
    Function.Injective (kind.codec library).encode ∧
    ∀ (cursor : kind.Cursor) (other : CursorKind), other ≠ kind →
      (other.codec library).decode library ((kind.codec library).encode cursor) =
        .error (other.codec library).invalid := by
  refine ⟨kind.decode_encode library, ?_, ?_⟩
  · intro left right same
    have decoded := kind.decode_encode library left
    rw [same, kind.decode_encode library right] at decoded
    injection decoded with equal
    exact equal.symm
  · intro cursor other different
    exact CursorKind.decode_other library different cursor

theorem leapDay_valid : (⟨2028, 2, 29, 23, 59, 59, 999999, 120⟩ : DateTimeFields).Valid :=
  DateTimeFields.valid_of_isValid rfl

/-- The last microsecond of a leap day, two hours east of UTC. -/
def leapDay : AwareDateTime := ⟨_, leapDay_valid⟩

def leapDayCursor : NotificationOutboxCursor := ⟨leapDay, ⟨⟨7⟩, by decide⟩⟩

theorem cursors_round_trip_leapDay :
    (MissionCursorCodec textLibrary).decode textLibrary
        ((NotificationOutboxCursorCodec textLibrary).encode leapDayCursor) =
      .error (.other "InvalidMissionCursorError" "Mission cursor is invalid") :=
  (cursors_round_trip textLibrary .notificationOutbox).2.2 leapDayCursor .mission (by decide)

end PurchaseAgent.CursorCodecs
