import FileCleanup.Proofs.Json.Reader
import FileCleanup.Proofs.Time.Stamp
import FileCleanup.Proofs.Uuid
import FileCleanup.Record.Json

namespace FileCleanup.FileRecord

open Json Text Time

/-! A record that is written as JSON is read back, from an object and from an array. -/

variable {rest : List Char} {record : FileRecord}

namespace Field

theorem ofName?_name (field : Field) : ofName? field.name = some field := by
  cases field <;> decide

/-- A value neither begins with a space nor closes an array. -/
theorem Kind.written_start (kind : Kind) (value : kind.Value) :
    ∃ c more, kind.written value = c :: more ∧ isSpace c = false ∧ c ≠ ']' := by
  have number : ∀ number, IntegerRange.signed64.Holds number →
      ∃ c more, (toString number).toList = c :: more ∧ isSpace c = false ∧ c ≠ ']' := by
    intro number wide
    obtain ⟨c, more, written, start, _⟩ := number_run wide (show EndsNumber [] from nofun)
    refine ⟨c, more, written, not_isSpace_of_start start, ?_⟩
    rintro rfl
    cases start
  cases kind with
  | identifier | text | instant => exact ⟨_, _, rfl, rfl, by decide⟩
  | size => exact number _ (signed64_toInt value)
  | attempts => exact number _ (signed64_of_signed32 (signed32_toInt value))
  | optionalInstant =>
      cases value with
      | none | some => exact ⟨_, _, rfl, rfl, by decide⟩

/-- A value of every kind is read back. -/
theorem Kind.reader_run (kind : Kind) (value : kind.Value) (ends : EndsNumber rest) :
    kind.reader.run (kind.written value ++ rest) = .ok (value, rest) := by
  cases kind with
  | identifier => exact decoded_run (Uuid.ofText?_hyphenated value) rest
  | text => exact string_run value rest
  | size =>
      have holds := signed64_toInt value
      have same : Int64.ofInt (Int64.toInt value) = value := Int64.ofInt_toInt value
      exact (run_bind (integer_run holds holds ends)).trans (by rw [same]; rfl)
  | attempts =>
      have holds := signed32_toInt value
      have same : Int32.ofInt (Int32.toInt value) = value := Int32.ofInt_toInt value
      exact (run_bind (integer_run (signed64_of_signed32 holds) holds ends)).trans
        (by rw [same]; rfl)
  | instant => exact decoded_run (Instant.ofStamp?_stamp value) rest
  | optionalInstant =>
      cases value with
      | none => exact null_run _ rest
      | some time =>
          exact nullOr_run rfl (by decide) (decoded_run (Instant.ofStamp?_stamp time) rest)

end Field

/-! Drafts that are filled field by field. -/

namespace Draft

/-- The draft with some fields taken from a record. -/
def filled (draft : Draft) (record : FileRecord) (fields : List Field) : Draft :=
  fields.foldl (fun draft field => draft.set field (record.value field)) draft

theorem set_self (draft : Draft) (field : Field) (value : field.Value) :
    draft.set field value field = some value :=
  dif_pos rfl

theorem set_other {draft : Draft} {field other : Field} (different : field ≠ other)
    (value : field.Value) : draft.set field value other = draft other :=
  dif_neg different

theorem unknown_set {draft : Draft} {field : Field} {more : List Field}
    (nodup : (field :: more).Nodup) (unknown : ∀ other ∈ field :: more, draft other = none)
    (value : field.Value) : ∀ other ∈ more, draft.set field value other = none := by
  intro other member
  have different : field ≠ other := by
    rintro rfl
    exact (List.nodup_cons.mp nodup).1 member
  rw [set_other different]
  exact unknown other (List.mem_cons_of_mem field member)

theorem filled_apply (draft : Draft) (record : FileRecord) (fields : List Field) (field : Field) :
    draft.filled record fields field =
      if field ∈ fields then some (record.value field) else draft field := by
  induction fields generalizing draft with
  | nil => rfl
  | cons first more induction =>
      change (draft.set first (record.value first)).filled record more field = _
      rw [induction]
      by_cases same : first = field
      · subst same
        rw [set_self, ite_self, if_pos List.mem_cons_self]
      · rw [set_other same]
        simp [Ne.symm same]

theorem filled_all (record : FileRecord) :
    empty.filled record Field.all = fun field => some (record.value field) :=
  funext fun field => by rw [filled_apply, if_pos field.mem_all]

end Draft

/-! Values between brackets, each after the first behind a comma. -/

def separated (written : Field → List Char) (fields : List Field) : List Char :=
  fields.flatMap fun field => ',' :: written field

theorem separated_cons (written : Field → List Char) (field : Field) (fields : List Field)
    (rest : List Char) :
    separated written (field :: fields) ++ rest =
      ',' :: written field ++ (separated written fields ++ rest) :=
  List.append_assoc _ _ _

theorem intercalate_eq (written : Field → List Char) (field : Field) (fields : List Field) :
    [','].intercalate ((field :: fields).map written) =
      written field ++ separated written fields := by
  induction fields generalizing field with
  | nil => simp [separated]
  | cons next more induction =>
      simp only [List.map_cons] at induction ⊢
      rw [List.intercalate_cons_cons, induction]
      simp [separated]

theorem length_le_separated (written : Field → List Char) (fields : List Field) :
    fields.length ≤ (separated written fields).length := by
  induction fields with
  | nil => exact Nat.le_refl 0
  | cons field more induction =>
      change _ ≤ (',' :: written field ++ separated written more).length
      simp only [List.length_append, List.length_cons]
      omega

/-- No number is read on into what stands behind it between brackets. -/
theorem endsNumber_separated (written : Field → List Char) (fields : List Field)
    (ends : EndsNumber rest) : EndsNumber (separated written fields ++ rest) := by
  cases fields with
  | nil => exact ends
  | cons field more =>
      rintro c ⟨⟩
      decide

theorem endsNumber_brace (rest : List Char) : EndsNumber ('\x7d' :: rest) := by
  rintro c ⟨⟩
  decide

theorem endsNumber_bracket (rest : List Char) : EndsNumber (']' :: rest) := by
  rintro c ⟨⟩
  decide

theorem takeMember_run {draft : Draft} {field : Field} (unknown : draft field = none)
    (ends : EndsNumber rest) :
    (takeMember draft).run (record.member field ++ rest) =
      .ok (draft.set field (record.value field), rest) := by
  rw [takeMember, member, List.append_assoc, run_bind (string_run field.name _),
    Field.ofName?_name]
  dsimp only
  rw [unknown, List.cons_append, if_neg nofun, run_bind (token_run rfl _),
    run_bind (field.kind.reader_run _ ends)]
  rfl

theorem moreMembers_brace (first : Bool) (rest : List Char) :
    (moreMembers first).run ('\x7d' :: rest) = .ok (false, '\x7d' :: rest) :=
  run_bind (peekToken_run rfl rest)

theorem moreMembers_first (field : Field) (rest : List Char) :
    (moreMembers true).run (record.member field ++ rest) =
      .ok (true, record.member field ++ rest) :=
  run_bind (peekToken_run rfl _)

theorem moreMembers_next (field : Field) (rest : List Char) :
    (moreMembers false).run (',' :: record.member field ++ rest) =
      .ok (true, record.member field ++ rest) := by
  rw [moreMembers]
  exact (run_bind (peekToken_run rfl _)).trans <| (run_bind (advance_run _ _)).trans <|
    run_bind (peekToken_run rfl _)

/-- One member is taken, and the others stay to be read. -/
theorem members_step {draft : Draft} {field : Field} {first : Bool} {text : List Char}
    (begins : (moreMembers first).run text = .ok (true, record.member field ++ rest))
    (unknown : draft field = none) (ends : EndsNumber rest) (fuel : Nat) :
    (members (fuel + 1) first draft).run text =
      (members fuel false (draft.set field (record.value field))).run rest := by
  rw [members, run_bind begins, if_pos rfl]
  exact run_bind (takeMember_run unknown ends)

theorem members_next {draft : Draft} {fields : List Field} (nodup : fields.Nodup)
    (unknown : ∀ field ∈ fields, draft field = none) {fuel : Nat} (enough : fields.length < fuel) :
    (members fuel false draft).run (separated record.member fields ++ '\x7d' :: rest) =
      .ok (draft.filled record fields, '\x7d' :: rest) := by
  induction fields generalizing draft fuel with
  | nil =>
      obtain ⟨fuel, rfl⟩ := Nat.exists_eq_add_one.mpr enough
      exact run_bind (moreMembers_brace false rest)
  | cons field more induction =>
      obtain ⟨fuel, rfl⟩ := Nat.exists_eq_add_one.mpr (Nat.zero_lt_of_lt enough)
      have ends := endsNumber_separated record.member more (endsNumber_brace rest)
      have later := Draft.unknown_set nodup unknown (record.value field)
      rw [separated_cons,
        members_step (moreMembers_next field _) (unknown field List.mem_cons_self) ends]
      exact induction nodup.of_cons later (Nat.lt_of_succ_lt_succ enough)

theorem members_run (record : FileRecord) {fields : List Field} (some : fields ≠ [])
    (nodup : fields.Nodup) (rest : List Char) :
    let text := [','].intercalate (fields.map record.member) ++ '\x7d' :: rest
    (members (text.length + 1) true .empty).run text =
      .ok (Draft.empty.filled record fields, '\x7d' :: rest) := by
  intro text
  obtain ⟨field, more, rfl⟩ := List.exists_cons_of_ne_nil some
  have written : text =
      record.member field ++ (separated record.member more ++ '\x7d' :: rest) :=
    (congrArg (· ++ _) (intercalate_eq record.member field more)).trans (List.append_assoc _ _ _)
  have enough : more.length < text.length := by
    have short := length_le_separated record.member more
    rw [written]
    simp only [List.length_append, List.length_cons]
    omega
  have ends := endsNumber_separated record.member more (endsNumber_brace rest)
  have later := Draft.unknown_set nodup (fun _ _ => rfl) (record.value field)
  have begins : (moreMembers true).run text =
      .ok (true, record.member field ++ (separated record.member more ++ '\x7d' :: rest)) := by
    rw [written]
    exact moreMembers_first field _
  rw [members_step begins rfl ends]
  exact members_next nodup.of_cons later enough

/-! The same for an array, which only has the values. -/

def element (record : FileRecord) (field : Field) : List Char :=
  field.kind.written (record.value field)

theorem moreElements_first (field : Field) (rest : List Char) :
    (moreElements true).run (record.element field ++ rest) =
      .ok (true, record.element field ++ rest) := by
  obtain ⟨c, more, written, solid, inside⟩ := field.kind.written_start (record.value field)
  rw [element, written, List.cons_append, moreElements, run_bind (peekToken_run solid _)]
  split
  · rename_i none
    cases none
  · rename_i same
    exact absurd (Option.some.inj same) inside
  · rfl

theorem moreElements_next (field : Field) (rest : List Char) :
    (moreElements false).run (',' :: record.element field ++ rest) =
      .ok (true, record.element field ++ rest) := by
  obtain ⟨c, more, written, solid, inside⟩ := field.kind.written_start (record.value field)
  rw [element, written, List.cons_append, List.cons_append, moreElements]
  refine (run_bind (peekToken_run rfl _)).trans ((run_bind (advance_run _ _)).trans ?_)
  rw [run_bind (peekToken_run solid _)]
  split
  · rename_i none
    cases none
  · rename_i same
    exact absurd (Option.some.inj same) inside
  · rfl

theorem elements_step {field : Field} {first : Bool} {text : List Char}
    (begins : (moreElements first).run text = .ok (true, record.element field ++ rest))
    (ends : EndsNumber rest) (draft : Draft) (more : List Field) :
    (elements draft first (field :: more)).run text =
      (elements (draft.set field (record.value field)) false more).run rest := by
  rw [elements, run_bind begins, if_pos rfl]
  exact run_bind (field.kind.reader_run _ ends)

theorem elements_next (draft : Draft) (fields : List Field) (ends : EndsNumber rest) :
    (elements draft false fields).run (separated record.element fields ++ rest) =
      .ok (draft.filled record fields, rest) := by
  induction fields generalizing draft with
  | nil => rfl
  | cons field more induction =>
      rw [separated_cons, elements_step (moreElements_next field _)
        (endsNumber_separated record.element more ends)]
      exact induction _

theorem elements_run (record : FileRecord) {fields : List Field} (some : fields ≠ [])
    (ends : EndsNumber rest) :
    (elements .empty true fields).run ([','].intercalate (fields.map record.element) ++ rest) =
      .ok (Draft.empty.filled record fields, rest) := by
  obtain ⟨field, more, rfl⟩ := List.exists_cons_of_ne_nil some
  rw [intercalate_eq, List.append_assoc, elements_step (moreElements_first field _)
    (endsNumber_separated record.element more ends)]
  exact elements_next _ more ends

theorem reader_object (record : FileRecord) :
    reader.run record.toJson.toList = .ok (record, []) := by
  have text : record.toJson.toList =
      '\x7b' :: ([','].intercalate (Field.all.map record.member) ++ ['\x7d']) :=
    String.toList_ofList
  have read := members_run record (show Field.all ≠ [] by decide) (by decide) []
  have known : (Draft.empty.filled record Field.all).complete.record? = some record := by
    rw [Draft.filled_all]
    exact record?_value record
  rw [text, reader, run_bind (startOfValue_run rfl _)]
  refine (run_bind (advance_run _ _)).trans ?_
  rw [run_bind (show (get : Reader (List Char)).run _ = .ok (_, _) from rfl), run_bind read, known]
  exact run_bind (token_run rfl [])

theorem reader_array (record : FileRecord) :
    reader.run record.toJsonArray.toList = .ok (record, []) := by
  have text : record.toJsonArray.toList =
      '[' :: ([','].intercalate (Field.all.map record.element) ++ [']']) :=
    String.toList_ofList
  have read := elements_run record (show Field.all ≠ [] by decide) (endsNumber_bracket [])
  have known : (Draft.empty.filled record Field.all).record? = some record := by
    rw [Draft.filled_all]
    exact record?_value record
  rw [text, reader, run_bind (startOfValue_run rfl _)]
  refine (run_bind (advance_run _ _)).trans ?_
  rw [run_bind read, known]
  exact run_bind (token_run rfl [])

theorem json_round_trip (record : FileRecord) :
    ofJson record.toJson = .ok record ∧ ofJson record.toJsonArray = .ok record := by
  constructor
  · rw [ofJson, readAll, reader_object]
    rfl
  · rw [ofJson, readAll, reader_array]
    rfl

end FileCleanup.FileRecord
