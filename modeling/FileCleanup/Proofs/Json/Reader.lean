import FileCleanup.Json.Reader
import FileCleanup.Json.Text
import FileCleanup.Proofs.Text.Digits

namespace FileCleanup.Json

open Text

/-! Values that are written as JSON are read back from the front of a text. -/

theorem peek_run (text : List Char) : peek.run text = .ok (text.head?, text) := rfl

theorem advance_run (c : Char) (rest : List Char) :
    advance.run (c :: rest) = .ok ((), rest) := rfl

theorem spaces_run {c : Char} (solid : isSpace c = false) (rest : List Char) :
    spaces.run (c :: rest) = .ok ((), c :: rest) := by
  have kept : (c :: rest).dropWhile isSpace = c :: rest :=
    List.dropWhile_cons_of_neg (by simp [solid])
  exact congrArg (fun text => Except.ok ((), text)) kept

theorem peekToken_run {c : Char} (solid : isSpace c = false) (rest : List Char) :
    peekToken.run (c :: rest) = .ok (some c, c :: rest) :=
  run_bind (spaces_run solid rest)

theorem startOfValue_run {c : Char} (solid : isSpace c = false) (rest : List Char) :
    startOfValue.run (c :: rest) = .ok (c, c :: rest) :=
  run_bind (peekToken_run solid rest)

theorem token_run {c : Char} (solid : isSpace c = false) (rest : List Char) :
    (token c).run (c :: rest) = .ok ((), rest) := by
  rw [token, run_bind (peekToken_run solid rest)]
  dsimp only
  rw [if_pos rfl]
  exact advance_run c rest

theorem keyword_run (word rest : List Char) :
    (keyword word).run (word ++ rest) = .ok ((), rest) := by
  induction word with
  | nil => rfl
  | cons c more induction =>
      rw [List.cons_append, keyword, run_bind (peek_run _)]
      dsimp only [List.head?_cons]
      rw [if_pos rfl, run_bind (advance_run c _), induction]

/-! Strings. -/

theorem unicodeEscape_control {value : Nat} (control : value < 32) (rest : List Char) :
    unicodeEscape ('0' :: '0' :: hexChar (value / 16) :: hexChar (value % 16) :: rest) =
      .ok (Char.ofNat value, rest) := by
  have all : ∀ value < 32,
      ¬(String.ofList ['0', '0', hexChar (value / 16), hexChar (value % 16)]).utf8ByteSize < 4 ∧
      ofDigitsIn? 16 ['0', '0', hexChar (value / 16), hexChar (value % 16)] = some value ∧
      isTrailing value = false ∧ isLeading value = false := by
    decide +kernel
  obtain ⟨long, digits, trailing, leading⟩ := all value control
  have four : fourHexDigits ('0' :: '0' :: hexChar (value / 16) :: hexChar (value % 16) :: rest) =
      .ok (value, rest) := by
    rw [fourHexDigits, digits]
    exact if_neg long
  rw [unicodeEscape, four]
  simp only [bind, Except.bind]
  rw [trailing, leading]
  rfl

/-- A character is written after a backslash, by its number or as it is. -/
theorem escaped_cases (c : Char) :
    (∃ escape, simpleEscape? escape = some c ∧ escaped c = ['\\', escape]) ∨
      (c < ' ' ∧ escaped c =
        ['\\', 'u', '0', '0', hexChar (c.toNat / 16), hexChar (c.toNat % 16)]) ∨
      (c ≠ '"' ∧ c ≠ '\\' ∧ ¬c < ' ' ∧ escaped c = [c]) := by
  unfold escaped
  split_ifs with quote slash backspace tab newline formFeed carriage control
  · exact .inl ⟨'"', by rw [quote]; rfl, rfl⟩
  · exact .inl ⟨'\\', by rw [slash]; rfl, rfl⟩
  · exact .inl ⟨'b', by rw [backspace]; rfl, rfl⟩
  · exact .inl ⟨'t', by rw [tab]; rfl, rfl⟩
  · exact .inl ⟨'n', by rw [newline]; rfl, rfl⟩
  · exact .inl ⟨'f', by rw [formFeed]; rfl, rfl⟩
  · exact .inl ⟨'r', by rw [carriage]; rfl, rfl⟩
  · exact .inr (.inl ⟨control, rfl⟩)
  · exact .inr (.inr ⟨quote, slash, control, rfl⟩)

theorem stringBody_escaped (c : Char) (fuel : Nat) (rest : List Char) :
    stringBody (fuel + 1) (escaped c ++ rest) =
      (stringBody fuel rest).map fun (body, rest) => (c :: body, rest) := by
  obtain ⟨escape, known, written⟩ | ⟨control, written⟩ | ⟨quote, slash, printable, written⟩ :=
    escaped_cases c
  · have other : escape ≠ 'u' := by
      rintro rfl
      cases known
    rw [written, List.cons_append, List.cons_append, List.nil_append, stringBody, known]
    · cases stringBody fuel rest <;> rfl
    · simp [other]
  · have value : c.toNat < 32 := control
    rw [written]
    simp only [List.cons_append, List.nil_append]
    rw [stringBody, unicodeEscape_control value, Char.ofNat_toNat]
    change (stringBody fuel rest >>= fun (body, rest) => pure (c :: body, rest)) = _
    cases stringBody fuel rest <;> rfl
  · rw [written, List.singleton_append, stringBody, if_neg printable]
    · cases stringBody fuel rest <;> rfl
    all_goals simp [quote, slash]

/-- Each character takes one round, however long its written form is. -/
theorem stringBody_text (text rest : List Char) (fuel : Nat) (enough : text.length < fuel) :
    stringBody fuel (text.flatMap escaped ++ '"' :: rest) = .ok (text, rest) := by
  induction text generalizing fuel with
  | nil =>
      obtain ⟨fuel, rfl⟩ := Nat.exists_eq_add_one.mpr enough
      rfl
  | cons c more induction =>
      obtain ⟨fuel, rfl⟩ := Nat.exists_eq_add_one.mpr (Nat.zero_lt_of_lt enough)
      rw [List.flatMap_cons, List.append_assoc, stringBody_escaped,
        induction fuel (Nat.lt_of_succ_lt_succ enough)]
      rfl

theorem escaped_ne_nil (c : Char) : escaped c ≠ [] := by
  obtain ⟨_, _, written⟩ | ⟨_, written⟩ | ⟨_, _, _, written⟩ := escaped_cases c <;>
    rw [written] <;> exact List.cons_ne_nil _ _

theorem length_le_escaped (text : List Char) :
    text.length ≤ (text.flatMap escaped).length := by
  induction text with
  | nil => exact Nat.le_refl 0
  | cons c more induction =>
      have some := List.length_pos_iff.mpr (escaped_ne_nil c)
      rw [List.flatMap_cons, List.length_cons, List.length_append]
      omega

theorem string_run (text : String) (rest : List Char) :
    string.run (stringText text.toList ++ rest) = .ok (text, rest) := by
  have body : restOfString.run (text.toList.flatMap escaped ++ '"' :: rest) =
      .ok (text.toList, rest) := by
    refine stringBody_text text.toList rest _ ?_
    have short := length_le_escaped text.toList
    rw [List.length_append]
    omega
  rw [stringText, List.cons_append, List.cons_append, List.append_assoc, string,
    run_bind (startOfValue_run rfl _), if_pos rfl, run_bind (advance_run _ _),
    List.singleton_append, run_bind body, String.ofList_toList]
  rfl

/-! Numbers. -/

/-- A number that ends where this text begins is not read on. -/
def EndsNumber (rest : List Char) : Prop :=
  ∀ c ∈ rest.head?, isDigit c = false ∧ c ≠ '.' ∧ c ≠ 'e' ∧ c ≠ 'E'

variable {digits rest : List Char} {value : Int} {range : IntegerRange}

theorem takeDigits_run (full : Digits digits) (ends : EndsNumber rest) :
    takeDigits.run (digits ++ rest) = .ok (digits, rest) := by
  have taken : (digits ++ rest).takeWhile isDigit = digits :=
    takeWhile_isDigit full.2 fun c first => (ends c first).1
  change Except.ok ((digits ++ rest).takeWhile isDigit,
    (digits ++ rest).drop ((digits ++ rest).takeWhile isDigit).length) = _
  rw [taken, List.drop_left]

/-- Digits of a number that fits into the significand all go into it. -/
theorem integerPart_fits {digits : List Char} (fits : ofDigits digits < tooLongSignificand) :
    integerPart digits = (ofDigits digits, 0) := by
  induction digits using List.reverseRecOn with
  | nil => rfl
  | append_singleton digits digit induction =>
      rw [ofDigits_concat] at fits ⊢
      have front : integerPart digits = (ofDigits digits, 0) := induction (by omega)
      unfold integerPart at front ⊢
      rw [List.foldl_append, front]
      exact if_pos ⟨rfl, fits⟩

/-- The value of a number from its sign and its digits. -/
def signedValue (negative : Bool) (digits : List Char) : Option Int :=
  if negative then
    if -(ofDigits digits : Int) = 0 then none else IntegerRange.signed64.within? (-ofDigits digits)
  else some (ofDigits digits)

theorem unsignedNumber_run (negative : Bool) (full : Digits digits)
    (leading : ∀ c more, digits ≠ '0' :: c :: more)
    (fits : ofDigits digits < tooLongSignificand) (ends : EndsNumber rest) :
    (unsignedNumber negative).run (digits ++ rest) = .ok (signedValue negative digits, rest) := by
  rw [unsignedNumber, run_bind (takeDigits_run full ends)]
  split
  · exact absurd rfl full.1
  · exact absurd rfl (leading _ _)
  · have point : rest.head? ≠ some '.' := fun first => (ends _ first).2.1 rfl
    have exponent : rest.head? ≠ some 'e' := fun first => (ends _ first).2.2.1 rfl
    have capital : rest.head? ≠ some 'E' := fun first => (ends _ first).2.2.2 rfl
    simp only [run_bind (peek_run rest), point, exponent, capital, integerPart_fits fits]
    cases negative <;> rfl

theorem number_minus (text : List Char) :
    (number '-').run ('-' :: text) = (unsignedNumber true).run text :=
  run_bind (advance_run '-' text)

theorem number_bare {first : Char} (bare : first ≠ '-') (text : List Char) :
    (number first).run text = (unsignedNumber false).run text := by
  rw [number, if_neg bare]

theorem toList_toString_negSucc (less : Nat) :
    (toString (Int.negSucc less)).toList = '-' :: Nat.toDigits 10 (less + 1) := by
  change ("-" ++ toString (less + 1)).toList = _
  rw [String.toList_append, toList_toString]
  rfl

/-- A 64-bit number is read back by what its first character starts. -/
theorem number_run (wide : IntegerRange.signed64.Holds value) (ends : EndsNumber rest) :
    ∃ first more, (toString value).toList = first :: more ∧
      (first = '-' || isDigit first) = true ∧
      (number first).run (first :: more ++ rest) = .ok (some value, rest) := by
  have read : ∀ negative natural, natural < tooLongSignificand →
      (unsignedNumber negative).run (Nat.toDigits 10 natural ++ rest) =
        .ok (signedValue negative (Nat.toDigits 10 natural), rest) :=
    fun negative natural fits =>
      unsignedNumber_run negative (digits_toDigits natural) (toDigits_ne_zero_cons natural)
        (by rwa [ofDigits_toDigits]) ends
  obtain ⟨least, greatest⟩ := wide
  simp only [IntegerRange.signed64] at least greatest
  cases value with
  | ofNat natural =>
      obtain ⟨some, all⟩ := digits_toDigits natural
      obtain ⟨first, more, written⟩ := List.exists_cons_of_ne_nil some
      have digit : isDigit first := all first (written ▸ List.mem_cons_self)
      have bare : first ≠ '-' := by
        rintro rfl
        cases digit
      have fits : natural < tooLongSignificand := by
        simp only [Int.ofNat_eq_natCast] at greatest
        unfold tooLongSignificand
        omega
      refine ⟨first, more, (toList_toString natural).trans written, by simp [digit], ?_⟩
      rw [number_bare bare, ← written, read false natural fits, signedValue, ofDigits_toDigits]
      rfl
  | negSucc less =>
      have fits : less + 1 < tooLongSignificand := by
        unfold tooLongSignificand
        omega
      have negated : -((less + 1 : Nat) : Int) = Int.negSucc less := Int.neg_ofNat_succ less
      have within : IntegerRange.signed64.within? (Int.negSucc less) = some (Int.negSucc less) :=
        if_pos ⟨least, greatest⟩
      refine ⟨'-', _, toList_toString_negSucc less, rfl, ?_⟩
      rw [List.cons_append, number_minus, read true (less + 1) fits, signedValue,
        ofDigits_toDigits, if_pos rfl, negated, if_neg (Int.negSucc_ne_zero less), within]

theorem not_isSpace_of_start {c : Char} (start : (c = '-' || isDigit c) = true) :
    isSpace c = false := by
  simp only [isSpace, Bool.or_eq_false_iff, decide_eq_false_iff_not]
  refine ⟨⟨⟨?_, ?_⟩, ?_⟩, ?_⟩ <;>
  · rintro rfl
    cases start

theorem signed64_toInt (value : Int64) : IntegerRange.signed64.Holds value.toInt :=
  ⟨Int64.le_toInt value, Int.le_of_lt_add_one (Int64.toInt_lt value)⟩

theorem signed32_toInt (value : Int32) : IntegerRange.signed32.Holds value.toInt :=
  ⟨Int32.le_toInt value, Int.le_of_lt_add_one (Int32.toInt_lt value)⟩

theorem signed64_of_signed32 {value : Int} (narrow : IntegerRange.signed32.Holds value) :
    IntegerRange.signed64.Holds value := by
  simp only [IntegerRange.Holds, IntegerRange.signed32, IntegerRange.signed64] at *
  omega

theorem integer_run (wide : IntegerRange.signed64.Holds value) (holds : range.Holds value)
    (ends : EndsNumber rest) :
    (integer range).run ((toString value).toList ++ rest) = .ok (value, rest) := by
  obtain ⟨first, more, written, start, read⟩ := number_run wide ends
  have within : range.within? value = some value := if_pos holds
  rw [List.cons_append] at read
  rw [written, List.cons_append, integer,
    run_bind (startOfValue_run (not_isSpace_of_start start) _), if_pos start, run_bind read,
    Option.bind_some, within]
  rfl

/-! Other values. -/

theorem null_run {α : Type} (reader : Reader α) (rest : List Char) :
    (nullOr reader).run ('n' :: 'u' :: 'l' :: 'l' :: rest) = .ok (none, rest) := by
  rw [nullOr, run_bind (peekToken_run rfl _)]
  exact run_bind (keyword_run ['n', 'u', 'l', 'l'] rest)

/-- A value that does not begin as `null` does is read as it is without this choice. -/
theorem nullOr_run {α : Type} {reader : Reader α} {c : Char} {more rest : List Char} {value : α}
    (solid : isSpace c = false) (other : c ≠ 'n')
    (read : reader.run (c :: more) = .ok (value, rest)) :
    (nullOr reader).run (c :: more) = .ok (some value, rest) := by
  rw [nullOr, run_bind (peekToken_run solid more)]
  split
  · rename_i same
    exact absurd (Option.some.inj same) other
  · exact run_bind read

theorem decoded_run {α : Type} {decode? : List Char → Option α} {text : List Char} {value : α}
    (decodes : decode? text = some value) (rest : List Char) :
    (decoded decode?).run (stringText text ++ rest) = .ok (value, rest) := by
  have read := string_run (String.ofList text) rest
  rw [String.toList_ofList] at read
  rw [decoded, run_bind read, String.toList_ofList, decodes]
  rfl

end FileCleanup.Json
