import FileCleanup.Proofs.Storage.Buckets
import FileCleanup.Proofs.Storage.Local

namespace FileCleanup

open Text

/-! The text of a location: what characters it has, and that the names in its
key can be read off it again. -/

namespace Location

/-- A printable ASCII character with no meaning of its own in a location. -/
def Plain (c : Char) : Prop :=
  0x20 ≤ c.toNat ∧ c.toNat < 0x7f ∧ c ∉ reserved

/-- Texts of plain characters and escapes.  A percent sign is reserved, so each
one begins an escape. -/
inductive Escaped : List Char → Prop
  | nil : Escaped []
  | plain {c : Char} {rest : List Char} :
      Plain c → Escaped rest → Escaped (c :: rest)
  | escape {high low : Char} {rest : List Char} :
      (hexValue? high).isSome → (hexValue? low).isSome → Escaped rest →
      Escaped ('%' :: high :: low :: rest)

theorem Escaped.append {left right : List Char} (first : Escaped left)
    (second : Escaped right) : Escaped (left ++ right) := by
  induction first with
  | nil => exact second
  | plain harmless _ induction => exact .plain harmless induction
  | escape high low _ induction => exact .escape high low induction

theorem Escaped.flatMap {encode : UInt8 → List Char}
    (each : ∀ byte, Escaped (encode byte)) (bytes : List UInt8) :
    Escaped (bytes.flatMap encode) := by
  induction bytes with
  | nil => exact .nil
  | cons byte rest induction =>
      rw [List.flatMap_cons]
      exact (each byte).append induction

theorem Escaped.intercalate {texts : List (List Char)}
    (each : ∀ text ∈ texts, Escaped text) :
    Escaped (['/'].intercalate texts) := by
  induction texts with
  | nil => exact .nil
  | cons text rest induction =>
      have onward := induction fun other member =>
        each other (List.mem_cons_of_mem _ member)
      have first := each text List.mem_cons_self
      cases rest with
      | nil => simpa using first
      | cons next more =>
          rw [List.intercalate_cons_cons, List.append_assoc]
          exact first.append (.plain ⟨by decide, by decide, by decide⟩ onward)

theorem halves_lt (byte : UInt8) :
    byte.toNat / 16 < 16 ∧ byte.toNat % 16 < 16 := by
  have bound : byte.toNat < 256 := UInt8.toNat_lt byte
  omega

theorem escaped_escape (byte : UInt8) : Escaped (escape byte) := by
  obtain ⟨high, low⟩ := halves_lt byte
  exact .escape (by rw [hexValue?_upperHex high]; rfl)
    (by rw [hexValue?_upperHex low]; rfl) .nil

theorem toNat_ofNat_byte (byte : UInt8) :
    (Char.ofNat byte.toNat).toNat = byte.toNat := by
  have bound : byte.toNat < 256 := UInt8.toNat_lt byte
  have valid : byte.toNat.isValidChar := .inl (by omega)
  rw [Char.ofNat, dif_pos valid]
  rfl

theorem plain_of_unescaped {byte : UInt8} (unescaped : needsEscape byte = false) :
    Plain (Char.ofNat byte.toNat) := by
  simp only [needsEscape, Bool.or_eq_false_iff, decide_eq_false_iff_not,
    List.any_eq_false, decide_eq_true_eq, UInt8.not_lt, UInt8.not_le] at unescaped
  obtain ⟨⟨control, ascii⟩, ordinary⟩ := unescaped
  refine ⟨?_, ?_, fun member => ordinary _ member (toNat_ofNat_byte byte)⟩
  · rw [toNat_ofNat_byte]
    exact UInt8.le_iff_toNat_le.mp control
  · rw [toNat_ofNat_byte]
    exact UInt8.lt_iff_toNat_lt.mp ascii

theorem escaped_encodeByte (byte : UInt8) : Escaped (encodeByte byte) := by
  unfold encodeByte
  split
  · exact escaped_escape byte
  · rename_i unescaped
    exact .plain (plain_of_unescaped (Bool.eq_false_iff.mpr unescaped)) .nil

theorem escaped_encodeSegment (segment : String) :
    Escaped (encodeSegment segment).toList := by
  unfold encodeSegment
  split
  · rw [String.toList_ofList]
    exact .flatMap escaped_escape _
  · rw [String.toList_ofList]
    exact .flatMap escaped_encodeByte _

/-! No slash comes into a segment, so the segments can be told apart. -/

theorem slash_not_mem_escape (byte : UInt8) : '/' ∉ escape byte := by
  obtain ⟨high, low⟩ := halves_lt byte
  have digits : ∀ value : Fin 16, upperHex value ≠ '/' := by decide
  simp only [escape, List.mem_cons, List.not_mem_nil, or_false, not_or]
  exact ⟨by decide, (digits ⟨_, high⟩).symm, (digits ⟨_, low⟩).symm⟩

theorem eq_of_slash_mem_encodeByte {byte : UInt8} (member : '/' ∈ encodeByte byte) :
    byte.toNat = '/'.toNat := by
  unfold encodeByte at member
  split at member
  · exact absurd member (slash_not_mem_escape byte)
  · rw [List.mem_singleton] at member
    rw [member, toNat_ofNat_byte]

/-- Every byte of a character beyond ASCII is beyond ASCII. -/
theorem toNat_of_mem_utf8EncodeChar {c : Char} {byte : UInt8}
    (member : byte ∈ String.utf8EncodeChar c) (ascii : byte.toNat < 0x80) :
    c.toNat = byte.toNat := by
  have value : c.val.toNat = c.toNat := rfl
  simp only [String.utf8EncodeChar, value] at member
  split at member
  · rename_i single
    rw [List.mem_singleton] at member
    rw [member, UInt8.toNat_ofNat']
    omega
  · exfalso
    split at member
    · simp only [List.mem_cons, List.not_mem_nil, or_false] at member
      rcases member with rfl | rfl <;> rw [UInt8.toNat_ofNat'] at ascii <;> omega
    split at member
    · simp only [List.mem_cons, List.not_mem_nil, or_false] at member
      rcases member with rfl | rfl | rfl <;>
        rw [UInt8.toNat_ofNat'] at ascii <;> omega
    · simp only [List.mem_cons, List.not_mem_nil, or_false] at member
      rcases member with rfl | rfl | rfl | rfl <;>
        rw [UInt8.toNat_ofNat'] at ascii <;> omega

theorem toList_toUTF8 (text : String) :
    text.toUTF8.toList = text.toList.flatMap String.utf8EncodeChar := by
  have bytes : text.toByteArray = text.toList.utf8Encode := by
    rw [← String.toByteArray_ofList, String.ofList_toList]
  rw [String.toUTF8_eq_toByteArray, bytes, ByteArray.toList, toList_loop,
    List.utf8Encode, List.toList_data_toByteArray]
  rfl

theorem slash_not_mem_encodeSegment {segment : String}
    (single : '/' ∉ segment.toList) : '/' ∉ (encodeSegment segment).toList := by
  intro member
  unfold encodeSegment at member
  split at member <;> rw [String.toList_ofList] at member <;>
    obtain ⟨byte, inside, encoded⟩ := List.mem_flatMap.mp member
  · exact slash_not_mem_escape byte encoded
  · have slash := eq_of_slash_mem_encodeByte encoded
    rw [toList_toUTF8] at inside
    obtain ⟨c, here, part⟩ := List.mem_flatMap.mp inside
    have same := toNat_of_mem_utf8EncodeChar part (by rw [slash]; decide)
    have : c = '/' := Char.toNat_inj.mp (same.trans slash)
    exact single (this ▸ here)

theorem slash_not_mem_of_names {key name : String}
    (member : name ∈ FilePath.names key) : '/' ∉ name.toList := by
  obtain ⟨piece, inside, rfl⟩ :=
    List.mem_map.mp (List.mem_filter.mp member).1
  rw [String.toList_ofList]
  exact not_mem_of_mem_splitAt inside

theorem split_text {key : String} (some : FilePath.names key ≠ []) :
    split '/' (ofKey key).text = (FilePath.names key).map encodeSegment := by
  have single : ∀ segment ∈ (FilePath.names key).map encodeSegment,
      '/' ∉ segment.toList := by
    intro segment member
    obtain ⟨name, inside, rfl⟩ := List.mem_map.mp member
    exact slash_not_mem_encodeSegment (slash_not_mem_of_names inside)
  have pieces := splitAt_intercalate (List.forall_mem_map.mpr single)
    (by simpa [List.map_eq_nil_iff] using some)
  have chars : (ofKey key).text.toList = ['/'].intercalate
      (((FilePath.names key).map encodeSegment).map String.toList) :=
    String.toList_intercalate
  rw [split, chars, pieces, List.map_map]
  simp

/-- No segment is written as a step of a path. -/
theorem encodeSegment_ne_step {step : String} (steps : step = "." ∨ step = "..")
    (segment : String) : encodeSegment segment ≠ step := by
  intro same
  have plain : Percent.bytes step.toList = step.toUTF8.toList := by
    rw [toList_toUTF8]
    rcases steps with rfl | rfl <;> rfl
  have bytes : segment.toUTF8.toList = step.toUTF8.toList := by
    rw [← bytes_encodeSegment, same, plain]
  obtain rfl : segment = step := String.toByteArray_inj.mp (toList_injective bytes)
  have escaped : '%' ∈ (encodeSegment segment).toList := by
    rw [encodeSegment, if_pos steps, toList_toUTF8, String.toList_ofList]
    rcases steps with rfl | rfl <;> decide
  rw [same] at escaped
  rcases steps with rfl | rfl <;> revert escaped <;> decide

/-- A location whose text can be read in one way, as these names. -/
structure Spells (location : Location) (names : List String) : Prop where
  nonempty : location.text ≠ ""
  escaped : Escaped location.text.toList
  level : ∀ step ∈ [".", ".."], step ∉ split '/' location.text
  decodes : (split '/' location.text).map (Percent.bytes ·.toList) =
    names.map (·.toUTF8.toList)

theorem ofKey_spells {key : String} (valid : Address.ValidKey key) :
    (ofKey key).Spells (FilePath.names key) := by
  have pieces := split_text valid.names_ne_nil
  have decodes : (split '/' (ofKey key).text).map (Percent.bytes ·.toList) =
      (FilePath.names key).map (·.toUTF8.toList) := by
    rw [pieces, List.map_map]
    exact List.map_congr_left fun name _ => bytes_encodeSegment name
  refine ⟨?_, ?_, ?_, decodes⟩
  · intro empty
    have blank : encodeSegment "" = "" := by
      rw [encodeSegment, if_neg (by decide), toList_toUTF8]
      rfl
    rw [empty, show split '/' "" = [""] from rfl, eq_comm,
      List.map_eq_singleton_iff] at pieces
    obtain ⟨name, names, same⟩ := pieces
    have member : name ∈ FilePath.names key := names ▸ List.mem_singleton_self name
    have filled : name ≠ "" := of_decide_eq_true (List.mem_filter.mp member).2
    exact filled (encodeSegment_injective (same.trans blank.symm))
  · rw [text, String.toList_intercalate]
    apply Escaped.intercalate
    intro text member
    obtain ⟨segment, inside, rfl⟩ := List.mem_map.mp member
    obtain ⟨name, _, rfl⟩ := List.mem_map.mp inside
    exact escaped_encodeSegment name
  · intro step steps member
    rw [pieces] at member
    obtain ⟨name, _, same⟩ := List.mem_map.mp member
    exact encodeSegment_ne_step (by simpa using steps) name same

end Location

/-- The one location that a delete asks a service for, and removes if it is not
refused, is spelled by the key's segments without the empty ones. -/
theorem delete_location {key : String} (accepted : Address.checkKey key = .ok ()) :
    (Location.ofKey key).Spells ((split '/' key).filter (· ≠ "")) ∧
      ∀ (buckets : Buckets) (bucket : String), Address.ValidBucket bucket →
        (buckets.delete bucket key).2.2 =
          match buckets.refusals bucket (.ofKey key) with
          | none => buckets.remove bucket (.ofKey key)
          | some _ => buckets := by
  have valid := Address.checkKey_eq_ok_iff.mp accepted
  refine ⟨Location.ofKey_spells valid, fun buckets bucket bucketValid => ?_⟩
  cases answer : buckets.refusals bucket (.ofKey key) with
  | none => rw [Buckets.delete_of_accepts ⟨bucketValid, valid, answer⟩]
  | some refusal =>
      apply Buckets.delete_of_not_accepts
      rintro ⟨_, _, unrefused⟩
      cases answer.symm.trans unrefused

theorem delete_location_sample :
    Address.checkKey "caf\xe9//100%/./x" = .ok () ∧
      (Location.ofKey "caf\xe9//100%/./x").Spells ["caf\xe9", "100%", ".", "x"] ∧
      (Buckets.Sample.uploads.delete "uploads" "caf\xe9//100%/./x").2.2 =
        Buckets.Sample.uploads.remove "uploads" (.ofKey "caf\xe9//100%/./x") := by
  have accepted : Address.checkKey "caf\xe9//100%/./x" = .ok () := rfl
  obtain ⟨spelled, deletes⟩ := delete_location accepted
  exact ⟨accepted, spelled, deletes Buckets.Sample.uploads "uploads" (by decide)⟩

example : (Location.ofKey "caf\xe9//100%/./x").text = "caf%C3%A9/100%25/%2E/x" := by
  decide +kernel

end FileCleanup
