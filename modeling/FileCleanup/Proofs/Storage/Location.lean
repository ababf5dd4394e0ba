import FileCleanup.Storage.Location
import FileCleanup.FileTree.Path
import FileCleanup.Text.Percent

namespace FileCleanup.Location

open Text

/-! Locations keep the names in a key, and nothing else of it. -/

theorem toList_loop (bytes : ByteArray) (index : Nat) (seen : List UInt8) :
    ByteArray.toList.loop bytes index seen =
      seen.reverse ++ bytes.data.toList.drop index := by
  induction index, seen using ByteArray.toList.loop.induct bytes with
  | case1 index seen within induction =>
      have inside : index < bytes.data.toList.length := by simpa using within
      have next : bytes.get! index = bytes.data.toList[index] := by
        simp only [ByteArray.get!, Array.getElem_toList]
        exact getElem!_pos bytes.data index (by simpa using within)
      rw [ByteArray.toList.loop, if_pos within, induction, next,
        List.drop_eq_getElem_cons inside, List.reverse_cons, List.append_assoc,
        List.singleton_append]
  | case2 index seen beyond =>
      have ended : bytes.data.toList.length ≤ index := by simpa using beyond
      rw [ByteArray.toList.loop, if_neg beyond, List.drop_eq_nil_of_le ended,
        List.append_nil]

theorem toList_injective {left right : ByteArray}
    (same : left.toList = right.toList) : left = right := by
  rw [ByteArray.toList, ByteArray.toList, toList_loop, toList_loop] at same
  exact ByteArray.ext (Array.toList_inj.mp (by simpa using same))

theorem hexValue?_upperHex {value : Nat} (digit : value < 16) :
    hexValue? (upperHex value) = some value := by
  have all : ∀ value : Fin 16, hexValue? (upperHex value) = some value.val := by
    decide
  exact all ⟨value, digit⟩

theorem bytes_escape (byte : UInt8) (rest : List Char) :
    Percent.bytes (escape byte ++ rest) = byte :: Percent.bytes rest := by
  have bound : byte.toNat < 256 := UInt8.toNat_lt byte
  have high : byte.toNat / 16 < 16 := by omega
  have low : byte.toNat % 16 < 16 := by omega
  have whole : 16 * (byte.toNat / 16) + byte.toNat % 16 = byte.toNat := by omega
  simp only [escape, List.cons_append, List.nil_append]
  rw [Percent.bytes]
  simp only [hexValue?_upperHex high, hexValue?_upperHex low, whole, UInt8.ofNat_toNat]

theorem bytes_cons {c : Char} (plain : c ≠ '%') (rest : List Char) :
    Percent.bytes (c :: rest) =
      String.utf8EncodeChar c ++ Percent.bytes rest := by
  rw [Percent.bytes]
  intro high low more percent
  exact absurd percent plain

theorem plain_of_not_needsEscape {byte : UInt8}
    (unescaped : needsEscape byte = false) :
    Char.ofNat byte.toNat ≠ '%' ∧
      String.utf8EncodeChar (Char.ofNat byte.toNat) = [byte] := by
  have all : ∀ value : Fin 256, needsEscape (UInt8.ofNat value) = false →
      Char.ofNat value ≠ '%' ∧ String.utf8EncodeChar (Char.ofNat value) =
        [UInt8.ofNat value] := by
    decide +kernel
  have only := all ⟨byte.toNat, UInt8.toNat_lt byte⟩
  rw [UInt8.ofNat_toNat] at only
  exact only unescaped

theorem bytes_encodeByte (byte : UInt8) (rest : List Char) :
    Percent.bytes (encodeByte byte ++ rest) = byte :: Percent.bytes rest := by
  unfold encodeByte
  split
  · exact bytes_escape byte rest
  · rename_i unescaped
    obtain ⟨plain, same⟩ :=
      plain_of_not_needsEscape (Bool.eq_false_iff.mpr unescaped)
    rw [List.singleton_append, bytes_cons plain, same, List.singleton_append]

theorem bytes_flatMap {encode : UInt8 → List Char}
    (decodes : ∀ byte rest,
      Percent.bytes (encode byte ++ rest) = byte :: Percent.bytes rest)
    (bytes : List UInt8) : Percent.bytes (bytes.flatMap encode) = bytes := by
  induction bytes with
  | nil => rfl
  | cons byte rest induction => rw [List.flatMap_cons, decodes, induction]

/-- Decoding an encoded segment gives back the bytes of the segment. -/
theorem bytes_encodeSegment (segment : String) :
    Percent.bytes (encodeSegment segment).toList = segment.toUTF8.toList := by
  unfold encodeSegment
  split
  · rw [String.toList_ofList]
    exact bytes_flatMap bytes_escape _
  · rw [String.toList_ofList]
    exact bytes_flatMap bytes_encodeByte _

theorem encodeSegment_injective {left right : String}
    (same : encodeSegment left = encodeSegment right) : left = right := by
  have bytes : left.toUTF8.toList = right.toUTF8.toList := by
    rw [← bytes_encodeSegment, same, bytes_encodeSegment]
  exact String.toByteArray_inj.mp (toList_injective bytes)

/-- Two keys have one location exactly if they differ in slashes alone. -/
theorem ofKey_eq_ofKey_iff {left right : String} :
    ofKey left = ofKey right ↔ FilePath.names left = FilePath.names right := by
  constructor
  · intro same
    have encoded : (FilePath.names left).map encodeSegment =
        (FilePath.names right).map encodeSegment := congrArg segments same
    exact (List.map_inj_right fun _ _ => encodeSegment_injective).mp encoded
  · intro same
    exact congrArg (fun names => Location.mk (names.map encodeSegment)) same

end FileCleanup.Location
