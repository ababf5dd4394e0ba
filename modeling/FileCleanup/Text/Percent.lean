import FileCleanup.Text.Numeral
import FileCleanup.Text.Utf8

namespace FileCleanup.Text.Percent

/-! Texts in which a percent sign with two hexadecimal digits stands for a byte. -/

/-- The bytes that a text stands for; a percent sign without digits is itself. -/
def bytes : List Char → List UInt8
  | [] => []
  | '%' :: high :: low :: rest =>
    match hexValue? high, hexValue? low with
    | some high, some low => UInt8.ofNat (16 * high + low) :: bytes rest
    | _, _ => 0x25 :: bytes (high :: low :: rest)
  | c :: rest => String.utf8EncodeChar c ++ bytes rest

def decode (text : List Char) : Except Utf8.Fault (List Char) :=
  Utf8.decode (bytes text)

/-- A form's way to write a text, where a plus is a space. -/
def decodeForm (text : List Char) : List Char :=
  Utf8.decodeLossy (bytes (text.map fun c => if c = '+' then ' ' else c))

end FileCleanup.Text.Percent
