import FileCleanup.Text.Hidden

namespace FileCleanup.Text

/-! A text between double quotes, with every character that could mislead a reader escaped. -/

def hexChar (value : Nat) : Char :=
  if value < 10 then Char.ofNat ('0'.toNat + value) else Char.ofNat ('a'.toNat + (value - 10))

/-- Lower-case hexadecimal without leading zeros. -/
def hexDigits (value : Nat) : List Char :=
  Nat.toDigits 16 value

def quotedChar (c : Char) : List Char :=
  if c = '"' then ['\\', '"']
  else if c = '\\' then ['\\', '\\']
  else if c = '\n' then ['\\', 'n']
  else if c = '\r' then ['\\', 'r']
  else if c = '\t' then ['\\', 't']
  else if c = '\x00' then ['\\', '0']
  else if isHidden c then ['\\', 'u', '\x7b'] ++ hexDigits c.toNat ++ ['\x7d']
  else [c]

def quoted (text : String) : String :=
  String.ofList ('"' :: text.toList.flatMap quotedChar ++ ['"'])

/-- A text between double quotes in which single quotes are escaped as well. -/
def quotedStrictly (text : String) : String :=
  let chars := text.toList.flatMap fun c => if c = '\x27' then ['\\', '\x27'] else quotedChar c
  String.ofList ('"' :: chars ++ ['"'])

end FileCleanup.Text
