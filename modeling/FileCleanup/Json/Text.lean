import FileCleanup.Text.Quoted

namespace FileCleanup.Json

/-! Writing JSON strings: only what has to be escaped is. -/

def escaped (c : Char) : List Char :=
  if c = '"' then ['\\', '"']
  else if c = '\\' then ['\\', '\\']
  else if c = '\x08' then ['\\', 'b']
  else if c = '\t' then ['\\', 't']
  else if c = '\n' then ['\\', 'n']
  else if c = '\x0c' then ['\\', 'f']
  else if c = '\r' then ['\\', 'r']
  else if c < ' ' then
    ['\\', 'u', '0', '0', Text.hexChar (c.toNat / 16), Text.hexChar (c.toNat % 16)]
  else [c]

def stringText (text : List Char) : List Char :=
  '"' :: text.flatMap escaped ++ ['"']

end FileCleanup.Json
