namespace FileCleanup.Text.Terminal

/-!
What is left of a text when the control sequences of a terminal are taken out.  A sequence starts
with an escape character and goes on up to a character that ends its kind; line breaks and tabs
inside one are kept.
-/

/-- What the next character may be part of. -/
inductive Mode
  | plain
  | escape
  /-- An escape sequence of more than one character. -/
  | escapeMarks
  | control
  /-- A command to the operating system, which ends with a bell. -/
  | command
  | device
  | deviceNumbers
  | deviceMarks
  /-- A text for some device, which has no end of its own among ASCII characters. -/
  | string
  deriving DecidableEq, Repr

def isBetween (least greatest c : Char) : Bool :=
  least ≤ c && c ≤ greatest

/-- Line breaks and tabs. -/
def isLayout (c : Char) : Bool :=
  c = '\t' || c = '\n' || c = '\x0c' || c = '\r'

def isAscii (c : Char) : Bool :=
  c.toNat < 0x80

/-- Whether one of the bytes of a character is the old mark for the end of a string. -/
def holdsTerminator (c : Char) : Bool :=
  !isAscii c && [1, 64, 4096].any fun unit => c.toNat / unit % 64 = 0x1c

namespace Mode

def shows (mode : Mode) (c : Char) : Bool :=
  match mode with
  | plain => isLayout c || isBetween ' ' '~' c || !isAscii c
  | escape | escapeMarks | control => isLayout c
  | _ => false

/-- The mode behind a character that is not shown; two controls and an escape end any sequence. -/
def after (mode : Mode) (c : Char) : Mode :=
  if c = '\x1b' then escape
  else if c = '\x18' || c = '\x1a' then plain
  else
    match mode with
    | plain => plain
    | escape =>
      if isBetween ' ' '/' c then escapeMarks
      else if c = 'P' then device
      else if c = 'X' || c = '^' || c = '_' then string
      else if c = '[' then control
      else if c = ']' then command
      else if isBetween '0' '~' c then plain
      else escape
    | escapeMarks => if isBetween '0' '~' c then plain else escapeMarks
    | control => if isBetween '@' '~' c then plain else control
    | command => if c = '\x07' then plain else command
    | device =>
      if isBetween ' ' '/' c then deviceMarks
      else if isBetween '0' '?' c then deviceNumbers
      else if isBetween '@' '~' c then string
      else device
    | deviceNumbers =>
      if isBetween ' ' '/' c then deviceMarks
      else if isBetween '<' '~' c then string
      else deviceNumbers
    | deviceMarks => if isBetween '0' '~' c then string else deviceMarks
    | string => if holdsTerminator c then plain else string

end Mode

/-- Goes on in `mode`.  After a character that is shown the next ones are plain, and the mode
comes back with the first that is not shown. -/
def visibleFrom (mode : Mode) (shown : Bool) : List Char → List Char
  | [] => []
  | c :: rest =>
    if (if shown then Mode.plain else mode).shows c then
      c :: visibleFrom (if isAscii c then mode else .plain) true rest
    else visibleFrom (mode.after c) false rest

def visible (text : String) : String :=
  String.ofList (visibleFrom .plain false text.toList)

end FileCleanup.Text.Terminal
