import FileCleanup.Text.Ranges

namespace FileCleanup.Text

/-! White space as Unicode defines it, and removing it from both ends of a text. -/

/-- The closed ranges of code points with the Unicode property White_Space. -/
def blankRanges : List (Nat × Nat) :=
  [(0x09, 0x0d), (0x20, 0x20), (0x85, 0x85), (0xa0, 0xa0), (0x1680, 0x1680), (0x2000, 0x200a),
    (0x2028, 0x2029), (0x202f, 0x202f), (0x205f, 0x205f), (0x3000, 0x3000)]

def isBlank (c : Char) : Bool :=
  inRanges blankRanges c.toNat

def dropBlanks (text : List Char) : List Char :=
  text.dropWhile isBlank

def trim (text : List Char) : List Char :=
  (dropBlanks (dropBlanks text).reverse).reverse

/-- Blank texts are those that trimming leaves empty. -/
def isAllBlank (text : String) : Bool :=
  text.toList.all isBlank

end FileCleanup.Text
