import FileCleanup.Log.Expression
import FileCleanup.Text.Numeral

namespace FileCleanup.Pattern

open Text

/-! Patterns for the values of fields: numbers and regular expressions. -/

/-- Digits around a point, of which some have to be there, and perhaps an exponent. -/
def isDecimal (text : List Char) : Bool :=
  let whole := text.takeWhile isDigit
  let rest := text.drop whole.length
  let (part, rest) := match rest with
    | '.' :: behind => (behind.takeWhile isDigit, behind.dropWhile isDigit)
    | _ => ([], rest)
  (whole ≠ [] || part ≠ []) &&
    match rest with
    | [] => true
    | e :: '+' :: digits => e.toLower = 'e' && (readDigits? digits).isSome
    | e :: '-' :: digits => e.toLower = 'e' && (readDigits? digits).isSome
    | e :: digits => e.toLower = 'e' && (readDigits? digits).isSome

/-- A number after a plus, which no expression begins with.  All other numbers are expressions. -/
def isSignedNumber : List Char → Bool
  | '+' :: digits =>
    isDecimal digits || String.ofList (digits.map Char.toLower) ∈ ["inf", "infinity", "nan"]
  | _ => false

def isPattern (text : List Char) : Bool :=
  isSignedNumber text || Expression.isValid text

end FileCleanup.Pattern
