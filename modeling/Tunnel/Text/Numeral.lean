import Tunnel.Text.Digits

/-!
# Numerals

The texts that stand for a number: a sign, digits with a decimal point among them or beside them,
and a power of ten; or, in place of the digits, a word for infinity or for what is no number.

## Main definitions

* `Text.isNumeral` — whether a text stands for a number
-/

namespace Tunnel.Text

/-- The text without a sign in front. -/
def withoutSign : List Char → List Char
  | '+' :: rest => rest
  | '-' :: rest => rest
  | s => s

/-- Whether a text is a row of digits and not empty. -/
def isDigits (s : List Char) : Bool := s != [] && s.all (isDigitOf 10)

/-- Whether a text is a power of ten, or nothing. -/
def isPower : List Char → Bool
  | [] => true
  | mark :: rest => (mark == 'e' || mark == 'E') && isDigits (withoutSign rest)

/-- Whether digits follow that may end a numeral whose first digits were read, with the point, the
digits behind it and the power. -/
def isFraction (hasDigits : Bool) (s : List Char) : Bool :=
  match s with
  | '.' :: rest =>
    (hasDigits || rest.takeWhile (isDigitOf 10) != []) && isPower (rest.dropWhile (isDigitOf 10))
  | _ => hasDigits && isPower s

/-- The words that stand in the place of digits. -/
def numeralWords : List String := ["inf", "infinity", "nan"]

/-- Whether a text without a sign stands for a number. -/
def isUnsigned (s : List Char) : Bool :=
  numeralWords.contains (String.ofList (s.map Char.toLower)) ||
    isFraction (s.takeWhile (isDigitOf 10) != []) (s.dropWhile (isDigitOf 10))

/-- Whether a text stands for a number. -/
def isNumeral (s : List Char) : Bool := isUnsigned (withoutSign s)

end Tunnel.Text
