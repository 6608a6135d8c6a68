import FilterTemplate.Text.Basic

/-!
# Decimal numerals

A run of ASCII digits, leading zeros included, is read as a number if it has at most
`Numeral.maxDigits` digits.
-/

namespace FilterTemplate

namespace Numeral

def isDigit (c : Char) : Bool := decide ('0' ≤ c) && decide (c ≤ '9')

def digitValue (c : Char) : Nat := c.toNat - '0'.toNat

/-- The number that the digits stand for. -/
def value (digits : Text) : Nat := digits.foldl (fun n c => 10 * n + digitValue c) 0

/-- The longest numeral that is read. -/
def maxDigits : Nat := 4300

/-- A numeral with more digits than are read. -/
structure TooLong where
  digits : Nat
  deriving DecidableEq, Repr

def TooLong.message (e : TooLong) : Text :=
  "Exceeds the limit (4300 digits) for integer string conversion: value has ".toList ++
    Nat.toDigits 10 e.digits ++
    " digits; use sys.set_int_max_str_digits() to increase the limit".toList

/-- The number, unless the numeral is too long. -/
def read (digits : Text) : Except TooLong Nat :=
  if maxDigits < digits.length then .error ⟨digits.length⟩ else .ok (value digits)

/-- The digits of a number, without leading zeros. -/
def write (n : Nat) : Text := Nat.toDigits 10 n

/-- The digits of a number, behind a minus sign if it is negative. -/
def writeInt : Int → Text
  | .ofNat n => write n
  | .negSucc n => '-' :: write (n + 1)

/-- The leading digits and the text behind them. -/
def span (text : Text) : Text × Text := (text.takeWhile isDigit, text.dropWhile isDigit)

end Numeral

end FilterTemplate
