import FilterTemplate.Text.Numeral
import FilterTemplate.Unicode.Identifier
import FilterTemplate.Unicode.Number
import FilterTemplate.Unicode.Space

/-!
# Names and numbers of groups

A group is named by an identifier or by its number. A number may stand between blanks and behind a
sign, its digits may be those of any script, and one low line may stand between two digits.
-/

namespace FilterTemplate.Regex

/-- How many groups can be counted. -/
def maxGroups : Nat := 1073741823

namespace GroupNumber

def isAsciiBlank (c : Char) : Bool :=
  c = ' ' || c = '\t' || c = '\n' || c = '\x0b' || c = '\x0c' || c = '\r'

/-- The blanks around a number: those of ASCII, and in a text with other characters all blanks. -/
def isBlank (text : Text) (c : Char) : Bool :=
  if text.all Text.isAscii then isAsciiBlank c else Unicode.isSpace c.toNat

/-- The text without the characters at either end that meet the condition. -/
def trimmed (drop : Char → Bool) (text : Text) : Text :=
  ((text.dropWhile drop).reverse.dropWhile drop).reverse

/-- The values of the digits, which single low lines may part; `needed` says whether a digit has to
come next. -/
def digits? (needed : Bool) : Text → Option (List Nat)
  | [] => if needed then none else some []
  | c :: rest =>
    if c = '_' then if needed then none else digits? true rest
    else match Unicode.digitValue? c.toNat with
      | some d => (digits? false rest).map (d :: ·)
      | none => none

def unsigned? (text : Text) : Option Nat := do
  let digits ← digits? true text
  guard (digits.length ≤ Numeral.maxDigits)
  return digits.foldl (fun n d => 10 * n + d) 0

/-- The number of a group, if the text is one and is not negative. -/
def read? (text : Text) : Option Nat :=
  match trimmed (isBlank text) text with
  | '+' :: rest => unsigned? rest
  | '-' :: rest => (unsigned? rest).bind fun n => if n = 0 then some 0 else none
  | rest => unsigned? rest

end GroupNumber

end FilterTemplate.Regex
