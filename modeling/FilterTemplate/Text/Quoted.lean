import FilterTemplate.Text.Basic
import FilterTemplate.Unicode.Printable

/-!
# Quoted text

Messages show a text between quotes, so that blanks at its ends and hidden characters are seen. The
single quote is the usual mark; a text that has single quotes and no double ones takes the double
quote. The mark and the backslash are escaped, and so is what cannot be shown: by a letter for tab
and line ends, otherwise by its code point in two, four or eight hexadecimal digits.
-/

namespace FilterTemplate.Text

def hexDigit (d : Nat) : Char := if d < 10 then Char.ofNat (48 + d) else Char.ofNat (87 + d)

/-- The last `width` hexadecimal digits of `n`. -/
def hexDigits : Nat → Nat → Text
  | 0, _ => []
  | width + 1, n => hexDigits width (n / 16) ++ [hexDigit (n % 16)]

def singleQuote : Char := '\''

def doubleQuote : Char := '\"'

/-- One character of a text that stands between two `mark`s. -/
def escaped (mark c : Char) : Text :=
  if c = mark ∨ c = '\\' then ['\\', c]
  else if c = '\t' then ['\\', 't']
  else if c = '\n' then ['\\', 'n']
  else if c = '\r' then ['\\', 'r']
  else if Unicode.isPrintable c.toNat then [c]
  else if c.toNat < 0x100 then ['\\', 'x'] ++ hexDigits 2 c.toNat
  else if c.toNat < 0x10000 then ['\\', 'u'] ++ hexDigits 4 c.toNat
  else ['\\', 'U'] ++ hexDigits 8 c.toNat

def quoteMark (text : Text) : Char :=
  if text.contains singleQuote && !text.contains doubleQuote then doubleQuote else singleQuote

def quoted (text : Text) : Text :=
  let mark := quoteMark text
  [mark] ++ text.flatMap (escaped mark) ++ [mark]

/-- The quoted form of each text, in brackets. -/
def quotedList (texts : List Text) : Text :=
  ['['] ++ joinWith [',', ' '] (texts.map quoted) ++ [']']

end FilterTemplate.Text
