import FilterTemplate.Text.Basic

/-!
# Trimming
-/

namespace FilterTemplate

/-- The blanks that are trimmed. Unlike `Unicode.spaces` they have none of the controls that
separate files, groups, records and units. -/
def trimmedBlanks : List Nat :=
  [0x9, 0xa, 0xb, 0xc, 0xd, 0x20, 0x85, 0xa0, 0x1680, 0x2000, 0x2001, 0x2002, 0x2003, 0x2004,
   0x2005, 0x2006, 0x2007, 0x2008, 0x2009, 0x200a, 0x2028, 0x2029, 0x202f, 0x205f, 0x3000]

def isTrimmed (c : Char) : Bool := trimmedBlanks.contains c.toNat

/-- The text without the blanks at its ends. -/
def trim (value : Text) : Text :=
  ((value.dropWhile isTrimmed).reverse.dropWhile isTrimmed).reverse

end FilterTemplate
