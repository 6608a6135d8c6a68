import FilterTemplate.Text.Basic
import FilterTemplate.Unicode.Decomposition

/-!
# Transliteration to ASCII

ASCII characters stay. Any other character is spelled by a table of special cases, or else by the
ASCII characters of its canonical decomposition, which leaves nothing of a character without any.
-/

namespace FilterTemplate

/-- Spellings of characters. -/
abbrev SpecialCases := List (Char × Text)

/-- Letters without a canonical decomposition to ASCII, ligatures, and punctuation. -/
def SpecialCases.standard : SpecialCases :=
  [('ß', "ss".toList), ('ẞ', "SS".toList), ('Æ', "AE".toList), ('æ', "ae".toList),
   ('Œ', "OE".toList), ('œ', "oe".toList), ('Ø', "O".toList), ('ø', "o".toList),
   ('Đ', "D".toList), ('đ', "d".toList), ('Ð', "D".toList), ('ð', "d".toList), ('Ł', "L".toList),
   ('ł', "l".toList), ('Þ', "TH".toList), ('þ', "th".toList), ('Ħ', "H".toList),
   ('ħ', "h".toList), ('ı', "i".toList), ('ﬀ', "ff".toList), ('ﬁ', "fi".toList),
   ('ﬂ', "fl".toList), ('ﬃ', "ffi".toList), ('ﬄ', "ffl".toList), ('‘', "'".toList),
   ('’', "'".toList), ('‚', "'".toList), ('‛', "'".toList), ('“', "\"".toList),
   ('”', "\"".toList), ('„', "\"".toList), ('‟', "\"".toList), ('«', "\"".toList),
   ('»', "\"".toList), ('–', "-".toList), ('—', "-".toList), ('−', "-".toList)]

def toAscii (special : SpecialCases) (c : Char) : Text :=
  if Text.isAscii c then [c]
  else match special.lookup c with
    | some spelling => spelling
    | none => (Unicode.decompose c).filter Text.isAscii

def transliterate (special : SpecialCases) (value : Text) : Text := value.flatMap (toAscii special)

def removeNonAscii (value : Text) : Text := value.filter Text.isAscii

end FilterTemplate
