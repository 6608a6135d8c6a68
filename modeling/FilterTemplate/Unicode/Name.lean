import FilterTemplate.Unicode.Decomposition
import FilterTemplate.Unicode.Range
import FilterTemplate.Unicode.Name.Alias
import FilterTemplate.Unicode.Name.Ancient
import FilterTemplate.Unicode.Name.Brahmic
import FilterTemplate.Unicode.Name.Compatibility
import FilterTemplate.Unicode.Name.Cuneiform
import FilterTemplate.Unicode.Name.Dingbat
import FilterTemplate.Unicode.Name.EastAsian
import FilterTemplate.Unicode.Name.European
import FilterTemplate.Unicode.Name.Hieroglyph
import FilterTemplate.Unicode.Name.Ideographic
import FilterTemplate.Unicode.Name.Indic
import FilterTemplate.Unicode.Name.MiddleEastern
import FilterTemplate.Unicode.Name.Notation
import FilterTemplate.Unicode.Name.Phonetic
import FilterTemplate.Unicode.Name.Pictograph
import FilterTemplate.Unicode.Name.Regional
import FilterTemplate.Unicode.Name.Southeast
import FilterTemplate.Unicode.Name.Special
import FilterTemplate.Unicode.Name.Syllabary
import FilterTemplate.Unicode.Name.Syllabic
import FilterTemplate.Unicode.Name.Symbol

/-!
# Names of characters

A character can be asked for by its name, in capitals or not. The syllables of Hangul are named by
the sounds they are made of and the unified ideographs by their code points; these names have to be
in capitals. All others are in tables, except that a few kinds of characters have the code point at
the end of the name.
-/

namespace FilterTemplate.Unicode

/-- What is behind the start of a text, if the text starts so. -/
def behind? (start : String) (text : List Char) : Option (List Char) :=
  if start.toList.isPrefixOf text then some (text.drop start.length) else none

/-! ## Names with a code point in them -/

/-- The number that hexadecimal digits in capitals stand for. -/
def codePoint? (digits : List Char) : Option Nat :=
  digits.foldlM (fun n c =>
    if '0' ≤ c ∧ c ≤ '9' then some (16 * n + (c.toNat - 48))
    else if 'A' ≤ c ∧ c ≤ 'F' then some (16 * n + (c.toNat - 55))
    else none) 0

/-- The unified ideographs. -/
def unifiedIdeographs : List Range :=
  [(0x3400, 0x4dbf), (0x4e00, 0x9fff), (0x20000, 0x2a6df), (0x2a700, 0x2b738), (0x2b740, 0x2b81d),
   (0x2b820, 0x2cea1), (0x2ceb0, 0x2ebe0), (0x30000, 0x3134a)]

/-- The unified ideograph whose code point has the digits, four or five of them. -/
def unifiedIdeograph? (digits : List Char) : Option Nat :=
  if digits.length = 4 ∨ digits.length = 5 then
    (codePoint? digits).filter (within unifiedIdeographs)
  else none

/-- The other kinds of characters whose names end with the code point, with the start of the
names. -/
def numbered : List (String × List Range) :=
  [("CJK COMPATIBILITY IDEOGRAPH-", [(0xf900, 0xfa6d), (0xfa70, 0xfad9), (0x2f800, 0x2fa1d)]),
   ("KHITAN SMALL SCRIPT CHARACTER-", [(0x18b00, 0x18cd5)]),
   ("NUSHU CHARACTER-", [(0x1b170, 0x1b2fb)])]

/-- The character of one of these kinds that has the name. No digit zero stands in front. -/
def numberedCode? (name : List Char) : Option Nat :=
  numbered.findSome? fun (start, ranges) =>
    (behind? start name).bind fun digits =>
      if digits.head? = some '0' then none else (codePoint? digits).filter (within ranges)

/-! ## Syllables -/

namespace Hangul

def leadingNames : List String :=
  ["G", "GG", "N", "D", "DD", "R", "M", "B", "BB", "S", "SS", "", "J", "JJ", "C", "K", "T", "P",
   "H"]

def vowelNames : List String :=
  ["A", "AE", "YA", "YAE", "EO", "E", "YEO", "YE", "O", "WA", "WAE", "OE", "YO", "U", "WEO", "WE",
   "WI", "YU", "EU", "YI", "I"]

def trailingNames : List String :=
  ["", "G", "GG", "GS", "N", "NJ", "NH", "D", "L", "LG", "LM", "LB", "LS", "LT", "LP", "LH", "M",
   "B", "BS", "S", "SS", "NG", "J", "C", "K", "T", "P", "H"]

/-- Of the names that the text starts with, the index of the longest, and the text behind it. -/
def longest (names : List String) (text : List Char) : Option (Nat × List Char) :=
  names.zipIdx.foldl (fun best (name, index) =>
    match behind? name text with
    | none => best
    | some rest => if best.all (rest.length < ·.2.length) then some (index, rest) else best) none

/-- The syllable of the sounds. -/
def syllable? (sounds : List Char) : Option Nat := do
  let (leading, rest) ← longest leadingNames sounds
  let (vowel, rest) ← longest vowelNames rest
  let (trailing, rest) ← longest trailingNames rest
  if rest.isEmpty then some (syllables + leading * 588 + vowel * 28 + trailing) else none

end Hangul

/-! ## Names in tables -/

/-- The code point of a name in capitals among those of a run. -/
def NameRun.code? (run : NameRun) (name : List Char) : Option Nat :=
  (behind? run.shared name).bind fun rest =>
    ((run.others.flatMap (·.splitOn ";")).findIdx? (· == String.ofList rest)).map (run.first + ·)

def nameTables : List (List NameRun) :=
  [europeanNames, middleEasternNames, indicNames, southeastNames, syllabicNames, regionalNames,
   phoneticNames, symbolNames, dingbatNames, eastAsianNames, syllabaryNames, compatibilityNames,
   ancientNames, brahmicNames, cuneiformNames, hieroglyphNames, ideographicNames, notationNames,
   pictographNames, specialNames]

/-- The code point of a name in capitals that is in the tables. -/
def tabledCode? (name : List Char) : Option Nat :=
  match aliases.find? (·.2.toList == name) with
  | some (code, _) => some code
  | none => nameTables.findSome? fun runs => runs.findSome? (·.code? name)

/-- The code point that has the name. -/
def codeNamed? (name : List Char) : Option Nat :=
  match behind? "HANGUL SYLLABLE " name, behind? "CJK UNIFIED IDEOGRAPH-" name with
  | some sounds, _ => Hangul.syllable? sounds
  | none, some digits => unifiedIdeograph? digits
  | none, none =>
    let capitals := name.map Char.toUpper
    (numberedCode? capitals).or (tabledCode? capitals)

end FilterTemplate.Unicode
