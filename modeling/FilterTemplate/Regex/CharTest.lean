import FilterTemplate.Regex.Fold
import FilterTemplate.Regex.Syntax
import FilterTemplate.Unicode.Letter
import FilterTemplate.Unicode.Number
import FilterTemplate.Unicode.Space

/-!
# Which characters a place of a pattern accepts

Where case is ignored, a single character accepts its forms in the other case, if it has any. A set
does so as soon as one of its members has a case. The characters beyond the basic plane are then
compared directly, only that a range of them also takes a character by its upper case.
-/

namespace FilterTemplate.Regex

namespace Category

/-- Whether the code point is of the kind, among all characters or in ASCII only. -/
def holds (ascii : Bool) : Category → Nat → Bool
  | .digit, c => if ascii then decide (0x30 ≤ c ∧ c ≤ 0x39) else Unicode.isDigit c
  | .space, c =>
    if ascii then decide (0x09 ≤ c ∧ c ≤ 0x0d) || c == 0x20 else Unicode.isSpace c
  | .word, c =>
    c == 0x5f ||
      if ascii then isAsciiLetterCode c || decide (0x30 ≤ c ∧ c ≤ 0x39)
      else Unicode.isLetter c || Unicode.isNumber c

end Category

/-- The last code point of the basic plane. -/
def lastBasic : Nat := 0xffff

namespace Member

/-- Whether the member accepts the code point as it is. -/
def holds (ascii : Bool) : Member → Nat → Bool
  | .char d, c => c == d
  | .range first last, c => decide (first ≤ c ∧ c ≤ last)
  | .category kind negated, c => kind.holds ascii c != negated

/-- Whether the member is a reason to ignore case in its set. -/
def cased (fold : Fold) : Member → Bool
  | .char c => decide (lastBasic < c) || fold.cased c
  | .range first last =>
    decide (lastBasic < last) || (List.range' first (last + 1 - first)).any fold.cased
  | .category _ _ => false

/-- Whether the member accepts a character with the given key. -/
def holdsFolded (fold : Fold) (ascii : Bool) : Member → Nat → Bool
  | .char d, key => if lastBasic < d then key == d else (fold.alike (fold.key d)).contains key
  | .range first last, key =>
    (fold.alike key).any (fun k => (fold.origins k).any fun c =>
        decide (first ≤ c ∧ c ≤ last ∧ c ≤ lastBasic)) ||
      decide (lastBasic < last) &&
        (decide (first ≤ key ∧ key ≤ last) ||
          decide (first ≤ Unicode.upperFirst key ∧ Unicode.upperFirst key ≤ last))
  | .category kind negated, key => kind.holds ascii key != negated

end Member

/-- What one character of the text is tested for. -/
inductive CharTest
  | char (fold : Fold) (negated : Bool) (c : Nat)
  | set (fold : Fold) (ascii negated : Bool) (members : List Member)
  | any
  | anyInLine
  deriving DecidableEq, Repr

namespace CharTest

/-- The test for a character where `fold` says how to compare; a character without a case is
compared as it is. -/
def ofChar (fold : Fold) (negated : Bool) (c : Nat) : CharTest :=
  .char (if fold.cased c then fold else .exact) negated c

/-- Whether the test is a comparison with characters as they are. -/
def isDirect : CharTest → Bool
  | .char .exact negated _ => !negated
  | .set .exact _ _ _ => true
  | _ => false

/-- Whether the test is a comparison with one character as it is. -/
def isLiteral : CharTest → Bool
  | .char .exact negated _ => !negated
  | _ => false

/-- Whether the test compares with the forms of several characters. Such a test is carried out one
character after the other, and the place behind each that it accepts is noted. -/
def isStepwise : CharTest → Bool
  | .char fold _ c => decide (1 < (fold.alike (fold.key c)).length)
  | .set .exact _ _ _ => false
  | .set _ _ _ _ => true
  | .any | .anyInLine => false

/-- The test for a set; a set without a cased member is compared as it is. -/
def ofSet (fold : Fold) (ascii negated : Bool) (members : List Member) : CharTest :=
  .set (if members.any (·.cased fold) then fold else .exact) ascii negated members

def accepts (test : CharTest) (char : Char) : Bool :=
  let c := char.toNat
  match test with
  | .char fold negated d => (fold.alike (fold.key d)).contains (fold.key c) != negated
  | .set .exact ascii negated members => members.any (·.holds ascii c) != negated
  | .set fold ascii negated members =>
    members.any (·.holdsFolded fold ascii (fold.key c)) != negated
  | .any => true
  | .anyInLine => char != '\n'

end CharTest

end FilterTemplate.Regex
