import FilterTemplate.Unicode.Case

/-!
# Characters that differ in case only

Where case is ignored, a character of the text is compared by its lower case. Among the lower case
characters a few are forms of one another with one upper case in common, such as the two small
sigmas; those count as the same too.
-/

namespace FilterTemplate.Regex

/-- How characters are compared: as they are, or without regard to case, which is known for ASCII
only or for all characters. -/
inductive Fold
  | exact | ascii | unicode
  deriving DecidableEq, Repr

/-- The lower case characters that share an upper case. -/
def sharedUpper : List (List Nat) :=
  [[0x69, 0x131], [0x73, 0x17f], [0xb5, 0x3bc], [0x345, 0x3b9, 0x1fbe], [0x390, 0x1fd3],
   [0x3b0, 0x1fe3], [0x3b2, 0x3d0], [0x3b5, 0x3f5], [0x3b8, 0x3d1], [0x3ba, 0x3f0],
   [0x3c0, 0x3d6], [0x3c1, 0x3f1], [0x3c2, 0x3c3], [0x3c6, 0x3d5], [0x432, 0x1c80],
   [0x434, 0x1c81], [0x43e, 0x1c82], [0x441, 0x1c83], [0x442, 0x1c84, 0x1c85], [0x44a, 0x1c86],
   [0x463, 0x1c87], [0x1c88, 0xa64b], [0x1e61, 0x1e9b], [0xfb05, 0xfb06]]

def asciiLower (c : Nat) : Nat := if 0x41 ≤ c ∧ c ≤ 0x5a then c + 0x20 else c

def isAsciiLetterCode (c : Nat) : Bool :=
  decide (0x41 ≤ c ∧ c ≤ 0x5a) || decide (0x61 ≤ c ∧ c ≤ 0x7a)

namespace Fold

/-- What a character of the text is compared by. -/
def key : Fold → Nat → Nat
  | .exact, c => c
  | .ascii, c => asciiLower c
  | .unicode, c => Unicode.lowerFirst c

/-- Whether a character takes part in ignoring case. -/
def cased : Fold → Nat → Bool
  | .exact, _ => false
  | .ascii, c => isAsciiLetterCode c
  | .unicode, c => Unicode.hasCase c

/-- The keys that count as the same as `key`. -/
def alike : Fold → Nat → List Nat
  | .unicode, key => (sharedUpper.find? (·.contains key)).getD [key]
  | _, key => [key]

/-- The characters with the given key. -/
def origins : Fold → Nat → List Nat
  | .exact, key => [key]
  | .ascii, key =>
    if 0x61 ≤ key ∧ key ≤ 0x7a then [key, key - 0x20]
    else if 0x41 ≤ key ∧ key ≤ 0x5a then [] else [key]
  | .unicode, key => Unicode.lowerOrigins key

end Fold

end FilterTemplate.Regex
