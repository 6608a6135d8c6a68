import FilterTemplate.Unicode.Decomposition.Composite
import FilterTemplate.Unicode.Decomposition.Singleton

/-!
# Canonical decomposition

Every character has a full canonical decomposition, most often itself. The syllables of Hangul
decompose by arithmetic: they are laid out by leading consonant, vowel and trailing consonant.
-/

namespace FilterTemplate.Unicode

/-- The value of a key in an ascending table. -/
def valueAt? {α : Type} : List (Nat × α) → Nat → Option α
  | [], _ => none
  | (key, value) :: rest, c =>
    if c < key then none else if c = key then some value else valueAt? rest c

namespace Hangul

def syllables : Nat := 0xac00
def leading : Nat := 0x1100
def vowels : Nat := 0x1161
def trailing : Nat := 0x11a7

/-- Leading consonant, vowel and, if there is one, trailing consonant of the `k`-th syllable. -/
def parts (k : Nat) : List Nat :=
  let base := [leading + k / 588, vowels + k % 588 / 28]
  if k % 28 = 0 then base else base ++ [trailing + k % 28]

end Hangul

/-- The full canonical decomposition of one code point. -/
def decompositionOf (c : Nat) : List Nat :=
  if Hangul.syllables ≤ c ∧ c < Hangul.syllables + 11172 then Hangul.parts (c - Hangul.syllables)
  else match valueAt? composites c with
    | some parts => parts
    | none => [(valueAt? singletons c).getD c]

/-- The characters that one character decomposes into. -/
def decompose (c : Char) : List Char := (decompositionOf c.toNat).map Char.ofNat

end FilterTemplate.Unicode
