/-!
# Sets of code points

A property of characters is a list of ranges, ascending and apart from one another. Both ends of a
range belong to it, and a search through the list stops at the first range past the code point.
-/

namespace FilterTemplate.Unicode

/-- The first and the last code point of a run. -/
abbrev Range := Nat × Nat

/-- Whether one of the ascending ranges holds the code point. -/
def within : List Range → Nat → Bool
  | [], _ => false
  | (first, last) :: rest, c =>
    if c < first then false else if c ≤ last then true else within rest c

end FilterTemplate.Unicode
