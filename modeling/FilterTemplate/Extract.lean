import FilterTemplate.Text.Basic

/-!
# Extraction by position

Positions count from 1, and from the end where they are negative: `-1` is the last character. A
range whose start is negative runs from there towards the beginning of the text. Positions outside
of the text count as its first or its last character, so only a range whose ends are out of order is
empty.
-/

namespace FilterTemplate

/-- How far a range goes from its start. -/
inductive Extent
  | single
  | toIndex (index : Int)
  | toLength (length : Int)
  | toEnd
  deriving DecidableEq, Repr

/-- The position from the beginning that an index of either sign means. -/
def effectivePosition (index length : Int) : Int :=
  if 1 ≤ index then index else length + index + 1

/-- The first and the last position of a range, which may lie outside of the text. -/
def rangeBounds (start : Int) (extent : Extent) (length : Int) : Int × Int :=
  let first := effectivePosition start length
  if start < 0 then
    match extent with
    | .single => (first, first)
    | .toIndex index => (effectivePosition index length, first)
    | .toLength count => (first - count + 1, first)
    | .toEnd => (1, first)
  else
    match extent with
    | .single => (first, first)
    | .toIndex index => (first, effectivePosition index length)
    | .toLength count => (first, first + count - 1)
    | .toEnd => (first, length)

/-- The nearest position in a text of the given length. -/
def clampPosition (length position : Int) : Int := min (max position 1) length

/-- The characters of a range. -/
def substring (start : Int) (extent : Extent) (value : Text) : Text :=
  let length : Int := value.length
  let (low, high) := rangeBounds start extent length
  let low := clampPosition length low
  let high := clampPosition length high
  if value = [] ∨ high < low then [] else Text.slice value (low - 1).toNat high.toNat

end FilterTemplate
