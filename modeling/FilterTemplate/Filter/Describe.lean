import FilterTemplate.Filter.Basic

/-!
# Filters in words
-/

namespace FilterTemplate

/-- A text between quotes, as descriptions show it. -/
def between (text : Text) : Text := [Text.singleQuote] ++ text ++ [Text.singleQuote]

/-- A range in words. Positions that count from the end are given without their sign. -/
def describeRange (start : Int) (extent : Extent) : Text :=
  let direction := if start < 0 then " (backward)".toList else []
  let first := Numeral.write start.natAbs
  match extent with
  | .single => "Character".toList ++ direction ++ " at ".toList ++ first
  | .toIndex index =>
    let last := if start < 0 then Numeral.write index.natAbs else Numeral.writeInt index
    "Substring".toList ++ direction ++ " from ".toList ++ first ++ " to ".toList ++ last
  | .toLength length =>
    "Substring".toList ++ direction ++ " from ".toList ++ first ++ " of length ".toList ++
      Numeral.writeInt length
  | .toEnd => "Substring".toList ++ direction ++ " from ".toList ++ first ++ " to end".toList

def Side.describe : Side → Text
  | .left => "Left".toList
  | .right => "Right".toList

def Filter.describe : Filter → Text
  | .substring start extent => describeRange start extent
  | .trim => "Trim".toList
  | .lowercase => "To lowercase".toList
  | .uppercase => "To uppercase".toList
  | .transliterate => "To ASCII".toList
  | .removeNonAscii => "Remove non-ASCII".toList
  | .parentPath => "Parent path".toList
  | .fileName => "File name".toList
  | .baseName => "Base name".toList
  | .extension withDot => if withDot then "Extension with dot".toList else "Extension".toList
  | .pad side mask none => side.describe ++ " pad with ".toList ++ between mask
  | .pad side mask (some count) =>
    side.describe ++ " pad ".toList ++ Numeral.writeInt count ++ " characters of ".toList ++
      between mask
  | .replace target replacement all =>
    "Replace ".toList ++ (if all then "all ".toList else "first ".toList) ++ between target ++
      " by ".toList ++ between replacement
  | .replaceEmpty replacement => "Replace empty with ".toList ++ between replacement
  | .regexMatch pattern =>
    "Regular expression ".toList ++ between pattern.source ++ " match".toList
  | .regexReplace pattern replacement all =>
    "Replace ".toList ++
      (if all then "all regular expressions ".toList else "first regular expression ".toList) ++
      between pattern.source ++ " by ".toList ++ between replacement

end FilterTemplate
