import FilterTemplate.Extract
import FilterTemplate.Pad
import FilterTemplate.Regex.Replacement

/-!
# Filters

A filter makes one text out of another. What a filter is built from is not checked here: the readers
of templates only build filters that make sense, but others can be applied and described as well.
-/

namespace FilterTemplate

inductive Filter
  | substring (start : Int) (extent : Extent)
  | trim
  | lowercase
  | uppercase
  | transliterate
  | removeNonAscii
  | parentPath
  | fileName
  | baseName
  | extension (withDot : Bool)
  | pad (side : Side) (mask : Text) (count : Option Int)
  | replace (target replacement : Text) (all : Bool)
  | replaceEmpty (replacement : Text)
  | regexMatch (pattern : Regex.Pattern)
  | regexReplace (pattern : Regex.Pattern) (replacement : Text) (all : Bool)
  deriving DecidableEq, Repr

end FilterTemplate
