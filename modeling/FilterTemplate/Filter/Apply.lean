import FilterTemplate.Filter.Basic
import FilterTemplate.Path
import FilterTemplate.Replace
import FilterTemplate.Transliterate
import FilterTemplate.Trim
import FilterTemplate.Unicode.Case

/-!
# Applying filters

Only padding and regular expressions can fail: padding, if its mask would have to be repeated beyond
what an index can hold, a replacement, which is read anew for every value, if it does not suit its
pattern, and the matches of a pattern, if one of them has to be shown and cannot, or if all of them
are to be replaced and there is no end to them.
-/

namespace FilterTemplate

/-- Why something does not give a text. -/
inductive ApplyError
  | overlong (limit : Overlong)
  | replacement (failure : Regex.Failure)
  | noText (hitch : Regex.Hitch)
  | noFilter (extent : Extent)
  deriving DecidableEq, Repr

def Filter.apply (special : SpecialCases) : Filter → Text → Except ApplyError Text
  | .substring start extent, value => .ok (FilterTemplate.substring start extent value)
  | .trim, value => .ok (FilterTemplate.trim value)
  | .lowercase, value => .ok (Unicode.lower value)
  | .uppercase, value => .ok (Unicode.upper value)
  | .transliterate, value => .ok (FilterTemplate.transliterate special value)
  | .removeNonAscii, value => .ok (FilterTemplate.removeNonAscii value)
  | .parentPath, value => .ok (FilterTemplate.parentPath value)
  | .fileName, value => .ok (FilterTemplate.fileName value)
  | .baseName, value => .ok (FilterTemplate.baseName value)
  | .extension withDot, value => .ok (FilterTemplate.extension withDot value)
  | .pad side mask count, value => (FilterTemplate.pad side mask count value).mapError .overlong
  | .replace target replacement all, value =>
    .ok (FilterTemplate.replace target replacement all value)
  | .replaceEmpty replacement, value => .ok (if value = [] then replacement else value)
  | .regexMatch pattern, value =>
    match pattern.search value with
    | some found => (Regex.shownText found.shown?).mapError .noText
    | none => .ok []
  | .regexReplace pattern replacement all, value =>
    match Regex.Replacement.read pattern replacement with
    | .error failure => .error (.replacement failure)
    | .ok parts => (pattern.replaceMatches all parts value).mapError .noText

/-- What stands in the place of a filter: a filter, or the extent of a range, which by itself does
nothing to a text. -/
inductive Operand
  | filter (filter : Filter)
  | extent (extent : Extent)
  deriving DecidableEq, Repr

/-- An extent as messages show it. -/
def Extent.shown : Extent → Text
  | .single => "None".toList
  | .toIndex index => "ToIndex(index=".toList ++ Numeral.writeInt index ++ [')']
  | .toLength length => "ToLength(length=".toList ++ Numeral.writeInt length ++ [')']
  | .toEnd => "ToEnd()".toList

/-- What is said of an error; nothing is said of a search that does not end. -/
def ApplyError.message? : ApplyError → Option Text
  | .overlong limit => some limit.message
  | .replacement failure => some failure.message
  | .noText .tangledGroup => some
    "The span of capturing group is wrong, please report a bug for the re module.".toList
  | .noText .endlessSearch => none
  | .noFilter extent => some ("Unsupported filter: ".toList ++ extent.shown)

def Operand.apply (special : SpecialCases) : Operand → Text → Except ApplyError Text
  | .filter f, value => f.apply special value
  | .extent e, _ => .error (.noFilter e)

/-- The results for several values, of which there may be none. -/
def Operand.applyAll (special : SpecialCases) (operand : Operand) (values : List Text) :
    Except ApplyError (List Text) :=
  values.mapM (operand.apply special)

end FilterTemplate
