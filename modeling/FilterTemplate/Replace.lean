import FilterTemplate.Text.Basic

/-!
# Replacement of a literal text

The target is looked for from left to right, and what is put in its place is not looked at again. An
empty target is found in front of every character and at the end.
-/

namespace FilterTemplate

/-- The first occurrence of `target` replaced. -/
def replaceFirst (target replacement : Text) : Text → Text
  | [] => if target = [] then replacement else []
  | c :: rest =>
    match Text.behind? target (c :: rest) with
    | some behind => replacement ++ behind
    | none => c :: replaceFirst target replacement rest

/-- All occurrences of a target that is not empty replaced, where the first `covered` characters
belong to an occurrence that is replaced already. -/
def replaceBehind (target replacement : Text) : Nat → Text → Text
  | _, [] => []
  | covered + 1, _ :: rest => replaceBehind target replacement covered rest
  | 0, c :: rest =>
    match Text.behind? target (c :: rest) with
    | some _ => replacement ++ replaceBehind target replacement (target.length - 1) rest
    | none => c :: replaceBehind target replacement 0 rest

/-- All occurrences of `target` replaced. -/
def replaceAll (target replacement value : Text) : Text :=
  if target = [] then value.foldr (fun c rest => replacement ++ c :: rest) replacement
  else replaceBehind target replacement 0 value

def replace (target replacement : Text) (all : Bool) (value : Text) : Text :=
  if all then replaceAll target replacement value else replaceFirst target replacement value

end FilterTemplate
