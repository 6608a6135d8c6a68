import FilterTemplate.Fault
import FilterTemplate.Filter.Basic

/-!
# Reading filters

The first character of a filter's text is its symbol, which says how the rest is read. A reader that
finds something wrong names the characters that it is about by their indices in that text.
-/

namespace FilterTemplate

/-- Why a text is no filter: a cause at the characters from `first` up to `last`, or a refusal. -/
inductive Misreading
  | slip (cause : Cause) (first last : Nat)
  | refused (refusal : Refusal)
  deriving DecidableEq, Repr

namespace Filter

def readNumeral (digits : Text) : Except Misreading Nat :=
  match Numeral.read digits with
  | .error tooLong => .error (.refused (.numeralTooLong tooLong))
  | .ok n => .ok n

/-! ## Substrings -/

/-- A text without the minus sign in front of it, and whether there was one. -/
def splitSign : Text → Bool × Text
  | '-' :: rest => (true, rest)
  | rest => (false, rest)

/-- The form of a range: a signed index, and perhaps a sign and a second index, which need not have
digits. -/
structure RangeForm where
  negative : Bool
  digits : Text
  stop : Option (Bool × Bool × Text)
  deriving DecidableEq, Repr

/-- The form of what stands behind the first index: whether it gives a length, whether the number is
negative, and its digits. -/
def stopForm? : Text → Option (Bool × Bool × Text)
  | [] => none
  | sign :: rest =>
    if sign = '+' ∨ sign = '-' then
      let (negative, unsigned) := splitSign rest
      if unsigned.all Numeral.isDigit then some (sign = '+', negative, unsigned) else none
    else none

def rangeForm? (rest : Text) : Option RangeForm :=
  let (negative, unsigned) := splitSign rest
  match Numeral.span unsigned with
  | ([], _) => none
  | (digits, []) => some ⟨negative, digits, none⟩
  | (digits, behind) => (stopForm? behind).map fun stop => ⟨negative, digits, some stop⟩

/-- A number other than zero, of which the digits start at `first`. -/
def readQuantity (quantity : Quantity) (digits : Text) (first : Nat) : Except Misreading Nat := do
  let n ← readNumeral digits
  if n = 0 then .error (.slip (.zero quantity) first (first + digits.length)) else .ok n

/-- A range as the text `rest` behind its symbol spells it. The end of a range without a sign of its
own counts in the direction of the start. -/
def readSubstring (rest : Text) : Except Misreading Filter := do
  let stop := rest.length + 1
  match rangeForm? rest with
  | none => .error (.slip .badRange 0 stop)
  | some form =>
    let first := if form.negative then 2 else 1
    let n ← readQuantity .index form.digits first
    let start : Int := if form.negative then -(n : Int) else n
    let sign := first + form.digits.length
    match form.stop with
    | none => .ok (.substring start .single)
    | some (true, false, []) => .error (.slip .missingLength sign stop)
    | some (true, true, _) => .error (.slip .negativeLength (sign + 1) stop)
    | some (true, false, digits) =>
      let length ← readQuantity .length digits (sign + 1)
      .ok (.substring start (.toLength length))
    | some (false, false, []) => .ok (.substring start .toEnd)
    | some (false, true, []) => .error (.slip .missingIndex (sign + 1) stop)
    | some (false, negative, digits) =>
      let index ← readQuantity .index digits (sign + if negative then 2 else 1)
      let backward := negative || form.negative
      .ok (.substring start (.toIndex (if backward then -(index : Int) else index)))

/-! ## Padding -/

/-- Padding as the text `rest` behind its symbol spells it: the symbol again and a mask, or a count,
a delimiter and a mask. -/
def readPad (symbol : Char) (side : Side) (rest : Text) : Except Misreading Filter := do
  let stop := rest.length + 1
  if rest.head? = some symbol then
    let mask := rest.tail
    if mask = [] then .error (.slip .emptyMask 0 stop) else .ok (.pad side mask none)
  else
    let (digits, behind) := Numeral.span rest
    if digits = [] then .error (.slip (.missingCount symbol) 1 stop)
    else
      let count ← readNumeral digits
      if count = 0 then .error (.slip .zeroCount 1 (1 + digits.length))
      else
        match behind with
        | [] => .error (.slip .missingCountDelimiter (1 + digits.length) stop)
        | _ :: mask =>
          if mask = [] then .error (.slip .emptyMask (1 + digits.length) stop)
          else .ok (.pad side mask (some count))

/-! ## Substitutions -/

/-- A target and its replacement. The character behind the symbol is the delimiter; it stands
between the two, and where it does not the replacement is empty. -/
def readSubstitution (symbol : Char) : Text → Except Misreading (Text × Text)
  | [] => .error (.slip (.missingDelimiter symbol) 1 1)
  | delimiter :: body =>
    match Text.splitAt delimiter body with
    | ([], _) => .error (.slip .emptyTarget 1 (body.length + 2))
    | (target, replacement) => .ok (target, replacement.getD [])

def readReplace (symbol : Char) (all : Bool) (rest : Text) : Except Misreading Filter := do
  let (target, replacement) ← readSubstitution symbol rest
  return .replace target replacement all

/-- What a failure of the characters from `first` up to `last` comes to. -/
def misread (cause : Regex.Error → Cause) (first last : Nat) : Regex.Failure → Misreading
  | .malformed error => .slip (cause error) first last
  | .repetitionTooLarge => .refused .repetitionTooLarge
  | .numeralTooLong numeral => .refused (.numeralTooLong numeral)
  | .contradictoryFlags => .refused .contradictoryFlags

/-- A pattern whose source starts at `first`. -/
def readPattern (source : Text) (first : Nat) : Except Misreading Regex.Pattern :=
  (Regex.Pattern.compile source).mapError (misread .badPattern first (first + source.length))

def readRegexMatch (rest : Text) : Except Misreading Filter :=
  if rest = [] then .error (.slip .missingPattern 1 1)
  else (readPattern rest 1).map .regexMatch

/-- The replacement is read here only to see that it suits the pattern. -/
def readRegexReplace (symbol : Char) (all : Bool) (rest : Text) : Except Misreading Filter := do
  let (source, replacement) ← readSubstitution symbol rest
  let pattern ← readPattern source 2
  let stop := rest.length + 1
  let _ ← (Regex.Replacement.read pattern replacement).mapError
    (misread .badReplacement (min (3 + source.length) stop) stop)
  return .regexReplace pattern replacement all

/-! ## All filters -/

/-- A filter that is its symbol and nothing more. -/
def readFixed (symbol : Char) (filter : Filter) (rest : Text) : Except Misreading Filter :=
  if rest = [] then .ok filter else .error (.slip (.trailingText symbol) 1 (rest.length + 1))

/-- Reads the text of one filter. -/
def read : Text → Except Misreading Filter
  | [] => .error (.slip .emptyFilter 0 0)
  | symbol :: rest =>
    match symbol with
    | '#' => readSubstring rest
    | 't' => readFixed symbol .trim rest
    | 'v' => readFixed symbol .lowercase rest
    | '^' => readFixed symbol .uppercase rest
    | 'i' => readFixed symbol .transliterate rest
    | 'I' => readFixed symbol .removeNonAscii rest
    | 'd' => readFixed symbol .parentPath rest
    | 'f' => readFixed symbol .fileName rest
    | 'b' => readFixed symbol .baseName rest
    | 'e' => readFixed symbol (.extension false) rest
    | 'E' => readFixed symbol (.extension true) rest
    | '<' => readPad symbol .left rest
    | '>' => readPad symbol .right rest
    | 'r' => readReplace symbol false rest
    | 'R' => readReplace symbol true rest
    | '?' => .ok (.replaceEmpty rest)
    | '=' => readRegexMatch rest
    | 's' => readRegexReplace symbol false rest
    | 'S' => readRegexReplace symbol true rest
    | _ => .error (.slip (.unknownFilter symbol) 0 1)

end Filter

end FilterTemplate
