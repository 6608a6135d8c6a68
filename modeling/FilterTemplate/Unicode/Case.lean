import FilterTemplate.Unicode.Case.Context
import FilterTemplate.Unicode.Case.Lower
import FilterTemplate.Unicode.Case.Upper

/-!
# Upper and lower case

The case of a text is that of its characters, where one character may become several, with one rule
that looks around: a capital sigma at the end of a word has a small form of its own. Where a single
character must answer for its case, it answers with the first one of the mapping.
-/

namespace FilterTemplate.Unicode

/-- The mapping of one code point, itself where the tables have none. -/
def mapCase (runs : List Shift) (spelled : List (Nat × List Nat)) (c : Nat) : List Nat :=
  match shifted? runs c with
  | some d => [d]
  | none => (spelled.lookup c).getD [c]

def lowerOf (c : Nat) : List Nat := mapCase toLowerShifts toLowerSpelled c

def upperOf (c : Nat) : List Nat := mapCase toUpperShifts toUpperSpelled c

/-- The lower case as a single character. -/
def lowerFirst (c : Nat) : Nat := (lowerOf c).headD c

/-- The upper case as a single character. -/
def upperFirst (c : Nat) : Nat := (upperOf c).headD c

/-- Whether a single character differs from its lower or its upper case. -/
def hasCase (c : Nat) : Bool := lowerFirst c != c || upperFirst c != c

/-- The code points whose lower case, as a single character, is `c`. -/
def lowerOrigins (c : Nat) : List Nat :=
  (if lowerFirst c = c then [c] else []) ++ unshifted toLowerShifts c ++
    (toLowerSpelled.filter (·.2.head? = some c)).map (·.1)

def capitalSigma : Char := 'Σ'

/-- Whether the nearest character that counts for case is a cased one. -/
def nextIsCased (around : List Char) : Bool :=
  match around.find? (!isCaseIgnored ·.toNat) with
  | some c => isCased c.toNat
  | none => false

/-- The lower case of a character between the text before it, nearest first, and the text behind. -/
def lowerAt (before : List Char) (c : Char) (behind : List Char) : List Char :=
  if c = capitalSigma then
    if nextIsCased before && !nextIsCased behind then ['ς'] else ['σ']
  else (lowerOf c.toNat).map Char.ofNat

/-- The lower case of `text` that stands behind `before`, whose nearest character is first. -/
def lowerBehind (before : List Char) : List Char → List Char
  | [] => []
  | c :: rest => lowerAt before c rest ++ lowerBehind (c :: before) rest

def lower (text : List Char) : List Char := lowerBehind [] text

def upper (text : List Char) : List Char :=
  text.flatMap fun c => (upperOf c.toNat).map Char.ofNat

end FilterTemplate.Unicode
