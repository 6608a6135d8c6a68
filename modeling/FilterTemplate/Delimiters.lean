import FilterTemplate.Text.Quoted

/-!
# The delimiters of a template

Four characters give a template its structure. No two of them are the same, which the type keeps, so
every reader can tell them apart by comparing characters.
-/

namespace FilterTemplate

/-- What opens and closes a filter chain, what separates its filters, and what takes the meaning
from the next character. -/
structure Delimiters where
  opening : Char := '\x7b'
  closing : Char := '\x7d'
  separator : Char := '|'
  escape : Char := '\\'
  distinct : [opening, closing, separator, escape].Nodup := by decide
  deriving DecidableEq

namespace Delimiters

instance : Inhabited Delimiters := ⟨{}⟩

def toList (d : Delimiters) : List Char := [d.opening, d.closing, d.separator, d.escape]

/-- Whether the character is one of the four. -/
def has (d : Delimiters) (c : Char) : Bool := d.toList.contains c

/-- Whether the character opens or closes a chain. -/
def bounds (d : Delimiters) (c : Char) : Bool := c = d.opening || c = d.closing

/-- The settings of the delimiters, as they are named in messages. -/
inductive Field
  | opening | closing | separator | escape
  deriving DecidableEq, Repr

def Field.name : Field → Text
  | .opening => "expr_start".toList
  | .closing => "expr_end".toList
  | .separator => "separator".toList
  | .escape => "escape".toList

/-- Why four texts are no delimiters. -/
inductive Misfit
  | notOneCharacter (field : Field) (given : Text)
  | notDistinct (given : List Char)
  deriving DecidableEq, Repr

def Misfit.message : Misfit → Text
  | .notOneCharacter field given =>
    field.name ++ " must be a single character, got: ".toList ++ Text.quoted given
  | .notDistinct given =>
    "syntax characters must be distinct, got: ".toList ++
      Text.quotedList ((given.mergeSort fun a b => decide (a ≤ b)).map ([·]))

/-- The one character of a text. -/
def Field.read (field : Field) : Text → Except Misfit Char
  | [c] => .ok c
  | given => .error (.notOneCharacter field given)

/-- The delimiters as texts, each of which may still have any length. -/
structure Settings where
  opening : Text := [({} : Delimiters).opening]
  closing : Text := [({} : Delimiters).closing]
  separator : Text := [({} : Delimiters).separator]
  escape : Text := [({} : Delimiters).escape]
  deriving DecidableEq, Repr

/-- The delimiters that four texts give; the first text that is not one character is reported, and
only then a character that is used twice. -/
def ofSettings (settings : Settings) : Except Misfit Delimiters := do
  let o ← Field.opening.read settings.opening
  let c ← Field.closing.read settings.closing
  let s ← Field.separator.read settings.separator
  let e ← Field.escape.read settings.escape
  if h : [o, c, s, e].Nodup then
    return { opening := o, closing := c, separator := s, escape := e, distinct := h }
  else throw (.notDistinct [o, c, s, e])

end Delimiters

end FilterTemplate
