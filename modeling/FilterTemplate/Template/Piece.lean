import FilterTemplate.Template.Lexer

/-!
# The pieces of a filter chain

Separators part the text of a chain into pieces, one for each filter. An escape in front of one of
the four delimiters gives that character and is itself left out; in front of any other character it
stays. Every character of a piece keeps the position that it has in the template, so that a fault
can be shown there.
-/

namespace FilterTemplate

/-- The text of one filter. -/
structure Piece where
  chars : List (Char × Nat)
  start : Nat
  stop : Nat
  deriving DecidableEq, Repr

namespace Piece

def text (piece : Piece) : Text := piece.chars.map (·.1)

/-- The position of a character, or the end of the piece. -/
def positionOf (piece : Piece) (index : Nat) : Nat :=
  match piece.chars[index]? with
  | some (_, position) => position
  | none => piece.stop

/-- The fault at the characters from `first` up to `last`. It shows the whole text where there are
no such characters. -/
def fault (piece : Piece) (cause : Cause) (first last : Nat) : Fault :=
  let slice := Text.slice piece.text first last
  ⟨cause, if slice = [] then piece.text else slice, piece.positionOf first, piece.positionOf last⟩

/-- The piece with characters in front of it, from position `start` on. -/
def behind (piece : Piece) (chars : List (Char × Nat)) (start : Nat) : Piece :=
  { piece with chars := chars ++ piece.chars, start }

end Piece

namespace Delimiters

variable (d : Delimiters)

/-- What an escape at position `i` and the character behind it stand for. -/
def escaped (c : Char) (i : Nat) : List (Char × Nat) :=
  if d.has c then [(c, i + 1)] else [(d.escape, i), (c, i + 1)]

/-- The first piece of a text that stands at position `i`, and the other ones. -/
def pieces : Text → Nat → Except Fault (Piece × List Piece)
  | [], i => .ok (⟨[], i, i⟩, [])
  | c :: rest, i =>
    if c = d.escape then
      match rest with
      | [] => .error (d.danglingEscape i)
      | next :: others =>
        (pieces others (i + 2)).map fun (piece, more) => (piece.behind (d.escaped next i) i, more)
    else if c = d.separator then
      (pieces rest (i + 1)).map fun (piece, more) => (⟨[], i, i⟩, piece :: more)
    else
      (pieces rest (i + 1)).map fun (piece, more) => (piece.behind [(c, i)] i, more)

end Delimiters

end FilterTemplate
