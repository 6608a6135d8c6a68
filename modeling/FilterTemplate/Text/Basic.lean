/-!
# Text

Text is the list of its characters. Every position and every length counts characters.
-/

namespace FilterTemplate

abbrev Text := List Char

namespace Text

/-- The characters from position `first` up to, and without, position `last`. -/
def slice (text : Text) (first last : Nat) : Text := (text.take last).drop first

def isAscii (c : Char) : Bool := c.toNat < 128

/-- The text before the first `mark` and, if there is one, the text behind it. -/
def splitAt (mark : Char) : Text → Text × Option Text
  | [] => ([], none)
  | c :: rest =>
    if c = mark then ([], some rest)
    else
      let (before, behind) := splitAt mark rest
      (c :: before, behind)

/-- The fields between the marks; one more than there are marks. -/
def fields (mark : Char) : Text → List Text
  | [] => [[]]
  | c :: rest =>
    if c = mark then [] :: fields mark rest
    else match fields mark rest with
      | [] => [[c]]
      | field :: others => (c :: field) :: others

/-- What stands behind `start`, if the text starts with it. -/
def behind? : Text → Text → Option Text
  | [], text => some text
  | _ :: _, [] => none
  | s :: start, c :: text => if s = c then behind? start text else none

/-- The texts one behind the other, with `mark` between neighbours. -/
def joinWith (mark : Text) : List Text → Text
  | [] => []
  | [only] => only
  | first :: rest => first ++ mark ++ joinWith mark rest

end Text

end FilterTemplate
