import FilterTemplate.Regex.Pattern

/-!
# Replacements

A replacement is text in which an escape stands for a group of the match or for a character. Only
ASCII letters and digits need to have a meaning behind the backslash; any other character keeps it.
-/

namespace FilterTemplate.Regex

/-- A part of a replacement. -/
inductive Part
  | char (c : Char)
  | group (index : Nat)
  deriving DecidableEq, Repr

namespace Replacement

open Reader

/-- A group that the pattern has. -/
def groupPart (index : Nat) : Reader (List Part) := do
  if (← get).groups.length < index then fail (.invalidReference index)
  return [.group index]

/-- The group between angle brackets, by name or by number. -/
def bracketedGroup : Reader (List Part) := do
  if ← accept '<' then
    let name ← takeUntil '>' groupName
    if Unicode.isIdentifier name then
      match (← get).names.lookup name with
      | some index => groupPart index
      | none => fail (.unknownGroupName name)
    else match GroupNumber.read? name with
      | none => fail (.badGroupName name)
      | some index =>
        if maxGroups ≤ index then fail (.invalidReference index)
        groupPart index
  else fail .missingAngle

/-- An escape that starts with a digit other than zero: three octal digits are a character, any
other one or two digits the number of a group. -/
def digitPart (c : Char) : Reader (List Part) := do
  let second ← takeWhile Numeral.isDigit 1
  let third ←
    if isOctalDigit c && second.any isOctalDigit then takeWhile isOctalDigit 1 else pure []
  if third.isEmpty then groupPart (Numeral.value (c :: second))
  else return [.char (Char.ofNat (← octalEscape (c :: second ++ third)))]

/-- What the character behind a backslash makes of it. -/
def escapePart (c : Char) : Reader (List Part) := do
  if c = 'g' then bracketedGroup
  else if c = '0' then
    let digits ← takeWhile isOctalDigit 2
    return [.char (Char.ofNat (octalValue digits % 256))]
  else if Numeral.isDigit c then digitPart c
  else match namedControl? c with
    | some code => return [.char (Char.ofNat code)]
    | none =>
      if isAsciiLetter c then fail (.badEscape ['\\', c])
      else return [.char '\\', .char c]

def parts : Nat → Reader (List Part)
  | 0 => return []
  | fuel + 1 => do
    match ← next with
    | none => return []
    | some (.plain c) => return .char c :: (← parts fuel)
    | some (.escaped c) => return (← escapePart c) ++ (← parts fuel)

/-- The parts of a replacement for the matches of a pattern. -/
def read (p : Pattern) (text : Text) : Except Failure (List Part) := do
  let reading : Reading :=
    { rest := ← Token.place text, groups := List.replicate p.groups none, names := p.names }
  return (← (parts (text.length + 1)).run reading).1

/-- The text that a replacement puts in the place of a match. -/
def expand (m : Match) (replacement : List Part) : Text :=
  replacement.flatMap fun part =>
    match part with
    | .char c => [c]
    | .group index => m.group index

def asksForGroups (replacement : List Part) : Bool :=
  replacement.any fun part =>
    match part with
    | .char _ => false
    | .group _ => true

/-- The same, unless the replacement asks for groups and those of the match cannot be shown. -/
def expand? (m : Match) (replacement : List Part) : Option Text :=
  if asksForGroups replacement && m.marks.tangled then none else some (expand m replacement)

end Replacement

namespace Pattern

/-- The text from a cursor on, with each of the matches replaced, unless one of them cannot be
shown. -/
def stitch (replacement : List Part) : Cursor → List Match → Option Text
  | spot, [] => some spot.after
  | spot, m :: rest => do
    let text ← Replacement.expand? m replacement
    let others ← stitch replacement m.stop rest
    return spot.after.take (m.start.pos - spot.pos) ++ text ++ others

/-- The text with its first match, or with all matches replaced. A match is shown as soon as it is
found, so one that cannot be shown also stops a search that has no end. -/
def replaceMatches (p : Pattern) (all : Bool) (replacement : List Part) (text : Text) :
    Except Hitch Text :=
  match p.replaced? all text with
  | some found => shownText (stitch replacement (.start text) found)
  | none => do
    let _ ← shownText (stitch replacement (.start text) (p.firstMatches text))
    .error .endlessSearch

end Pattern

end FilterTemplate.Regex
