import FilterTemplate.Regex.Error

/-!
# The tokens of a pattern

A token is a character, or a backslash with the character behind it. A reader always stands in front
of a token it can see, so a lone backslash at the end of the text is an error as soon as everything
before it is read, and earlier than anything that the token in front of it might be wrong about.
-/

namespace FilterTemplate.Regex

inductive Token
  | plain (c : Char)
  | escaped (c : Char)
  deriving DecidableEq, Repr

namespace Token

def text : Token → Text
  | .plain c => [c]
  | .escaped c => ['\\', c]

/-- The token at the start of a text. -/
def first? : Text → Option Token
  | [] => none
  | [c] => some (.plain c)
  | c :: d :: _ => if c = '\\' then some (.escaped d) else some (.plain c)

/-- The text behind its first token. -/
def behindFirst : Text → Text
  | [] => []
  | [_] => []
  | c :: d :: rest => if c = '\\' then rest else d :: rest

/-- The text as the place of a reader, which needs to see a token. -/
def place (rest : Text) : Except Failure Text :=
  if rest = ['\\'] then .error Error.danglingEscape else .ok rest

/-- The place behind the first token. -/
def advance (text : Text) : Except Failure Text := place (behindFirst text)

/-- The first token, if there is one, and the place behind it. -/
def next (text : Text) : Except Failure (Option Token × Text) := do
  return (first? text, ← advance text)

/-- The place behind the first token, if that is the character. -/
def accept (c : Char) (text : Text) : Except Failure (Option Text) :=
  if first? text = some (.plain c) then do return some (← advance text) else return none

/-- The characters at the start that meet the condition, at most `count`, and the place behind. -/
def takeWhile (condition : Char → Bool) : Nat → Text → Except Failure (Text × Text)
  | 0, text => return ([], text)
  | count + 1, text =>
    match first? text with
    | some (.plain c) =>
      if condition c then do
        let (more, rest) ← takeWhile condition count (← advance text)
        return (c :: more, rest)
      else return ([], text)
    | _ => return ([], text)

/-- The text up to a terminator, and the place behind that. `what` names it in messages. -/
def takeUntil (terminator : Char) (what : Text) (text : Text) : Except Failure (Text × Text) :=
  go text.length [] text
where
  go : Nat → Text → Text → Except Failure (Text × Text)
  | fuel, name, text => do
    let (token, rest) ← next text
    match token with
    | none =>
      if name.isEmpty then throw (Error.missingName what : Failure)
      else throw (Error.unterminatedName terminator : Failure)
    | some token =>
      if token = .plain terminator then
        if name.isEmpty then throw (Error.missingName what : Failure) else return (name, rest)
      else match fuel with
        | 0 => throw (Error.unterminatedName terminator : Failure)
        | fuel + 1 => go fuel (name ++ token.text) rest

end Token

end FilterTemplate.Regex
