import FilterTemplate.Regex.Group
import FilterTemplate.Regex.Syntax
import FilterTemplate.Regex.Token
import FilterTemplate.Unicode.Name

/-!
# Reading a pattern

A pattern is read from left to right. `Reading` is what is known at a place of it: the text behind
the place, the flags that hold for the whole pattern, and the groups so far. Nothing is looked at
twice, except that a brace which opens no repetition is read again as itself.

The recursive readers take fuel. One call hands on one unit less than it got and reads at least one
token, or it only passes from a list of alternatives to a sequence or from an open parenthesis to
its contents; `Regex.fuelFor` leaves room for all of these.
-/

namespace FilterTemplate.Regex

/-- What is known at a place of the pattern. -/
structure Reading where
  /-- The text from the place on. -/
  rest : Text
  /-- The flags of the whole pattern. -/
  flags : Flags := .none
  /-- The groups opened so far, with the width of those that are closed. -/
  groups : List (Option Width) := []
  /-- The named groups. -/
  names : List (Text × Nat) := []
  /-- Inside a look-behind, how many groups were opened before it. -/
  behind : Option Nat := none
  /-- The groups that conditions ask for by number. -/
  asked : List Nat := []

abbrev Reader := StateT Reading (Except Failure)

namespace Reader

def fail {α : Type} (error : Error) : Reader α := throw (.malformed error)

/-- The next token, if there is one, which is left to be read. -/
def peek : Reader (Option Token) := return Token.first? (← get).rest

/-- Lets a reader of tokens read on. -/
def tokens {α : Type} (read : Text → Except Failure (α × Text)) : Reader α := do
  let (result, rest) ← read (← get).rest
  modify ({ · with rest })
  return result

def next : Reader (Option Token) := tokens Token.next

/-- Reads the character if it comes next, and says whether it did. -/
def accept (c : Char) : Reader Bool := do
  match ← Token.accept c (← get).rest with
  | some rest =>
    modify ({ · with rest })
    return true
  | none => return false

def takeWhile (condition : Char → Bool) (count : Nat) : Reader Text :=
  tokens (Token.takeWhile condition count)

def takeUntil (terminator : Char) (what : Text) : Reader Text :=
  tokens (Token.takeUntil terminator what)

end Reader

open Reader

/-! ## Groups -/

def groupName : Text := "group name".toList

/-- A name that ends at the terminator and is an identifier. -/
def identifier (terminator : Char) : Reader Text := do
  let name ← takeUntil terminator groupName
  if Unicode.isIdentifier name then return name else fail (.badGroupName name)

/-- The width of a group, if it is closed. -/
def closedWidth? (group : Nat) : Reader (Option Width) :=
  return ((← get).groups[group - 1]?).join

/-- Inside a look-behind only groups from before it can be asked for. -/
def checkBehind (group : Nat) : Reader Unit := do
  match (← get).behind with
  | none => return
  | some count =>
    if (← closedWidth? group).isNone then fail .openGroupReference
    if count < group then fail .lookBehindReference

/-- A reference to a group that has been opened. -/
def reference (group : Nat) : Reader Expr := do
  match ← closedWidth? group with
  | none => fail .openGroupReference
  | some width =>
    checkBehind group
    return .reference group width

/-- Opens a group, with a name if it has one, and gives its number. -/
def openGroup (name : Option Text) : Reader Nat := do
  let index := (← get).groups.length + 1
  match name with
  | none => modify fun r => { r with groups := r.groups ++ [none] }
  | some name =>
    match (← get).names.lookup name with
    | some earlier => fail (.duplicateGroupName name index earlier)
    | none =>
      modify fun r =>
        { r with groups := r.groups ++ [none], names := r.names ++ [(name, index)] }
  return index

def closeGroup (index : Nat) (width : Width) : Reader Unit :=
  modify fun r => { r with groups := r.groups.set (index - 1) (some width) }

/-- The group that a condition asks for, by name or by number. -/
def conditionGroup : Reader Nat := do
  let name ← takeUntil ')' groupName
  let group ←
    if Unicode.isIdentifier name then
      match (← get).names.lookup name with
      | some group => pure group
      | none => fail (.unknownGroupName name)
    else match GroupNumber.read? name with
      | none => fail (.badGroupName name)
      | some 0 => fail .badGroupNumber
      | some group =>
        if maxGroups ≤ group then fail (.invalidReference group)
        modify fun r => { r with asked := r.asked ++ [group] }
        pure group
  checkBehind group
  return group

/-! ## Escapes -/

def isOctalDigit (c : Char) : Bool := decide ('0' ≤ c) && decide (c ≤ '7')

def isAsciiLetter (c : Char) : Bool :=
  decide ('a' ≤ c) && decide (c ≤ 'z') || decide ('A' ≤ c) && decide (c ≤ 'Z')

/-- The value of a hexadecimal digit. -/
def hexDigit? (c : Char) : Option Nat :=
  if Numeral.isDigit c then some (c.toNat - 48)
  else if 'a' ≤ c ∧ c ≤ 'f' then some (c.toNat - 87)
  else if 'A' ≤ c ∧ c ≤ 'F' then some (c.toNat - 55)
  else none

def hexValue (digits : Text) : Nat :=
  digits.foldl (fun n c => 16 * n + (hexDigit? c).getD 0) 0

def octalValue (digits : Text) : Nat :=
  digits.foldl (fun n c => 8 * n + Numeral.digitValue c) 0

/-- The controls, and the backslash, that an escape names by a character. -/
def namedControl? (c : Char) : Option Nat :=
  if c = 'a' then some 7
  else if c = 'b' then some 8
  else if c = 'f' then some 12
  else if c = 'n' then some 10
  else if c = 'r' then some 13
  else if c = 't' then some 9
  else if c = 'v' then some 11
  else if c = '\\' then some 92
  else none

/-- The kind of characters that an escape stands for. -/
def category? (c : Char) : Option Member :=
  if c = 'd' then some (.category .digit false)
  else if c = 'D' then some (.category .digit true)
  else if c = 's' then some (.category .space false)
  else if c = 'S' then some (.category .space true)
  else if c = 'w' then some (.category .word false)
  else if c = 'W' then some (.category .word true)
  else none

/-- The condition that an escape stands for outside of a set. -/
def anchor? (c : Char) : Option Anchor :=
  if c = 'A' then some .textStart
  else if c = 'b' then some .wordBoundary
  else if c = 'B' then some .noWordBoundary
  else if c = 'Z' then some .textEnd
  else none

/-- The code point that exactly `count` hexadecimal digits give. -/
def hexEscape (letter : Char) (count : Nat) : Reader Nat := do
  let digits ← takeWhile (hexDigit? · |>.isSome) count
  if digits.length = count then
    if 0x110000 ≤ hexValue digits then fail (.badEscape ('\\' :: letter :: digits))
    return hexValue digits
  else fail (.incompleteEscape ('\\' :: letter :: digits))

/-- The code point of an octal escape, of which the digits are given. -/
def octalEscape (digits : Text) : Reader Nat :=
  if 0o377 < octalValue digits then fail (.octalTooLarge ('\\' :: digits))
  else return octalValue digits

/-- A character given by its name. -/
def nameEscape : Reader Nat := do
  if ← accept '\x7b' then
    let name ← takeUntil '\x7d' "character name".toList
    match Unicode.codeNamed? name with
    | some code => return code
    | none => fail (.undefinedCharacterName name)
  else fail .missingBrace

/-- The code point of an escape that means the same inside of a set and outside. -/
def commonEscape (c : Char) : Reader Nat :=
  if c = 'x' then hexEscape c 2
  else if c = 'u' then hexEscape c 4
  else if c = 'U' then hexEscape c 8
  else if c = 'N' then nameEscape
  else if isAsciiLetter c || Numeral.isDigit c then fail (.badEscape ['\\', c])
  else return c.toNat

/-- An escape inside of a set. -/
def setEscape (c : Char) : Reader Member := do
  match namedControl? c with
  | some code => return .char code
  | none =>
    match category? c with
    | some member => return member
    | none =>
      if isOctalDigit c then
        return .char (← octalEscape (c :: (← takeWhile isOctalDigit 2)))
      else return .char (← commonEscape c)

/-- An escape that starts with a digit other than zero: three octal digits are a character, any
other one or two digits the number of a group. -/
def digitEscape (c : Char) : Reader Expr := do
  let second ← takeWhile Numeral.isDigit 1
  let third ←
    if isOctalDigit c && second.any isOctalDigit then takeWhile isOctalDigit 1 else pure []
  if third.isEmpty then
    let group := Numeral.value (c :: second)
    if group ≤ (← get).groups.length then reference group
    else fail (.invalidReference group)
  else return .char false (← octalEscape (c :: second ++ third))

/-- An escape outside of a set. -/
def escape (c : Char) : Reader Expr := do
  match anchor? c, category? c, namedControl? c with
  | some anchor, _, _ => return .anchor anchor
  | none, some member, _ => return .set false [member]
  | none, none, some code => return .char false code
  | none, none, none =>
    if c = '0' then return .char false (octalValue (c :: (← takeWhile isOctalDigit 2)))
    else if Numeral.isDigit c then digitEscape c
    else return .char false (← commonEscape c)

/-! ## Sets -/

/-- One end of a range, or a single member: the token as a member. -/
def setToken : Token → Reader Member
  | .plain c => return .char c.toNat
  | .escaped c => setEscape c

/-- The range between two members. -/
def rangeBetween (first last : Token) (low high : Member) : Reader Member :=
  match low, high with
  | .char low, .char high =>
    if high < low then fail (.badRange first.text last.text) else return .range low high
  | _, _ => fail (.badRange first.text last.text)

/-- The members up to the bracket that closes the set. A bracket that comes first is a member, and
so is a hyphen in front of the closing bracket. -/
def setMembers : Nat → List Member → Reader (List Member)
  | 0, _ => fail .unterminatedSet
  | fuel + 1, members => do
    match ← next with
    | none => fail .unterminatedSet
    | some token =>
      if token = .plain ']' && !members.isEmpty then return members
      let low ← setToken token
      if ← accept '-' then
        match ← next with
        | none => fail .unterminatedSet
        | some (.plain ']') => return members ++ [low, .char '-'.toNat]
        | some other =>
          let range ← rangeBetween token other low (← setToken other)
          setMembers fuel (members ++ [range])
      else setMembers fuel (members ++ [low])

/-- A set, of which the opening bracket is read. A set of one character is that character. -/
def characterSet : Reader Expr := do
  let negated ← accept '^'
  let members ← setMembers ((← get).rest.length + 1) []
  match members.eraseDups with
  | [.char c] => return .char negated c
  | distinct => return .set negated distinct

/-! ## Repetitions -/

/-- The bound that the digits give. -/
def repetitionBound (digits : Text) : Reader Nat := do
  match Numeral.read digits with
  | .error tooLong => throw (.numeralTooLong tooLong)
  | .ok n => if Width.limit ≤ n then throw .repetitionTooLarge else return n

/-- The bounds of a repetition between braces, of which the opening one is read. Where the text is
none, nothing is read. -/
def bracedBounds : Reader (Option (Nat × Option Nat)) := do
  let start ← get
  if (← peek) = some (.plain '\x7d') then return none
  let length := start.rest.length
  let low ← takeWhile Numeral.isDigit length
  let high ← if ← accept ',' then takeWhile Numeral.isDigit length else pure low
  if ← accept '\x7d' then
    let least ← if low.isEmpty then pure 0 else repetitionBound low
    if high.isEmpty then return some (least, none)
    let most ← repetitionBound high
    if most < least then fail .minimumAboveMaximum
    return some (least, some most)
  else
    set start
    return none

/-- The bounds of the repetition that a character stands for, if it is one. -/
def repetition? (c : Char) : Reader (Option (Nat × Option Nat)) :=
  if c = '?' then return some (0, some 1)
  else if c = '*' then return some (0, none)
  else if c = '+' then return some (1, none)
  else bracedBounds

/-- Which number of repetitions is tried first, as the character behind a repetition says. -/
def repetitionGreed : Reader Greed := do
  if ← accept '?' then return .lazy
  else if ← accept '+' then return .possessive
  else return .greedy

/-- The repetition of an item. -/
def repeated (least : Nat) (most : Option Nat) : List Expr → Reader (List Expr)
  | [] => fail .nothingToRepeat
  | .anchor _ :: _ => fail .nothingToRepeat
  | .loop _ _ _ _ :: _ => fail .multipleRepeat
  | item :: before => do
    return .loop (← repetitionGreed) least most item.ungrouped :: before

/-! ## What a parenthesis opens -/

/-- The flag that a letter names. -/
def flag? (c : Char) : Option Flags :=
  if c = 'i' then some { ignoreCase := true }
  else if c = 'm' then some { multiLine := true }
  else if c = 's' then some { dotAll := true }
  else if c = 'x' then some { verbose := true }
  else if c = 'a' then some { ascii := true }
  else if c = 'u' then some { unicode := true }
  else if c = 't' then some { template := true }
  else none

/-- The letters of flags, of which one is not for patterns of text. -/
def isFlagLetter (c : Char) : Bool := c = 'L' || (flag? c).isSome

/-- The error for a token that is no flag. -/
def noFlag (token : Token) (otherwise : Error) : Error :=
  match token with
  | .plain c => if Unicode.isLetter c.toNat then .unknownFlag else otherwise
  | .escaped _ => otherwise

/-- The flags that are switched on from the letter `c` on, and the character that ends them. -/
def addedFlags : Nat → Flags → Char → Reader (Flags × Char)
  | 0, _, _ => fail .missingFlagOrEnd
  | fuel + 1, flags, c => do
    match flag? c with
    | none => fail .localeFlag
    | some flag =>
      let flags := flags.union flag
      if flags.ascii && flags.unicode then fail .incompatibleFlags
      match ← next with
      | none => fail .missingFlagOrEnd
      | some token =>
        match token with
        | .plain d =>
          if d = ')' || d = '-' || d = ':' then return (flags, d)
          else if isFlagLetter d then addedFlags fuel flags d
          else fail (noFlag token .missingFlagOrEnd)
        | .escaped _ => fail .missingFlagOrEnd

/-- The flags that are switched off from the letter `c` on, up to a colon. -/
def removedFlags : Nat → Flags → Char → Reader Flags
  | 0, _, _ => fail .missingColon
  | fuel + 1, flags, c => do
    match flag? c with
    | none => fail .typeFlagRemoved
    | some flag =>
      if flag.ascii || flag.unicode then fail .typeFlagRemoved
      let flags := flags.union flag
      match ← next with
      | none => fail .missingColon
      | some token =>
        match token with
        | .plain d =>
          if d = ':' then return flags
          else if isFlagLetter d then removedFlags fuel flags d
          else fail (noFlag token .missingColon)
        | .escaped _ => fail .missingColon

/-- The flags that are switched off behind a hyphen. -/
def removedBehindHyphen : Reader Flags := do
  match ← next with
  | none => fail .missingFlag
  | some token =>
    match token with
    | .plain c =>
      if isFlagLetter c then removedFlags ((← get).rest.length + 1) .none c
      else fail (noFlag token .missingFlag)
    | .escaped _ => fail .missingFlag

/-- What an open parenthesis turns out to open. -/
inductive Opening
  | nothing
  | globalFlags
  | item (item : Expr)
  | capture (name : Option Text)
  | scope (added removed : Flags)
  | atomic
  | look (behind positive : Bool)
  | conditional (group : Nat)

/-- Flags, of which the first letter or the hyphen is read: for the whole pattern or for a group. -/
def flagsOpening (c : Char) : Reader Opening := do
  let (added, terminator) ←
    if c = '-' then pure (Flags.none, '-') else addedFlags ((← get).rest.length + 1) .none c
  if terminator = ')' then
    modify fun r => { r with flags := r.flags.union added }
    return .globalFlags
  if added.template then fail .globalFlagScoped
  let removed ← if terminator = '-' then removedBehindHyphen else pure .none
  if removed.template then fail .globalFlagRemoved
  if added.meet removed then fail .flagAddedAndRemoved
  return .scope added removed

/-- A comment, up to the parenthesis that closes it. -/
def skipComment : Nat → Reader Unit
  | 0 => fail .unterminatedComment
  | fuel + 1 => do
    match ← peek with
    | none => fail .unterminatedComment
    | some token =>
      let _ ← next
      if token = .plain ')' then return else skipComment fuel

/-- A named group or a reference by name. -/
def namedOpening : Reader Opening := do
  if ← accept '<' then return .capture (some (← identifier '>'))
  else if ← accept '=' then
    let name ← identifier ')'
    match (← get).names.lookup name with
    | none => fail (.unknownGroupName name)
    | some group => return .item (← reference group)
  else match ← next with
    | none => fail .unexpectedEnd
    | some token => fail (.unknownExtension ('P' :: token.text))

/-- A look-behind. -/
def behindOpening : Reader Opening := do
  match ← next with
  | none => fail .unexpectedEnd
  | some token =>
    if token = .plain '=' then return .look true true
    else if token = .plain '!' then return .look true false
    else fail (.unknownExtension ('<' :: token.text))

/-- What stands behind an open parenthesis and a question mark. -/
def extension : Reader Opening := do
  match ← next with
  | none => fail .unexpectedEnd
  | some (.escaped c) => fail (.unknownExtension ['\\', c])
  | some (.plain c) =>
    if c = 'P' then namedOpening
    else if c = ':' then return .scope .none .none
    else if c = '#' then
      skipComment ((← get).rest.length + 1)
      return .nothing
    else if c = '=' then return .look false true
    else if c = '!' then return .look false false
    else if c = '<' then behindOpening
    else if c = '(' then return .conditional (← conditionGroup)
    else if c = '>' then return .atomic
    else if isFlagLetter c || c = '-' then flagsOpening c
    else fail (.unknownExtension [c])

/-- What an open parenthesis, which is read, opens. -/
def opening : Reader Opening := do
  if ← accept '?' then extension else return .capture none

/-- The parenthesis that closes a group. -/
def closing : Reader Unit := do
  if ← accept ')' then return else fail .unterminatedGroup

/-! ## Sequences and alternatives -/

/-- Where a sequence stands: whether blanks and comments are skipped in it, and whether it is the
first one of the whole pattern, where flags for all of it can be set. -/
structure Place where
  verbose : Bool
  first : Bool := false

def skipLine : Nat → Reader Unit
  | 0 => return
  | fuel + 1 => do
    match ← next with
    | none => return
    | some token => if token = .plain '\n' then return else skipLine fuel

mutual

/-- The items up to a bar, a closing parenthesis or the end. `items` has those before, the latest
one first. -/
def sequence : Nat → Place → List Expr → Reader (List Expr)
  | 0, _, _ => fail .unexpectedEnd
  | fuel + 1, place, items => do
    match ← peek with
    | none | some (.plain '|') | some (.plain ')') => return Expr.spliced items.reverse
    | some token =>
      let _ ← next
      match token with
      | .escaped c => sequence fuel place ((← escape c) :: items)
      | .plain c =>
        if place.verbose && GroupNumber.isAsciiBlank c then sequence fuel place items
        else if place.verbose && c = '#' then
          skipLine ((← get).rest.length + 1)
          sequence fuel place items
        else if c = '[' then sequence fuel place ((← characterSet) :: items)
        else if c = '.' then sequence fuel place (.any :: items)
        else if c = '^' then sequence fuel place (.anchor .caret :: items)
        else if c = '$' then sequence fuel place (.anchor .dollar :: items)
        else if c = '(' then
          match ← opening with
          | .nothing => sequence fuel place items
          | .globalFlags =>
            if !place.first || !items.isEmpty then fail .globalFlagsInside
            sequence fuel { place with verbose := (← get).flags.verbose } items
          | opened => sequence fuel place ((← contents fuel place opened) :: items)
        else if c = '*' || c = '+' || c = '?' || c = '\x7b' then
          match ← repetition? c with
          | none => sequence fuel place (.char false c.toNat :: items)
          | some (least, most) => sequence fuel place (← repeated least most items)
        else sequence fuel place (.char false c.toNat :: items)

/-- The item that an open parenthesis makes of what it holds. -/
def contents : Nat → Place → Opening → Reader Expr
  | 0, _, _ => fail .unexpectedEnd
  | fuel + 1, place, opened => do
    match opened with
    | .item item => return item
    | .capture name =>
      let index ← openGroup name
      let body ← alternatives fuel { verbose := place.verbose } []
      closing
      closeGroup index body.width
      return .group (some index) .none .none body
    | .scope added removed =>
      let verbose := (place.verbose || added.verbose) && !removed.verbose
      let body ← alternatives fuel { verbose } []
      closing
      return .group none added removed body
    | .atomic =>
      let body ← alternatives fuel { verbose := place.verbose } []
      closing
      return .atomic body
    | .look behind positive =>
      let outer := (← get).behind
      if behind && outer.isNone then
        modify fun r => { r with behind := some r.groups.length }
      let body ← alternatives fuel { verbose := place.verbose } []
      modify ({ · with behind := outer })
      closing
      return .look behind positive body
    | .conditional group =>
      let yes ← sequence fuel { verbose := place.verbose } []
      let no ←
        if ← accept '|' then
          let no ← sequence fuel { verbose := place.verbose } []
          if (← peek) = some (.plain '|') then fail .tooManyBranches
          pure no
        else pure []
      closing
      return .conditional group (.ofItems yes) (.ofItems no)
    | .nothing | .globalFlags => return .empty

/-- The alternatives up to a closing parenthesis or the end, behind those in `before`. -/
def alternatives : Nat → Place → List (List Expr) → Reader Expr
  | 0, _, _ => fail .unexpectedEnd
  | fuel + 1, place, before => do
    let branches := before ++ [← sequence fuel place []]
    if ← accept '|' then alternatives fuel { place with first := false } branches
    else return .ofItems (Expr.joined branches)

end

/-- Room for the calls that reading a text takes. -/
def fuelFor (source : Text) : Nat := 4 * source.length + 8

/-- The alternatives of the whole pattern. From the second one on, whether blanks are skipped is
what the flags of the whole pattern say. -/
def topAlternatives : Nat → List (List Expr) → Reader Expr
  | 0, _ => fail .unexpectedEnd
  | fuel + 1, before => do
    let place := { verbose := (← get).flags.verbose, first := before.isEmpty }
    let branches := before ++ [← sequence (fuelFor (← get).rest) place []]
    if ← accept '|' then topAlternatives fuel branches
    else return .ofItems (Expr.joined branches)

/-- Reads a whole pattern. -/
def wholePattern : Reader Expr := do
  let expr ← topAlternatives ((← get).rest.length + 2) []
  let reading ← get
  if reading.flags.ascii && reading.flags.unicode then throw .contradictoryFlags
  if (← peek).isSome then fail .unbalancedParenthesis
  match reading.asked.find? (reading.groups.length < ·) with
  | some group => fail (.invalidReference group)
  | none => return expr

/-- The expression that a text stands for, and what is known at its end. -/
def parse (source : Text) : Except Failure (Expr × Reading) := do
  wholePattern.run { rest := ← Token.place source }

end FilterTemplate.Regex
