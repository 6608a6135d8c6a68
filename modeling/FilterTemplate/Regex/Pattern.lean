import FilterTemplate.Regex.Match
import FilterTemplate.Regex.Reader

/-!
# Patterns and their matches

The leftmost match of a pattern is found by running it at one place after the other. The matches of
a text follow each other: each search starts where the last match stopped, and after an empty match
the next one must not be empty at that same place. So an empty match may stand directly behind a
match that is not empty, and no place has two empty ones. A match can stop before it starts, if it
ends with a possessive repetition whose last iteration looked back; it takes no text then.
-/

namespace FilterTemplate.Regex

structure Pattern where
  source : Text
  /-- How many groups there are. -/
  groups : Nat
  names : List (Text × Nat)
  node : Node
  /-- How many characters a match takes at least. -/
  least : Nat
  lead : Lead
  deriving DecidableEq, Repr

/-- A match: the cursor in front of it, the cursor behind it and what its groups hold. -/
structure Match where
  start : Cursor
  stop : Cursor
  marks : Marks

namespace Match

def isEmpty (m : Match) : Bool := m.stop.pos == m.start.pos

/-- The text that the match takes. -/
def text (m : Match) : Text := m.start.after.take (m.stop.pos - m.start.pos)

/-- The text that a group holds, where group 0 is the whole match; empty where it holds nothing. -/
def group (m : Match) : Nat → Text
  | 0 => m.text
  | index + 1 => (m.marks.captured? (index + 1)).getD []

/-- The text that the match takes, unless it cannot be shown, because one of its groups stops before
it starts. -/
def shown? (m : Match) : Option Text := if m.marks.tangled then none else some m.text

end Match

/-- Why the matches of a pattern give no text: one of them cannot be shown, or they do not come to
an end. -/
inductive Hitch
  | tangledGroup | endlessSearch
  deriving DecidableEq, Repr

/-- The text of a match or a replacement, if it can be shown. -/
def shownText : Option Text → Except Hitch Text
  | none => .error .tangledGroup
  | some text => .ok text

namespace Pattern

/-- Reads a pattern. -/
def compile (source : Text) : Except Failure Pattern := do
  let (expr, reading) ← parse source
  match expr.resolve reading.flags with
  | .error error => throw (.malformed error)
  | .ok node =>
    return {
      source, node
      groups := reading.groups.length
      names := reading.names
      least := expr.width.least
      lead := expr.lead reading.flags }

/-- The match at a place; where it has to advance, an empty one is not taken. -/
def matchAt (p : Pattern) (patience : Nat) (advance : Bool) (start : Cursor) : Option Match :=
  let outcome := p.node.run ⟨patience, false, none⟩ ⟨⟨start, []⟩, start⟩ fun reached =>
    if advance && reached.spot.pos == start.pos then reached.fail else reached.finish
  match outcome with
  | .reached trace => some ⟨start, trace.noted, trace.marks⟩
  | .failed _ => none

/-- Whether a match can start in front of the text. -/
def canStart (p : Pattern) (after : Text) : Bool :=
  match p.lead with
  | .set test => after.head?.any test.accepts
  | _ => true

/-- The leftmost match in `after`, in front of which `before` stands, nearest character first. It
starts at one of the first `room + 1` places. At the first place it may have to advance. -/
def searchFrom (p : Pattern) (patience : Nat) :
    (advance : Bool) → (before : Text) → (pos room : Nat) → (after : Text) → Option Match
  | advance, before, pos, room, after =>
    let found :=
      if p.canStart after then p.matchAt patience advance ⟨before, after, pos⟩ else none
    match found, room, after with
    | some found, _, _ => some found
    | none, room + 1, c :: after => searchFrom p patience false (c :: before) (pos + 1) room after
    | none, _, _ => none

/-- The leftmost match from a place on in a text of the given length. Where nothing is known of its
first character, the places that leave too few characters for it are not tried, except for the first
of these. -/
def next? (p : Pattern) (length : Nat) (advance : Bool) (spot : Cursor) : Option Match :=
  let left := length - spot.pos
  let room := if p.lead = .unknown then left - (p.least - 1) else left
  if left < p.least then none
  else p.searchFrom (length + 1) advance spot.before spot.pos room spot.after

/-- The leftmost match of a text. -/
def search (p : Pattern) (text : Text) : Option Match :=
  p.next? text.length false (.start text)

/-- The matches from a place on in a text of the given length, as many as the fuel allows. -/
def matchesFrom (p : Pattern) (length : Nat) : Nat → Bool → Cursor → List Match
  | 0, _, _ => []
  | fuel + 1, advance, spot =>
    match p.next? length advance spot with
    | none => []
    | some found => found :: matchesFrom p length fuel found.isEmpty found.stop

/-- In how many ways the search for a match goes on in a text: from each place, with a match that
may be empty and with one that may not. -/
def waysOn (text : Text) : Nat := 2 * text.length + 2

/-- The first matches of a text, as many as the search has ways to go on. -/
def firstMatches (p : Pattern) (text : Text) : List Match :=
  p.matchesFrom text.length (waysOn text) false (.start text)

/-- All matches of a text, if they come to an end. If the search has found a match in as many ways
as there are, it goes on in a way in which it went on before, and so for ever. Only matches that go
back bring it there. -/
def allMatches? (p : Pattern) (text : Text) : Option (List Match) :=
  let found := p.firstMatches text
  if found.length < waysOn text then some found else none

/-- The matches that are to be replaced: the first one, or all of them. -/
def replaced? (p : Pattern) (all : Bool) (text : Text) : Option (List Match) :=
  if all then p.allMatches? text else some (p.search text).toList

end Pattern

end FilterTemplate.Regex
