import FilterTemplate.Regex.Node

/-!
# Places in a text

A cursor parts its text in two: the characters before it, nearest first, and the characters after
it. Moving forward takes a character from the second part to the first, so `Cursor.text` never
changes. What lies between two cursors of a text are the first characters after the one that comes
first.
-/

namespace FilterTemplate.Regex

structure Cursor where
  before : Text
  after : Text
  /-- How many characters are before the cursor. -/
  pos : Nat

namespace Cursor

def start (text : Text) : Cursor := ⟨[], text, 0⟩

/-- The whole text. -/
def text (spot : Cursor) : Text := spot.before.reverse ++ spot.after

/-- The character after the cursor and the cursor behind it, unless the text is at its end. -/
def next? : Cursor → Option (Char × Cursor)
  | ⟨_, [], _⟩ => none
  | ⟨before, c :: after, pos⟩ => some (c, ⟨c :: before, after, pos + 1⟩)

theorem text_next? : ∀ {spot behind : Cursor} {c : Char}, spot.next? = some (c, behind) →
    behind.text = spot.text
  | ⟨_, [], _⟩, _, _, h => by simp [next?] at h
  | ⟨_, _ :: _, _⟩, _, _, h => by
    simp only [next?, Option.some.injEq, Prod.mk.injEq] at h
    obtain ⟨rfl, rfl⟩ := h
    simp [text]

/-- The cursor so many characters back, if the text has them. -/
def back? : Nat → Cursor → Option Cursor
  | 0, spot => some spot
  | _ + 1, ⟨[], _, _⟩ => none
  | count + 1, ⟨c :: before, after, pos⟩ => back? count ⟨before, c :: after, pos - 1⟩

theorem text_back? : ∀ {count : Nat} {spot back : Cursor}, spot.back? count = some back →
    back.text = spot.text
  | 0, _, _, h => by
    simp only [back?, Option.some.injEq] at h
    rw [h]
  | _ + 1, ⟨[], _, _⟩, _, h => by simp [back?] at h
  | count + 1, ⟨c :: before, after, pos⟩, back, h => by
    have earlier : back.text = (⟨before, c :: after, pos - 1⟩ : Cursor).text := text_back? h
    rw [earlier]
    simp [text]

/-- The cursor behind the characters that are accepted, at most `limit` of them. -/
def sweep (accepts : Char → Bool) (limit : Option Nat) (spot : Cursor) : Cursor :=
  go limit spot.before spot.pos spot.after
where
  go : Option Nat → Text → Nat → Text → Cursor
  | _, before, pos, [] => ⟨before, [], pos⟩
  | limit, before, pos, c :: after =>
    if limit ≠ some 0 ∧ accepts c then go (limit.map (· - 1)) (c :: before) (pos + 1) after
    else ⟨before, c :: after, pos⟩

/-- The cursor behind the first `count` characters of a text, if they come next. Characters are
compared by their keys. -/
def behindSame (fold : Fold) : Nat → Text → Cursor → Option Cursor
  | 0, _, spot => some spot
  | _ + 1, [], _ => none
  | count + 1, c :: rest, spot =>
    match spot.next? with
    | none => none
    | some (d, beyond) =>
      if fold.key c.toNat = fold.key d.toNat then behindSame fold count rest beyond else none

/-- Whether so many characters are left after the cursor. -/
def hasRoom (count : Nat) (spot : Cursor) : Bool :=
  count == 0 || !(spot.after.drop (count - 1)).isEmpty

/-- Whether the next character meets the test, if there is one to meet. -/
def sees (spot : Cursor) (test : Option CharTest) : Bool :=
  test.all fun test => spot.after.head?.any test.accepts

/-- Whether the character, if there is one, belongs to a word. -/
def isWord (ascii : Bool) : Option Char → Bool
  | none => false
  | some c => Category.word.holds ascii c.toNat

/-- Whether the condition holds at the cursor. An empty text has no word boundary, and no place that
is none. -/
def holds (spot : Cursor) : Site → Bool
  | .textStart => spot.before.isEmpty
  | .lineStart => spot.before.isEmpty || spot.before.head? == some '\n'
  | .textEnd => spot.after.isEmpty
  | .lineEnd => spot.after.isEmpty || spot.after.head? == some '\n'
  | .lastLineEnd => spot.after.isEmpty || spot.after == ['\n']
  | .boundary ascii negated =>
    !(spot.before.isEmpty && spot.after.isEmpty) &&
      (isWord ascii spot.before.head? != isWord ascii spot.after.head?) != negated

end Cursor

end FilterTemplate.Regex
