import FilterTemplate.Regex.Cursor

/-!
# What the groups have captured

Each group has two marks, one where its capture started and one where it stopped. The marks are a
list, those of group 1 first, and reach no further than the last one that was set: cutting the list
takes back the marks of the groups that came later.
-/

namespace FilterTemplate.Regex

abbrev Marks := List (Option Cursor)

namespace Marks

/-- Sets a mark. The marks before it that were not set stay without a place. -/
def put (spot : Cursor) : Nat → Marks → Marks
  | 0, [] => [some spot]
  | 0, _ :: rest => some spot :: rest
  | index + 1, [] => none :: put spot index []
  | index + 1, mark :: rest => mark :: put spot index rest

/-- Starts the capture of a group. -/
def enter (group : Nat) (spot : Cursor) (marks : Marks) : Marks := marks.put spot (2 * (group - 1))

/-- Stops the capture of a group. -/
def leave (group : Nat) (spot : Cursor) (marks : Marks) : Marks :=
  marks.put spot (2 * (group - 1) + 1)

/-- The two marks of a group that has been captured. -/
def span? (marks : Marks) (group : Nat) : Option (Cursor × Cursor) :=
  match marks[2 * (group - 1)]?, marks[2 * (group - 1) + 1]? with
  | some (some start), some (some stop) => some (start, stop)
  | _, _ => none

/-- What a group holds, as the start of a text and a length. A group that has been entered again and
not left holds nothing. -/
def held? (marks : Marks) (group : Nat) : Option (Text × Nat) :=
  (marks.span? group).bind fun (start, stop) =>
    if start.pos ≤ stop.pos then some (start.after, stop.pos - start.pos) else none

/-- The text that a group holds. -/
def captured? (marks : Marks) (group : Nat) : Option Text :=
  (marks.held? group).map fun (text, length) => text.take length

/-- Whether a group stops before it starts. -/
def tangled : Marks → Bool
  | some start :: some stop :: rest => decide (stop.pos < start.pos) || tangled rest
  | _ :: _ :: rest => tangled rest
  | _ => false

/-- The marks after an attempt that failed, which started with `saved` and ended with `marks`.
Inside of a repetition they are what they were; elsewhere it is enough to cut off what is new, and a
mark that was moved stays where it is. -/
def restore (looping : Bool) (saved marks : Marks) : Marks :=
  if looping then saved else marks.take saved.length

end Marks

end FilterTemplate.Regex
