import FilterTemplate.Regex.Marks

/-!
# Attempts at a match

An attempt stands at a place of the text and knows the marks set so far. Besides, it notes a place
now and then: where an alternative, a repetition or a look at the text starts, and where one that is
complete stops. An attempt that fails leaves the noted place and the marks to the one that is tried
after it. The next attempt starts from a place of its own, and so the noted place is of no account,
except that a possessive repetition goes on from it.
-/

namespace FilterTemplate.Regex

/-- What an attempt leaves behind. -/
structure Trace where
  noted : Cursor
  marks : Marks

/-- How an attempt ends. One that reaches its end has noted it. -/
inductive Outcome
  | reached (trace : Trace)
  | failed (trace : Trace)

namespace Outcome

/-- Tries something else after a failure. -/
def orElse (outcome : Outcome) (otherwise : Trace → Outcome) : Outcome :=
  match outcome with
  | .reached trace => .reached trace
  | .failed trace => otherwise trace

/-- Notes the place after a failure. -/
def failingAt (spot : Cursor) (outcome : Outcome) : Outcome :=
  outcome.orElse fun trace => .failed { trace with noted := spot }

end Outcome

/-- An attempt on its way. -/
structure State extends Trace where
  spot : Cursor

namespace State

def fail (state : State) : Outcome := .failed state.toTrace

/-- Notes the place where the attempt stands. -/
def note (state : State) : State := { state with noted := state.spot }

/-- Ends the attempt where it stands. -/
def finish (state : State) : Outcome := .reached state.note.toTrace

def moveTo (state : State) (spot : Cursor) : State := { state with spot }

end State

namespace Trace

/-- Goes on from a place. -/
def resume (trace : Trace) (spot : Cursor) : State := { trace with spot }

/-- Takes marks back. -/
def restore (looping : Bool) (saved : Marks) (trace : Trace) : Trace :=
  { trace with marks := Marks.restore looping saved trace.marks }

end Trace

/-- What follows, given the state that has been reached. -/
abbrev Follow := State → Outcome

/-- What leads from a state on to what follows. -/
abbrev Matcher := State → Follow → Outcome

/-- What is known of the surroundings of a node. -/
structure Context where
  /-- How often a repetition without an upper bound is tried, at most. -/
  patience : Nat
  /-- Whether the node is inside of a repetition that gives iterations back. -/
  looping : Bool
  /-- The direct test that comes behind the node. -/
  next : Option CharTest

end FilterTemplate.Regex
