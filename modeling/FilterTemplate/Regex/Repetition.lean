import FilterTemplate.Regex.Attempt

/-!
# Repetitions

A greedy repetition has as many iterations as possible and gives them back one by one; a lazy one
has as few as possible and takes one more at a time; a possessive one has as many as possible and
keeps them. A repetition goes on only while it moves: an iteration beyond the required ones that
ends where it started is the last one.

The iterations of a single character are counted ahead, before what follows is tried. Those of
anything else are attempts of their own.
-/

namespace FilterTemplate.Regex

/-! ## Of a single character -/

namespace Many

/-- The place that is noted while characters are counted from `start` up to `stop`. -/
def noted (test : CharTest) (start stop : Cursor) : Cursor :=
  if test.isStepwise then stop else start

/-- Tries what follows where the state stands, unless it starts with another character than the one
there. -/
def attempt (context : Context) (saved : Marks) (follow : Follow) (state : State) : Outcome :=
  if context.next.any CharTest.isLiteral && !state.spot.sees context.next then state.fail
  else (follow state.note).orElse fun trace => .failed (trace.restore context.looping saved)

/-- Gives characters back, `extra` of them at most. -/
def giveBack (attempt : Follow) : Nat → State → Outcome
  | 0, state => attempt state
  | extra + 1, state =>
    (attempt state).orElse fun trace =>
      giveBack attempt extra (trace.resume ((state.spot.back? 1).getD state.spot))

/-- Takes more characters out of `after`, `more` of them at most. -/
def takeMore (test : CharTest) (attempt : Follow) :
    Option Nat → Text → Nat → Text → Trace → Outcome
  | _, before, pos, [], trace =>
    (attempt (trace.resume ⟨before, [], pos⟩)).failingAt ⟨before, [], pos⟩
  | more, before, pos, c :: after, trace =>
    let spot : Cursor := ⟨before, c :: after, pos⟩
    (attempt (trace.resume spot)).orElse fun trace =>
      if !test.accepts c then .failed { trace with noted := spot }
      else if more = some 0 then
        .failed { trace with noted := noted test spot ⟨c :: before, after, pos + 1⟩ }
      else takeMore test attempt (more.map (· - 1)) (c :: before) (pos + 1) after trace

end Many

/-- The repetition of a single character. -/
def many (context : Context) (greed : Greed) (least : Nat) (most : Option Nat) (test : CharTest) :
    Matcher := fun state follow =>
  let spot := state.spot
  if !spot.hasRoom least then state.fail
  else
    let limit := if greed = .lazy then some least else most
    let stop := spot.sweep test.accepts limit
    let counted : State := { state with spot := stop, noted := Many.noted test spot stop }
    if stop.pos < spot.pos + least then counted.fail
    else match greed with
      | .greedy =>
        let extra := stop.pos - spot.pos - least
        Many.giveBack (Many.attempt context state.marks follow) extra counted
      | .lazy =>
        Many.takeMore test (Many.attempt { context with next := none } state.marks follow)
          (most.map (· - least)) stop.before stop.pos stop.after counted.toTrace
      | .possessive => follow counted

/-! ## Of anything else -/

namespace Loop

/-- The required iterations, and then what `further` ones there are. -/
def require (body further : Matcher) : Nat → Matcher
  | 0, state, follow => further state follow
  | count + 1, state, follow =>
    (body state.note fun reached => require body further count reached follow).failingAt state.spot

/-- Further iterations, `left` of them at most, as many as possible first. `last` is where the
iteration before started. -/
def greedy (body : Matcher) : Nat → Option Nat → Matcher
  | 0, _, state, follow => (follow state.note).failingAt state.spot
  | left + 1, last, state, follow =>
    if last = some state.spot.pos then (follow state.note).failingAt state.spot
    else
      (body state.note fun reached => greedy body left (some state.spot.pos) reached follow).orElse
        fun _ => (follow state.note).failingAt state.spot

/-- Further iterations, `left` of them at most, as few as possible first. -/
def lazy (looping : Bool) (body : Matcher) : Nat → Option Nat → Matcher
  | 0, _, state, follow =>
    ((follow state.note).orElse fun trace =>
      .failed (trace.restore looping state.marks)).failingAt state.spot
  | left + 1, last, state, follow =>
    ((follow state.note).orElse fun trace =>
      let trace := trace.restore looping state.marks
      if last = some state.spot.pos then .failed trace
      else
        body (trace.resume state.spot).note fun reached =>
          lazy looping body left (some state.spot.pos) reached follow).failingAt state.spot

/-- Exactly so many iterations, each in its preferred way only, from the noted place on. -/
def once (body : Matcher) : Nat → Trace → Outcome
  | 0, trace => .reached trace
  | count + 1, trace =>
    match body (trace.resume trace.noted) State.finish with
    | .reached trace => once body count trace
    | .failed trace => .failed trace

/-- As many further iterations as there are, `left` of them at most, each in its preferred way only.
The one that fails takes its marks back, and the repetition ends at the place that it noted. -/
def possessive (body : Matcher) : Nat → Option Nat → Trace → Trace
  | 0, _, trace => trace
  | left + 1, last, trace =>
    if last = some trace.noted.pos then trace
    else match body (trace.resume trace.noted) State.finish with
      | .reached reached => possessive body left (some trace.noted.pos) reached
      | .failed failed => { failed with marks := trace.marks }

end Loop

/-- A repetition, of which `body` is one iteration. -/
def loop (context : Context) (greed : Greed) (least : Nat) (most : Option Nat) (body : Matcher) :
    Matcher := fun state follow =>
  let left := (most.map (· - least)).getD context.patience
  match greed with
  | .greedy => Loop.require body (Loop.greedy body left none) least state follow
  | .lazy => Loop.require body (Loop.lazy context.looping body left none) least state follow
  | .possessive =>
    match Loop.once body least state.note.toTrace with
    | .failed trace => .failed { trace with noted := state.spot }
    | .reached trace =>
      let trace := Loop.possessive body left none trace
      follow (trace.resume trace.noted)

end FilterTemplate.Regex
