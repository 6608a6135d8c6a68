import FilterTemplate.Regex.Repetition

/-!
# Matching by backtracking

A node is run at a state together with what is to follow it, which says whether the states that the
node leads to are of use. The node offers them one after the other, the preferred one first, and the
first that is taken decides. So the order of the alternatives and of the repetitions is the order in
which matches are found.

An atomic group, a look at the text and the iterations of a possessive repetition are attempts of
their own: they end where they are complete, whatever follows, and no other way through them is
tried later.
-/

namespace FilterTemplate.Regex

/-- Goes on after a look at the text, which started at `state`, moves nothing and ended so. -/
def looked (context : Context) (positive : Bool) (state : State) (follow : Follow) :
    Outcome → Outcome
  | .reached trace => if positive then follow (trace.resume state.spot) else .failed trace
  | .failed trace =>
    if positive then .failed trace
    else follow ((trace.restore context.looping state.marks).resume state.spot)

/-- Runs a node. -/
def Node.run : Node → Context → Matcher
  | .empty, _, state, follow => follow state
  | .one test, _, state, follow =>
    match state.spot.next? with
    | none => state.fail
    | some (c, beyond) => if test.accepts c then follow (state.moveTo beyond) else state.fail
  | .site condition, _, state, follow =>
    if state.spot.holds condition then follow state else state.fail
  | .seq first rest, context, state, follow =>
    first.run { context with next := rest.lead context.next } state fun reached =>
      rest.run context reached follow
  | .never, _, state, _ => state.fail
  | .alt first rest, context, state, follow =>
    if state.spot.sees (first.lead none) then
      (first.run { context with next := none } state.note follow).orElse fun trace =>
        rest.run context ((trace.restore context.looping state.marks).resume state.spot) follow
    else rest.run context state follow
  | .many greed least most test, context, state, follow =>
    Regex.many context greed least most test state follow
  | .loop greed least most body, context, state, follow =>
    let looping := context.looping || greed != .possessive
    Regex.loop context greed least most
      (fun s f => body.run { context with looping, next := none } s f) state follow
  | .capture group body, context, state, follow =>
    body.run { context with next := none }
      { state with marks := state.marks.enter group state.spot } fun reached =>
        follow { reached with marks := reached.marks.leave group reached.spot }
  | .atomic body, context, state, follow =>
    match body.run { context with next := none } state.note State.finish with
    | .failed trace => .failed { trace with noted := state.spot }
    | .reached trace => follow (trace.resume trace.noted)
  | .ahead positive body, context, state, follow =>
    looked context positive state follow
      (body.run { context with next := none } state.note State.finish)
  | .behind positive width body, context, state, follow =>
    match state.spot.back? width with
    | none => if positive then state.fail else follow state
    | some back =>
      looked context positive state follow
        (body.run { context with next := none } (state.moveTo back).note State.finish)
  | .same fold group, _, state, follow =>
    match state.marks.held? group with
    | none => state.fail
    | some (text, length) =>
      match Cursor.behindSame fold length text state.spot with
      | none => state.fail
      | some beyond => follow (state.moveTo beyond)
  | .ifCaptured group yes no, context, state, follow =>
    if (state.marks.held? group).isSome then
      yes.run { context with next := if no = .empty then context.next else none } state follow
    else no.run context state follow

end FilterTemplate.Regex
