import Mathlib
import FilterTemplate.Proofs.LiteralMatches

/-!
# Places of a match

A run only moves between places of its text, whatever it matches and wherever it fails. So the place
where a match stops is one of the text, like the place where it starts (`Pattern.within_of_matchAt`).
A run hands its states on to what follows it, and so what is proved of it is what it keeps to if
what follows keeps to it (`Node.within_run`).
-/

namespace FilterTemplate.Regex

/-! ## Places -/

namespace Cursor

/-- Whether a cursor is a place of a text. -/
structure Within (text : Text) (spot : Cursor) : Prop where
  text_eq : spot.text = text
  pos_eq : spot.pos = spot.before.length

variable {text : Text} {spot : Cursor}

theorem within_start (text : Text) : Within text (.start text) := ⟨rfl, rfl⟩

theorem Within.next? (h : spot.Within text) {c : Char} {beyond : Cursor}
    (hn : spot.next? = some (c, beyond)) : beyond.Within text := by
  obtain ⟨before, _ | ⟨d, after⟩, pos⟩ := spot
  · cases hn
  · obtain ⟨rfl, hp⟩ := h
    obtain rfl : pos = before.length := hp
    cases hn
    exact ⟨text_next? rfl, rfl⟩

theorem within_back? : ∀ {count : ℕ} {spot back : Cursor}, spot.Within text →
    spot.back? count = some back → back.Within text
  | 0, _, _, h, hb => by
    cases hb
    exact h
  | _ + 1, ⟨[], _, _⟩, _, _, hb => by cases hb
  | count + 1, ⟨c :: before, after, pos⟩, back, h, hb => by
    obtain ⟨ht, hp⟩ := h
    obtain rfl : pos = before.length + 1 := hp
    have hw : Within text ⟨before, c :: after, before.length⟩ :=
      ⟨by rw [← ht]; simp [Cursor.text], rfl⟩
    exact within_back? hw hb

theorem within_sweep_go {accepts : Char → Bool} : ∀ {limit : Option ℕ} {before after : Text}
    {pos : ℕ}, Within text ⟨before, after, pos⟩ →
      (sweep.go accepts limit before pos after).Within text
  | _, _, [], _, h => h
  | limit, before, c :: after, pos, h => by
    rw [sweep.go]
    split_ifs
    · exact within_sweep_go (h.next? rfl)
    · exact h

theorem Within.sweep (h : spot.Within text) (accepts : Char → Bool) (limit : Option ℕ) :
    (spot.sweep accepts limit).Within text := within_sweep_go h

theorem within_behindSame {fold : Fold} : ∀ {count : ℕ} {same : Text} {spot beyond : Cursor},
    spot.Within text → behindSame fold count same spot = some beyond → beyond.Within text
  | 0, _, _, _, h, hb => by
    cases hb
    exact h
  | _ + 1, [], _, _, _, hb => by cases hb
  | count + 1, c :: same, spot, beyond, h, hb => by
    rw [behindSame] at hb
    rcases hn : spot.next? with _ | ⟨d, next⟩ <;> rw [hn] at hb
    · cases hb
    · simp only [] at hb
      split_ifs at hb
      exact within_behindSame (h.next? hn) hb

end Cursor

/-! ## Runs -/

variable {text : Text}

/-- Whether the place that a trace has noted is one of the text. -/
def Trace.Within (text : Text) (trace : Trace) : Prop := trace.noted.Within text

structure State.Within (text : Text) (state : State) : Prop where
  noted : state.toTrace.Within text
  spot : state.spot.Within text

/-- Whether an outcome has reached what was wanted, or else leaves a place of the text. -/
def Outcome.Within (text : Text) (goal : Trace → Prop) : Outcome → Prop
  | .reached trace => goal trace
  | .failed trace => trace.Within text

/-- What ends so from every state in the text. -/
def Follow.Within (text : Text) (goal : Trace → Prop) (follow : Follow) : Prop :=
  ∀ {state : State}, state.Within text → (follow state).Within text goal

/-- What keeps to the text if what follows it does. -/
def Matcher.Within (text : Text) (matcher : Matcher) : Prop :=
  ∀ {state : State} {follow : Follow} {goal : Trace → Prop}, state.Within text →
    Follow.Within text goal follow → (matcher state follow).Within text goal

section Steps

variable {state : State} {trace : Trace} {spot : Cursor} {outcome : Outcome}
  {goal : Trace → Prop}

theorem State.Within.note (h : state.Within text) : state.note.Within text := ⟨h.spot, h.spot⟩

theorem State.Within.moveTo (h : state.Within text) (hs : spot.Within text) :
    (state.moveTo spot).Within text := ⟨h.noted, hs⟩

theorem State.Within.fail (h : state.Within text) : state.fail.Within text goal := h.noted

theorem State.Within.finish (h : state.Within text) :
    state.finish.Within text (Trace.Within text) := h.spot

theorem Trace.Within.resume (h : trace.Within text) (hs : spot.Within text) :
    (trace.resume spot).Within text := ⟨h, hs⟩

theorem Outcome.Within.orElse (h : outcome.Within text goal) {otherwise : Trace → Outcome}
    (ho : ∀ trace : Trace, trace.Within text → (otherwise trace).Within text goal) :
    (outcome.orElse otherwise).Within text goal := by
  rcases outcome with trace | trace
  · exact h
  · exact ho trace h

theorem Outcome.Within.failingAt (h : outcome.Within text goal) (hs : spot.Within text) :
    (outcome.failingAt spot).Within text goal := h.orElse fun _ _ => hs

end Steps

/-! ## Repetitions -/

section Repetitions

variable {context : Context} {body : Matcher} {follow : Follow} {goal : Trace → Prop}

theorem Many.within_noted {test : CharTest} {start stop : Cursor} (hs : start.Within text)
    (ht : stop.Within text) : (Many.noted test start stop).Within text := by
  rw [Many.noted]
  split_ifs
  · exact ht
  · exact hs

theorem Many.within_attempt {saved : Marks} (hf : Follow.Within text goal follow) :
    Follow.Within text goal (Many.attempt context saved follow) := by
  intro state h
  rw [Many.attempt]
  split_ifs
  · exact h.fail
  · exact (hf h.note).orElse fun trace ht => ht

theorem Many.within_giveBack {attempt : Follow} (ha : Follow.Within text goal attempt) :
    ∀ extra, Follow.Within text goal (Many.giveBack attempt extra)
  | 0, _, h => ha h
  | extra + 1, state, h => by
    refine (ha h).orElse fun trace ht => within_giveBack ha extra (ht.resume ?_)
    rcases hb : state.spot.back? 1 with _ | back
    · exact h.spot
    · exact Cursor.within_back? h.spot hb

theorem Many.within_takeMore {test : CharTest} {attempt : Follow}
    (ha : Follow.Within text goal attempt) : ∀ {more : Option ℕ} {before after : Text} {pos : ℕ}
      {trace : Trace}, Cursor.Within text ⟨before, after, pos⟩ → trace.Within text →
        (Many.takeMore test attempt more before pos after trace).Within text goal
  | _, before, [], pos, trace, hs, ht => (ha (ht.resume hs)).failingAt hs
  | more, before, c :: after, pos, trace, hs, ht => by
    have hbeyond := hs.next? rfl
    refine (ha (ht.resume hs)).orElse fun trace ht => ?_
    split_ifs
    · exact hs
    · exact within_noted hs hbeyond
    · exact within_takeMore ha hbeyond ht

theorem within_many {greed : Greed} {least : ℕ} {most : Option ℕ} {test : CharTest} :
    Matcher.Within text (many context greed least most test) := by
  intro state follow goal h hf
  rw [many]
  extract_lets limit stop counted extra
  have hstop : stop.Within text := h.spot.sweep test.accepts limit
  have hcounted : counted.Within text := ⟨Many.within_noted h.spot hstop, hstop⟩
  split_ifs
  · exact h.fail
  · exact hcounted.fail
  · cases greed with
    | greedy => exact Many.within_giveBack (Many.within_attempt hf) _ hcounted
    | lazy => exact Many.within_takeMore (Many.within_attempt hf) hstop hcounted.noted
    | possessive => exact hf hcounted

variable (hb : Matcher.Within text body)

include hb

theorem Loop.within_require {further : Matcher} (hf : Matcher.Within text further) :
    ∀ count, Matcher.Within text (Loop.require body further count)
  | 0, _, _, _, h, hn => hf h hn
  | count + 1, _, _, _, h, hn =>
    (hb h.note fun hr => within_require hf count hr hn).failingAt h.spot

theorem Loop.within_greedy : ∀ left last, Matcher.Within text (Loop.greedy body left last)
  | 0, _, _, _, _, h, hn => (hn h.note).failingAt h.spot
  | left + 1, last, state, follow, goal, h, hn => by
    rw [Loop.greedy]
    split_ifs
    · exact (hn h.note).failingAt h.spot
    · exact (hb h.note fun hr => within_greedy left _ hr hn).orElse fun _ _ =>
        (hn h.note).failingAt h.spot

theorem Loop.within_lazy {looping : Bool} :
    ∀ left last, Matcher.Within text (Loop.lazy looping body left last)
  | 0, _, state, follow, goal, h, hn => by
    refine ((hn h.note).orElse fun trace ht => ?_).failingAt h.spot
    exact ht
  | left + 1, last, state, follow, goal, h, hn => by
    refine ((hn h.note).orElse fun trace ht => ?_).failingAt h.spot
    split_ifs
    · exact ht
    · exact hb (State.Within.note ⟨ht, h.spot⟩) fun hr => within_lazy left _ hr hn

theorem Loop.within_once : ∀ (count : ℕ) {trace : Trace}, trace.Within text →
    (Loop.once body count trace).Within text (Trace.Within text)
  | 0, _, h => h
  | count + 1, trace, h => by
    have hrun := hb (h.resume h) State.Within.finish
    rw [Loop.once]
    rcases hr : body (trace.resume trace.noted) State.finish with reached | failed <;>
      rw [hr] at hrun
    · exact within_once count hrun
    · exact hrun

theorem Loop.within_possessive : ∀ (left : ℕ) (last : Option ℕ) {trace : Trace},
    trace.Within text → (Loop.possessive body left last trace).Within text
  | 0, _, _, h => h
  | left + 1, last, trace, h => by
    have hrun := hb (h.resume h) State.Within.finish
    rw [Loop.possessive]
    split_ifs
    · exact h
    · rcases hr : body (trace.resume trace.noted) State.finish with reached | failed <;>
        rw [hr] at hrun
      · exact within_possessive left _ hrun
      · exact hrun

theorem within_loop {greed : Greed} {least : ℕ} {most : Option ℕ} :
    Matcher.Within text (loop context greed least most body) := by
  intro state follow goal h hf
  rw [loop.eq_def]
  cases greed with
  | greedy => exact Loop.within_require hb (Loop.within_greedy hb _ _) least h hf
  | lazy => exact Loop.within_require hb (Loop.within_lazy hb _ _) least h hf
  | possessive =>
    have honce := Loop.within_once hb least h.note.noted
    simp only []
    rcases ho : Loop.once body least state.note.toTrace with reached | failed <;> rw [ho] at honce
    · have hlast := Loop.within_possessive hb ((most.map (· - least)).getD context.patience) none
        honce
      exact hf (hlast.resume hlast)
    · exact h.spot

end Repetitions

/-! ## Nodes -/

theorem within_looked {context : Context} {positive : Bool} {state : State} {follow : Follow}
    {outcome : Outcome} {goal : Trace → Prop} (h : state.Within text)
    (hf : Follow.Within text goal follow) (ho : outcome.Within text (Trace.Within text)) :
    (looked context positive state follow outcome).Within text goal := by
  rcases outcome with trace | trace <;> cases positive
  · exact ho
  · exact hf (ho.resume h.spot)
  · exact hf ⟨ho, h.spot⟩
  · exact ho

/-- A run stays in its text if what follows it does. -/
theorem Node.within_run : ∀ (node : Node) (context : Context),
    Matcher.Within text (node.run context)
  | .empty, _, _, _, _, h, hf => hf h
  | .one test, _, state, follow, goal, h, hf => by
    rw [run]
    rcases hn : state.spot.next? with _ | ⟨c, beyond⟩
    · exact h.fail
    · simp only []
      split_ifs
      · exact hf (h.moveTo (h.spot.next? hn))
      · exact h.fail
  | .site condition, _, state, follow, goal, h, hf => by
    rw [run]
    split_ifs
    · exact hf h
    · exact h.fail
  | .seq first rest, context, _, _, _, h, hf =>
    within_run first _ h fun hr => within_run rest context hr hf
  | .never, _, _, _, _, h, _ => h.fail
  | .alt first rest, context, state, follow, goal, h, hf => by
    rw [run]
    split_ifs
    · exact (within_run first _ h.note hf).orElse fun trace ht =>
        within_run rest context ⟨ht, h.spot⟩ hf
    · exact within_run rest context h hf
  | .many .., _, _, _, _, h, hf => within_many h hf
  | .loop _ _ _ body, _, _, _, _, h, hf => within_loop (within_run body _) h hf
  | .capture group body, context, state, follow, goal, h, hf => by
    have hentered : State.Within text { state with marks := state.marks.enter group state.spot } :=
      ⟨h.noted, h.spot⟩
    exact within_run body _ hentered fun hr => hf ⟨hr.noted, hr.spot⟩
  | .atomic body, context, state, follow, goal, h, hf => by
    have hrun := within_run body { context with next := none } h.note State.Within.finish
    rw [run]
    rcases hr : body.run { context with next := none } state.note State.finish with trace | trace <;>
      rw [hr] at hrun
    · exact hf (hrun.resume hrun)
    · exact h.spot
  | .ahead positive body, context, state, follow, goal, h, hf =>
    within_looked h hf (within_run body _ h.note State.Within.finish)
  | .behind positive width body, context, state, follow, goal, h, hf => by
    rw [run]
    rcases hb : state.spot.back? width with _ | back
    · simp only []
      split_ifs
      · exact h.fail
      · exact hf h
    · have hback := h.moveTo (Cursor.within_back? h.spot hb)
      exact within_looked h hf (within_run body _ hback.note State.Within.finish)
  | .same fold group, _, state, follow, goal, h, hf => by
    rw [run]
    rcases state.marks.held? group with _ | ⟨same, length⟩
    · exact h.fail
    · simp only []
      rcases hb : Cursor.behindSame fold length same state.spot with _ | beyond
      · exact h.fail
      · exact hf (h.moveTo (Cursor.within_behindSame h.spot hb))
  | .ifCaptured group yes no, context, state, follow, goal, h, hf => by
    rw [run]
    split
    · exact within_run yes _ h hf
    · exact within_run no _ h hf

/-- A match starts at the place where it is looked for, and stops at a place of the text, at another
one if it has to advance. -/
theorem Pattern.within_of_matchAt {p : Pattern} {patience : ℕ} {advance : Bool} {start : Cursor}
    {m : Match} (hs : start.Within text) (hm : p.matchAt patience advance start = some m) :
    m.start = start ∧ m.stop.Within text ∧ (advance = true → m.stop.pos ≠ start.pos) := by
  have hstate : State.Within text ⟨⟨start, []⟩, start⟩ := ⟨hs, hs⟩
  let goal (trace : Trace) : Prop :=
    trace.Within text ∧ (advance = true → trace.noted.pos ≠ start.pos)
  have hfollow : Follow.Within text goal fun reached =>
      if advance && reached.spot.pos == start.pos then reached.fail else reached.finish := by
    intro reached hr
    beta_reduce
    split_ifs with ha
    · exact hr.fail
    · refine ⟨hr.spot, fun hadvance hpos => ha ?_⟩
      rw [hadvance, Bool.true_and, beq_iff_eq]
      exact hpos
  have hrun := p.node.within_run ⟨patience, false, none⟩ hstate hfollow
  rw [matchAt] at hm
  split at hm
  · rename_i trace ho
    rw [ho] at hrun
    cases hm
    exact ⟨rfl, hrun⟩
  · cases hm

end FilterTemplate.Regex
