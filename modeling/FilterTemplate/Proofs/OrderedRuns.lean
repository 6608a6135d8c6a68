import Mathlib
import FilterTemplate.Proofs.GroupMarks
import FilterTemplate.Regex.Pattern

/-!
# Runs that move forward

Where a run goes on from, it has come from a place before, and it finds the marks of the groups in
order: this is what a run hands on to what follows it (`State.Reaches`). What it leaves where it
fails is enough for what is tried next (`Trace.Spares`). The one thing that can go back is a
possessive repetition, which ends at the place that its last iteration has noted. It does not, if
its iterations look at nothing before them, and it puts the marks in order, if they set none. If all
possessive repetitions of a node are so, the node keeps to the order (`Node.keeps_run`).
-/

namespace FilterTemplate.Regex

/-! ## Nodes -/

namespace Node

/-- The groups of a node, in the order in which they open. -/
def captures : Node → List ℕ
  | .empty | .one _ | .site _ | .never | .many _ _ _ _ | .same _ _ => []
  | .seq first rest | .alt first rest => first.captures ++ rest.captures
  | .loop _ _ _ body | .atomic body | .ahead _ body | .behind _ _ body => body.captures
  | .capture group body => group :: body.captures
  | .ifCaptured _ yes no => yes.captures ++ no.captures

/-- Whether a node holds a look-behind. -/
def looksBack : Node → Bool
  | .empty | .one _ | .site _ | .never | .many _ _ _ _ | .same _ _ => false
  | .seq first rest | .alt first rest => first.looksBack || rest.looksBack
  | .loop _ _ _ body | .capture _ body | .atomic body | .ahead _ body => body.looksBack
  | .behind _ _ _ => true
  | .ifCaptured _ yes no => yes.looksBack || no.looksBack

/-- Whether what a node repeats possessively holds neither a look-behind nor a group that
captures. -/
def isTame : Node → Bool
  | .empty | .one _ | .site _ | .never | .many _ _ _ _ | .same _ _ => true
  | .seq first rest | .alt first rest => first.isTame && rest.isTame
  | .loop greed _ _ body =>
    body.isTame && (greed != .possessive || !body.looksBack && body.captures.isEmpty)
  | .capture _ body | .atomic body | .ahead _ body | .behind _ _ body => body.isTame
  | .ifCaptured _ yes no => yes.isTame && no.isTame

end Node

/-! ## Positions -/

namespace Cursor

theorem pos_le_of_next? {spot beyond : Cursor} {c : Char} (h : spot.next? = some (c, beyond)) :
    spot.pos ≤ beyond.pos := by
  obtain ⟨before, _ | ⟨d, after⟩, pos⟩ := spot
  · cases h
  · cases h
    exact Nat.le_succ pos

theorem pos_le_of_back? : ∀ (count : ℕ) {spot back : Cursor}, spot.back? count = some back →
    spot.pos ≤ back.pos + count
  | 0, _, _, h => by
    cases h
    exact le_refl _
  | _ + 1, ⟨[], _, _⟩, _, h => by cases h
  | count + 1, ⟨c :: before, after, pos⟩, back, h => by
    have ih : pos - 1 ≤ back.pos + count := pos_le_of_back? count h
    change pos ≤ back.pos + (count + 1)
    omega

theorem pos_le_sweep_go (accepts : Char → Bool) : ∀ (limit : Option ℕ) (before : Text) (pos : ℕ)
    (after : Text), pos ≤ (sweep.go accepts limit before pos after).pos
  | _, _, _, [] => le_refl _
  | limit, before, pos, c :: after => by
    rw [sweep.go]
    split_ifs
    · exact (Nat.le_succ pos).trans (pos_le_sweep_go accepts _ _ _ after)
    · exact le_refl _

theorem pos_le_sweep (spot : Cursor) (accepts : Char → Bool) (limit : Option ℕ) :
    spot.pos ≤ (spot.sweep accepts limit).pos := pos_le_sweep_go accepts limit _ _ _

theorem pos_le_of_behindSame {fold : Fold} : ∀ {count : ℕ} {same : Text} {spot beyond : Cursor},
    behindSame fold count same spot = some beyond → spot.pos ≤ beyond.pos
  | 0, _, _, _, h => by
    cases h
    exact le_refl _
  | _ + 1, [], _, _, h => by cases h
  | count + 1, c :: same, spot, beyond, h => by
    rw [behindSame] at h
    rcases hn : spot.next? with _ | ⟨d, next⟩ <;> rw [hn] at h
    · cases h
    · simp only [] at h
      split_ifs at h
      exact (pos_le_of_next? hn).trans (pos_le_of_behindSame h)

end Cursor

/-! ## States and outcomes -/

/-- What may be left of an attempt that started with the marks. -/
structure Trace.Spares (scope : Scope) (marks : Marks) (trace : Trace) : Prop where
  noted : scope.floor ≤ trace.noted.pos
  kept : scope.Kept marks trace.marks

/-- The same, and the marks are in order. -/
structure Trace.Sound (scope : Scope) (count : ℕ) (marks : Marks) (trace : Trace) : Prop where
  spares : trace.Spares scope marks
  fit : trace.marks.Fit scope count

structure State.Fit (scope : Scope) (count : ℕ) (state : State) : Prop where
  noted : scope.floor ≤ state.noted.pos
  spot : scope.floor ≤ state.spot.pos
  marks : state.marks.Fit scope count

/-- What a run may get to from a state. -/
structure State.Reaches (scope : Scope) (count : ℕ) (state reached : State) : Prop where
  forward : state.spot.pos ≤ reached.spot.pos
  sound : reached.toTrace.Sound scope count state.marks

/-- Whether an outcome has reached what was wanted, or else has left what is allowed. -/
def Outcome.Ends (left goal : Trace → Prop) : Outcome → Prop
  | .reached trace => goal trace
  | .failed trace => left trace

/-- What comes to a good end from every state that fits if what follows it does, in the scope of
what follows. -/
def Matcher.Keeps (outer inner : Scope) (low high : ℕ) (matcher : Matcher) : Prop :=
  ∀ ⦃state : State⦄ ⦃follow : Follow⦄ ⦃goal : Trace → Prop⦄, state.Fit inner low →
    (∀ {reached : State}, state.Reaches inner high reached →
      (follow reached).Ends (Trace.Spares outer reached.marks) goal) →
    (matcher state follow).Ends (Trace.Spares inner state.marks) goal

variable {scope : Scope} {count more low high : ℕ} {marks : Marks} {state reached : State}
  {trace : Trace} {outcome : Outcome} {left goal : Trace → Prop}

theorem Outcome.Ends.mono {other aim : Trace → Prop} (h : outcome.Ends left goal)
    (hl : ∀ trace, left trace → other trace) (hg : ∀ trace, goal trace → aim trace) :
    outcome.Ends other aim := by
  rcases outcome with trace | trace
  · exact hg trace h
  · exact hl trace h

theorem Outcome.Ends.orElse {other : Trace → Prop} (h : outcome.Ends left goal)
    {otherwise : Trace → Outcome} (ho : ∀ trace, left trace → (otherwise trace).Ends other goal) :
    (outcome.orElse otherwise).Ends other goal := by
  rcases outcome with trace | trace
  · exact h
  · exact ho trace h

theorem Trace.Spares.at (h : trace.Spares scope marks) {spot : Cursor}
    (hs : scope.floor ≤ spot.pos) : Trace.Spares scope marks { trace with noted := spot } :=
  ⟨hs, h.kept⟩

theorem Outcome.Ends.failingAt (h : outcome.Ends (Trace.Spares scope marks) goal) {spot : Cursor}
    (hs : scope.floor ≤ spot.pos) :
    (outcome.failingAt spot).Ends (Trace.Spares scope marks) goal :=
  h.orElse fun _ ht => ht.at hs

/-- What is left of a later attempt is left of the one before it. -/
theorem Trace.Spares.of_sound {before : Marks} {earlier : Trace}
    (he : earlier.Sound scope count before) (h : trace.Spares scope earlier.marks) :
    trace.Spares scope before := ⟨h.noted, he.spares.kept.trans h.kept⟩

namespace State

theorem Fit.sound (h : state.Fit scope count) (hle : count ≤ more) :
    state.toTrace.Sound scope more state.marks :=
  ⟨⟨h.noted, h.marks.kept_refl⟩, h.marks.mono hle⟩

theorem Fit.reaches (h : state.Fit scope count) (hle : count ≤ more) {spot : Cursor}
    (hs : state.spot.pos ≤ spot.pos) : state.Reaches scope more (state.moveTo spot) :=
  ⟨hs, h.sound hle⟩

theorem Fit.note (h : state.Fit scope count) : state.note.Fit scope count :=
  ⟨h.spot, h.spot, h.marks⟩

theorem Fit.reaches_note (h : state.Fit scope count) (hle : count ≤ more) :
    state.Reaches scope more state.note := ⟨le_refl _, h.note.sound hle⟩

theorem Fit.mono (h : state.Fit scope count) (hle : count ≤ more) : state.Fit scope more :=
  ⟨h.noted, h.spot, h.marks.mono hle⟩

theorem Fit.fail (h : state.Fit scope count) :
    state.fail.Ends (Trace.Spares scope state.marks) goal := (h.sound (le_refl _)).spares

theorem Reaches.fit (h : state.Fit scope count) (hr : state.Reaches scope more reached) :
    reached.Fit scope more :=
  ⟨hr.sound.spares.noted, h.spot.trans hr.forward, hr.sound.fit⟩

theorem Reaches.trans {further : State} (h : state.Reaches scope count reached)
    (hf : reached.Reaches scope more further) : state.Reaches scope more further :=
  ⟨h.forward.trans hf.forward, .of_sound h.sound hf.sound.spares, hf.sound.fit⟩

theorem Reaches.mono (h : state.Reaches scope count reached) (hle : count ≤ more) :
    state.Reaches scope more reached := ⟨h.forward, h.sound.spares, h.sound.fit.mono hle⟩

theorem Reaches.ends (h : state.Reaches scope count reached)
    (ho : outcome.Ends (Trace.Spares scope reached.marks) goal) :
    outcome.Ends (Trace.Spares scope state.marks) goal :=
  ho.mono (fun _ ht => .of_sound h.sound ht) fun _ ht => ht

/-- A run that ends where it stands has noted the place. -/
theorem Reaches.finish (h : state.Fit scope count) (hr : state.Reaches scope more reached) :
    reached.finish.Ends left fun trace => state.Reaches scope more (trace.resume trace.noted) :=
  ⟨hr.forward, ⟨(h.spot.trans hr.forward), hr.sound.spares.kept⟩, hr.sound.fit⟩

end State

/-- Where marks are taken back, they are in order again. -/
theorem Trace.Spares.restore {inner : Scope} (ho : inner.opened = scope.opened)
    (hf : inner.floor = scope.floor) (h : trace.Spares scope marks) (hm : marks.Fit inner count) :
    (trace.restore scope.repeated.isSome marks).Sound inner count marks := by
  obtain ⟨hfit, hkept⟩ := hm.restore ho h.kept
  exact ⟨⟨hf ▸ h.noted, hkept⟩, hfit⟩

/-! ## Repetitions of a single character -/

section Many

variable {context : Context} {follow : Follow}

theorem Many.le_noted (test : CharTest) {start stop : Cursor} {position : ℕ}
    (hs : position ≤ start.pos) (ht : position ≤ stop.pos) :
    position ≤ (Many.noted test start stop).pos := by
  rw [Many.noted]
  split_ifs
  · exact ht
  · exact hs

/-- An attempt that fails takes its marks back, so that another one can be made. -/
theorem Many.attempt_ends (hl : context.looping = scope.repeated.isSome)
    (hs : state.Fit scope count)
    (hf : ∀ {reached : State}, state.Reaches scope count reached →
      (follow reached).Ends (Trace.Spares scope reached.marks) goal)
    (hr : state.Reaches scope count reached) :
    (Many.attempt context state.marks follow reached).Ends
      (Trace.Sound scope count state.marks) goal := by
  have hfit := hr.fit hs
  rw [Many.attempt]
  split_ifs
  · exact hr.sound
  · have hnote := hr.trans (hfit.reaches_note (le_refl count))
    refine (hnote.ends (hf hnote)).orElse fun trace ht => ?_
    rw [hl]
    exact ht.restore rfl rfl hs.marks

theorem Many.giveBack_ends {attempt : Follow}
    (ha : ∀ {reached : State}, state.Reaches scope count reached →
      (attempt reached).Ends (Trace.Sound scope count state.marks) goal) :
    ∀ {extra : ℕ} {reached : State}, state.Reaches scope count reached →
      state.spot.pos + extra ≤ reached.spot.pos →
      (Many.giveBack attempt extra reached).Ends (Trace.Sound scope count state.marks) goal
  | 0, _, hr, _ => ha hr
  | extra + 1, reached, hr, hle => by
    refine (ha hr).orElse fun trace ht => ?_
    have hback : reached.spot.pos ≤ ((reached.spot.back? 1).getD reached.spot).pos + 1 := by
      rcases hb : reached.spot.back? 1 with _ | back
      · exact Nat.le_succ _
      · exact Cursor.pos_le_of_back? 1 hb
    have hpos : state.spot.pos + extra ≤ ((reached.spot.back? 1).getD reached.spot).pos := by
      omega
    exact giveBack_ends ha ⟨(Nat.le_add_right _ extra).trans hpos, ht⟩ hpos

theorem Many.takeMore_ends {test : CharTest} {attempt : Follow}
    (ha : ∀ {reached : State}, state.Reaches scope count reached →
      (attempt reached).Ends (Trace.Sound scope count state.marks) goal)
    (hs : scope.floor ≤ state.spot.pos) : ∀ {more : Option ℕ} {before after : Text} {pos : ℕ}
      {trace : Trace}, state.spot.pos ≤ pos → trace.Sound scope count state.marks →
        (Many.takeMore test attempt more before pos after trace).Ends
          (Trace.Spares scope state.marks) goal
  | _, _, [], pos, trace, hle, ht =>
    (ha ⟨hle, ht⟩).orElse fun _ ht => ht.spares.at (hs.trans hle)
  | more, before, c :: after, pos, trace, hle, ht => by
    have hpos : scope.floor ≤ pos := hs.trans hle
    have hr : state.Reaches scope count (trace.resume ⟨before, c :: after, pos⟩) := ⟨hle, ht⟩
    refine (ha hr).orElse fun trace ht => ?_
    split_ifs
    · exact ht.spares.at hpos
    · exact ht.spares.at (le_noted test hpos (hpos.trans (Nat.le_succ pos)))
    · exact takeMore_ends ha hs (hle.trans (Nat.le_succ pos)) ht

theorem many_keeps (hl : context.looping = scope.repeated.isSome) {greed : Greed} {least : ℕ}
    {most : Option ℕ} {test : CharTest} :
    Matcher.Keeps scope scope count count (many context greed least most test) := by
  intro state follow goal hs hf
  rw [many]
  extract_lets limit stop counted extra
  have hle : state.spot.pos ≤ stop.pos := state.spot.pos_le_sweep test.accepts limit
  have hcounted : state.Reaches scope count counted :=
    ⟨hle, ⟨Many.le_noted test hs.spot (hs.spot.trans hle), hs.marks.kept_refl⟩, hs.marks⟩
  split_ifs with hroom hleast
  · exact hs.fail
  · exact hcounted.sound.spares
  · cases greed with
    | greedy =>
      have hpos : state.spot.pos + extra ≤ stop.pos := by omega
      exact (Many.giveBack_ends (Many.attempt_ends hl hs hf) hcounted hpos).mono
        (fun _ ht => ht.spares) fun _ ht => ht
    | lazy =>
      have hattempt : ∀ {reached : State}, state.Reaches scope count reached →
          (Many.attempt { context with next := none } state.marks follow reached).Ends
            (Trace.Sound scope count state.marks) goal := Many.attempt_ends hl hs hf
      exact Many.takeMore_ends hattempt hs.spot hle hcounted.sound
    | possessive => exact hf hcounted

end Many

/-! ## Repetitions that give iterations back -/

/-- What is left in the scope around a repetition is more than what has to be left in it. -/
theorem Outcome.Ends.repeating {left : Marks}
    (h : outcome.Ends (Trace.Spares scope left) goal)
    (hf : left.Fit (scope.repeating marks high) count) :
    outcome.Ends (Trace.Spares (scope.repeating marks high) left) goal :=
  h.mono (fun _ ht => ⟨ht.noted, ht.kept.repeating hf.bounds⟩) fun _ ht => ht

theorem Trace.Spares.restore_repeating {left : Marks} (h : trace.Spares scope left)
    (hf : left.Fit (scope.repeating marks high) count) :
    (trace.restore scope.repeated.isSome left).Sound (scope.repeating marks high) count left :=
  h.restore rfl rfl hf

section Loops

variable {outer inner : Scope} {body further : Matcher}

theorem Loop.require_keeps (hb : body.Keeps inner inner count count)
    (hf : further.Keeps outer inner count count) :
    ∀ least, Matcher.Keeps outer inner count count (Loop.require body further least)
  | 0, _, _, _, hs, hn => hf hs hn
  | least + 1, state, follow, goal, hs, hn => by
    have hnote := hs.reaches_note (le_refl count)
    refine Outcome.Ends.failingAt (hb hs.note fun {reached} hr => ?_) hs.spot
    refine require_keeps hb hf least (hr.fit hs.note) fun {other} ho => hn ?_
    exact hnote.trans (hr.trans ho)

variable (hb : body.Keeps (scope.repeating marks high) (scope.repeating marks high) high high)

include hb

theorem Loop.greedy_keeps : ∀ left last,
    Matcher.Keeps scope (scope.repeating marks high) high high (Loop.greedy body left last)
  | 0, last, state, follow, goal, hs, hn =>
    ((hn (hs.reaches_note (le_refl high))).repeating hs.marks).failingAt hs.spot
  | left + 1, last, state, follow, goal, hs, hn => by
    have hnote := hs.reaches_note (le_refl high)
    have hstop := ((hn hnote).repeating hs.marks).failingAt hs.spot
    rw [Loop.greedy]
    split_ifs
    · exact hstop
    · refine Outcome.Ends.orElse (hb hs.note fun {reached} hr => ?_) fun _ _ => hstop
      refine greedy_keeps left _ (hr.fit hs.note) fun {other} ho => hn ?_
      exact hnote.trans (hr.trans ho)

theorem Loop.lazy_keeps {looping : Bool} (hl : looping = scope.repeated.isSome) : ∀ left last,
    Matcher.Keeps scope (scope.repeating marks high) high high (Loop.lazy looping body left last)
  | 0, last, state, follow, goal, hs, hn => by
    refine Outcome.Ends.failingAt ((hn (hs.reaches_note (le_refl high))).orElse
      fun trace ht => ?_) hs.spot
    rw [hl]
    exact (ht.restore_repeating hs.marks).spares
  | left + 1, last, state, follow, goal, hs, hn => by
    have hnote := hs.reaches_note (le_refl high)
    refine Outcome.Ends.failingAt ((hn hnote).orElse fun trace ht => ?_) hs.spot
    have hrestored : (trace.restore looping state.marks).Sound (scope.repeating marks high) high
        state.marks := by
      rw [hl]
      exact ht.restore_repeating hs.marks
    split_ifs
    · exact hrestored.spares
    · have hagain : state.Reaches (scope.repeating marks high) high
          ((trace.restore looping state.marks).resume state.spot) := ⟨le_refl _, hrestored⟩
      have hfit := hagain.fit hs
      refine hagain.ends (hb hfit.note fun {reached} hr => ?_)
      refine lazy_keeps hl left _ (hr.fit hfit.note) fun {other} ho => hn ?_
      exact hagain.trans ((hfit.reaches_note (le_refl high)).trans (hr.trans ho))

end Loops

/-- What is done in the scope of a repetition that starts here is done in the scope around it. -/
theorem Matcher.keeps_of_repeating {matcher : Matcher} (hle : low ≤ high)
    (hm : ∀ marks, scope.Bounds low marks →
      matcher.Keeps scope (scope.repeating marks high) high high) :
    matcher.Keeps scope scope low high := by
  intro state follow goal hs hf
  have hinner : state.Fit (scope.repeating state.marks high) high :=
    ⟨hs.noted, hs.spot, hs.marks.repeating hle⟩
  refine (hm state.marks hs.marks.bounds hinner fun {reached} hr => hf ?_).mono ?_ fun _ ht => ht
  · exact ⟨hr.forward, ⟨hr.sound.spares.noted, hr.sound.spares.kept.of_repeating⟩,
      hr.sound.fit.of_repeating⟩
  · exact fun _ ht => ⟨ht.noted, ht.kept.of_repeating⟩

theorem Loop.giving_keeps {context : Context} {greed : Greed} {least : ℕ} {most : Option ℕ}
    {body : Matcher} (hg : greed ≠ .possessive) (hl : context.looping = scope.repeated.isSome)
    (hle : low ≤ high) (hb : ∀ marks, scope.Bounds low marks →
      body.Keeps (scope.repeating marks high) (scope.repeating marks high) high high) :
    Matcher.Keeps scope scope low high (loop context greed least most body) := by
  refine Matcher.keeps_of_repeating hle fun marks hm => ?_
  cases greed with
  | greedy => exact require_keeps (hb marks hm) (greedy_keeps (hb marks hm) _ _) least
  | lazy => exact require_keeps (hb marks hm) (lazy_keeps (hb marks hm) hl _ _) least
  | possessive => exact absurd rfl hg

/-- In a repetition it does not matter which of its groups have been counted. -/
theorem Matcher.Keeps.of_isSome {matcher : Matcher} (hm : matcher.Keeps scope scope low high)
    (hr : scope.repeated.isSome = true) : matcher.Keeps scope scope high high :=
  fun _ _ _ hs hf => hm ⟨hs.noted, hs.spot, hs.marks.of_isSome hr low⟩ hf

/-! ## Possessive repetitions -/

/-- The scope in which no place before a position is noted. -/
def Scope.above (scope : Scope) (floor : ℕ) : Scope := { scope with floor }

section Possessive

variable {body : Matcher}
  (hb : ∀ floor, body.Keeps (scope.above floor) (scope.above floor) count count)

include hb

/-- An iteration of a possessive repetition goes forward, wherever it ends. -/
theorem Loop.iteration_ends (hs : State.Fit scope count (trace.resume trace.noted)) :
    (body (trace.resume trace.noted) State.finish).Ends
      (Trace.Spares (scope.above trace.noted.pos) trace.marks) fun reached =>
        (trace.resume trace.noted).Reaches scope count (reached.resume reached.noted) := by
  have hfit : State.Fit (scope.above trace.noted.pos) count (trace.resume trace.noted) :=
    ⟨le_refl _, le_refl _, hs.marks.bounds, hs.marks.opened, hs.marks.straight⟩
  refine (hb trace.noted.pos hfit fun {reached} hr => hr.finish hfit).mono
    (fun _ hl => hl) fun reached hr => ?_
  have hkept := hr.sound.spares.kept
  have hmarks := hr.sound.fit
  exact ⟨hr.forward, ⟨hs.noted.trans hr.sound.spares.noted, hkept.le, hkept.place?_eq⟩,
    hmarks.bounds, hmarks.opened, hmarks.straight⟩

theorem Loop.once_ends : ∀ (times : ℕ) {trace : Trace},
    State.Fit scope count (trace.resume trace.noted) →
      (Loop.once body times trace).Ends (Trace.Spares scope trace.marks) fun reached =>
        (trace.resume trace.noted).Reaches scope count (reached.resume reached.noted)
  | 0, trace, hs => hs.reaches (le_refl count) (le_refl _)
  | times + 1, trace, hs => by
    have hrun := Loop.iteration_ends hb hs
    rw [Loop.once]
    rcases hr : body (trace.resume trace.noted) State.finish with reached | failed <;>
      rw [hr] at hrun
    · exact (once_ends times (hrun.fit hs)).mono (fun _ h => .of_sound hrun.sound h) fun _ h =>
        hrun.trans h
    · exact ⟨hs.noted.trans hrun.noted, hrun.kept.le, hrun.kept.place?_eq⟩

theorem Loop.possessive_reaches : ∀ (left : ℕ) (last : Option ℕ) {trace : Trace},
    State.Fit scope count (trace.resume trace.noted) →
      (trace.resume trace.noted).Reaches scope count
        ((Loop.possessive body left last trace).resume
          (Loop.possessive body left last trace).noted)
  | 0, _, trace, hs => hs.reaches (le_refl count) (le_refl _)
  | left + 1, last, trace, hs => by
    have hrun := Loop.iteration_ends hb hs
    rw [Loop.possessive]
    split_ifs
    · exact hs.reaches (le_refl count) (le_refl _)
    · rcases hr : body (trace.resume trace.noted) State.finish with reached | failed <;>
        rw [hr] at hrun
      · exact hrun.trans (possessive_reaches left _ (hrun.fit hs))
      · -- the marks are put back, and the place is one that the iteration came to
        exact ⟨hrun.noted, ⟨hs.noted.trans hrun.noted, hs.marks.kept_refl⟩, hs.marks⟩

theorem Loop.possessive_keeps {context : Context} {least : ℕ} {most : Option ℕ} :
    Matcher.Keeps scope scope count count (loop context .possessive least most body) := by
  intro state follow goal hs hf
  have hnote : State.Fit scope count (state.note.toTrace.resume state.note.toTrace.noted) := hs.note
  have honce := Loop.once_ends hb least hnote
  rw [loop.eq_def]
  simp only []
  rcases ho : Loop.once body least state.note.toTrace with reached | failed <;> rw [ho] at honce
  · have hlast := Loop.possessive_reaches hb ((most.map (· - least)).getD context.patience)
      none (honce.fit hnote)
    have hall := (hs.reaches_note (le_refl count)).trans (honce.trans hlast)
    exact hall.ends (hf hall)
  · exact honce.at hs.spot

end Possessive

/-! ## Groups that capture -/

/-- A group is marked where it starts and where it stops, and what is inside comes in between. -/
theorem Matcher.keeps_of_enter {body : Matcher} (hspans : scope.Spans low high) (hlt : low < high)
    (hb : ∀ spot, body.Keeps (scope.enter low spot) (scope.enter low spot) (low + 1) high) :
    Matcher.Keeps scope scope low high fun state follow =>
      body { state with marks := state.marks.enter (low + 1) state.spot } fun reached =>
        follow { reached with marks := reached.marks.leave (low + 1) reached.spot } := by
  intro state follow goal hs hf
  have hnone := hspans.opened_eq_none (le_refl low)
  have hkept := hspans.kept_le hs.marks.bounds
  have hentered : State.Fit (scope.enter low state.spot) (low + 1)
      { state with marks := state.marks.enter (low + 1) state.spot } :=
    ⟨hs.noted, hs.spot, hs.marks.enter hspans hlt state.spot⟩
  have hput : (scope.enter low state.spot).Kept state.marks
      (state.marks.enter (low + 1) state.spot) :=
    (hs.marks.kept_refl.put hkept state.spot).enter hnone state.spot
  refine Outcome.Ends.mono (hb state.spot hentered fun {reached} hr => ?_)
    (fun trace ht => ⟨ht.noted, (hput.trans ht.kept).of_enter hkept⟩) fun _ ht => ht
  have hreached : scope.Kept state.marks reached.marks :=
    (hput.trans hr.sound.spares.kept).of_enter hkept
  have hleft : state.Reaches scope high
      { reached with marks := reached.marks.leave (low + 1) reached.spot } :=
    ⟨hr.forward, ⟨hr.sound.spares.noted, hreached.put (by omega) reached.spot⟩,
      hr.sound.fit.leave hspans hlt hr.forward⟩
  exact (hf hleft).mono (fun _ ht => ⟨ht.noted, ht.kept.of_leave hnone⟩) fun _ ht => ht

/-! ## Nodes -/

theorem looked_ends {context : Context} {follow : Follow} {positive : Bool}
    (hl : context.looping = scope.repeated.isSome) (hs : state.Fit scope low) (hle : low ≤ high)
    (hf : ∀ {reached : State}, state.Reaches scope high reached →
      (follow reached).Ends (Trace.Spares scope reached.marks) goal)
    (ho : outcome.Ends (Trace.Spares scope state.marks) (Trace.Sound scope high state.marks)) :
    (looked context positive state follow outcome).Ends (Trace.Spares scope state.marks) goal := by
  have hresume : ∀ {trace : Trace}, trace.Sound scope high state.marks →
      (follow (trace.resume state.spot)).Ends (Trace.Spares scope state.marks) goal :=
    fun {trace} ht =>
      have hr : state.Reaches scope high (trace.resume state.spot) := ⟨le_refl _, ht⟩
      hr.ends (hf hr)
  rcases outcome with trace | trace <;> cases positive
  · exact ho.spares
  · exact hresume ho
  · have hrestored : (trace.restore context.looping state.marks).Sound scope high state.marks := by
      rw [hl]
      exact Trace.Spares.restore rfl rfl ho (hs.marks.mono hle)
    exact hresume hrestored
  · exact ho

/-- Whether a node can stand between the groups `low` and `high` of a scope. -/
structure Node.Suits (node : Node) (scope : Scope) (low high : ℕ) : Prop where
  tame : node.isTame = true
  ahead : scope.floor = 0 ∨ node.looksBack = false
  numbered : node.captures = List.range' (low + 1) (high - low)
  spans : scope.Spans low high

namespace Node

variable {node first rest body : Node}

theorem Suits.le (h : node.Suits scope low high) : low ≤ high := h.spans.le

/-- The groups of the first of two nodes come before those of the other. -/
theorem Suits.exists_mid (h : node.Suits scope low high)
    (ht : node.isTame = (first.isTame && rest.isTame))
    (hl : node.looksBack = (first.looksBack || rest.looksBack))
    (hc : node.captures = first.captures ++ rest.captures) :
    ∃ mid, first.Suits scope low mid ∧ rest.Suits scope mid high := by
  obtain ⟨htame, hahead, hnumbered, hspans⟩ := h
  obtain ⟨hfirst, hrest⟩ := Bool.and_eq_true_iff.1 (ht ▸ htame)
  rw [hl, Bool.or_eq_false_iff] at hahead
  obtain ⟨k, hk, hf, hr⟩ := List.range'_eq_append_iff.1 (hnumbered.symm.trans hc)
  have hle := hspans.le
  refine ⟨low + k, ⟨hfirst, hahead.imp_right And.left, ?_, ?_⟩,
    ⟨hrest, hahead.imp_right And.right, ?_, ?_⟩⟩
  · rw [hf, Nat.add_sub_cancel_left]
  · exact hspans.mono (le_refl _) (Nat.le_add_right _ _) (by omega)
  · rw [hr]
    congr 1 <;> omega
  · exact hspans.mono (Nat.le_add_right _ _) (by omega) (le_refl _)

/-- What holds one node has the groups of that node. -/
theorem Suits.inside (h : node.Suits scope low high) (ht : body.isTame = true)
    (hl : node.looksBack = body.looksBack) (hc : node.captures = body.captures) :
    body.Suits scope low high :=
  ⟨ht, hl ▸ h.ahead, hc ▸ h.numbered, h.spans⟩

theorem Suits.repeating {greed : Greed} {least : ℕ} {most : Option ℕ}
    (h : (loop greed least most body).Suits scope low high) (hb : scope.Bounds low marks) :
    body.Suits (scope.repeating marks high) low high :=
  ⟨(Bool.and_eq_true_iff.1 h.tame).1, h.ahead, h.numbered, h.spans.repeating hb⟩

/-- What is repeated possessively does not look back, so it can stand behind any place. -/
theorem Suits.above {least : ℕ} {most : Option ℕ}
    (h : (loop .possessive least most body).Suits scope low high) (floor : ℕ) :
    body.Suits (scope.above floor) low low := by
  obtain ⟨htame, hplain⟩ := Bool.and_eq_true_iff.1 h.tame
  obtain ⟨hahead, hnone⟩ : body.looksBack = false ∧ body.captures = [] := by simpa using hplain
  refine ⟨htame, .inr hahead, ?_, le_refl _, h.spans.opened_lt, fun kept most hr => ?_⟩
  · rw [hnone, Nat.sub_self, List.range'_zero]
  · obtain ⟨hk, hm⟩ := h.spans.repeated kept most hr
    exact ⟨hk, h.le.trans hm⟩

/-- A group is the next one that opens. -/
theorem Suits.enter {group : ℕ} (h : (capture group body).Suits scope low high) :
    group = low + 1 ∧ low < high
      ∧ ∀ spot, body.Suits (scope.enter low spot) (low + 1) high := by
  obtain ⟨hgroup, hlt, hrest⟩ := List.range'_eq_cons_iff.1 h.numbered.symm
  have hlow : low < high := by omega
  refine ⟨hgroup.symm, hlow, fun spot => ⟨h.tame, h.ahead, ?_, h.spans.enter hlow spot⟩⟩
  rw [hrest, ← hgroup, Nat.sub_sub]

/-- An attempt of its own hands its end on. -/
theorem finish_ends {context : Context}
    (hb : Matcher.Keeps scope scope low high (body.run context)) (hs : state.Fit scope low) :
    (body.run context state State.finish).Ends (Trace.Spares scope state.marks) fun trace =>
      state.Reaches scope high (trace.resume trace.noted) :=
  hb hs fun hr => hr.finish hs

/-- A run keeps to the order, if the node is tame and its groups are counted one by one. -/
theorem keeps_run : ∀ (node : Node) {scope : Scope} {low high patience : ℕ} {looping : Bool}
    {next : Option CharTest}, node.Suits scope low high → looping = scope.repeated.isSome →
      Matcher.Keeps scope scope low high (node.run ⟨patience, looping, next⟩)
  | .empty, _, _, _, _, _, _, h, _, _, _, _, hs, hf => hf (hs.reaches h.le (le_refl _))
  | .one test, scope, low, high, patience, looping, next, h, _, state, follow,
    goal, hs, hf => by
    rw [run]
    rcases hn : state.spot.next? with _ | ⟨c, beyond⟩
    · exact hs.fail
    · simp only []
      split_ifs
      · have hr := hs.reaches h.le (Cursor.pos_le_of_next? hn)
        exact hr.ends (hf hr)
      · exact hs.fail
  | .site condition, scope, low, high, patience, looping, next, h, _, state, follow,
    goal, hs, hf => by
    rw [run]
    split_ifs
    · exact hf (hs.reaches h.le (le_refl _))
    · exact hs.fail
  | .seq first rest, scope, low, high, patience, looping, next, h, hl, state, follow,
    goal, hs, hf => by
    obtain ⟨mid, hfirst, hrest⟩ := h.exists_mid rfl rfl rfl
    rw [run]
    refine keeps_run first hfirst hl hs fun {reached} hr => ?_
    exact keeps_run rest hrest hl (hr.fit hs) fun {other} ho => hf (hr.trans ho)
  | .never, _, _, _, _, _, _, _, _, _, _, _, hs, _ => hs.fail
  | .alt first rest, scope, low, high, patience, looping, next, h, hl, state, follow,
    goal, hs, hf => by
    obtain ⟨mid, hfirst, hrest⟩ := h.exists_mid rfl rfl rfl
    rw [run]
    split_ifs
    · refine Outcome.Ends.orElse (keeps_run first hfirst hl hs.note fun {reached} hr => ?_)
        fun trace ht => ?_
      · exact hf (((hs.reaches_note (le_refl low)).trans hr).mono hrest.le)
      · have hr : state.Reaches scope mid
            ((trace.restore looping state.marks).resume state.spot) := by
          rw [hl]
          exact ⟨le_refl _, ht.restore rfl rfl (hs.marks.mono hfirst.le)⟩
        exact hr.ends (keeps_run rest hrest hl (hr.fit hs) fun {other} ho => hf (hr.trans ho))
    · exact keeps_run rest hrest hl (hs.mono hfirst.le) hf
  | .many greed least most test, scope, low, high, patience, looping, next, h, hl, state, follow,
    goal, hs, hf =>
    many_keeps hl hs fun {reached} hr => hf (hr.mono h.le)
  | .loop greed least most body, scope, low, high, patience, looping, next, h, hl, state, follow,
    goal, hs, hf => by
    by_cases hg : greed = .possessive
    · subst hg
      have hinner : (looping || Greed.possessive != .possessive) = scope.repeated.isSome := by
        rw [← hl]
        exact Bool.or_false looping
      exact Loop.possessive_keeps (fun floor => keeps_run body (h.above floor) hinner) hs
        fun {reached} hr => hf (hr.mono h.le)
    · refine Loop.giving_keeps hg hl h.le (fun marks hb => ?_) hs hf
      have hsome := scope.isSome_repeating marks high
      have hinner : (looping || greed != .possessive)
          = (scope.repeating marks high).repeated.isSome := by simp [hsome, hg]
      exact Matcher.Keeps.of_isSome (keeps_run body (h.repeating hb) hinner) hsome
  | .capture group body, scope, low, high, patience, looping, next, h, hl, state, follow,
    goal, hs, hf => by
    obtain ⟨rfl, hlt, hinside⟩ := h.enter
    exact Matcher.keeps_of_enter h.spans hlt (fun spot => keeps_run body (hinside spot) hl) hs hf
  | .atomic body, scope, low, high, patience, looping, next, h, hl, state, follow,
    goal, hs, hf => by
    have hbody : Matcher.Keeps scope scope low high (body.run ⟨patience, looping, none⟩) :=
      keeps_run body (h.inside h.tame rfl rfl) hl
    have hrun := finish_ends hbody hs.note
    rw [run]
    rcases hr : body.run ⟨patience, looping, none⟩ state.note State.finish with trace | trace <;>
      rw [hr] at hrun
    · have hall := (hs.reaches_note (le_refl low)).trans hrun
      exact hall.ends (hf hall)
    · exact hrun.at hs.spot
  | .ahead positive body, scope, low, high, patience, looping, next, h, hl, state, follow,
    goal, hs, hf => by
    have hbody : Matcher.Keeps scope scope low high (body.run ⟨patience, looping, none⟩) :=
      keeps_run body (h.inside h.tame rfl rfl) hl
    have hrun := finish_ends hbody hs.note
    exact looked_ends hl hs h.le hf (hrun.mono (fun _ ht => ht) fun _ ht => ht.sound)
  | .behind positive width body, scope, low, high, patience, looping, next, h, hl, state, follow,
    goal, hs, hf => by
    have hfloor : scope.floor = 0 := h.ahead.resolve_right (by simp [looksBack])
    have hbody : Matcher.Keeps scope scope low high (body.run ⟨patience, looping, none⟩) :=
      keeps_run body ⟨h.tame, .inl hfloor, h.numbered, h.spans⟩ hl
    rw [run]
    rcases hb : state.spot.back? width with _ | back
    · simp only []
      split_ifs
      · exact hs.fail
      · exact hf (hs.reaches h.le (le_refl _))
    · have hback : (state.moveTo back).note.Fit scope low :=
        ⟨hfloor ▸ Nat.zero_le _, hfloor ▸ Nat.zero_le _, hs.marks⟩
      have hrun := finish_ends hbody hback
      exact looked_ends hl hs h.le hf (hrun.mono (fun _ ht => ht) fun _ ht => ht.sound)
  | .same fold group, scope, low, high, patience, looping, next, h, hl, state, follow,
    goal, hs, hf => by
    rw [run]
    rcases state.marks.held? group with _ | ⟨same, length⟩
    · exact hs.fail
    · simp only []
      rcases hb : Cursor.behindSame fold length same state.spot with _ | beyond
      · exact hs.fail
      · have hr := hs.reaches h.le (Cursor.pos_le_of_behindSame hb)
        exact hr.ends (hf hr)
  | .ifCaptured group yes no, scope, low, high, patience, looping, next, h, hl, state, follow,
    goal, hs, hf => by
    obtain ⟨mid, hyes, hno⟩ := h.exists_mid rfl rfl rfl
    rw [run]
    split
    · exact keeps_run yes hyes hl hs fun {reached} hr => hf (hr.mono hno.le)
    · exact keeps_run no hno hl (hs.mono hyes.le) hf

end Node

/-! ## Matches -/

/-- A match of a tame pattern is straight, if the groups of the pattern are counted one by one. -/
theorem Pattern.straight_of_matchAt {p : Pattern} {patience : ℕ} {advance : Bool} {start : Cursor}
    {m : Match} (ht : p.node.isTame = true) {groups : ℕ}
    (hc : p.node.captures = List.range' 1 groups)
    (hm : p.matchAt patience advance start = some m) :
    m.start.pos ≤ m.stop.pos ∧ m.marks.tangled = false := by
  let scope : Scope := ⟨0, fun _ => none, none⟩
  let state : State := ⟨⟨start, []⟩, start⟩
  have hspans : scope.Spans 0 groups :=
    ⟨Nat.zero_le _, fun _ h => absurd rfl h, fun _ _ h => by cases h⟩
  have hsuits : p.node.Suits scope 0 groups := ⟨ht, .inl rfl, hc, hspans⟩
  have hstate : state.Fit scope 0 := by
    refine ⟨Nat.zero_le _, Nat.zero_le _, Nat.zero_le _, fun h => ?_, fun _ _ _ h => ?_⟩ <;> cases h
  have hfollow {reached : State} (hr : state.Reaches scope groups reached) :
      (if advance && reached.spot.pos == start.pos then reached.fail else reached.finish).Ends
        (Trace.Spares scope reached.marks) fun trace =>
          state.Reaches scope groups (trace.resume trace.noted) := by
    split_ifs
    · exact (hr.fit hstate).fail
    · exact hr.finish hstate
  have hrun : Matcher.Keeps scope scope 0 groups (p.node.run ⟨patience, false, none⟩) :=
    p.node.keeps_run hsuits rfl
  have hends := hrun hstate hfollow
  rw [matchAt] at hm
  split at hm
  · rename_i trace ho
    rw [ho] at hends
    cases hm
    exact ⟨hends.forward, Marks.tangled_eq_false fun slot => hends.sound.fit.straight rfl⟩
  · cases hm

end FilterTemplate.Regex
