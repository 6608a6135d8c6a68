import Mathlib
import FilterTemplate.Proofs.Replacement
import FilterTemplate.Regex.Reader

/-!
# Readers that open no group

Most of what a pattern consists of is read without opening a group: escapes, sets, the bounds of
repetitions, and what stands behind an open parenthesis up to the contents of a group. None of these
changes how many groups there are, and what they give captures nothing.
-/

namespace FilterTemplate.Regex

/-- The groups of an expression, in the order in which they open. -/
def Expr.captures : Expr → List ℕ
  | .empty | .char _ _ | .any | .set _ _ | .anchor _ | .reference _ _ | .never => []
  | .seq first rest | .alt first rest => first.captures ++ rest.captures
  | .loop _ _ _ body | .atomic body | .look _ _ body => body.captures
  | .group index _ _ body => index.toList ++ body.captures
  | .conditional _ yes no => yes.captures ++ no.captures

namespace Reader

variable {α : Type} {n : ℕ} {P : α → Prop}

theorem yields_throw (failure : Failure) : Yields n (throw failure : Reader α) P := by
  intro reading result after _ hr
  cases hr

theorem yields_modify {change : Reading → Reading}
    (h : ∀ reading, (change reading).groups.length = reading.groups.length) :
    Yields n (modify change : Reader PUnit) fun _ => True := by
  intro reading result after hn hr
  obtain ⟨-, rfl⟩ := Prod.mk.inj (Except.ok.inj hr)
  exact ⟨(h reading).trans hn, trivial⟩

theorem yields_set {reading : Reading} (h : reading.groups.length = n) :
    Yields n (set reading : Reader PUnit) fun _ => True := by
  intro before result after _ hr
  obtain ⟨-, rfl⟩ := Prod.mk.inj (Except.ok.inj hr)
  exact ⟨h, trivial⟩

theorem yields_next : Yields n next fun _ => True := yields_tokens _

/-- What comes next is nothing, a character or an escape. -/
theorem yields_token {rest : Option Token → Reader α} (hend : Yields n (rest none) P)
    (hplain : ∀ c, Yields n (rest (some (.plain c))) P)
    (hescape : ∀ c, Yields n (rest (some (.escaped c))) P) : Yields n (next >>= rest) P := by
  refine yields_bind yields_next fun token _ => ?_
  rcases token with _ | ⟨c | c⟩
  · exact hend
  · exact hplain c
  · exact hescape c

theorem yields_peek : Yields n peek fun _ => True :=
  yields_bind yields_get fun _ _ => yields_pure trivial

theorem yields_takeWhile (condition : Char → Bool) (count : ℕ) :
    Yields n (takeWhile condition count) fun _ => True := yields_tokens _

theorem yields_takeUntil (terminator : Char) (what : Text) :
    Yields n (takeUntil terminator what) fun _ => True := yields_tokens _

end Reader

open Reader

variable {n : ℕ}

/-! ## Groups by name and number -/

theorem yields_identifier (terminator : Char) : Yields n (identifier terminator) fun _ => True :=
  yields_bind (yields_takeUntil _ _) fun _ _ =>
    yields_ite (fun _ => yields_pure trivial) fun _ => yields_fail _

theorem yields_closedWidth? (group : ℕ) : Yields n (closedWidth? group) fun _ => True :=
  yields_bind yields_get fun _ _ => yields_pure trivial

theorem yields_checkBehind (group : ℕ) : Yields n (checkBehind group) fun _ => True := by
  refine yields_bind yields_get fun reading _ => ?_
  rcases reading.behind with _ | count
  · exact yields_pure trivial
  · have hlast : Yields n (if count < group then fail .lookBehindReference else pure ())
        fun _ => True := yields_ite (fun _ => yields_fail _) fun _ => yields_pure trivial
    refine yields_bind (yields_closedWidth? group) fun width _ => yields_ite (fun _ => ?_)
      fun _ => hlast
    exact yields_fail_bind _ _

theorem yields_reference (group : ℕ) :
    Yields n (reference group) fun item => item.captures = [] := by
  refine yields_bind (yields_closedWidth? group) fun width _ => ?_
  rcases width with _ | width
  · exact yields_fail _
  · exact yields_bind (yields_checkBehind group) fun _ _ => yields_pure rfl

theorem yields_conditionGroup : Yields n conditionGroup fun _ => True := by
  have hlast (group : ℕ) : Yields n (do checkBehind group; return group) fun _ => True :=
    yields_bind (yields_checkBehind group) fun _ _ => yields_pure trivial
  refine yields_bind (yields_takeUntil _ _) fun name _ => yields_ite (fun _ => ?_) fun _ => ?_
  · refine yields_bind yields_get fun reading _ => ?_
    rcases reading.names.lookup name with _ | group
    · exact yields_fail_bind _ _
    · exact yields_bind (yields_pure (P := fun _ => True) trivial) fun group _ => hlast group
  · rcases GroupNumber.read? name with _ | _ | group
    · exact yields_fail_bind _ _
    · exact yields_fail_bind _ _
    · refine yields_ite (fun _ => yields_fail_bind _ _) fun _ => ?_
      refine yields_bind (yields_modify fun _ => rfl) fun _ _ => ?_
      exact yields_bind (yields_pure (P := fun _ => True) trivial) fun group _ => hlast group

/-! ## Escapes -/

theorem yields_octalEscape (digits : Text) : Yields n (octalEscape digits) fun _ => True :=
  yields_ite (fun _ => yields_fail _) fun _ => yields_pure trivial

theorem yields_hexEscape (letter : Char) (count : ℕ) :
    Yields n (hexEscape letter count) fun _ => True := by
  refine yields_bind (yields_takeWhile _ _) fun digits _ => yields_ite (fun _ => ?_) fun _ => ?_
  · exact yields_ite (fun _ => yields_fail_bind _ _) fun _ => yields_pure trivial
  · exact yields_fail _

theorem yields_nameEscape : Yields n nameEscape fun _ => True := by
  refine yields_bind (yields_accept _) fun opened _ => yields_ite (fun _ => ?_) fun _ => ?_
  · refine yields_bind (yields_takeUntil _ _) fun name _ => ?_
    rcases Unicode.codeNamed? name with _ | code
    · exact yields_fail _
    · exact yields_pure trivial
  · exact yields_fail _

theorem yields_commonEscape (c : Char) : Yields n (commonEscape c) fun _ => True := by
  refine yields_ite (fun _ => yields_hexEscape c 2) fun _ => ?_
  refine yields_ite (fun _ => yields_hexEscape c 4) fun _ => ?_
  refine yields_ite (fun _ => yields_hexEscape c 8) fun _ => ?_
  refine yields_ite (fun _ => yields_nameEscape) fun _ => ?_
  exact yields_ite (fun _ => yields_fail _) fun _ => yields_pure trivial

theorem yields_setEscape (c : Char) : Yields n (setEscape c) fun _ => True := by
  unfold setEscape
  rcases namedControl? c with _ | code
  · rcases category? c with _ | member
    · refine yields_ite (fun _ => ?_) fun _ => ?_
      · exact yields_bind (yields_takeWhile _ _) fun digits _ =>
          yields_bind (yields_octalEscape _) fun code _ => yields_pure trivial
      · exact yields_bind (yields_commonEscape c) fun code _ => yields_pure trivial
    · exact yields_pure trivial
  · exact yields_pure trivial

theorem yields_digitEscape (c : Char) :
    Yields n (digitEscape c) fun item => item.captures = [] := by
  have behind (second third : Text) : Yields n
      (if third.isEmpty then do
          let group := Numeral.value (c :: second)
          if group ≤ (← get).groups.length then reference group else fail (.invalidReference group)
        else do return .char false (← octalEscape (c :: second ++ third)))
      fun item => item.captures = [] := by
    refine yields_ite (fun _ => ?_) fun _ => ?_
    · exact yields_bind yields_get fun reading _ =>
        yields_ite (fun _ => yields_reference _) fun _ => yields_fail _
    · exact yields_bind (yields_octalEscape _) fun code _ => yields_pure rfl
  refine yields_bind (yields_takeWhile _ _) fun second _ => yields_ite (fun _ => ?_) fun _ => ?_
  · exact yields_bind (yields_takeWhile _ _) fun third _ => behind second third
  · exact yields_bind (P := fun _ => True) (yields_pure trivial) fun third _ => behind second third

theorem yields_escape (c : Char) : Yields n (escape c) fun item => item.captures = [] := by
  unfold escape
  rcases anchor? c with _ | anchor
  · rcases category? c with _ | member
    · rcases namedControl? c with _ | code
      · refine yields_ite (fun _ => ?_) fun _ => yields_ite (fun _ => yields_digitEscape c)
          fun _ => ?_
        · exact yields_bind (yields_takeWhile _ _) fun digits _ => yields_pure rfl
        · exact yields_bind (yields_commonEscape c) fun code _ => yields_pure rfl
      · exact yields_pure rfl
    · exact yields_pure rfl
  · exact yields_pure rfl

/-! ## Sets -/

theorem yields_setToken (token : Token) : Yields n (setToken token) fun _ => True := by
  rcases token with c | c
  · exact yields_pure trivial
  · exact yields_setEscape c

theorem yields_rangeBetween (first last : Token) (low high : Member) :
    Yields n (rangeBetween first last low high) fun _ => True := by
  rcases low with low | _ | _ <;> rcases high with high | _ | _
  case char.char => exact yields_ite (fun _ => yields_fail _) fun _ => yields_pure trivial
  all_goals exact yields_fail _

theorem yields_setMembers : ∀ (fuel : ℕ) (members : List Member),
    Yields n (setMembers fuel members) fun _ => True
  | 0, _ => yields_fail _
  | fuel + 1, members => by
    have ih := yields_setMembers fuel
    refine yields_bind yields_next fun token _ => ?_
    rcases token with _ | token
    · exact yields_fail _
    · refine yields_ite (fun _ => yields_pure trivial) fun _ => ?_
      refine yields_bind (yields_setToken token) fun low _ => ?_
      refine yields_bind (yields_accept _) fun hyphen _ => yields_ite (fun _ => ?_) fun _ => ih _
      refine yields_bind yields_next fun other _ => ?_
      split
      · exact yields_fail _
      · exact yields_pure trivial
      · refine yields_bind (yields_setToken _) fun high _ => ?_
        exact yields_bind (yields_rangeBetween _ _ _ _) fun range _ => ih _

theorem yields_characterSet : Yields n characterSet fun item => item.captures = [] := by
  refine yields_bind (yields_accept _) fun negated _ => yields_bind yields_get fun reading _ => ?_
  refine yields_bind (yields_setMembers _ _) fun members _ => ?_
  split <;> exact yields_pure rfl

/-! ## Repetitions -/

theorem yields_repetitionBound (digits : Text) :
    Yields n (repetitionBound digits) fun _ => True := by
  unfold repetitionBound
  rcases Numeral.read digits with tooLong | bound
  · exact yields_throw _
  · exact yields_ite (fun _ => yields_throw _) fun _ => yields_pure trivial

theorem yields_bracedBounds : Yields n bracedBounds fun _ => True := by
  have hmost (least : ℕ) (high : Text) : Yields n
      (if high.isEmpty then return some (least, none)
        else do
          let most ← repetitionBound high
          if most < least then fail .minimumAboveMaximum
          return some (least, some most))
      fun _ => True := by
    refine yields_ite (fun _ => yields_pure trivial) fun _ => ?_
    refine yields_bind (yields_repetitionBound high) fun most _ => ?_
    exact yields_ite (fun _ => yields_fail_bind _ _) fun _ => yields_pure trivial
  have hclosing (start : Reading) (hs : start.groups.length = n) (low high : Text) : Yields n
      (do
        if ← accept '\x7d' then
          let least ← if low.isEmpty then pure 0 else repetitionBound low
          if high.isEmpty then return some (least, none)
          let most ← repetitionBound high
          if most < least then fail .minimumAboveMaximum
          return some (least, some most)
        else
          set start
          return none)
      fun _ => True := by
    refine yields_bind (yields_accept _) fun closed _ => yields_ite (fun _ => ?_) fun _ => ?_
    · refine yields_ite (fun _ => ?_) fun _ => ?_
      · exact yields_bind (P := fun _ => True) (yields_pure trivial) fun least _ => hmost least high
      · exact yields_bind (yields_repetitionBound low) fun least _ => hmost least high
    · exact yields_bind (yields_set hs) fun _ _ => yields_pure trivial
  refine yields_bind yields_get fun start hs => yields_bind yields_peek fun token _ => ?_
  refine yields_ite (fun _ => yields_pure trivial) fun _ => ?_
  refine yields_bind (yields_takeWhile _ _) fun low _ => ?_
  refine yields_bind (yields_accept _) fun comma _ => yields_ite (fun _ => ?_) fun _ => ?_
  · exact yields_bind (yields_takeWhile _ _) fun high _ => hclosing start hs low high
  · exact yields_bind (P := fun _ => True) (yields_pure trivial) fun high _ =>
      hclosing start hs low high

theorem yields_repetition? (c : Char) : Yields n (repetition? c) fun _ => True := by
  refine yields_ite (fun _ => yields_pure trivial) fun _ => ?_
  refine yields_ite (fun _ => yields_pure trivial) fun _ => ?_
  exact yields_ite (fun _ => yields_pure trivial) fun _ => yields_bracedBounds

theorem Expr.captures_ungrouped (e : Expr) : e.ungrouped.captures = e.captures := by
  unfold ungrouped
  split
  · split_ifs <;> rfl
  · rfl

theorem yields_repetitionGreed : Yields n repetitionGreed fun _ => True := by
  refine yields_bind (yields_accept '?') fun lazy _ => ?_
  refine yields_ite (fun _ => yields_pure trivial) fun _ => ?_
  refine yields_bind (yields_accept '+') fun possessive _ => ?_
  exact yields_ite (fun _ => yields_pure trivial) fun _ => yields_pure trivial

theorem yields_repeated (least : ℕ) (most : Option ℕ) (items : List Expr) :
    Yields n (repeated least most items) fun result =>
      result.reverse.flatMap Expr.captures = items.reverse.flatMap Expr.captures := by
  unfold repeated
  split
  · exact yields_fail _
  · exact yields_fail _
  · exact yields_fail _
  · refine yields_bind yields_repetitionGreed fun greed _ => yields_pure ?_
    simp [Expr.captures, Expr.captures_ungrouped]

/-! ## What a parenthesis opens -/

/-- What an opening holds by itself captures nothing. -/
def Opening.IsQuiet : Opening → Prop
  | .item held => held.captures = []
  | _ => True

theorem yields_addedFlags : ∀ (fuel : ℕ) (flags : Flags) (c : Char),
    Yields n (addedFlags fuel flags c) fun _ => True
  | 0, _, _ => yields_fail _
  | fuel + 1, flags, c => by
    unfold addedFlags
    rcases flag? c with _ | flag
    · exact yields_fail _
    · refine yields_ite (fun _ => yields_fail_bind _ _) fun _ => ?_
      refine yields_token (yields_fail _) (fun d => ?_) fun _ => yields_fail _
      refine yields_ite (fun _ => yields_pure trivial) fun _ => ?_
      exact yields_ite (fun _ => yields_addedFlags fuel _ d) fun _ => yields_fail _

theorem yields_removedFlags : ∀ (fuel : ℕ) (flags : Flags) (c : Char),
    Yields n (removedFlags fuel flags c) fun _ => True
  | 0, _, _ => yields_fail _
  | fuel + 1, flags, c => by
    unfold removedFlags
    rcases flag? c with _ | flag
    · exact yields_fail _
    · refine yields_ite (fun _ => yields_fail_bind _ _) fun _ => ?_
      refine yields_token (yields_fail _) (fun d => ?_) fun _ => yields_fail _
      refine yields_ite (fun _ => yields_pure trivial) fun _ => ?_
      exact yields_ite (fun _ => yields_removedFlags fuel _ d) fun _ => yields_fail _

theorem yields_removedBehindHyphen : Yields n removedBehindHyphen fun _ => True := by
  refine yields_token (yields_fail _) (fun c => ?_) fun _ => yields_fail _
  refine yields_ite (fun _ => ?_) fun _ => yields_fail _
  exact yields_bind yields_get fun reading _ => yields_removedFlags _ _ _

theorem yields_flagsOpening (c : Char) : Yields n (flagsOpening c) Opening.IsQuiet := by
  have hscope (added removed : Flags) : Yields n
      (do
        if removed.template then fail .globalFlagRemoved
        if added.meet removed then fail .flagAddedAndRemoved
        return .scope added removed)
      Opening.IsQuiet := by
    refine yields_ite (fun _ => yields_fail_bind _ _) fun _ => ?_
    exact yields_ite (fun _ => yields_fail_bind _ _) fun _ => yields_pure trivial
  have hbehind (added : Flags) (terminator : Char) : Yields n
      (do
        if terminator = ')' then
          modify fun r => { r with flags := r.flags.union added }
          return .globalFlags
        if added.template then fail .globalFlagScoped
        let removed ← if terminator = '-' then removedBehindHyphen else pure .none
        if removed.template then fail .globalFlagRemoved
        if added.meet removed then fail .flagAddedAndRemoved
        return .scope added removed)
      Opening.IsQuiet := by
    refine yields_ite (fun _ => ?_) fun _ => ?_
    · exact yields_bind (yields_modify fun _ => rfl) fun _ _ => yields_pure trivial
    · refine yields_ite (fun _ => yields_fail_bind _ _) fun _ => ?_
      refine yields_ite (fun _ => ?_) fun _ => ?_
      · exact yields_bind yields_removedBehindHyphen fun removed _ => hscope added removed
      · exact yields_bind (yields_pure (P := fun _ => True) trivial) fun removed _ =>
          hscope added removed
  refine yields_ite (fun _ => ?_) fun _ => yields_bind yields_get fun reading _ => ?_
  · exact yields_bind (yields_pure (P := fun _ => True) trivial) fun found _ =>
      hbehind found.1 found.2
  · exact yields_bind (yields_addedFlags _ _ _) fun found _ => hbehind found.1 found.2

theorem yields_skipComment : ∀ fuel : ℕ, Yields n (skipComment fuel) fun _ => True
  | 0 => yields_fail _
  | fuel + 1 => by
    refine yields_bind yields_peek fun token _ => ?_
    rcases token with _ | token
    · exact yields_fail _
    · refine yields_bind yields_next fun _ _ => ?_
      exact yields_ite (fun _ => yields_pure trivial) fun _ => yields_skipComment fuel

theorem yields_namedOpening : Yields n namedOpening Opening.IsQuiet := by
  refine yields_bind (yields_accept _) fun angle _ => yields_ite (fun _ => ?_) fun _ => ?_
  · exact yields_bind (yields_identifier _) fun name _ => yields_pure trivial
  · refine yields_bind (yields_accept _) fun equals _ => yields_ite (fun _ => ?_) fun _ => ?_
    · refine yields_bind (yields_identifier _) fun name _ => ?_
      refine yields_bind yields_get fun reading _ => ?_
      rcases reading.names.lookup name with _ | group
      · exact yields_fail _
      · exact yields_bind (yields_reference group) fun item hi => yields_pure hi
    · refine yields_bind yields_next fun token _ => ?_
      rcases token with _ | token <;> exact yields_fail _

theorem yields_behindOpening : Yields n behindOpening Opening.IsQuiet := by
  refine yields_bind yields_next fun token _ => ?_
  rcases token with _ | token
  · exact yields_fail _
  · refine yields_ite (fun _ => yields_pure trivial) fun _ => ?_
    exact yields_ite (fun _ => yields_pure trivial) fun _ => yields_fail _

theorem yields_extension : Yields n extension Opening.IsQuiet := by
  refine yields_token (yields_fail _) (fun c => ?_) fun _ => yields_fail _
  refine yields_ite (fun _ => yields_namedOpening) fun _ => ?_
  refine yields_ite (fun _ => yields_pure trivial) fun _ => ?_
  refine yields_ite (fun _ => ?_) fun _ => ?_
  · exact yields_bind yields_get fun reading _ =>
      yields_bind (yields_skipComment _) fun _ _ => yields_pure trivial
  refine yields_ite (fun _ => yields_pure trivial) fun _ => ?_
  refine yields_ite (fun _ => yields_pure trivial) fun _ => ?_
  refine yields_ite (fun _ => yields_behindOpening) fun _ => ?_
  refine yields_ite (fun _ => ?_) fun _ => ?_
  · exact yields_bind yields_conditionGroup fun group _ => yields_pure trivial
  refine yields_ite (fun _ => yields_pure trivial) fun _ => ?_
  exact yields_ite (fun _ => yields_flagsOpening c) fun _ => yields_fail _

theorem yields_opening : Yields n opening Opening.IsQuiet :=
  yields_bind (yields_accept _) fun _ _ =>
    yields_ite (fun _ => yields_extension) fun _ => yields_pure trivial

theorem yields_closing : Yields n closing fun _ => True :=
  yields_bind (yields_accept _) fun _ _ =>
    yields_ite (fun _ => yields_pure trivial) fun _ => yields_fail _

theorem yields_skipLine : ∀ fuel : ℕ, Yields n (skipLine fuel) fun _ => True
  | 0 => yields_pure trivial
  | fuel + 1 => by
    refine yields_bind yields_next fun token _ => ?_
    rcases token with _ | token
    · exact yields_pure trivial
    · exact yields_ite (fun _ => yields_pure trivial) fun _ => yields_skipLine fuel

end FilterTemplate.Regex
