import Mathlib
import FilterTemplate.Proofs.Except
import FilterTemplate.Regex.Replacement

/-!
# Replacements ask for groups that there are

A replacement is read with the groups of its pattern in sight: each part that asks for one has been
compared with their number, whether it names the group or numbers it, and nothing on the way opens
another group. So what was read for a pattern can be filled in from any of its matches
(`group_le_of_read`), whatever the text is that they stand in.
-/

namespace FilterTemplate.Regex

open Reader

/-- A reader that finds `n` groups leaves it at that, and what it gives meets the condition. -/
def Reader.Yields {α : Type} (n : ℕ) (reader : Reader α) (P : α → Prop) : Prop :=
  ∀ reading result after, reading.groups.length = n → reader reading = .ok (result, after) →
    after.groups.length = n ∧ P result

namespace Reader

variable {α β : Type} {n : ℕ} {P : α → Prop} {Q : β → Prop}

theorem yields_pure {a : α} (h : P a) : Yields n (pure a : Reader α) P := by
  intro reading result after hn hr
  obtain ⟨rfl, rfl⟩ := Prod.mk.inj (Except.ok.inj hr)
  exact ⟨hn, h⟩

theorem yields_fail (error : Error) : Yields n (fail error : Reader α) P := by
  intro reading result after _ hr
  cases hr

theorem yields_bind {reader : Reader α} {further : α → Reader β} (h : Yields n reader P)
    (hf : ∀ a, P a → Yields n (further a) Q) : Yields n (reader >>= further) Q := by
  intro reading result after hn hr
  obtain ⟨⟨a, between⟩, ha, hr⟩ := Except.bind_eq_ok_iff.1 hr
  obtain ⟨hb, hp⟩ := h reading a between hn ha
  exact hf a hp between result after hb hr

theorem yields_fail_bind (error : Error) (further : α → Reader β) :
    Yields n (fail error >>= further) Q := by
  intro reading result after _ hr
  cases hr

theorem yields_get : Yields n (get : Reader Reading) fun reading => reading.groups.length = n := by
  intro reading result after hn hr
  obtain ⟨rfl, rfl⟩ := Prod.mk.inj (Except.ok.inj hr)
  exact ⟨hn, hn⟩

theorem yields_ite {c : Prop} [Decidable c] {first second : Reader α}
    (hf : c → Yields n first P) (hs : ¬c → Yields n second P) :
    Yields n (if c then first else second) P := by
  split_ifs with hc
  · exact hf hc
  · exact hs hc

/-- A reader of tokens reads on from the place, and nothing else changes. -/
theorem tokens_eq (read : Text → Except Failure (α × Text)) (reading : Reading) :
    tokens read reading
      = (read reading.rest).map fun (a, rest) => (a, { reading with rest }) := by
  rcases h : read reading.rest with failure | ⟨a, rest⟩ <;>
    simp [tokens, bind, StateT.bind, Except.bind, StateT.get, get, getThe, MonadStateOf.get, liftM,
      monadLift, MonadLift.monadLift, StateT.lift, pure, Except.pure, h, modify, modifyGet,
      MonadStateOf.modifyGet, StateT.modifyGet, StateT.pure]

theorem accept_eq (c : Char) (reading : Reading) :
    accept c reading = (Token.accept c reading.rest).map fun rest =>
      (rest.isSome, { reading with rest := rest.getD reading.rest }) := by
  rcases h : Token.accept c reading.rest with failure | _ | rest <;>
    simp [accept, bind, StateT.bind, Except.bind, StateT.get, get, getThe, MonadStateOf.get, liftM,
      monadLift, MonadLift.monadLift, StateT.lift, pure, Except.pure, h, modify, modifyGet,
      MonadStateOf.modifyGet, StateT.modifyGet, StateT.pure]

theorem yields_tokens (read : Text → Except Failure (α × Text)) :
    Yields n (tokens read) fun _ => True := by
  intro reading result after hn hr
  rw [tokens_eq] at hr
  obtain ⟨_, -, he⟩ := Except.map_eq_ok_iff.1 hr
  obtain ⟨-, rfl⟩ := Prod.mk.inj he
  exact ⟨hn, trivial⟩

theorem yields_accept (c : Char) : Yields n (accept c) fun _ => True := by
  intro reading result after hn hr
  rw [accept_eq] at hr
  obtain ⟨_, -, he⟩ := Except.map_eq_ok_iff.1 hr
  obtain ⟨-, rfl⟩ := Prod.mk.inj he
  exact ⟨hn, trivial⟩

end Reader

/-- Whether a part asks for no group, or for one of the first `n`. -/
def Part.Within (n : ℕ) : Part → Prop
  | .char _ => True
  | .group index => index ≤ n

namespace Replacement

variable {n : ℕ}

theorem yields_groupPart (index : ℕ) :
    Yields n (groupPart index) fun parts => ∀ part ∈ parts, Part.Within n part := by
  refine yields_bind yields_get fun reading hn => yields_ite (fun _ => ?_) fun hi => ?_
  · exact yields_fail_bind _ _
  · refine yields_pure fun part hp => ?_
    rw [List.mem_singleton.1 hp]
    exact hn ▸ Nat.le_of_not_lt hi

theorem yields_bracketedGroup :
    Yields n bracketedGroup fun parts => ∀ part ∈ parts, Part.Within n part := by
  refine yields_bind (yields_accept '<') fun opened _ => yields_ite (fun _ => ?_) fun _ => ?_
  · refine yields_bind (yields_tokens _) fun name _ => yields_ite (fun _ => ?_) fun _ => ?_
    · refine yields_bind yields_get fun reading _ => ?_
      rcases reading.names.lookup name with _ | index
      · exact yields_fail _
      · exact yields_groupPart index
    · rcases GroupNumber.read? name with _ | index
      · exact yields_fail _
      · refine yields_ite (fun _ => ?_) fun _ => yields_groupPart index
        exact yields_fail_bind _ _
  · exact yields_fail _

theorem yields_char (c : Char) :
    Yields n (pure [.char c]) fun parts => ∀ part ∈ parts, Part.Within n part :=
  yields_pure fun part hp => by
    rw [List.mem_singleton.1 hp]
    trivial

theorem yields_digitPart (c : Char) :
    Yields n (digitPart c) fun parts => ∀ part ∈ parts, Part.Within n part := by
  have behind (second third : Text) : Yields n
      (if third.isEmpty then groupPart (Numeral.value (c :: second))
        else do return [.char (Char.ofNat (← octalEscape (c :: second ++ third)))])
      fun parts => ∀ part ∈ parts, Part.Within n part := by
    refine yields_ite (fun _ => yields_groupPart _) fun _ => ?_
    refine yields_bind (P := fun _ => True) ?_ fun code _ => yields_char _
    exact yields_ite (fun _ => yields_fail _) fun _ => yields_pure trivial
  refine yields_bind (yields_tokens _) fun second _ => yields_ite (fun _ => ?_) fun _ => ?_
  · exact yields_bind (yields_tokens _) fun third _ => behind second third
  · exact yields_bind (P := fun _ => True) (yields_pure trivial) fun third _ => behind second third

theorem yields_escapePart (c : Char) :
    Yields n (escapePart c) fun parts => ∀ part ∈ parts, Part.Within n part := by
  refine yields_ite (fun _ => yields_bracketedGroup) fun _ => yields_ite (fun _ => ?_) fun _ => ?_
  · exact yields_bind (yields_tokens _) fun digits _ => yields_char _
  · refine yields_ite (fun _ => yields_digitPart c) fun _ => ?_
    rcases namedControl? c with _ | code
    · refine yields_ite (fun _ => yields_fail _) fun _ => yields_pure fun part hp => ?_
      rcases List.mem_cons.1 hp with rfl | hp
      · trivial
      · rw [List.mem_singleton.1 hp]
        trivial
    · exact yields_char _

theorem yields_parts : ∀ fuel : ℕ,
    Yields n (parts fuel) fun parts => ∀ part ∈ parts, Part.Within n part
  | 0 => yields_pure (by simp)
  | fuel + 1 => by
    have ih := yields_parts fuel
    refine yields_bind (yields_tokens _) fun token _ => ?_
    rcases token with _ | ⟨c | c⟩
    · exact yields_pure (by simp)
    · refine yields_bind ih fun more hm => yields_pure fun part hp => ?_
      rcases List.mem_cons.1 hp with rfl | hp
      · trivial
      · exact hm part hp
    · refine yields_bind (yields_escapePart c) fun first hf => ?_
      refine yields_bind ih fun more hm => yields_pure fun part hp => ?_
      rcases List.mem_append.1 hp with hp | hp
      · exact hf part hp
      · exact hm part hp

/-- Every group that a replacement asks for is one that the pattern has. -/
theorem group_le_of_read {p : Pattern} {text : Text} {parts : List Part}
    (h : read p text = .ok parts) {index : ℕ} (hi : .group index ∈ parts) : index ≤ p.groups := by
  obtain ⟨rest, -, h⟩ := Except.bind_eq_ok_iff.1 h
  obtain ⟨⟨found, after⟩, hp, h⟩ := Except.bind_eq_ok_iff.1 h
  obtain rfl := Except.ok.inj h
  exact (yields_parts _ _ found after (by simp) hp).2 _ hi

end Replacement

end FilterTemplate.Regex
