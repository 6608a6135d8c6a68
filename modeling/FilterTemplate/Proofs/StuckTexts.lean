import Mathlib
import FilterTemplate.Proofs.Tokens

/-!
# Where a text cannot be read on

A text that is not split has a longest start that is split, and what stands behind it cannot be read
on (`Stuck`): it closes no chain, or it opens one that does not come to its end. There is no other
way: whatever stands at a place is written for a lexeme, or stuck there (`exists_write_or_stuck`).
And no part of what is stuck can be read, however short (`Stuck.lexemes_ne_ok`), so the place is the
only one.

Everything about chains rests on one fact: a text starts with one text of a chain, up to where it
comes to an end or to a character that opens or closes (`exists_body_append`), and this determines
both parts (`body_append_inj`).
-/

namespace FilterTemplate

namespace Delimiters

variable (d : Delimiters)

/-! ## The text of a chain, and what ends it -/

/-- Whether the text of a chain ends in front of this: at the end of all text, at an escape without
a character to take, or at a character that opens or closes. -/
def endsBody : Text → Bool
  | [] => true
  | c :: rest => d.bounds c || (c = d.escape && rest.isEmpty)

theorem bounds_escape : d.bounds d.escape = false :=
  d.bounds_eq_false.2 ⟨d.escape_ne_opening, d.escape_ne_closing⟩

/-- The text of a chain starts with an escape and a character that it takes, or with a character
that neither opens nor closes. -/
theorem isBody_cons_cases {c : Char} {body : Text} (h : d.isBody (c :: body)) :
    (c = d.escape ∧ ∃ next behind, body = next :: behind ∧ d.isBody behind)
      ∨ (c ≠ d.escape ∧ d.bounds c = false ∧ d.isBody body) := by
  by_cases hc : c = d.escape
  · rcases body with _ | ⟨next, behind⟩
    · simp [isBody, hc] at h
    · rw [hc, isBody_escape] at h
      exact .inl ⟨hc, next, behind, rfl, h⟩
  · rw [d.isBody_plain hc, Bool.and_eq_true, Bool.not_eq_true'] at h
    exact .inr ⟨hc, h⟩

theorem endsBody_body_append {c : Char} {body : Text} (h : d.isBody (c :: body)) (rest : Text) :
    d.endsBody (c :: body ++ rest) = false := by
  rcases d.isBody_cons_cases h with ⟨rfl, next, behind, rfl, -⟩ | ⟨hc, hb, -⟩
  · simp [endsBody, bounds_escape]
  · simp [endsBody, hc, hb]

theorem exists_body_append : ∀ text : Text, ∃ body rest,
    text = body ++ rest ∧ d.isBody body ∧ d.endsBody rest
  | [] => ⟨[], [], rfl, rfl, rfl⟩
  | [c] => by
    by_cases he : d.endsBody [c]
    · exact ⟨[], [c], rfl, rfl, he⟩
    · simp only [endsBody, List.isEmpty_nil, Bool.and_true, Bool.or_eq_true, decide_eq_true_eq,
        not_or, Bool.not_eq_true] at he
      exact ⟨[c], [], rfl, by rw [d.isBody_plain he.2, he.1]; rfl, rfl⟩
  | c :: next :: behind => by
    by_cases hc : c = d.escape
    · obtain ⟨body, rest, rfl, hbody, hrest⟩ := exists_body_append behind
      exact ⟨c :: next :: body, rest, rfl, by rw [hc, isBody_escape, hbody], hrest⟩
    · by_cases hb : d.bounds c
      · exact ⟨[], c :: next :: behind, rfl, rfl, by rw [endsBody, hb]; rfl⟩
      · obtain ⟨body, rest, he, hbody, hrest⟩ := exists_body_append (next :: behind)
        exact ⟨c :: body, rest, by rw [he, List.cons_append],
          by simp [d.isBody_plain hc, hb, hbody], hrest⟩

theorem body_append_inj {rest rest' : Text} (hr : d.endsBody rest) (hr' : d.endsBody rest') :
    ∀ {body other : Text}, d.isBody body → d.isBody other → body ++ rest = other ++ rest' →
      body = other ∧ rest = rest'
  | [], [], _, _, he => ⟨rfl, he⟩
  | [], c :: other, _, ho, he => by
    rw [List.nil_append] at he
    rw [he, d.endsBody_body_append ho] at hr
    cases hr
  | c :: body, [], hb, _, he => by
    rw [List.nil_append] at he
    rw [← he, d.endsBody_body_append hb] at hr'
    cases hr'
  | c :: body, x :: other, hb, ho, he => by
    rw [List.cons_append, List.cons_append, List.cons.injEq] at he
    obtain ⟨rfl, he⟩ := he
    rcases d.isBody_cons_cases hb with ⟨hc, next, behind, rfl, hbehind⟩ | ⟨hc, -, hbody⟩ <;>
      rcases d.isBody_cons_cases ho with ⟨hx, next', behind', rfl, hbehind'⟩ | ⟨hx, -, hother⟩
    · rw [List.cons_append, List.cons_append, List.cons.injEq] at he
      obtain ⟨rfl, he⟩ := he
      obtain ⟨rfl, hrest⟩ := body_append_inj hr hr' hbehind hbehind' he
      exact ⟨rfl, hrest⟩
    · exact absurd hc hx
    · exact absurd hx hc
    · obtain ⟨rfl, hrest⟩ := body_append_inj hr hr' hbody hother he
      exact ⟨rfl, hrest⟩

/-! ## Texts that are stuck -/

/-- A text at position `i` that cannot be read on from there, and the fault that is found. -/
inductive Stuck (i : ℕ) : Text → Fault → Prop
  /-- It closes no chain. -/
  | closing {behind : Text} : behind.head? ≠ some d.closing →
    Stuck i (d.closing :: behind) (d.unmatchedClosing i)
  /-- It opens a chain in which another one is opened. -/
  | nested {body behind : Text} : body ≠ [] → d.isBody body →
    Stuck i (d.opening :: (body ++ d.opening :: behind)) (d.nestedChain (i + 1 + body.length))
  /-- It opens a chain that ends with an escape. -/
  | dangling {body : Text} : d.isBody body →
    Stuck i (d.opening :: (body ++ [d.escape])) (d.danglingEscape (i + 1 + body.length))
  /-- It opens a chain that is not closed. -/
  | unclosed {body : Text} : d.isBody body →
    Stuck i (d.opening :: body) (d.unmatchedOpening i)

theorem head?_body_append_ne {body rest : Text} (h : d.isBody body)
    (hr : body = [] → rest.head? ≠ some d.opening) : (body ++ rest).head? ≠ some d.opening := by
  rcases body with _ | ⟨c, body⟩
  · exact hr rfl
  · rw [List.cons_append, List.head?_cons, ne_eq, Option.some.injEq]
    rcases d.isBody_cons_cases h with ⟨rfl, -⟩ | ⟨-, hb, -⟩
    · exact d.escape_ne_opening
    · exact (d.bounds_eq_false.1 hb).1

/-- The fault in the rest of a chain is the fault of the text that opens the chain. -/
theorem lexemes_of_chainLexemes {body rest : Text} {i : ℕ} {fault : Fault} (hb : d.isBody body)
    (hr : body = [] → rest.head? ≠ some d.opening)
    (h : d.chainLexemes i rest (i + 1 + body.length) = .error fault) :
    d.lexemes (d.opening :: (body ++ rest)) i = .error fault := by
  have hc : d.chainLexemes i (body ++ rest) (i + 1) = .error fault := by
    rw [d.chainLexemes_append i rest body (i + 1) hb, h, Except.map_error_eq]
  have hh := d.head?_body_append_ne hb hr
  generalize body ++ rest = behind at hc hh
  rcases behind with _ | ⟨next, behind⟩
  · rw [chainLexemes.eq_def] at hc
    rw [d.lexemes_bound_end d.bounds_opening, if_pos rfl, Except.error.inj hc]
  · rw [d.lexemes_opening (fun he => hh (congrArg some he)), hc, Except.map_error_eq]

namespace Stuck

variable {d} {i : ℕ} {text : Text} {fault : Fault}

theorem lexemes_eq (h : d.Stuck i text fault) : d.lexemes text i = .error fault := by
  cases h with
  | @closing behind hh =>
    rcases behind with _ | ⟨next, behind⟩
    · rw [d.lexemes_bound_end d.bounds_closing, if_neg d.closing_ne_opening]
    · exact d.lexemes_closing (fun he => hh (congrArg some he)) behind i
  | nested hn hb =>
    exact d.lexemes_of_chainLexemes hb (fun he => absurd he hn) (d.chainLexemes_opening i _ _)
  | dangling hb =>
    refine d.lexemes_of_chainLexemes hb (fun _ => ?_) (d.chainLexemes_escape_end i _)
    rw [List.head?_cons, ne_eq, Option.some.injEq]
    exact d.escape_ne_opening
  | @unclosed body hb =>
    have hc : d.chainLexemes i [] (i + 1 + body.length) = .error (d.unmatchedOpening i) := by
      rw [chainLexemes.eq_def]
    have hl := d.lexemes_of_chainLexemes hb (fun _ => by simp) hc
    rwa [List.append_nil] at hl

/-- It starts with a delimiter of a chain that is not doubled. -/
theorem exists_cons (h : d.Stuck i text fault) :
    ∃ c behind, text = c :: behind ∧ d.bounds c ∧ behind.head? ≠ some c := by
  cases h with
  | closing hh => exact ⟨_, _, rfl, d.bounds_closing, hh⟩
  | nested hn hb =>
    exact ⟨_, _, rfl, d.bounds_opening, d.head?_body_append_ne hb fun he => absurd he hn⟩
  | dangling hb =>
    refine ⟨_, _, rfl, d.bounds_opening, d.head?_body_append_ne hb fun _ => ?_⟩
    rw [List.head?_cons, ne_eq, Option.some.injEq]
    exact d.escape_ne_opening
  | @unclosed body hb =>
    have hh : (body ++ []).head? ≠ some d.opening := d.head?_body_append_ne hb fun _ => by simp
    rw [List.append_nil] at hh
    exact ⟨_, _, rfl, d.bounds_opening, hh⟩

/-- A chain that is stuck does not come to a character that closes it. -/
theorem ne_chain (h : d.Stuck i (d.opening :: text) fault) {body : Text} (hb : d.isBody body)
    (behind : Text) : text ≠ body ++ d.closing :: behind := by
  rintro rfl
  have hends (c : Char) (hc : d.bounds c) (rest : Text) : d.endsBody (c :: rest) := by
    rw [endsBody, hc, Bool.true_or]
  have hclosing := hends d.closing d.bounds_closing behind
  generalize ht : d.opening :: (body ++ d.closing :: behind) = text at h
  cases h with
  | closing _ => exact d.closing_ne_opening (List.cons.inj ht).1.symm
  | @nested inner rest _ hi =>
    have he := (d.body_append_inj hclosing (hends _ d.bounds_opening rest) hb hi
      (List.cons.inj ht).2).2
    exact d.closing_ne_opening (List.cons.inj he).1
  | @dangling inner hi =>
    have he := (d.body_append_inj hclosing (by simp [endsBody]) hb hi (List.cons.inj ht).2).2
    exact d.escape_ne_closing (List.cons.inj he).1.symm
  | @unclosed inner hi =>
    have hnil : d.endsBody [] := rfl
    have he := (d.body_append_inj hclosing hnil hb hi
      ((List.cons.inj ht).2.trans (List.append_nil inner).symm)).2
    cases he

/-- Nothing that is written for a lexeme stands at the start. -/
theorem ne_write_append (h : d.Stuck i text fault) {lexeme : Lexeme} (hp : d.Proper lexeme)
    (rest : Text) : text ≠ d.write lexeme ++ rest := by
  rintro rfl
  obtain ⟨c, behind, hw, hc, hh⟩ := h.exists_cons
  rcases lexeme with x | body
  · by_cases hx : d.bounds x
    · simp only [write, if_pos hx, List.cons_append, List.cons.injEq] at hw
      obtain ⟨rfl, rfl⟩ := hw
      exact hh rfl
    · simp only [write, if_neg hx, List.cons_append, List.cons.injEq] at hw
      obtain ⟨rfl, -⟩ := hw
      exact hx hc
  · have hchain : d.write (.chain body) ++ rest = d.opening :: (body ++ d.closing :: rest) := by
      simp [write]
    rw [hchain] at h
    exact h.ne_chain hp rest rfl

/-- No part of it is read. -/
theorem lexemes_ne_ok (h : d.Stuck i text fault) {before rest : Text} (he : text = before ++ rest)
    (hn : before ≠ []) (j : ℕ) (found : List Lexeme) : d.lexemes before j ≠ .ok found := by
  intro ho
  obtain ⟨rfl, hp⟩ := d.lexemes_eq_ok_iff.1 ho
  rcases found with _ | ⟨lexeme, found⟩
  · exact hn rfl
  · rw [written_cons, List.append_assoc] at he
    exact h.ne_write_append (hp lexeme List.mem_cons_self) _ he

/-- A chain in another one, and what closes no chain and is not the last character, are found
whatever comes behind them. -/
theorem append (h : d.Stuck i text fault) (hf : fault.cause = .nestedChain
      ∨ fault.cause = .unmatched d.closing ∧ 1 < text.length) (more : Text) :
    d.Stuck i (text ++ more) fault := by
  cases h with
  | @closing behind hh =>
    rcases behind with _ | ⟨next, behind⟩
    · rcases hf with hf | ⟨-, hlt⟩
      · cases hf
      · simp at hlt
    · exact .closing hh
  | nested hn hb =>
    rw [List.cons_append, List.append_assoc, List.cons_append]
    exact .nested hn hb
  | dangling hb => rcases hf with hf | ⟨hf, -⟩ <;> cases hf
  | unclosed hb =>
    rcases hf with hf | ⟨hf, -⟩
    · cases hf
    · exact absurd (Cause.unmatched.inj hf) d.closing_ne_opening.symm

end Stuck

/-! ## A text is read, or stuck somewhere -/

/-- Whatever stands at a place is written for a lexeme, or stuck. -/
theorem exists_write_or_stuck (i : ℕ) {text : Text} (hn : text ≠ []) :
    (∃ lexeme rest, d.Proper lexeme ∧ text = d.write lexeme ++ rest)
      ∨ ∃ fault, d.Stuck i text fault := by
  obtain ⟨c, behind, rfl⟩ := List.exists_cons_of_ne_nil hn
  by_cases hc : d.bounds c
  swap
  · exact .inl ⟨.char c, behind, trivial, by rw [write, if_neg hc]; rfl⟩
  by_cases hd : behind.head? = some c
  · obtain ⟨rest, rfl⟩ := List.head?_eq_some_iff.1 hd
    exact .inl ⟨.char c, rest, trivial, by rw [write, if_pos hc]; rfl⟩
  by_cases ho : c = d.opening
  swap
  · obtain rfl := d.eq_closing_of_bounds hc ho
    exact .inr ⟨_, .closing hd⟩
  subst ho
  obtain ⟨body, rest, rfl, hb, he⟩ := d.exists_body_append behind
  rcases rest with _ | ⟨x, rest⟩
  · rw [List.append_nil]
    exact .inr ⟨_, .unclosed hb⟩
  by_cases hx : d.bounds x
  · by_cases hxo : x = d.opening
    · subst hxo
      refine .inr ⟨_, .nested ?_ hb⟩
      rintro rfl
      exact hd rfl
    · obtain rfl := d.eq_closing_of_bounds hx hxo
      exact .inl ⟨.chain body, rest, hb, by simp [write]⟩
  · rw [endsBody, Bool.or_eq_true, Bool.and_eq_true, decide_eq_true_eq, List.isEmpty_iff] at he
    obtain ⟨rfl, rfl⟩ := he.resolve_left hx
    exact .inr ⟨_, .dangling hb⟩

theorem length_write_pos (lexeme : Lexeme) : 0 < (d.write lexeme).length := by
  rcases lexeme with c | body
  · rw [write]
    split_ifs <;> simp
  · simp [write]

/-- A text is read as a whole, or up to where it is stuck. -/
theorem exists_written_or_stuck (i : ℕ) (text : Text) :
    ∃ found rest, text = d.written found ++ rest ∧ (∀ lexeme ∈ found, d.Proper lexeme)
      ∧ (rest = [] ∨ ∃ fault, d.Stuck (i + (d.written found).length) rest fault) := by
  by_cases hn : text = []
  · exact ⟨[], [], hn, by simp, .inl rfl⟩
  rcases d.exists_write_or_stuck i hn with ⟨lexeme, behind, hp, rfl⟩ | ⟨fault, h⟩
  · obtain ⟨found, rest, rfl, hproper, hrest⟩ :=
      exists_written_or_stuck (i + (d.write lexeme).length) behind
    refine ⟨lexeme :: found, rest, by simp, List.forall_mem_cons.2 ⟨hp, hproper⟩, ?_⟩
    rwa [written_cons, List.length_append, ← Nat.add_assoc]
  · exact ⟨[], text, rfl, by simp, .inr ⟨fault, h⟩⟩
termination_by text.length
decreasing_by
  subst_vars
  have := d.length_write_pos lexeme
  rw [List.length_append]
  omega

/-! ## Splitting -/

theorem exists_split_iff {text : Text} :
    (∃ tokens, d.split text = .ok tokens) ↔ ∃ found, d.lexemes text 0 = .ok found := by
  simp only [split, Except.map_eq_ok_iff]
  constructor
  · rintro ⟨_, found, h, -⟩
    exact ⟨found, h⟩
  · rintro ⟨found, h⟩
    exact ⟨_, found, h, rfl⟩

theorem split_eq_error_iff {text : Text} {fault : Fault} :
    d.split text = .error fault ↔ d.lexemes text 0 = .error fault := by
  rw [split, Except.map_eq_error_iff]

/-- Behind a text that is split, what is stuck decides the fault. -/
theorem split_append_of_stuck {before rest : Text} {fault : Fault}
    (hb : ∃ tokens, d.split before = .ok tokens) (h : d.Stuck before.length rest fault) :
    d.split (before ++ rest) = .error fault := by
  obtain ⟨found, hf⟩ := d.exists_split_iff.1 hb
  rw [split_eq_error_iff, d.lexemes_append hf, Nat.zero_add, h.lexemes_eq, Except.map_error_eq]

/-- What reaches into a part that is stuck is not split. -/
theorem not_exists_split_of_stuck {before rest part behind : Text} {fault : Fault}
    (hb : ∃ tokens, d.split before = .ok tokens) (h : d.Stuck before.length rest fault)
    (hr : rest = part ++ behind) (hn : part ≠ []) :
    ¬∃ tokens, d.split (before ++ part) = .ok tokens := by
  rw [exists_split_iff] at hb ⊢
  rintro ⟨others, ho⟩
  obtain ⟨found, hf⟩ := hb
  rw [d.lexemes_append hf] at ho
  obtain ⟨more, hm, -⟩ := Except.map_eq_ok_iff.1 ho
  exact h.lexemes_ne_ok hr hn _ _ hm

theorem exists_stuck_of_split {text : Text} {fault : Fault} (h : d.split text = .error fault) :
    ∃ before rest, text = before ++ rest ∧ (∃ tokens, d.split before = .ok tokens)
      ∧ d.Stuck before.length rest fault := by
  obtain ⟨found, rest, rfl, hp, hr⟩ := d.exists_written_or_stuck 0 text
  have hf : d.lexemes (d.written found) 0 = .ok found := d.lexemes_eq_ok_iff.2 ⟨rfl, hp⟩
  have hsplit := d.exists_split_iff.2 ⟨found, hf⟩
  rcases hr with rfl | ⟨found', hs⟩
  · rw [List.append_nil, split_eq_error_iff, hf] at h
    cases h
  · rw [Nat.zero_add] at hs
    have he := d.split_append_of_stuck hsplit hs
    rw [h, Except.error.injEq] at he
    exact ⟨_, rest, rfl, hsplit, he ▸ hs⟩

/-- The place where a text is stuck ends its longest start that is split. -/
theorem not_exists_split_take {text : Text} {p n : ℕ} {fault : Fault}
    (hb : ∃ tokens, d.split (text.take p) = .ok tokens) (h : d.Stuck p (text.drop p) fault)
    (hlt : p < n) (hle : n ≤ text.length) : ¬∃ tokens, d.split (text.take n) = .ok tokens := by
  have hp : (text.take p).length = p := List.length_take_of_le (by omega)
  have hn : text.take n = text.take p ++ (text.drop p).take (n - p) := by
    rw [← List.take_add, Nat.add_sub_cancel' hlt.le]
  rw [hn]
  refine d.not_exists_split_of_stuck hb (by rwa [hp]) (List.take_append_drop (n - p) _).symm ?_
  rw [ne_eq, ← List.length_eq_zero_iff, List.length_take, List.length_drop]
  omega

/-- A text is stuck at one place only. -/
theorem stuck_unique {text : Text} {p other : ℕ} {fault found : Fault}
    (hb : ∃ tokens, d.split (text.take p) = .ok tokens) (h : d.Stuck p (text.drop p) fault)
    (hb' : ∃ tokens, d.split (text.take other) = .ok tokens)
    (h' : d.Stuck other (text.drop other) found) : other = p ∧ found = fault := by
  have hle : ∀ {q : ℕ} {fault : Fault}, d.Stuck q (text.drop q) fault → q ≤ text.length := by
    intro q fault hq
    obtain ⟨c, behind, hc, -⟩ := hq.exists_cons
    have hlength := congrArg List.length hc
    rw [List.length_drop, List.length_cons] at hlength
    omega
  rcases lt_trichotomy other p with hlt | rfl | hlt
  · exact absurd hb (d.not_exists_split_take hb' h' hlt (hle h))
  · exact ⟨rfl, Except.error.inj (h'.lexemes_eq.symm.trans h.lexemes_eq)⟩
  · exact absurd hb' (d.not_exists_split_take hb h hlt (hle h'))

/-- A text that is not split is read up to one place, where it is stuck: its longest start that is
split ends there, and what stands there decides the fault. A chain inside of another one, and what
closes no chain and is not the last character, are found in the same way whatever comes behind the
text. -/
theorem split_stuck {text : Text} {fault : Fault} (h : d.split text = .error fault) :
    (∃ p, (∃ tokens, d.split (text.take p) = .ok tokens) ∧ d.Stuck p (text.drop p) fault
      ∧ (∃ c, text[p]? = some c ∧ d.bounds c ∧ text[p + 1]? ≠ some c)
      ∧ (fault.cause = .danglingEscape → fault.start + 1 = text.length)
      ∧ (∀ n, p < n → n ≤ text.length → ¬∃ tokens, d.split (text.take n) = .ok tokens)
      ∧ ∀ other found, (∃ tokens, d.split (text.take other) = .ok tokens) →
        d.Stuck other (text.drop other) found → other = p ∧ found = fault)
    ∧ (fault.cause = .nestedChain
        ∨ fault.cause = .unmatched d.closing ∧ fault.start + 1 < text.length →
      ∀ more, d.split (text ++ more) = .error fault) := by
  obtain ⟨before, rest, rfl, hb, hs⟩ := d.exists_stuck_of_split h
  have htake : (before ++ rest).take before.length = before := List.take_left
  have hdrop : (before ++ rest).drop before.length = rest := List.drop_left
  have hb' : ∃ tokens, d.split ((before ++ rest).take before.length) = .ok tokens := by rwa [htake]
  have hs' : d.Stuck before.length ((before ++ rest).drop before.length) fault := by rwa [hdrop]
  refine ⟨⟨before.length, hb', hs', ?_, fun hc => ?_, fun n => d.not_exists_split_take hb' hs',
    fun other found => d.stuck_unique hb' hs'⟩, fun hf more => ?_⟩
  · obtain ⟨c, behind, rfl, hc, hh⟩ := hs.exists_cons
    refine ⟨c, by simp, hc, ?_⟩
    rwa [List.getElem?_append_right (Nat.le_add_right _ 1), Nat.add_sub_cancel_left,
      List.getElem?_cons_succ, ← List.head?_eq_getElem?]
  · cases hs with
    | dangling hbody => simp [danglingEscape]; omega
    | _ => cases hc
  · rw [List.append_assoc]
    refine d.split_append_of_stuck hb (hs.append (hf.imp_right fun ⟨hc, hlt⟩ => ⟨hc, ?_⟩) more)
    have hstart : fault.start = before.length := by
      cases hs with
      | closing _ => rfl
      | unclosed _ => rfl
      | _ => cases hc
    rw [hstart, List.length_append] at hlt
    omega

/-- An escaped delimiter in a chain that opens another one; a chain that is not closed, behind a
doubled delimiter; and what closes no chain. -/
theorem split_stuck_nested :
    let d : Delimiters := default
    let nested : Text := ['a', '\x7b', '\\', '\x7d', '\x7b', '\x7d']
    let unclosed : Text := ['\x7d', '\x7d', '\x7b', 't']
    (∃ p, d.Stuck p (nested.drop p) (d.nestedChain 4) ∧ p = 1
      ∧ ∀ n, p < n → n ≤ 6 → ¬∃ tokens, d.split (nested.take n) = .ok tokens)
    ∧ (∀ more, d.split (nested ++ more) = .error (d.nestedChain 4))
    ∧ (∃ p, d.Stuck p (unclosed.drop p) (d.unmatchedOpening 2) ∧ p = 2)
    ∧ (∀ more, d.split (['\x7d', 'b'] ++ more) = .error (d.unmatchedClosing 0))
    ∧ ∃ tokens, d.split (['\x7d'] ++ ['\x7d']) = .ok tokens := by
  intro d nested unclosed
  have hn : d.split nested = .error (d.nestedChain 4) := rfl
  have hu : d.split unclosed = .error (d.unmatchedOpening 2) := rfl
  have hc : d.split ['\x7d', 'b'] = .error (d.unmatchedClosing 0) := rfl
  obtain ⟨⟨p, -, hs, -, -, hlongest, hunique⟩, hmore⟩ := split_stuck d hn
  obtain ⟨⟨q, -, hs', -, -, -, hunique'⟩, -⟩ := split_stuck d hu
  have hone : d.Stuck 1 ('\x7b' :: (['\\', '\x7d'] ++ ['\x7b', '\x7d'])) (d.nestedChain 4) :=
    .nested (by simp) rfl
  have htwo : d.Stuck 2 ['\x7b', 't'] (d.unmatchedOpening 2) := .unclosed rfl
  have hp : 1 = p := (hunique 1 _ ⟨_, rfl⟩ hone).1
  have hq : 2 = q := (hunique' 2 _ ⟨_, rfl⟩ htwo).1
  exact ⟨⟨p, hs, hp.symm, hlongest⟩, hmore (.inl rfl), ⟨q, hs', hq.symm⟩,
    (split_stuck d hc).2 (.inr ⟨rfl, by decide⟩), _, rfl⟩

end Delimiters

end FilterTemplate
