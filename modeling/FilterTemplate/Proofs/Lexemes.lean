import Mathlib
import FilterTemplate.Proofs.Except
import FilterTemplate.Template.Lexer

/-!
# Lexemes and how they are written

A lexeme is read back from what is written for it, whatever comes behind it
(`lexemes_write_append`): a delimiter of literal text is doubled, so its second half is never taken
for the start of something else, and a text that can stand inside of a chain (`isBody`) ends at the
delimiter that closes the chain. Conversely, a text that is read into lexemes is what is written for
them (`written_of_lexemes`). So a text in front is read by itself, and what stands behind it is read
as if it stood alone, further on (`lexemes_append`, `lexemes_add`).
-/

namespace FilterTemplate

/-- The fault, `n` characters further on. -/
def Fault.shift (n : ℕ) (fault : Fault) : Fault :=
  { fault with start := fault.start + n, stop := fault.stop + n }

namespace Delimiters

variable (d : Delimiters)

theorem closing_ne_opening : d.closing ≠ d.opening := by
  have h := d.distinct
  simp only [List.nodup_cons, List.mem_cons] at h
  tauto

theorem escape_ne_opening : d.escape ≠ d.opening := by
  have h := d.distinct
  simp only [List.nodup_cons, List.mem_cons] at h
  tauto

theorem escape_ne_closing : d.escape ≠ d.closing := by
  have h := d.distinct
  simp only [List.nodup_cons, List.mem_cons] at h
  tauto

theorem bounds_eq_false {c : Char} : d.bounds c = false ↔ c ≠ d.opening ∧ c ≠ d.closing := by
  simp [bounds]

theorem eq_closing_of_bounds {c : Char} (h : d.bounds c) (ho : c ≠ d.opening) : c = d.closing := by
  simp only [bounds, Bool.or_eq_true, decide_eq_true_eq] at h
  exact h.resolve_left ho

@[simp] theorem bounds_opening : d.bounds d.opening = true := by simp [bounds]

@[simp] theorem bounds_closing : d.bounds d.closing = true := by simp [bounds]

/-! ## One step of reading -/

theorem lexemes_plain {c : Char} (h : d.bounds c = false) (rest : Text) (i : ℕ) :
    d.lexemes (c :: rest) i = (d.lexemes rest (i + 1)).map (.char c :: ·) := by
  cases rest <;> exact if_neg (Bool.eq_false_iff.1 h)

theorem lexemes_doubled {c : Char} (h : d.bounds c) (rest : Text) (i : ℕ) :
    d.lexemes (c :: c :: rest) i = (d.lexemes rest (i + 2)).map (.char c :: ·) :=
  (if_pos h).trans (if_pos rfl)

theorem lexemes_opening {next : Char} (h : next ≠ d.opening) (behind : Text) (i : ℕ) :
    d.lexemes (d.opening :: next :: behind) i
      = (d.chainLexemes i (next :: behind) (i + 1)).map fun (body, found) =>
        .chain body :: found :=
  (if_pos d.bounds_opening).trans ((if_neg h).trans (if_pos rfl))

theorem lexemes_bound_end {c : Char} (h : d.bounds c) (i : ℕ) :
    d.lexemes [c] i
      = .error (if c = d.opening then d.unmatchedOpening i else d.unmatchedClosing i) :=
  if_pos h

theorem lexemes_closing {next : Char} (h : next ≠ d.closing) (behind : Text) (i : ℕ) :
    d.lexemes (d.closing :: next :: behind) i = .error (d.unmatchedClosing i) :=
  (if_pos d.bounds_closing).trans ((if_neg h).trans (if_neg d.closing_ne_opening))

theorem chainLexemes_escape_end (opened i : ℕ) :
    d.chainLexemes opened [d.escape] i = .error (d.danglingEscape i) :=
  if_pos rfl

theorem chainLexemes_opening (opened : ℕ) (rest : Text) (i : ℕ) :
    d.chainLexemes opened (d.opening :: rest) i = .error (d.nestedChain i) := by
  have hc := d.closing_ne_opening.symm
  cases rest <;> exact (if_neg d.escape_ne_opening.symm).trans ((if_neg hc).trans (if_pos rfl))

theorem chainLexemes_escape (opened : ℕ) (next : Char) (behind : Text) (i : ℕ) :
    d.chainLexemes opened (d.escape :: next :: behind) i
      = (d.chainLexemes opened behind (i + 2)).map fun (body, found) =>
        (d.escape :: next :: body, found) :=
  if_pos rfl

theorem chainLexemes_closing (opened : ℕ) (rest : Text) (i : ℕ) :
    d.chainLexemes opened (d.closing :: rest) i
      = (d.lexemes rest (i + 1)).map fun found => ([], found) := by
  cases rest <;> exact (if_neg d.escape_ne_closing.symm).trans (if_pos rfl)

theorem chainLexemes_plain (opened : ℕ) {c : Char} (he : c ≠ d.escape) (hb : d.bounds c = false)
    (rest : Text) (i : ℕ) :
    d.chainLexemes opened (c :: rest) i
      = (d.chainLexemes opened rest (i + 1)).map fun (body, found) => (c :: body, found) := by
  obtain ⟨ho, hc⟩ := d.bounds_eq_false.1 hb
  cases rest <;> exact (if_neg he).trans ((if_neg hc).trans (if_neg ho))

/-! ## What is written is read -/

/-- Whether a text can stand inside of a chain: every escape has a character behind it, which it
takes with it, and no other character opens or closes a chain. -/
def isBody : Text → Bool
  | [] => true
  | c :: rest =>
    if c = d.escape then
      match rest with
      | [] => false
      | _ :: behind => isBody behind
    else !d.bounds c && isBody rest

theorem isBody_escape (next : Char) (behind : Text) :
    d.isBody (d.escape :: next :: behind) = d.isBody behind := by
  rw [isBody.eq_def]
  simp

theorem isBody_plain {c : Char} (h : c ≠ d.escape) (rest : Text) :
    d.isBody (c :: rest) = (!d.bounds c && d.isBody rest) := by
  rw [isBody.eq_def]
  simp [h]

/-- A chain that starts with the text of one goes on behind it. -/
theorem chainLexemes_append (opened : ℕ) (rest : Text) : ∀ (body : Text) (i : ℕ), d.isBody body →
    d.chainLexemes opened (body ++ rest) i
      = (d.chainLexemes opened rest (i + body.length)).map fun (more, found) =>
        (body ++ more, found)
  | [], i, _ => by
    rw [List.nil_append, List.length_nil, Nat.add_zero]
    rcases d.chainLexemes opened rest i with fault | ⟨more, found⟩ <;> rfl
  | c :: body, i, h => by
    by_cases hc : c = d.escape
    · subst hc
      rcases body with _ | ⟨next, behind⟩
      · simp [isBody] at h
      · rw [isBody_escape] at h
        have ih := chainLexemes_append opened rest behind (i + 2) h
        simp only [List.cons_append, chainLexemes_escape, ih, Except.map_map_eq, List.length_cons]
        rw [show i + (behind.length + 1 + 1) = i + 2 + behind.length by omega]
    · rw [d.isBody_plain hc, Bool.and_eq_true, Bool.not_eq_true'] at h
      have ih := chainLexemes_append opened rest body (i + 1) h.2
      simp only [List.cons_append, d.chainLexemes_plain opened hc h.1, ih, Except.map_map_eq,
        List.length_cons]
      rw [show i + (body.length + 1) = i + 1 + body.length by omega]

theorem chainLexemes_body (opened : ℕ) (rest body : Text) (i : ℕ) (h : d.isBody body) :
    d.chainLexemes opened (body ++ d.closing :: rest) i
      = (d.lexemes rest (i + body.length + 1)).map fun found => (body, found) := by
  rw [d.chainLexemes_append opened _ body i h, chainLexemes_closing, Except.map_map_eq]
  simp only [List.append_nil]

/-- A chain does not start as a doubled delimiter does. -/
theorem head_body_ne_opening {body : Text} (h : d.isBody body) (rest : Text) :
    ∃ next behind, body ++ d.closing :: rest = next :: behind ∧ next ≠ d.opening := by
  rcases body with _ | ⟨c, body⟩
  · exact ⟨_, _, rfl, d.closing_ne_opening⟩
  · refine ⟨_, _, rfl, ?_⟩
    by_cases hc : c = d.escape
    · exact hc ▸ d.escape_ne_opening
    · rw [d.isBody_plain hc, Bool.and_eq_true, Bool.not_eq_true', bounds_eq_false] at h
      exact h.1.1

/-- Whether the lexeme can be read from what is written for it. -/
def Proper : Lexeme → Prop
  | .char _ => True
  | .chain body => d.isBody body

/-- Whatever comes behind it, a lexeme is read first from a text that starts with it. -/
theorem lexemes_write_append {lexeme : Lexeme} (h : d.Proper lexeme) (rest : Text) (i : ℕ) :
    d.lexemes (d.write lexeme ++ rest) i
      = (d.lexemes rest (i + (d.write lexeme).length)).map (lexeme :: ·) := by
  rcases lexeme with c | body
  · by_cases hc : d.bounds c
    · simpa [write, hc] using d.lexemes_doubled hc rest i
    · simpa [write, hc] using d.lexemes_plain (by simpa using hc) rest i
  · obtain ⟨next, behind, hb, hn⟩ := d.head_body_ne_opening h rest
    have hw : d.write (.chain body) ++ rest = d.opening :: (body ++ d.closing :: rest) := by
      simp [write]
    rw [hw, hb, d.lexemes_opening hn, ← hb, d.chainLexemes_body i rest body _ h,
      Except.map_map_eq]
    simp only [write, List.cons_append, List.length_cons, List.length_append, List.length_nil]
    rw [show i + 1 + body.length + 1 = i + (body.length + (0 + 1) + 1) by omega]

/-- What is written for lexemes. -/
def written (found : List Lexeme) : Text := found.flatMap d.write

@[simp] theorem written_nil : d.written [] = [] := rfl

@[simp] theorem written_cons (lexeme : Lexeme) (found : List Lexeme) :
    d.written (lexeme :: found) = d.write lexeme ++ d.written found := rfl

theorem lexemes_written_append (rest : Text) : ∀ (found : List Lexeme) (i : ℕ),
    (∀ lexeme ∈ found, d.Proper lexeme) →
    d.lexemes (d.written found ++ rest) i
      = (d.lexemes rest (i + (d.written found).length)).map (found ++ ·)
  | [], i, _ => by
    rcases h : d.lexemes rest i with fault | behind <;> simp [h]
  | lexeme :: found, i, h => by
    have ih := lexemes_written_append rest found (i + (d.write lexeme).length)
      fun l hl => h l (List.mem_cons_of_mem _ hl)
    rw [written_cons, List.append_assoc, d.lexemes_write_append (h _ List.mem_cons_self), ih,
      Except.map_map_eq, List.length_append, Nat.add_assoc]
    rfl

/-! ## What is read has been written -/

mutual

theorem written_of_lexemes : ∀ (text : Text) (i : ℕ) {found : List Lexeme},
    d.lexemes text i = .ok found →
      d.written found = text ∧ ∀ lexeme ∈ found, d.Proper lexeme
  | [], i, found, h => by
    simp only [lexemes, Except.ok.injEq] at h
    subst h
    simp
  | [c], i, found, h => by
    rw [lexemes.eq_def] at h
    simp only at h
    split_ifs at h with hc
    obtain ⟨behind, hb, rfl⟩ := Except.map_eq_ok_iff.1 h
    simp only [lexemes, Except.ok.injEq] at hb
    subst hb
    simp [write, hc, Proper]
  | c :: next :: behind, i, found, h => by
    rw [lexemes.eq_def] at h
    simp only at h
    split_ifs at h with hc hn ho
    · subst hn
      obtain ⟨others, hb, rfl⟩ := Except.map_eq_ok_iff.1 h
      obtain ⟨rfl, hp⟩ := written_of_lexemes behind (i + 2) hb
      simpa [write, hc, Proper] using hp
    · subst ho
      obtain ⟨⟨body, others⟩, hb, rfl⟩ := Except.map_eq_ok_iff.1 h
      obtain ⟨ht, hbody, hp⟩ := written_of_chainLexemes (next :: behind) i (i + 1) hb
      simpa [write, Proper, hbody, ht] using hp
    · obtain ⟨others, hb, rfl⟩ := Except.map_eq_ok_iff.1 h
      obtain ⟨ht, hp⟩ := written_of_lexemes (next :: behind) (i + 1) hb
      simpa [write, hc, Proper, ht] using hp

theorem written_of_chainLexemes : ∀ (text : Text) (opened i : ℕ) {body : Text}
    {found : List Lexeme}, d.chainLexemes opened text i = .ok (body, found) →
      body ++ d.closing :: d.written found = text ∧ d.isBody body
        ∧ ∀ lexeme ∈ found, d.Proper lexeme
  | [], opened, i, body, found, h => by simp [chainLexemes] at h
  | [c], opened, i, body, found, h => by
    rw [chainLexemes.eq_def] at h
    simp only at h
    split_ifs at h with he hc ho
    · subst hc
      obtain ⟨others, hb, hf⟩ := Except.map_eq_ok_iff.1 h
      simp only [Prod.mk.injEq] at hf
      obtain ⟨rfl, rfl⟩ := hf
      obtain ⟨ht, hp⟩ := written_of_lexemes [] (i + 1) hb
      exact ⟨by simp [ht], rfl, hp⟩
    · simp [chainLexemes] at h
  | c :: next :: behind, opened, i, body, found, h => by
    rw [chainLexemes.eq_def] at h
    simp only at h
    split_ifs at h with he hc ho
    · subst he
      obtain ⟨⟨inside, others⟩, hb, hf⟩ := Except.map_eq_ok_iff.1 h
      simp only [Prod.mk.injEq] at hf
      obtain ⟨rfl, rfl⟩ := hf
      obtain ⟨ht, hbody, hp⟩ := written_of_chainLexemes behind opened (i + 2) hb
      exact ⟨by simp [ht], by rw [isBody_escape, hbody], hp⟩
    · subst hc
      obtain ⟨others, hb, hf⟩ := Except.map_eq_ok_iff.1 h
      simp only [Prod.mk.injEq] at hf
      obtain ⟨rfl, rfl⟩ := hf
      obtain ⟨ht, hp⟩ := written_of_lexemes (next :: behind) (i + 1) hb
      exact ⟨by simp [ht], rfl, hp⟩
    · obtain ⟨⟨inside, others⟩, hb, hf⟩ := Except.map_eq_ok_iff.1 h
      simp only [Prod.mk.injEq] at hf
      obtain ⟨rfl, rfl⟩ := hf
      obtain ⟨ht, hbody, hp⟩ := written_of_chainLexemes (next :: behind) opened (i + 1) hb
      have hb : d.bounds c = false := d.bounds_eq_false.2 ⟨ho, hc⟩
      exact ⟨by simp [ht], by simp [d.isBody_plain he, hb, hbody], hp⟩

end

/-- A text that is read by itself is read in the same way in front of another one. -/
theorem lexemes_append {text : Text} {i : ℕ} {found : List Lexeme}
    (h : d.lexemes text i = .ok found) (rest : Text) :
    d.lexemes (text ++ rest) i = (d.lexemes rest (i + text.length)).map (found ++ ·) := by
  obtain ⟨rfl, hp⟩ := d.written_of_lexemes text i h
  exact d.lexemes_written_append rest found i hp

theorem lexemes_eq_ok_iff {text : Text} {i : ℕ} {found : List Lexeme} :
    d.lexemes text i = .ok found
      ↔ d.written found = text ∧ ∀ lexeme ∈ found, d.Proper lexeme := by
  refine ⟨d.written_of_lexemes text i, ?_⟩
  rintro ⟨rfl, hp⟩
  have h := d.lexemes_written_append [] found i hp
  rw [List.append_nil] at h
  simpa [lexemes] using h

/-! ## Reading further on -/

mutual

/-- Further on, the same lexemes are read, and the same faults found. -/
theorem lexemes_add (n : ℕ) : ∀ (text : Text) (i : ℕ),
    d.lexemes text (i + n) = (d.lexemes text i).mapError (Fault.shift n)
  | [], i => rfl
  | [c], i => by
    by_cases hb : d.bounds c
    · rw [d.lexemes_bound_end hb, d.lexemes_bound_end hb, Except.mapError_error_eq]
      split_ifs <;> simp [unmatchedOpening, unmatchedClosing, Fault.shift, Nat.add_right_comm]
    · rw [Bool.not_eq_true] at hb
      have ih := lexemes_add n [] (i + 1)
      rw [d.lexemes_plain hb, d.lexemes_plain hb, Except.mapError_map_eq, ← ih,
        Nat.add_right_comm]
  | c :: next :: behind, i => by
    by_cases hb : d.bounds c
    · by_cases hn : next = c
      · subst hn
        have ih := lexemes_add n behind (i + 2)
        rw [d.lexemes_doubled hb, d.lexemes_doubled hb, Except.mapError_map_eq, ← ih,
          Nat.add_right_comm]
      · by_cases ho : c = d.opening
        · subst ho
          have ih := chainLexemes_add n (next :: behind) i (i + 1)
          rw [d.lexemes_opening hn, d.lexemes_opening hn, Except.mapError_map_eq, ← ih,
            Nat.add_right_comm]
        · obtain rfl := d.eq_closing_of_bounds hb ho
          rw [d.lexemes_closing hn, d.lexemes_closing hn]
          simp [unmatchedClosing, Fault.shift, Nat.add_right_comm]
    · rw [Bool.not_eq_true] at hb
      have ih := lexemes_add n (next :: behind) (i + 1)
      rw [d.lexemes_plain hb, d.lexemes_plain hb, Except.mapError_map_eq, ← ih,
        Nat.add_right_comm]

theorem chainLexemes_add (n : ℕ) : ∀ (text : Text) (opened i : ℕ),
    d.chainLexemes (opened + n) text (i + n)
      = (d.chainLexemes opened text i).mapError (Fault.shift n)
  | [], opened, i => by
    simp [chainLexemes, unmatchedOpening, Fault.shift, Nat.add_right_comm]
  | c :: rest, opened, i => by
    by_cases he : c = d.escape
    · subst he
      rcases rest with _ | ⟨next, behind⟩
      · simp [chainLexemes_escape_end, danglingEscape, Fault.shift, Nat.add_right_comm]
      · have ih := chainLexemes_add n behind opened (i + 2)
        rw [chainLexemes_escape, chainLexemes_escape, Except.mapError_map_eq, ← ih,
          Nat.add_right_comm]
    · by_cases hc : c = d.closing
      · subst hc
        have ih := lexemes_add n rest (i + 1)
        rw [chainLexemes_closing, chainLexemes_closing, Except.mapError_map_eq, ← ih,
          Nat.add_right_comm]
      · by_cases ho : c = d.opening
        · subst ho
          simp [chainLexemes_opening, nestedChain, Fault.shift, Nat.add_right_comm]
        · have hb : d.bounds c = false := d.bounds_eq_false.2 ⟨ho, hc⟩
          have ih := chainLexemes_add n rest opened (i + 1)
          rw [d.chainLexemes_plain _ he hb, d.chainLexemes_plain _ he hb,
            Except.mapError_map_eq, ← ih, Nat.add_right_comm]

end

end Delimiters

end FilterTemplate
