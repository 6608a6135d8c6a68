import Mathlib
import FilterTemplate.Proofs.Composition
import FilterTemplate.Proofs.Failures
import FilterTemplate.Proofs.Positions

/-!
# Chains that stand alone

The inside of a chain is read alone as it is read in a template, one character further on
(`compile_eq_readLoneChain`). That rests on one pairing of the escapes with the characters behind
them (`Guarded`), which both scans of a chain's text go by: what is looked for in it is the first
delimiter without a guard when its end is sought, and the separators without a guard when it is cut
into filters' texts (`aligned_of_split`). So no escape is left over for the second scan.
-/

namespace FilterTemplate

namespace Delimiters

variable (d : Delimiters)

/-- Whether the character at position `j`, in a chain's text at position `i`, is a delimiter that
the escape in front of it protects. -/
def Guarded (text : Text) (i j : ℕ) : Prop := ∃ guard ∈ d.guards text i, guard + 1 = j

variable {d}

theorem guarded_escape {next : Char} {behind : Text} {i j : ℕ} :
    d.Guarded (d.escape :: next :: behind) i j
      ↔ d.has next ∧ j = i + 1 ∨ d.Guarded behind (i + 2) j := by
  simp only [Guarded, mem_guards_escape, or_and_right, exists_or]
  constructor
  · rintro (⟨guard, ⟨hn, rfl⟩, rfl⟩ | h)
    · exact .inl ⟨hn, rfl⟩
    · exact .inr h
  · rintro (⟨hn, rfl⟩ | h)
    · exact .inl ⟨i, ⟨hn, rfl⟩, rfl⟩
    · exact .inr h

theorem guarded_plain {c : Char} (h : c ≠ d.escape) {rest : Text} {i j : ℕ} :
    d.Guarded (c :: rest) i j ↔ d.Guarded rest (i + 1) j := by
  rw [Guarded, d.guards_plain h]
  rfl

theorem Guarded.spec {text : Text} {i j : ℕ} (h : d.Guarded text i j) :
    i < j ∧ j < i + text.length ∧ text[j - 1 - i]? = some d.escape := by
  obtain ⟨guard, hg, rfl⟩ := h
  obtain ⟨hle, hlt, he, -⟩ := d.guards_spec hg
  exact ⟨by omega, hlt, he⟩

theorem guarded_append {first : Text} (h : d.isPaired first) (second : Text) {i j : ℕ} :
    d.Guarded (first ++ second) i j
      ↔ d.Guarded first i j ∨ d.Guarded second (i + first.length) j := by
  simp only [Guarded, d.guards_append second h, List.mem_append, or_and_right, exists_or]

/-- A delimiter that only an escape lets stand in a text has a guard there. -/
theorem guarded_of_allBare {p : Char → Bool} {c : Char} (hc : d.has c) (he : c ≠ d.escape)
    (hp : p c = false) : ∀ {text : Text} {i k : ℕ}, d.allBare p text → text[k]? = some c →
      d.Guarded text i (i + k)
  | [], i, k, _, hk => by simp at hk
  | first :: rest, i, k, hb, hk => by
    by_cases hf : first = d.escape
    · subst hf
      rcases rest with _ | ⟨next, behind⟩
      · simp at hb
      rw [allBare_escape] at hb
      rw [guarded_escape]
      rcases k with _ | _ | k
      · exact absurd (Option.some.inj hk).symm he
      · obtain rfl : next = c := Option.some.inj hk
        exact .inl ⟨hc, rfl⟩
      · have ih := guarded_of_allBare hc he hp (i := i + 2) hb hk
        rw [show i + (k + 1 + 1) = i + 2 + k by omega]
        exact .inr ih
    · rw [d.allBare_plain hf, Bool.and_eq_true] at hb
      rw [guarded_plain hf]
      rcases k with _ | k
      · obtain rfl : first = c := Option.some.inj hk
        rw [hp] at hb
        exact absurd hb.1 (by decide)
      · have ih := guarded_of_allBare hc he hp (i := i + 1) hb.2 hk
        rwa [show i + (k + 1) = i + 1 + k by omega]

namespace Cuts

variable {text : Text} {i : ℕ} {piece : Piece} {more : List Piece}

theorem le_stop (h : d.Cuts text i piece more) : ∀ found ∈ piece :: more, i ≤ found.stop := by
  induction h with
  | nil i => simp
  | escape h ih =>
    rw [List.forall_mem_cons] at ih ⊢
    exact ⟨(Nat.le_add_right _ 2).trans ih.1,
      fun found hf => (Nat.le_add_right _ 2).trans (ih.2 found hf)⟩
  | separator h ih =>
    rw [List.forall_mem_cons]
    exact ⟨le_rfl, fun found hf => (Nat.le_succ _).trans (ih found hf)⟩
  | plain he hs h ih =>
    rw [List.forall_mem_cons] at ih ⊢
    exact ⟨(Nat.le_succ _).trans ih.1, fun found hf => (Nat.le_succ _).trans (ih.2 found hf)⟩

/-- A separator has a guard exactly if no piece stops at it. -/
theorem guarded_separator_iff (h : d.Cuts text i piece more) : ∀ k, text[k]? = some d.separator →
    (d.Guarded text i (i + k) ↔ ∀ found ∈ piece :: more, found.stop ≠ i + k) := by
  induction h with
  | nil i => simp
  | @escape next others i piece more h ih =>
    intro k hk
    have hle := h.le_stop
    rw [guarded_escape, List.forall_mem_cons]
    rw [List.forall_mem_cons] at hle
    rcases k with _ | _ | k
    · exact absurd (Option.some.inj hk).symm d.separator_ne_escape
    · obtain rfl : next = d.separator := Option.some.inj hk
      refine iff_of_true (.inl ⟨by simp [has, toList], rfl⟩) ⟨?_, fun found hf => ?_⟩
      · rw [Piece.stop_behind]
        omega
      · have := hle.2 found hf
        omega
    · have hih := ih k hk
      rw [List.forall_mem_cons] at hih
      rw [show i + (k + 1 + 1) = i + 2 + k by omega, Piece.stop_behind, ← hih]
      exact or_iff_right fun hg => by omega
  | @separator rest i piece more h ih =>
    intro k hk
    rw [guarded_plain d.separator_ne_escape, List.forall_mem_cons]
    rcases k with _ | k
    · exact iff_of_false (fun hg => by have := hg.spec.1; omega) fun hs => hs.1 rfl
    · rw [show i + (k + 1) = i + 1 + k by omega, ← ih k hk]
      exact (and_iff_right fun he => by have : i = i + 1 + k := he; omega).symm
  | @plain c rest i piece more he hs h ih =>
    intro k hk
    rw [guarded_plain he]
    rcases k with _ | k
    · exact absurd (Option.some.inj hk) hs
    · have hih := ih k hk
      rw [List.forall_mem_cons] at hih
      rwa [show i + (k + 1) = i + 1 + k by omega, List.forall_mem_cons, Piece.stop_behind]

/-- A delimiter in a piece of a chain's text, apart from the escape, has a guard. -/
theorem guarded_of_mem_chars {c : Char} (hc : d.has c) (he : c ≠ d.escape)
    (h : d.Cuts text i piece more) (hb : d.isBody text) :
    ∀ found ∈ piece :: more, ∀ j, (c, j) ∈ found.chars → d.Guarded text i j := by
  induction h with
  | nil i => simp
  | @escape next others i piece more h ih =>
    rw [isBody_escape] at hb
    have ih := ih hb
    rw [List.forall_mem_cons] at ih ⊢
    refine ⟨fun j hj => ?_, fun found hf j hj => guarded_escape.2 (.inr (ih.2 found hf j hj))⟩
    rcases List.mem_append.1 hj with hj | hj
    · unfold escaped at hj
      split_ifs at hj with hn
      · simp only [List.mem_singleton, Prod.mk.injEq] at hj
        exact guarded_escape.2 (.inl ⟨hn, hj.2⟩)
      · simp only [List.mem_cons, List.not_mem_nil, or_false, Prod.mk.injEq] at hj
        rcases hj with ⟨rfl, -⟩ | ⟨rfl, -⟩
        · exact absurd rfl he
        · exact absurd hc hn
    · exact guarded_escape.2 (.inr (ih.1 j hj))
  | @separator rest i piece more h ih =>
    rw [isBody_separator] at hb
    rw [List.forall_mem_cons]
    refine ⟨by simp, fun found hf j hj => ?_⟩
    exact (guarded_plain d.separator_ne_escape).2 (ih hb found hf j hj)
  | @plain first rest i piece more hne hs h ih =>
    rw [d.isBody_plain hne, Bool.and_eq_true, Bool.not_eq_true'] at hb
    have ih := ih hb.2
    rw [List.forall_mem_cons] at ih ⊢
    refine ⟨fun j hj => ?_, fun found hf j hj => (guarded_plain hne).2 (ih.2 found hf j hj)⟩
    rcases List.mem_cons.1 hj with hj | hj
    · obtain ⟨rfl, -⟩ := Prod.mk.inj hj
      obtain ⟨ho, hcl⟩ := d.bounds_eq_false.1 hb.1
      rw [d.has_eq_false.2 ⟨ho, hcl, hs, he⟩] at hc
      cases hc
    · exact (guarded_plain hne).2 (ih.1 j hj)

end Cuts

variable (d)

/-- Whether one pairing of escapes with the characters behind them says what both scans of a chain's
text find in it. Of what opens or closes a chain only the last character has no guard; the pieces
stop at the separators without a guard, and have a separator, or what opens or closes a chain, only
behind one. -/
structure Aligned (source body : Text) (start stop : ℕ) (pieces : List Piece) : Prop where
  bound : ∀ j c, start < j → j < stop → source[j]? = some c → d.bounds c →
    (d.Guarded (body ++ [d.closing]) (start + 1) j ↔ j + 1 < stop)
  separator : ∀ j, start < j → j < stop → source[j]? = some d.separator →
    (d.Guarded (body ++ [d.closing]) (start + 1) j ↔ ∀ piece ∈ pieces, piece.stop ≠ j)
  char : ∀ piece ∈ pieces, ∀ c j, (c, j) ∈ piece.chars → c = d.separator ∨ d.bounds c →
    d.Guarded (body ++ [d.closing]) (start + 1) j ∧ source[j - 1]? = some d.escape

theorem closing_ne_separator : d.closing ≠ d.separator := fun h => by
  simpa [← h] using d.bounds_separator

/-- No escape of a chain's text takes what closes the chain. -/
theorem guarded_closing_iff {body : Text} (h : d.isBody body) {i j : ℕ} :
    d.Guarded (body ++ [d.closing]) i j ↔ d.Guarded body i j := by
  rw [guarded_append (d.isPaired_of_isBody h), guarded_plain d.escape_ne_closing.symm]
  exact or_iff_left fun hg => by simpa [guards] using hg.choose_spec.1

/-- Behind what opens a chain, a source has the chain's text, and then what closes it. -/
theorem getElem?_chain {before body behind : Text} {k : ℕ} (hk : k ≤ body.length) :
    (before ++ (d.opening :: body ++ [d.closing]) ++ behind)[before.length + 1 + k]?
      = (body ++ [d.closing])[k]? := by
  rw [List.getElem?_append_left (by simp; omega), List.getElem?_append_right (by omega),
    show before.length + 1 + k - before.length = k + 1 by omega]
  rfl

theorem aligned_of_cuts {before body behind source : Text} (hb : d.isBody body)
    (hs : source = before ++ (d.opening :: body ++ [d.closing]) ++ behind) {start stop : ℕ}
    (hstart : start = before.length) (hstop : stop = start + (body.length + 2)) {piece : Piece}
    {more : List Piece} (h : d.Cuts body (start + 1) piece more) :
    d.Aligned source body start stop (piece :: more) := by
  have hbody (k : ℕ) (hk : k < body.length) : source[start + 1 + k]? = body[k]? := by
    rw [hs, hstart, d.getElem?_chain hk.le, List.getElem?_append_left hk]
  have hlast : source[start + 1 + body.length]? = some d.closing := by
    rw [hs, hstart, d.getElem?_chain le_rfl, List.getElem?_concat_length]
  refine ⟨fun j c hj hj' hc hbound => ?_, fun j hj hj' hc => ?_, fun found hf c j hm hc => ?_⟩
  · rw [d.guarded_closing_iff hb]
    refine ⟨fun hg => by have := hg.spec; omega, fun hlt => ?_⟩
    obtain ⟨k, rfl⟩ := Nat.exists_eq_add_of_le (Nat.succ_le_of_lt hj)
    rw [hbody k (by omega)] at hc
    refine guarded_of_allBare (p := fun c => !d.bounds c) ?_ ?_ (by simpa using hbound)
      (d.isBody_eq_allBare body ▸ hb) hc
    · exact d.has_of_bounds hbound
    · exact d.ne_escape_of_bounds hbound
  · rw [d.guarded_closing_iff hb]
    obtain ⟨k, rfl⟩ := Nat.exists_eq_add_of_le (Nat.succ_le_of_lt hj)
    have hk : k ≠ body.length := by
      rintro rfl
      rw [hlast] at hc
      exact d.closing_ne_separator (Option.some.inj hc)
    rw [hbody k (by omega)] at hc
    exact h.guarded_separator_iff k hc
  · have hg : d.Guarded body (start + 1) j := by
      rcases hc with rfl | hbound
      · exact h.guarded_of_mem_chars (by simp [has, toList]) d.separator_ne_escape hb found hf j hm
      · exact h.guarded_of_mem_chars (d.has_of_bounds hbound) (d.ne_escape_of_bounds hbound) hb
          found hf j hm
    obtain ⟨hlt, hlen, he⟩ := hg.spec
    refine ⟨(d.guarded_closing_iff hb).2 hg, ?_⟩
    rw [show j - 1 = start + 1 + (j - 1 - (start + 1)) by omega, hbody _ (by omega), he]

/-- Every chain that is found in a text can be cut into pieces, by the same pairing of escapes. -/
theorem aligned_of_split {text : Text} {tokens : List (Located Token)}
    (h : d.split text = .ok tokens) {body : Text} {start stop : ℕ}
    (ht : ⟨.chain body, start, stop⟩ ∈ tokens) :
    ∃ piece more, d.pieces body (start + 1) = .ok (piece, more)
      ∧ d.Aligned text body start stop (piece :: more) := by
  have hb := d.isBody_of_split h body (List.mem_map.2 ⟨_, ht, rfl⟩)
  obtain ⟨raw, rest, hr, hj⟩ := d.exists_raws (d.isPaired_of_isBody hb)
  have hp := d.pieces_joinRaw (i := start + 1) hr
  rw [hj] at hp
  obtain ⟨before, behind, htext, hstart, hstop⟩ := d.exists_around_of_split h ht
  refine ⟨_, _, hp, d.aligned_of_cuts hb htext hstart ?_ (d.cuts_of_pieces hp)⟩
  rw [hstart, show stop = _ from hstop, writeToken, List.length_append, List.length_cons,
    List.length_singleton]

/-! ## Reading a chain alone -/

/-- In a template, the inside of a chain is read as it is alone, one character further on. -/
theorem compile_eq_readLoneChain {body : Text} (h : d.isBody body) :
    d.compile (d.opening :: body ++ [d.closing])
      = ((d.readLoneChain body).mapError (Failure.shift 1)).map fun lone =>
        ⟨d.opening :: body ++ [d.closing],
          [⟨.chain (lone.filters.map (Located.shift 1)), (lone.start + 1).toNat,
            (lone.stop + 1).toNat⟩]⟩ := by
  rw [d.compile_chain h, readLoneChain, ← Nat.zero_add 1, d.readChain_add 1 body 0]
  rcases d.readChain body 0 with failure | filters
  · rfl
  · have hstop : ((body.length : ℤ) + 1 + 1).toNat = body.length + 2 := by omega
    simp [hstop]

/-- A fault in a text that is split is none of an escape without a character behind it. -/
theorem split_of_danglingEscape {text : Text} {fault : Fault}
    (h : d.compile text = .error (.fault fault)) (hc : fault.cause = .danglingEscape) :
    d.split text = .error fault := by
  rcases hs : d.split text with found | tokens
  · simpa [compile, hs] using h
  · obtain ⟨piece, before, behind, -, -, he⟩ := (d.compile_eq_error_iff hs).1 h
    obtain ⟨⟨cause, first, last⟩ | refusal, hm, hf⟩ := Piece.read_eq_error_iff.1 he
    · obtain rfl := Failure.fault.inj hf
      obtain rfl : cause = .danglingEscape := hc
      rcases Filter.read_error hm with ⟨-, hslip⟩ | ⟨symbol, rest, -, -, hslip⟩ | ⟨-, hargs, -⟩
      · cases hslip
      · cases hslip
      · cases hargs
    · cases hf

/-- A text that can stand inside of a chain is read in the same way alone and between delimiters:
both succeed or both fail, with the same filters or for the same reason, one character further on in
the template. In every text that is split, one pairing of escapes says where its chains end and
where their pieces do, so a chain that has been found is always cut into pieces; an escape without a
character behind it is only ever found when the text is split. -/
theorem compile_agrees_readLoneChain :
    (∀ body : Text, d.isBody body →
      ((∃ template, d.compile (d.opening :: body ++ [d.closing]) = .ok template)
        ↔ ∃ lone, d.readLoneChain body = .ok lone)
      ∧ (∀ lone, d.readLoneChain body = .ok lone → ∃ start stop : ℕ,
          d.compile (d.opening :: body ++ [d.closing])
            = .ok ⟨d.opening :: body ++ [d.closing],
              [⟨.chain (lone.filters.map (Located.shift 1)), start, stop⟩]⟩
          ∧ (start : ℤ) = lone.start + 1 ∧ (stop : ℤ) = lone.stop + 1)
      ∧ (∀ fault, d.readLoneChain body = .error (.fault fault) →
          d.compile (d.opening :: body ++ [d.closing])
            = .error (.fault { fault with start := fault.start + 1, stop := fault.stop + 1 }))
      ∧ ∀ refusal, d.readLoneChain body = .error (.refused refusal) →
          d.compile (d.opening :: body ++ [d.closing]) = .error (.refused refusal))
    ∧ ∀ text : Text,
        (∀ fault, d.compile text = .error (.fault fault) → fault.cause = .danglingEscape →
          d.split text = .error fault)
        ∧ ∀ tokens, d.split text = .ok tokens → ∀ body start stop,
          ⟨.chain body, start, stop⟩ ∈ tokens →
            ∃ piece more, d.pieces body (start + 1) = .ok (piece, more)
              ∧ d.Aligned text body start stop (piece :: more) := by
  refine ⟨fun body h => ?_, fun text => ⟨fun fault => d.split_of_danglingEscape,
    fun tokens h body start stop => d.aligned_of_split h⟩⟩
  have hc := d.compile_eq_readLoneChain h
  rcases hl : d.readLoneChain body with failure | lone <;> rw [hl] at hc
  · refine ⟨?_, by rintro _ ⟨⟩, ?_, ?_⟩
    · rw [hc]
      simp
    · rintro fault ⟨⟩
      exact hc
    · rintro refusal ⟨⟩
      exact hc
  · obtain ⟨filters, -, rfl⟩ := Except.map_eq_ok_iff.1 hl
    refine ⟨?_, ?_, by rintro _ ⟨⟩, by rintro _ ⟨⟩⟩
    · rw [hc]
      simp
    · rintro _ ⟨⟩
      have hstop : (0 : ℤ) ≤ body.length + 1 := by omega
      exact ⟨_, _, hc, rfl, Int.toNat_of_nonneg (Int.add_nonneg hstop zero_le_one)⟩

/-- The first separator has an escape behind an escape in front of it, so it has no guard and parts
two filters; the second one has a guard and belongs to the second filter's text. -/
theorem compile_agrees_readLoneChain_paired :
    let body : Text := ['?', '\\', '\\', '|', 'x', '\\', '|']
    let text : Text := '\x7b' :: body ++ ['\x7d']
    (default : Delimiters).readLoneChain body
        = .error (.fault ⟨.unknownFilter 'x', ['x'], 4, 6⟩)
      ∧ (default : Delimiters).compile text = .error (.fault ⟨.unknownFilter 'x', ['x'], 5, 7⟩)
      ∧ (default : Delimiters).Guarded (body ++ ['\x7d']) 1 7
      ∧ ¬(default : Delimiters).Guarded (body ++ ['\x7d']) 1 4
      ∧ (∃ template, (default : Delimiters).compile ['\x7b', '?', '\\', '|', '\x7d'] = .ok template
        ∧ template.segments = [⟨.chain [⟨.replaceEmpty ['|'], 1, 4⟩], 0, 5⟩])
      ∧ (default : Delimiters).split ['\x7b', 't', '\\']
        = .error ⟨.danglingEscape, ['\\'], 2, 3⟩ := by
  intro body text
  obtain ⟨agree, scans⟩ := compile_agrees_readLoneChain default
  have hb : (default : Delimiters).isBody body := by
    rfl
  have hl : (default : Delimiters).readLoneChain body
      = .error (.fault ⟨.unknownFilter 'x', ['x'], 4, 6⟩) := by
    rfl
  have hs : (default : Delimiters).split text = .ok [⟨.chain body, 0, 9⟩] := by
    rfl
  have hr : (default : Delimiters).readLoneChain ['?', '\\', '|']
      = .ok ⟨[⟨.replaceEmpty ['|'], 0, 3⟩], -1, 4⟩ := by
    rfl
  have hd : (default : Delimiters).compile ['\x7b', 't', '\\']
      = .error (.fault ⟨.danglingEscape, ['\\'], 2, 3⟩) := by
    rfl
  obtain ⟨piece, more, hp, aligned⟩ := (scans text).2 _ hs body 0 9 (.head _)
  have hpieces : (⟨[('?', 1), ('\\', 3)], 1, 4⟩, [⟨[('x', 5), ('|', 7)], 5, 8⟩]) = (piece, more) :=
    Except.ok.inj hp
  obtain ⟨rfl, rfl⟩ := Prod.mk.inj hpieces
  obtain ⟨start, stop, hc, hstart, hstop⟩ := (agree ['?', '\\', '|'] rfl).2.1 _ hr
  obtain rfl : start = 0 := by simpa using hstart
  obtain rfl : stop = 5 := Int.ofNat.inj hstop
  refine ⟨hl, (agree body hb).2.2.1 _ hl, ?_, ?_, ⟨_, hc, rfl⟩, (scans _).1 _ hd rfl⟩
  · exact (aligned.separator 7 (by decide) (by decide) rfl).2 (by simp)
  · exact fun hg => (aligned.separator 4 (by decide) (by decide) rfl).1 hg _ (.head _) rfl

end Delimiters

end FilterTemplate
