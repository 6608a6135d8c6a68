import Mathlib
import FilterTemplate.Proofs.FaultSpans

/-!
# What a fault shows

A fault shows the characters between its positions, without the escapes that protect others of them
(`Site.slice_text_eq`). Where the character behind them is protected by an escape, though, the fault
ends behind that escape and not in front of it, so its span has one character too many
(`Text.exists_stop`).
-/

namespace FilterTemplate

/-! ## The characters of a span -/

namespace Text

/-- The text at position `first` without the characters at the given positions. -/
def without (positions : List ℕ) (slice : Text) (first : ℕ) : Text :=
  ((slice.zipIdx first).filter fun x => x.2 ∉ positions).map (·.1)

/-- The text at position `first` without the guards that protect a character of it. -/
def unescaped (guards : List ℕ) (slice : Text) (first : ℕ) : Text :=
  without (guards.filter fun i => i + 1 < first + slice.length) slice first

theorem without_append (positions : List ℕ) (first second : Text) (i : ℕ) :
    without positions (first ++ second) i
      = without positions first i ++ without positions second (i + first.length) := by
  rw [without, List.zipIdx_append, List.filter_append, List.map_append]
  rfl

theorem without_congr {positions others : List ℕ} {slice : Text} {i : ℕ}
    (h : ∀ j, i ≤ j → j < i + slice.length → (j ∈ positions ↔ j ∈ others)) :
    without positions slice i = without others slice i := by
  unfold without
  congr 1
  refine List.filter_congr fun x hx => ?_
  have hlt := List.snd_lt_add_of_mem_zipIdx hx
  simp only [h x.2 (List.le_snd_of_mem_zipIdx hx) (by omega)]

theorem without_singleton (positions : List ℕ) (c : Char) (i : ℕ) :
    without positions [c] i = if i ∈ positions then [] else [c] := by
  by_cases h : i ∈ positions <;> simp [without, h]

/-- What protects the character behind the text is no guard inside of it. -/
theorem unescaped_concat (guards : List ℕ) (slice : Text) (c : Char) (i : ℕ) :
    unescaped guards (slice ++ [c]) i = without guards slice i ++ [c] := by
  rw [unescaped, without_append, without_singleton, List.length_append, List.length_singleton,
    if_neg (by simp; omega)]
  congr 1
  refine without_congr fun j _ hj => ?_
  simp only [List.mem_filter, decide_eq_true_eq, and_iff_left_iff_imp]
  omega

/-- What holds only of the positions of the text in the middle picks characters of that. -/
theorem filter_zipIdx_middle {p : ℕ → Bool} (first second third : Text) {i : ℕ}
    (h : ∀ j, p j → i + first.length ≤ j ∧ j < i + first.length + second.length) :
    ((first ++ second ++ third).zipIdx i).filter (fun x => p x.2)
      = (second.zipIdx (i + first.length)).filter fun x => p x.2 := by
  have hfirst : (first.zipIdx i).filter (fun x => p x.2) = [] := by
    refine List.filter_eq_nil_iff.2 fun x hx hp => ?_
    have := List.snd_lt_add_of_mem_zipIdx hx
    have := (h _ hp).1
    omega
  have hthird : (third.zipIdx (i + (first ++ second).length)).filter (fun x => p x.2) = [] := by
    refine List.filter_eq_nil_iff.2 fun x hx hp => ?_
    have := List.le_snd_of_mem_zipIdx hx
    have := (h _ hp).2
    rw [List.length_append] at *
    omega
  rw [List.zipIdx_append, List.zipIdx_append, List.filter_append, List.filter_append, hfirst,
    hthird, List.nil_append, List.append_nil]

/-- The characters of a slice are those of the text at its positions. -/
theorem zipIdx_slice {text : Text} {first last : ℕ} (hf : first ≤ last) (hl : last ≤ text.length) :
    (slice text first last).zipIdx first
      = text.zipIdx.filter fun x => first ≤ x.2 ∧ x.2 < last := by
  have hlen : (text.take first).length = first := by
    rw [List.length_take]
    omega
  have hslice : (slice text first last).length = last - first := length_slice hl
  conv_rhs => rw [← take_slice_drop text hf]
  rw [filter_zipIdx_middle (p := fun j => first ≤ j ∧ j < last) (text.take first), Nat.zero_add,
    hlen]
  · refine (List.filter_eq_self.2 fun x hx => ?_).symm
    have := List.le_snd_of_mem_zipIdx hx
    have := List.snd_lt_add_of_mem_zipIdx hx
    simp only [Bool.decide_and, Bool.and_eq_true, decide_eq_true_eq]
    omega
  · intro j hj
    simp only [Bool.decide_and, Bool.and_eq_true, decide_eq_true_eq] at hj
    omega

theorem without_slice_succ (positions : List ℕ) {text : Text} {first i : ℕ} {c : Char}
    (h : first ≤ i) (hc : text[i]? = some c) :
    without positions (slice text first (i + 1)) first
      = without positions (slice text first i) first ++ if i ∈ positions then [] else [c] := by
  obtain ⟨hlt, -⟩ := List.getElem?_eq_some_iff.1 hc
  rw [slice_succ h hc, without_append, without_singleton, length_slice hlt.le,
    Nat.add_sub_cancel' h]

theorem unescaped_slice_succ (guards : List ℕ) {text : Text} {first i : ℕ} {c : Char}
    (h : first ≤ i) (hc : text[i]? = some c) :
    unescaped guards (slice text first (i + 1)) first
      = without guards (slice text first i) first ++ [c] := by
  rw [slice_succ h hc, unescaped_concat]

/-- A span without its guards is what it shows, up to a guard at its end. -/
theorem exists_stop {guards : List ℕ} {text : Text} {start stop : ℕ} (hlt : start < stop)
    (hle : stop ≤ text.length) (hstart : start ∉ guards) (hstop : stop ∉ guards)
    (hnext : ∀ i, start ≤ i → i < stop → i ∈ guards → i + 1 ∉ guards) :
    ∃ last, start < last ∧ last - 1 ∉ guards
      ∧ text[last - 1]? = (without guards (slice text start stop) start).getLast?
      ∧ unescaped guards (slice text start last) start
        = without guards (slice text start stop) start
      ∧ stop = (if last ∈ guards then last + 1 else last)
      ∧ (unescaped guards (slice text start stop) start
          = without guards (slice text start stop) start ↔ last ∉ guards) := by
  obtain ⟨k, rfl⟩ : ∃ k, stop = k + 1 := ⟨stop - 1, by omega⟩
  have hk : text[k]? = some text[k] := List.getElem?_eq_getElem hle
  by_cases hg : k ∈ guards
  · have hne : start ≠ k := fun h => hstart (h ▸ hg)
    obtain ⟨m, rfl⟩ : ∃ m, k = m + 1 := ⟨k - 1, by omega⟩
    have hm : text[m]? = some text[m] := List.getElem?_eq_getElem (by omega)
    have hmg : m ∉ guards := fun h => hnext m (by omega) (by omega) h hg
    have hw := without_slice_succ guards (by omega : start ≤ m + 1) hk
    have hv := without_slice_succ guards (by omega : start ≤ m) hm
    rw [if_pos hg, List.append_nil] at hw
    rw [if_neg hmg] at hv
    refine ⟨m + 1, by omega, hmg, ?_, ?_, (if_pos hg).symm, ?_⟩
    · rw [hw, hv, List.getLast?_concat]
      exact hm
    · rw [hw, hv, unescaped_slice_succ guards (by omega) hm]
    · rw [hw, unescaped_slice_succ guards (by omega) hk]
      simp [hg]
  · have hw := without_slice_succ guards (by omega : start ≤ k) hk
    rw [if_neg hg] at hw
    have hu := unescaped_slice_succ guards (by omega : start ≤ k) hk
    refine ⟨k + 1, hlt, hg, ?_, hu.trans hw.symm, (if_neg hstop).symm, ?_⟩
    · rw [hw, List.getLast?_concat]
      exact hk
    · exact iff_of_true (hu.trans hw.symm) hstop

end Text

namespace Delimiters

variable (d : Delimiters)

/-! ## The guards of a template -/

/-- The positions of the escapes that protect a delimiter in a token. -/
def guardsOf : Located Token → List ℕ
  | ⟨.literal _, _, _⟩ => []
  | ⟨.chain body, start, _⟩ => d.guards body (start + 1)

theorem mem_guardsOf_place {j : ℕ} : ∀ {i : ℕ} {tokens : List Token},
    j ∈ (d.place i tokens).flatMap d.guardsOf → i ≤ j ∧ j < i + (d.writeTokens tokens).length
  | i, [], h => by simp [place] at h
  | i, token :: rest, h => by
    rw [place, List.flatMap_cons, List.mem_append] at h
    rw [writeTokens, List.flatMap_cons, List.length_append]
    rcases h with h | h
    · rcases token with text | body
      · simp [guardsOf] at h
      · obtain ⟨hle, hlt, -⟩ := d.guards_spec h
        rw [writeToken, List.length_append, List.length_cons]
        omega
    · have ih := mem_guardsOf_place h
      rw [writeTokens] at ih
      omega

namespace Site

variable {d} (site : d.Site)

/-- In a filter's text, its own guards are those of the template. -/
theorem mem_guards_iff {j : ℕ} (hs : site.piece.start ≤ j) (he : j ≤ site.piece.stop) :
    j ∈ (d.place 0 site.tokens).flatMap d.guardsOf ↔ j ∈ d.guards site.raw site.piece.start := by
  have hstart := site.start_eq
  have hstop := site.stop_eq
  have hlead := site.length_lead
  obtain ⟨tail, hb, ht⟩ := site.exists_body_eq
  have hfront : d.isPaired (d.separated site.front) :=
    d.isPaired_separated fun r hr => site.isRaw r (List.mem_append_left _ hr)
  have hbody : d.guardsOf site.token
      = d.guards (d.separated site.front) (site.opened + 1) ++ d.guards site.raw site.piece.start
        ++ d.guards tail site.piece.stop := by
    rw [token, guardsOf, hb, d.guards_append _ site.isPaired_inner, d.guards_append _ hfront,
      List.length_append, ← Nat.add_assoc, ← hlead, ← hstop, ← hstart]
  rw [place_tokens, List.flatMap_append, List.flatMap_cons, hbody]
  simp only [List.mem_append]
  -- the guards of all other texts stand outside of this one
  constructor
  · rintro (h | ((h | h) | h) | h)
    · have hlt := (d.mem_guardsOf_place h).2
      rw [← opened] at hlt
      omega
    · obtain ⟨-, hlt, -⟩ := d.guards_spec h
      omega
    · exact h
    · rcases ht with rfl | ⟨text, rfl⟩
      · simp [guards] at h
      · rw [d.guards_plain d.separator_ne_escape] at h
        have hle := (d.guards_spec h).1
        omega
    · have hle := (d.mem_guardsOf_place h).1
      have hlt := site.stop_lt
      have htoken : site.token.stop = site.opened + (site.body.length + 2) := rfl
      omega
  · exact fun h => .inr (.inl (.inl (.inr h)))

theorem not_mem_guards_of_chars {c : Char} {i : ℕ} (h : (c, i) ∈ site.piece.chars) :
    i ∉ d.guards site.raw site.piece.start := by
  rw [chars_eq, List.mem_filter, decide_eq_true_eq] at h
  exact h.2

theorem positionOf_not_mem_guards (index : ℕ) :
    site.piece.positionOf index ∉ (d.place 0 site.tokens).flatMap d.guardsOf := by
  obtain ⟨hle, hge⟩ := site.ordered.positionOf_mem index
  rw [site.mem_guards_iff hle hge]
  rcases hc : site.piece.chars[index]? with _ | ⟨c, i⟩
  · rw [Piece.positionOf_of_le (List.getElem?_eq_none_iff.1 hc)]
    intro h
    obtain ⟨-, hlt, -⟩ := d.guards_spec h
    rw [stop_eq, start_eq] at hlt
    omega
  · rw [Piece.positionOf_of_getElem? hc]
    exact site.not_mem_guards_of_chars (List.mem_of_getElem? hc)

/-- What stands behind a guard in a filter's text is no guard. -/
theorem succ_not_mem_guards {i : ℕ} (hs : site.piece.start ≤ i) (he : i < site.piece.stop)
    (h : i ∈ (d.place 0 site.tokens).flatMap d.guardsOf) :
    i + 1 ∉ (d.place 0 site.tokens).flatMap d.guardsOf := by
  rw [site.mem_guards_iff hs he.le] at h
  rw [site.mem_guards_iff (by omega) he]
  exact (d.guards_spec h).2.2.2

theorem slice_text_raw {first last : ℕ}
    (h : site.piece.positionOf first < site.piece.positionOf last) :
    Text.slice site.piece.text first last
      = Text.without (d.guards site.raw site.piece.start)
        (Text.slice (d.writeTokens site.tokens) (site.piece.positionOf first)
          (site.piece.positionOf last)) (site.piece.positionOf first) := by
  have hfirst := (site.ordered.positionOf_mem first).1
  have hlast := (site.ordered.positionOf_mem last).2
  obtain ⟨ending, behind, hw⟩ := site.exists_text_eq
  have hz := Text.filter_zipIdx_middle
    (p := fun j => site.piece.positionOf first ≤ j ∧ j < site.piece.positionOf last)
    site.lead site.raw (ending :: behind) (i := 0) ?_
  · rw [Piece.slice_text, site.ordered.slice_chars h, Text.without,
      Text.zipIdx_slice h.le (hlast.trans site.stop_lt_length.le), hw, hz, chars_eq, Nat.zero_add,
      start_eq, List.filter_filter, List.filter_filter]
    congr 1
    refine List.filter_congr fun x _ => Bool.and_comm _ _
  · intro j hj
    simp only [Bool.decide_and, Bool.and_eq_true, decide_eq_true_eq] at hj
    have hstart := site.start_eq
    have hstop := site.stop_eq
    omega

/-- The characters between two indices of a filter's text are those between their positions in the
source, without the guards. -/
theorem slice_text_eq {first last : ℕ}
    (h : site.piece.positionOf first < site.piece.positionOf last) :
    Text.slice site.piece.text first last
      = Text.without ((d.place 0 site.tokens).flatMap d.guardsOf)
        (Text.slice (d.writeTokens site.tokens) (site.piece.positionOf first)
          (site.piece.positionOf last)) (site.piece.positionOf first) := by
  have hfirst := (site.ordered.positionOf_mem first).1
  have hlast := (site.ordered.positionOf_mem last).2
  rw [site.slice_text_raw h]
  refine Text.without_congr fun j hj hj' => ?_
  rw [Text.length_slice (hlast.trans site.stop_lt_length.le)] at hj'
  exact (site.mem_guards_iff (hfirst.trans hj) (by omega)).symm

end Site

/-- A fault of the structure shows the characters of its span. Any other that has a span shows the
characters from its start up to some place, without the guards between, and ends there; but if an
escape stands there that protects a delimiter, it ends behind that escape, and its span does not
show the same. -/
theorem compile_fault_fragment {text : Text} {fault : Fault}
    (h : d.compile text = .error (.fault fault)) (hlt : fault.start < fault.stop) :
    (∀ found, d.split text = .error found → ∀ guards,
      Text.unescaped guards (Text.slice text fault.start fault.stop) fault.start = fault.fragment)
    ∧ ∀ tokens, d.split text = .ok tokens →
        ∃ stop, fault.start < stop ∧ stop - 1 ∉ tokens.flatMap d.guardsOf
          ∧ text[stop - 1]? = fault.fragment.getLast?
          ∧ Text.unescaped (tokens.flatMap d.guardsOf) (Text.slice text fault.start stop)
            fault.start = fault.fragment
          ∧ fault.stop = (if stop ∈ tokens.flatMap d.guardsOf then stop + 1 else stop)
          ∧ (Text.unescaped (tokens.flatMap d.guardsOf)
              (Text.slice text fault.start fault.stop) fault.start = fault.fragment
            ↔ stop ∉ tokens.flatMap d.guardsOf) := by
  rcases hs : d.split text with found | tokens
  · obtain rfl : found = fault := by simpa [compile, hs] using h
    have hf := d.structural_of_split hs
    obtain ⟨c, hc, hfragment⟩ := hf.char
    refine ⟨fun _ _ guards => ?_, ?_⟩
    · rw [hf.stop, Text.slice_succ le_rfl hc, Text.unescaped_concat, hfragment]
      simp [Text.slice, Text.without]
    · rintro tokens ⟨⟩
  · refine ⟨fun _ h => (by cases h), ?_⟩
    rintro _ ⟨⟩
    obtain ⟨piece, before, behind, hp, hb, he⟩ := (d.compile_eq_error_iff hs).1 h
    obtain ⟨site, rfl, rfl, rfl, rfl⟩ := d.exists_site hs hp
    obtain ⟨⟨cause, first, last⟩ | refusal, hm, hf⟩ := Piece.read_eq_error_iff.1 he
    · obtain rfl := Failure.fault.inj hf
      have hspan : site.piece.positionOf first < site.piece.positionOf last := hlt
      have hfirst := (site.ordered.positionOf_mem first).1
      have hlast := (site.ordered.positionOf_mem last).2
      have hne : Text.slice site.piece.text first last ≠ [] := fun hnil => by
        have hend := Piece.positionOf_of_slice_eq_nil (Filter.slip_of_read hm).1 hnil
        omega
      have hfragment : (site.piece.fault cause first last).fragment
          = Text.slice site.piece.text first last := if_neg hne
      rw [hfragment, site.slice_text_eq hspan]
      exact Text.exists_stop hspan (hlast.trans site.stop_lt_length.le)
        (site.positionOf_not_mem_guards first) (site.positionOf_not_mem_guards last)
        fun i hi hi' => site.succ_not_mem_guards (hfirst.trans hi) (hi'.trans_le hlast)
    · cases hf

/-- What stands behind a filter without arguments ends with the filter's text, so its span shows the
same. -/
theorem compile_fault_fragment_trailing :
    let text : Text := ['\x7b', 't', '\\', '|', 'a', '\\', '\x7d', '\x7d']
    (default : Delimiters).compile text
        = .error (.fault ⟨.trailingText 't', ['|', 'a', '\x7d'], 3, 7⟩)
      ∧ Text.slice text 3 7 = ['|', 'a', '\\', '\x7d']
      ∧ Text.unescaped [2, 5] (Text.slice text 3 7) 3 = ['|', 'a', '\x7d'] := by
  intro text
  have hs : (default : Delimiters).split text
      = .ok [⟨.chain ['t', '\\', '|', 'a', '\\', '\x7d'], 0, 8⟩] := by
    rfl
  have hf : (default : Delimiters).compile text
      = .error (.fault ⟨.trailingText 't', ['|', 'a', '\x7d'], 3, 7⟩) := by
    rfl
  have hg : [⟨.chain ['t', '\\', '|', 'a', '\\', '\x7d'], 0, 8⟩].flatMap
      (default : Delimiters).guardsOf = [2, 5] := by
    rfl
  obtain ⟨stop, -, -, -, -, hstop, hspan⟩ :=
    (compile_fault_fragment default hf (by decide)).2 _ hs
  rw [hg] at hstop hspan
  refine ⟨hf, rfl, hspan.2 fun hm => ?_⟩
  rw [if_pos hm] at hstop
  have hseven : 7 = stop + 1 := hstop
  simp only [List.mem_cons, List.not_mem_nil, or_false] at hm
  omega

/-- Behind a symbol that is not known, the span reaches into the escape of the next character. -/
theorem compile_fault_fragment_overrun :
    let text : Text := ['\x7b', 'x', '\\', '|', '\x7d']
    ∃ fault tokens, (default : Delimiters).compile text = .error (.fault fault)
      ∧ fault.start < fault.stop ∧ (default : Delimiters).split text = .ok tokens
      ∧ Text.unescaped (tokens.flatMap (default : Delimiters).guardsOf)
          (Text.slice text fault.start fault.stop) fault.start ≠ fault.fragment :=
  ⟨⟨.unknownFilter 'x', ['x'], 1, 3⟩, [⟨.chain ['x', '\\', '|'], 0, 5⟩], rfl, by decide, rfl,
    by decide⟩

end Delimiters

end FilterTemplate
