import Mathlib
import FilterTemplate.Proofs.Failures

/-!
# The arguments of filters

Behind its symbol a filter's text has a range, a mask with a count or without one, or a target and
its replacement. Which texts are read is said here by their characters alone: by the numbers that
digits denote, zeros in front included (`DenotesRange`), by the character behind all digits of a
count (`CountedMask`), and by the first delimiter behind a target (`Substitutes`). All other texts
are malformed (`ReadOrMalformed`), but for those with too many digits and those with a pattern or a
replacement that is refused.
-/

namespace FilterTemplate

/-- Whether a filter's text is read, with its own span, or else is malformed. -/
def Piece.ReadOrMalformed (piece : Piece) : Prop :=
  (∃ filter, piece.read = .ok ⟨filter, piece.start, piece.stop⟩)
    ∨ ∃ failure, piece.read = .error failure ∧ failure.kind = .malformed

theorem Piece.read_eq_ok_iff_of_text {piece : Piece} {text : Text} (ht : piece.text = text)
    (filter : Filter) :
    piece.read = .ok ⟨filter, piece.start, piece.stop⟩ ↔ Filter.read text = .ok filter := by
  rw [Piece.read_eq_ok_iff, ht]
  exact and_iff_left rfl

theorem Piece.readOrMalformed_of_meets {piece : Piece} {text : Text} (ht : piece.text = text)
    (h : ∀ misreading, Filter.read text = .error misreading →
      misreading.Meets text.length fun _ => False) : piece.ReadOrMalformed := by
  rcases hr : Filter.read text with misreading | filter
  · have he : piece.read = .error (piece.failure misreading) :=
      Piece.read_eq_error_iff.2 ⟨misreading, ht ▸ hr, rfl⟩
    have hm := h misreading hr
    rcases misreading with ⟨cause, first, last⟩ | refusal
    · exact .inr ⟨_, he, Failure.kind_of_ofArguments hm.1 _ _ _⟩
    · exact hm.elim
  · exact .inl ⟨filter, (Piece.read_eq_ok_iff_of_text ht filter).2 hr⟩

/-! ## Ranges -/

/-- Whether no run of digits in the text is too long to be read. -/
def Numeral.Short (text : Text) : Prop := ∀ digits, RunIn digits text → digits.length ≤ maxDigits

namespace Numeral.Short

theorem of_length_le {text : Text} (h : text.length ≤ maxDigits) : Short text := by
  rintro digits ⟨before, behind, rfl, -⟩
  simp only [List.length_append] at h
  omega

/-- A character that is no digit ends the runs in front of it, and starts new ones behind it. -/
theorem parts {first last : Text} {c : Char} (hc : isDigit c = false)
    (h : Short (first ++ c :: last)) : Short first ∧ Short last := by
  constructor
  · rintro digits ⟨before, behind, rfl, hd, hl, hr⟩
    refine h digits ⟨before, behind ++ c :: last, by simp, hd, hl, fun x hx => ?_⟩
    rcases behind with _ | ⟨next, behind⟩
    · exact Option.some.inj hx ▸ hc
    · exact hr x hx
  · rintro digits ⟨before, behind, rfl, hd, hl, hr⟩
    refine h digits ⟨first ++ c :: before, behind, by simp, hd, fun x hx => ?_, hr⟩
    rcases List.eq_nil_or_concat before with rfl | ⟨front, final, rfl⟩
    · rw [List.getLast?_concat] at hx
      exact Option.some.inj hx ▸ hc
    · refine hl x ?_
      rw [List.concat_eq_append] at hx ⊢
      rw [← List.cons_append, ← List.append_assoc, List.getLast?_concat] at hx
      rwa [List.getLast?_concat]

theorem tail {last : Text} {c : Char} (hc : isDigit c = false) (h : Short (c :: last)) :
    Short last := (@parts [] last c hc h).2

theorem length_le {n : ℕ} {digits : Text} (h : Short digits) (hd : Denotes n digits) :
    digits.length ≤ maxDigits :=
  h digits ⟨[], [], by simp, hd.isDigit, by simp, by simp⟩

end Numeral.Short

namespace Filter

/-- Whether a text is a number other than zero, behind a minus sign or not. -/
inductive DenotesIndex : ℤ → Text → Prop
  | forward {n : ℕ} {digits : Text} : n ≠ 0 → Numeral.Denotes n digits → DenotesIndex n digits
  | backward {n : ℕ} {digits : Text} : n ≠ 0 → Numeral.Denotes n digits →
    DenotesIndex (-n) ('-' :: digits)

/-- Whether a text has one of the four forms of a range. An end without a sign of its own counts in
the direction of the start. -/
inductive DenotesRange : Filter → Text → Prop
  | single {a : ℤ} {first : Text} : DenotesIndex a first → DenotesRange (.substring a .single) first
  | toEnd {a : ℤ} {first : Text} : DenotesIndex a first →
    DenotesRange (.substring a .toEnd) (first ++ ['-'])
  | toIndex {a b : ℤ} {first last : Text} : DenotesIndex a first → DenotesIndex b last →
    DenotesRange (.substring a (.toIndex (if a < 0 ∨ b < 0 then -|b| else b)))
      (first ++ '-' :: last)
  | toLength {a : ℤ} {l : ℕ} {first digits : Text} : DenotesIndex a first → l ≠ 0 →
    Numeral.Denotes l digits → DenotesRange (.substring a (.toLength l)) (first ++ '+' :: digits)

theorem DenotesIndex.spells {index : ℤ} {text : Text} (h : DenotesIndex index text)
    (hs : Numeral.Short text) : SpellsIndex index text := by
  rcases h with ⟨hn, hd⟩ | ⟨hn, hd⟩
  · exact .intro false (Numeral.spells_iff.2 ⟨hn, hd, hs.length_le hd⟩)
  · have hdigits := (hs.tail rfl).length_le hd
    exact .intro true (Numeral.spells_iff.2 ⟨hn, hd, hdigits⟩)

end Filter

theorem SpellsIndex.denotes {index : ℤ} {text : Text} (h : SpellsIndex index text) :
    Filter.DenotesIndex index text := by
  obtain @⟨n, digits, negative, h⟩ := h
  obtain ⟨hn, hd, -⟩ := Numeral.spells_iff.1 h
  rcases negative with _ | _
  · exact .forward hn hd
  · exact .backward hn hd

namespace Filter

theorem denotesRange_of_spells {start : ℤ} {extent : Extent} {index behind : Text}
    (hs : SpellsIndex start index) (he : extent.Spells start behind) :
    DenotesRange (.substring start extent) (index ++ behind) := by
  have hi := hs.denotes
  cases he with
  | single =>
    rw [List.append_nil]
    exact .single hi
  | toEnd => exact .toEnd hi
  | toLength h =>
    obtain ⟨hn, hd, -⟩ := Numeral.spells_iff.1 h
    exact .toLength hi hn hd
  | @toIndex last _ hl hb =>
    have hr := DenotesRange.toIndex hi hl.denotes
    by_cases hlast : last < 0
    · rwa [if_pos (.inr hlast), abs_of_neg hlast, neg_neg] at hr
    · rwa [if_neg (not_or.2 ⟨fun h => hlast (hb h), hlast⟩)] at hr
  | toUnsigned h hb =>
    obtain ⟨hn, hd, -⟩ := Numeral.spells_iff.1 h
    have hr := DenotesRange.toIndex hi (.forward hn hd)
    rwa [if_pos (.inl hb), Nat.abs_cast] at hr

/-- An end of a range spells what it denotes, whether it takes the direction of the start or has one
of its own. -/
theorem DenotesIndex.spells_extent {start index : ℤ} {text : Text} (h : DenotesIndex index text)
    (hs : Numeral.Short text) :
    (Extent.toIndex (if start < 0 ∨ index < 0 then -|index| else index)).Spells start
      ('-' :: text) := by
  have hi := h.spells hs
  rcases h with @⟨n, digits, hn, hd⟩ | @⟨n, digits, hn, hd⟩
  · have hnot : ¬(n : ℤ) < 0 := Int.not_lt.2 (Int.natCast_nonneg n)
    by_cases hstart : start < 0
    · rw [if_pos (.inl hstart), Nat.abs_cast]
      exact .toUnsigned (Numeral.spells_iff.2 ⟨hn, hd, hs.length_le hd⟩) hstart
    · rw [if_neg (not_or.2 ⟨hstart, hnot⟩)]
      exact .toIndex hi fun h => absurd h hstart
  · have hneg : -(n : ℤ) < 0 := Int.neg_neg_of_pos (Int.natCast_pos.2 (Nat.pos_of_ne_zero hn))
    rw [if_pos (.inr hneg), abs_of_neg hneg, neg_neg]
    exact .toIndex hi fun _ => hneg

/-- A text without too many digits is read as a range exactly if it has the form of one. -/
theorem readSubstring_eq_ok_iff_denotesRange {rest : Text} {filter : Filter}
    (hs : Numeral.Short rest) : readSubstring rest = .ok filter ↔ DenotesRange filter rest := by
  rw [readSubstring_eq_ok_iff]
  constructor
  · rintro ⟨start, extent, index, behind, hi, he, rfl, rfl⟩
    exact denotesRange_of_spells hi he
  · intro h
    cases h with
    | single hi => exact ⟨_, _, _, [], hi.spells hs, .single, by simp, rfl⟩
    | toEnd hi => exact ⟨_, _, _, _, hi.spells (hs.parts rfl).1, .toEnd, rfl, rfl⟩
    | toIndex hi hl =>
      obtain ⟨hfirst, hlast⟩ := hs.parts rfl
      exact ⟨_, _, _, _, hi.spells hfirst, hl.spells_extent hlast, rfl, rfl⟩
    | toLength hi hn hd =>
      obtain ⟨hfirst, hlast⟩ := hs.parts rfl
      have hl := Numeral.spells_iff.2 ⟨hn, hd, hlast.length_le hd⟩
      exact ⟨_, _, _, _, hi.spells hfirst, .toLength hl, rfl, rfl⟩

end Filter

/-- A text of a range without too many digits is read exactly if it has one of the four forms, as
the range that this form stands for, and is malformed otherwise. -/
theorem Piece.read_range {piece : Piece} {rest : Text} (ht : piece.text = '#' :: rest)
    (hs : Numeral.Short piece.text) :
    (∀ filter, piece.read = .ok ⟨filter, piece.start, piece.stop⟩
      ↔ Filter.DenotesRange filter rest)
    ∧ ((¬∃ filter, Filter.DenotesRange filter rest)
      ↔ ∃ failure, piece.read = .error failure ∧ failure.kind = .malformed) := by
  rw [ht] at hs
  have hread (filter : Filter) : piece.read = .ok ⟨filter, piece.start, piece.stop⟩
      ↔ Filter.DenotesRange filter rest :=
    (Piece.read_eq_ok_iff_of_text ht filter).trans
      (Filter.readSubstring_eq_ok_iff_denotesRange (hs.tail rfl))
  refine ⟨hread, fun hnone => ?_, ?_⟩
  · refine (Piece.readOrMalformed_of_meets ht fun misreading h => ?_).resolve_left ?_
    · refine (Filter.readSubstring_error h).mono ?_
      rintro refusal ⟨digits, hrun, hlong, -⟩
      exact absurd (hs digits hrun) (Nat.not_le.2 hlong)
    · rintro ⟨filter, hf⟩
      exact hnone ⟨filter, (hread filter).1 hf⟩
  · rintro ⟨failure, hf, -⟩ ⟨filter, hd⟩
    rw [(hread filter).2 hd] at hf
    cases hf

/-- The end of a backward range counts backward without a sign of its own, and zeros in front do not
count; a length takes no sign. -/
theorem Piece.read_range_backward :
    let piece : Piece := ⟨[('#', 1), ('-', 2), ('2', 3), ('-', 4), ('0', 5), ('3', 6)], 1, 7⟩
    let signed : Piece := ⟨[('#', 1), ('2', 2), ('+', 3), ('-', 4), ('1', 5)], 1, 6⟩
    Numeral.Short piece.text ∧ piece.read = .ok ⟨.substring (-2) (.toIndex (-3)), 1, 7⟩
      ∧ Numeral.Short signed.text
      ∧ (∃ failure, signed.read = .error failure ∧ failure.kind = .malformed)
      ∧ ¬∃ filter, Filter.DenotesRange filter ['2', '+', '-', '1'] := by
  intro piece signed
  have hshort : Numeral.Short piece.text := Numeral.Short.of_length_le (by decide)
  have hsigned : Numeral.Short signed.text := Numeral.Short.of_length_le (by decide)
  have hfirst : Filter.DenotesIndex (-2) ['-', '2'] :=
    .backward (n := 2) (by decide) ⟨0, rfl⟩
  have hlast : Filter.DenotesIndex 3 ['0', '3'] := .forward (n := 3) (by decide) ⟨1, rfl⟩
  have hm : ∃ failure, signed.read = .error failure ∧ failure.kind = .malformed := ⟨_, rfl, rfl⟩
  exact ⟨hshort, ((read_range rfl hshort).1 _).2 (.toIndex hfirst hlast), hsigned, hm,
    (read_range rfl hsigned).2.2 hm⟩

/-! ## Padding -/

/-- Whether a text is a count, one more character, and the mask. In front of that character stand
all digits that the text starts with. -/
inductive CountedMask (n : ℕ) (mask : Text) : Text → Prop
  | intro {digits : Text} {delimiter : Char} : n ≠ 0 → Numeral.Denotes n digits →
    digits.length ≤ Numeral.maxDigits → Numeral.isDigit delimiter = false →
    CountedMask n mask (digits ++ delimiter :: mask)

namespace CountedMask

variable {n : ℕ} {mask text : Text}

theorem exists_span (h : CountedMask n mask text) : ∃ digits delimiter,
    Numeral.span text = (digits, delimiter :: mask) ∧ Numeral.Denotes n digits := by
  obtain @⟨digits, delimiter, -, hd, -, hc⟩ := h
  refine ⟨digits, delimiter, Numeral.span_eq_iff.2 ⟨rfl, hd.isDigit, fun c hm => ?_⟩, hd⟩
  exact Option.some.inj hm ▸ hc

/-- A text has at most one count and one mask. -/
theorem unique {m : ℕ} {other : Text} (h : CountedMask n mask text)
    (ho : CountedMask m other text) : n = m ∧ mask = other := by
  obtain ⟨digits, delimiter, hspan, hd⟩ := h.exists_span
  obtain ⟨found, between, hfound, hf⟩ := ho.exists_span
  rw [hspan] at hfound
  obtain ⟨rfl, hrest⟩ := Prod.mk.inj hfound
  exact ⟨hd.value_eq.symm.trans hf.value_eq, (List.cons.inj hrest).2⟩

theorem isDigit_head (h : CountedMask n mask text) : ∀ c ∈ text.head?, Numeral.isDigit c := by
  obtain @⟨digits, delimiter, hn, hd, -, -⟩ := h
  rcases digits with _ | ⟨c, digits⟩
  · exact absurd hd.value_eq.symm hn
  · intro x hx
    exact hd.isDigit x (Option.some.inj hx ▸ List.mem_cons_self)

end CountedMask

namespace Filter

theorem readPad_eq_ok_iff_countedMask {symbol : Char} {side : Side}
    (hs : (symbol, side) ∈ padSymbols) {rest : Text} {filter : Filter} :
    readPad symbol side rest = .ok filter
      ↔ (∃ mask, mask ≠ [] ∧ rest = symbol :: mask ∧ filter = .pad side mask none)
        ∨ ∃ (n : ℕ) (mask : Text), mask ≠ [] ∧ rest.head? ≠ some symbol ∧ CountedMask n mask rest
          ∧ filter = .pad side mask (some n) := by
  rw [readPad_eq_ok_iff hs]
  refine or_congr_right ⟨?_, ?_⟩
  · rintro ⟨n, digits, delimiter, mask, hm, hn, hc, rfl, rfl⟩
    obtain ⟨h0, hd, hl⟩ := Numeral.spells_iff.1 hn
    have hcounted : CountedMask n mask (digits ++ delimiter :: mask) := .intro h0 hd hl hc
    refine ⟨n, mask, hm, fun hhead => ?_, hcounted, rfl⟩
    have hdigit := hcounted.isDigit_head symbol hhead
    rw [isDigit_of_padSymbols hs] at hdigit
    cases hdigit
  · rintro ⟨n, mask, hm, -, @⟨digits, delimiter, h0, hd, hl, hc⟩, rfl⟩
    exact ⟨n, digits, delimiter, mask, hm, Numeral.spells_iff.2 ⟨h0, hd, hl⟩, hc, rfl, rfl⟩

end Filter

/-! ## Substitutions -/

theorem Substitutes.exists_splitAt {target replacement text : Text}
    (h : Substitutes target replacement text) : ∃ delimiter body behind,
      text = delimiter :: body ∧ Text.splitAt delimiter body = (target, behind)
        ∧ behind.getD [] = replacement := by
  rcases h with ⟨replacement, hm⟩ | hm
  · exact ⟨_, _, _, rfl, Text.splitAt_append _ hm, rfl⟩
  · exact ⟨_, _, _, rfl, Text.splitAt_of_not_mem hm, rfl⟩

/-- A text has at most one target and one replacement. -/
theorem Substitutes.unique {target replacement other further text : Text}
    (h : Substitutes target replacement text) (ho : Substitutes other further text) :
    target = other ∧ replacement = further := by
  obtain ⟨delimiter, body, behind, rfl, hsplit, rfl⟩ := h.exists_splitAt
  obtain ⟨mark, rest, more, ht, hfound, rfl⟩ := ho.exists_splitAt
  obtain ⟨rfl, rfl⟩ := List.cons.inj ht
  rw [hsplit] at hfound
  obtain ⟨rfl, rfl⟩ := Prod.mk.inj hfound
  exact ⟨rfl, rfl⟩

theorem Filter.readRegexReplace_eq_ok_iff_compile {symbol : Char} {all : Bool} {rest : Text}
    {filter : Filter} :
    readRegexReplace symbol all rest = .ok filter
      ↔ ∃ target replacement pattern parts, target ≠ [] ∧ Substitutes target replacement rest
        ∧ Regex.Pattern.compile target = .ok pattern ∧ pattern.source = target
        ∧ Regex.Replacement.read pattern replacement = .ok parts
        ∧ filter = .regexReplace pattern replacement all := by
  rw [readRegexReplace_eq_ok_iff]
  constructor
  · rintro ⟨pattern, replacement, parts, ⟨hn, hc⟩, hr, hs, rfl⟩
    exact ⟨_, replacement, pattern, parts, hn, hs, hc, rfl, hr, rfl⟩
  · rintro ⟨_, replacement, pattern, parts, hn, hs, hc, rfl, hr, rfl⟩
    exact ⟨pattern, replacement, parts, ⟨hn, hc⟩, hr, hs, rfl⟩

namespace Piece

variable {piece : Piece} {symbol : Char} {rest : Text}

theorem readOrMalformed_of_padSymbols {side : Side} (hs : (symbol, side) ∈ Filter.padSymbols)
    (ht : piece.text = symbol :: rest)
    (hshort : (rest.takeWhile Numeral.isDigit).length ≤ Numeral.maxDigits) :
    piece.ReadOrMalformed := by
  refine readOrMalformed_of_meets ht fun misreading h => ?_
  rw [Filter.read_of_padSymbols hs] at h
  exact (Filter.readPad_error h).mono fun refusal hl => absurd hshort (Nat.not_le.2 hl.1)

theorem readOrMalformed_of_replaceSymbols {all : Bool} (ha : (symbol, all) ∈ Filter.replaceSymbols)
    (ht : piece.text = symbol :: rest) : piece.ReadOrMalformed := by
  refine readOrMalformed_of_meets ht fun misreading h => ?_
  rw [Filter.read_of_replaceSymbols ha] at h
  exact Filter.readReplace_error h

theorem readOrMalformed_of_regexReplaceSymbols {all : Bool}
    (ha : (symbol, all) ∈ Filter.regexReplaceSymbols) (ht : piece.text = symbol :: rest)
    (hregex : ∀ failure, Filter.RegexFails piece.text failure →
      ∃ error, failure = .malformed error) : piece.ReadOrMalformed := by
  refine readOrMalformed_of_meets ht fun misreading h => ?_
  rw [Filter.read_of_regexReplaceSymbols ha] at h
  refine (Filter.readRegexReplace_error ha h).mono ?_
  rintro refusal ⟨failure, hf, hr⟩
  obtain ⟨error, rfl⟩ := hregex failure (ht ▸ hf)
  cases hr

end Piece

/-- A text of padding or of a replacement is read exactly if it has the form of one, as the filter
that its parts give, and no text has such parts in two ways. Otherwise it is malformed, unless its
count has too many digits, or its pattern or replacement fails without being malformed. -/
theorem Piece.read_padding_or_replacement {piece : Piece} {symbol : Char} {rest : Text}
    (ht : piece.text = symbol :: rest) :
    (∀ side, (symbol, side) ∈ Filter.padSymbols →
      (∀ filter, piece.read = .ok ⟨filter, piece.start, piece.stop⟩
        ↔ (∃ mask, mask ≠ [] ∧ rest = symbol :: mask ∧ filter = .pad side mask none)
          ∨ ∃ (n : ℕ) (mask : Text), mask ≠ [] ∧ rest.head? ≠ some symbol
            ∧ CountedMask n mask rest ∧ filter = .pad side mask (some n))
      ∧ ((rest.takeWhile Numeral.isDigit).length ≤ Numeral.maxDigits → piece.ReadOrMalformed))
    ∧ (∀ all, (symbol, all) ∈ Filter.replaceSymbols →
      (∀ filter, piece.read = .ok ⟨filter, piece.start, piece.stop⟩
        ↔ ∃ target replacement, target ≠ [] ∧ Substitutes target replacement rest
          ∧ filter = .replace target replacement all)
      ∧ piece.ReadOrMalformed)
    ∧ (∀ all, (symbol, all) ∈ Filter.regexReplaceSymbols →
      (∀ filter, piece.read = .ok ⟨filter, piece.start, piece.stop⟩
        ↔ ∃ target replacement pattern parts, target ≠ [] ∧ Substitutes target replacement rest
          ∧ Regex.Pattern.compile target = .ok pattern ∧ pattern.source = target
          ∧ Regex.Replacement.read pattern replacement = .ok parts
          ∧ filter = .regexReplace pattern replacement all)
      ∧ ((∀ failure, Filter.RegexFails piece.text failure → ∃ error, failure = .malformed error) →
        piece.ReadOrMalformed))
    ∧ (∀ n m mask other, CountedMask n mask rest → CountedMask m other rest → n = m ∧ mask = other)
    ∧ ∀ target replacement other further, Substitutes target replacement rest →
      Substitutes other further rest → target = other ∧ replacement = further := by
  refine ⟨fun side hs => ⟨fun filter => ?_, Piece.readOrMalformed_of_padSymbols hs ht⟩,
    fun all ha => ⟨fun filter => ?_, Piece.readOrMalformed_of_replaceSymbols ha ht⟩,
    fun all ha => ⟨fun filter => ?_, Piece.readOrMalformed_of_regexReplaceSymbols ha ht⟩,
    fun _ _ _ _ => CountedMask.unique, fun _ _ _ _ => Substitutes.unique⟩
  · rw [Piece.read_eq_ok_iff_of_text ht, Filter.read_of_padSymbols hs]
    exact Filter.readPad_eq_ok_iff_countedMask hs
  · rw [Piece.read_eq_ok_iff_of_text ht, Filter.read_of_replaceSymbols ha]
    exact Filter.readReplace_eq_ok_iff
  · rw [Piece.read_eq_ok_iff_of_text ht, Filter.read_of_regexReplaceSymbols ha]
    exact Filter.readRegexReplace_eq_ok_iff_compile

/-- The symbol can be the delimiter of a count, and a delimiter can stand in a replacement or be
left out behind the target; but two of them in a row leave no target. -/
theorem Piece.read_padding_or_replacement_repeated :
    let pad : Piece := ⟨[('<', 1), ('0', 2), ('3', 3), ('<', 4), ('<', 5)], 1, 6⟩
    let replace : Piece := ⟨[('R', 1), ('x', 2), ('a', 3), ('x', 4), ('b', 5), ('x', 6)], 1, 7⟩
    let search : Piece := ⟨[('s', 1), ('x', 2), ('a', 3)], 1, 4⟩
    let empty : Piece := ⟨[('r', 1), ('x', 2), ('x', 3)], 1, 4⟩
    pad.text = ['<', '0', '3', '<', '<'] ∧ pad.read = .ok ⟨.pad .left ['<'] (some 3), 1, 6⟩
      ∧ replace.text = ['R', 'x', 'a', 'x', 'b', 'x']
      ∧ replace.read = .ok ⟨.replace ['a'] ['b', 'x'] true, 1, 7⟩
      ∧ search.text = ['s', 'x', 'a']
      ∧ (∃ pattern, Regex.Pattern.compile ['a'] = .ok pattern
        ∧ search.read = .ok ⟨.regexReplace pattern [] false, 1, 4⟩)
      ∧ empty.text = ['r', 'x', 'x']
      ∧ ∃ failure, empty.read = .error failure ∧ failure.kind = .malformed := by
  intro pad replace search empty
  have hcounted : CountedMask 3 ['<'] (['0', '3'] ++ '<' :: ['<']) :=
    .intro (by decide) ⟨1, rfl⟩ (by decide) rfl
  have hsubstitutes : Substitutes ['a'] ['b', 'x'] ['x', 'a', 'x', 'b', 'x'] :=
    .full ['b', 'x'] (by decide)
  have hbare : Substitutes ['a'] [] ['x', 'a'] := .bare (by decide)
  obtain ⟨pattern, parts, hcompile, hparts⟩ : ∃ pattern parts,
      Regex.Pattern.compile ['a'] = .ok pattern
        ∧ Regex.Replacement.read pattern [] = .ok parts :=
    ⟨_, _, rfl, rfl⟩
  have hsource := Regex.Pattern.source_of_compile hcompile
  obtain ⟨hpad, -⟩ := read_padding_or_replacement (rfl : pad.text = _)
  obtain ⟨-, hreplace, -⟩ := read_padding_or_replacement (rfl : replace.text = _)
  obtain ⟨-, -, hsearch, -⟩ := read_padding_or_replacement (rfl : search.text = _)
  obtain ⟨-, hempty, -⟩ := read_padding_or_replacement (rfl : empty.text = _)
  refine ⟨rfl, ?_, rfl, ?_, rfl, ⟨pattern, hcompile, ?_⟩, rfl, ?_⟩
  · refine ((hpad .left (by decide)).1 _).2 (.inr ⟨3, ['<'], by decide, ?_, hcounted, rfl⟩)
    decide
  · exact ((hreplace true (by decide)).1 _).2
      ⟨['a'], ['b', 'x'], by decide, hsubstitutes, rfl⟩
  · exact ((hsearch false (by decide)).1 _).2
      ⟨['a'], [], pattern, parts, by decide, hbare, hcompile, hsource, hparts, rfl⟩
  · refine ((hempty false (by decide)).2).resolve_left ?_
    rintro ⟨filter, hf⟩
    cases hf

end FilterTemplate
