import Mathlib
import FilterTemplate.Filter.Read
import FilterTemplate.Proofs.Except
import FilterTemplate.Proofs.Numeral

/-!
# The spelling of filters

How filters are spelled is said here without a reader: a symbol and then a range, a mask, a target
and its replacement, or whatever else the symbol asks for. A filter may have several spellings, for
its numbers can have zeros in front and its texts any delimiter that keeps them apart. The readers
accept exactly these spellings, and give the filter that is spelled (`read_eq_ok_iff`); so no text
spells two filters.
-/

namespace FilterTemplate

/-! ## The grammar -/

/-- Whether the digits stand for the number, which is not zero and short enough to be read. -/
structure Numeral.Spells (n : ℕ) (digits : Text) : Prop where
  isDigit : ∀ c ∈ digits, isDigit c
  read : read digits = .ok n
  ne_zero : n ≠ 0

/-- Digits, behind a minus sign or not. -/
def signed (negative : Bool) (digits : Text) : Text := if negative then '-' :: digits else digits

/-- Whether a text spells an index. -/
inductive SpellsIndex : ℤ → Text → Prop
  | intro {n : ℕ} {digits : Text} (negative : Bool) :
    Numeral.Spells n digits → SpellsIndex (if negative then -n else n) (signed negative digits)

/-- Whether a text behind the start of a range spells how far it goes. -/
inductive Extent.Spells (start : ℤ) : Extent → Text → Prop
  | single : Spells start .single []
  | toEnd : Spells start .toEnd ['-']
  | toLength {n : ℕ} {digits : Text} :
    Numeral.Spells n digits → Spells start (.toLength n) ('+' :: digits)
  | toIndex {index : ℤ} {text : Text} : SpellsIndex index text → (start < 0 → index < 0) →
    Spells start (.toIndex index) ('-' :: text)
  /- without a sign of its own, the end of a backward range counts backward as well -/
  | toUnsigned {n : ℕ} {digits : Text} : Numeral.Spells n digits → start < 0 →
    Spells start (.toIndex (-n)) ('-' :: digits)

/-- Whether a text spells a target and its replacement. An empty replacement may be left out, with
the delimiter in front of it. -/
inductive Substitutes (target : Text) : Text → Text → Prop
  | full {delimiter : Char} (replacement : Text) : delimiter ∉ target →
    Substitutes target replacement (delimiter :: target ++ delimiter :: replacement)
  | bare {delimiter : Char} : delimiter ∉ target → Substitutes target [] (delimiter :: target)

/-- Whether the pattern is the one that its source stands for. -/
def Regex.Pattern.Compiled (pattern : Regex.Pattern) : Prop :=
  pattern.source ≠ [] ∧ Regex.Pattern.compile pattern.source = .ok pattern

theorem Regex.Pattern.source_of_compile {source : Text} {pattern : Regex.Pattern}
    (h : Regex.Pattern.compile source = .ok pattern) : pattern.source = source := by
  unfold Regex.Pattern.compile at h
  obtain ⟨⟨expr, reading⟩, -, h⟩ := Except.bind_eq_ok_iff.1 h
  simp only at h
  split at h
  · simp [throw, throwThe, MonadExceptOf.throw] at h
  · simp only [pure, Except.pure, Except.ok.injEq] at h
    rw [← h]

namespace Filter

/-- The filters that are their symbol and nothing more. -/
def fixed : List (Char × Filter) :=
  [('t', .trim), ('v', .lowercase), ('^', .uppercase), ('i', .transliterate),
   ('I', .removeNonAscii), ('d', .parentPath), ('f', .fileName), ('b', .baseName),
   ('e', .extension false), ('E', .extension true)]

/-- The symbols of padding, each with the side that it fills. -/
def padSymbols : List (Char × Side) := [('<', .left), ('>', .right)]

/-- The symbols of replacements, each with whether it is all of them that are made. -/
def replaceSymbols : List (Char × Bool) := [('r', false), ('R', true)]

/-- The same for the replacements of what a pattern matches. -/
def regexReplaceSymbols : List (Char × Bool) := [('s', false), ('S', true)]

/-- Whether a text spells the filter. -/
inductive Spells : Filter → Text → Prop
  | substring {start : ℤ} {extent : Extent} {index behind : Text} : SpellsIndex start index →
    extent.Spells start behind → Spells (.substring start extent) ('#' :: index ++ behind)
  | fixed {symbol : Char} {filter : Filter} : (symbol, filter) ∈ fixed → Spells filter [symbol]
  | mask {symbol : Char} {side : Side} {mask : Text} :
    (symbol, side) ∈ padSymbols → mask ≠ [] →
    Spells (.pad side mask none) (symbol :: symbol :: mask)
  | count {symbol : Char} {side : Side} {mask digits : Text} {n : ℕ} {delimiter : Char} :
    (symbol, side) ∈ padSymbols → mask ≠ [] → Numeral.Spells n digits →
    Numeral.isDigit delimiter = false →
    Spells (.pad side mask (some n)) (symbol :: digits ++ delimiter :: mask)
  | replace {symbol : Char} {all : Bool} {target replacement body : Text} :
    (symbol, all) ∈ replaceSymbols → target ≠ [] →
    Substitutes target replacement body → Spells (.replace target replacement all) (symbol :: body)
  | replaceEmpty (replacement : Text) : Spells (.replaceEmpty replacement) ('?' :: replacement)
  | regexMatch {pattern : Regex.Pattern} : pattern.Compiled →
    Spells (.regexMatch pattern) ('=' :: pattern.source)
  | regexReplace {symbol : Char} {all : Bool} {pattern : Regex.Pattern} {replacement body : Text}
    {parts : List Regex.Part} : (symbol, all) ∈ regexReplaceSymbols → pattern.Compiled →
    Regex.Replacement.read pattern replacement = .ok parts →
    Substitutes pattern.source replacement body →
    Spells (.regexReplace pattern replacement all) (symbol :: body)

/-! ## Numbers -/

theorem readNumeral_eq_ok_iff {digits : Text} {n : ℕ} :
    readNumeral digits = .ok n ↔ Numeral.read digits = .ok n := by
  unfold readNumeral
  rcases Numeral.read digits with tooLong | m <;> simp

theorem readQuantity_eq_ok_iff {quantity : Quantity} {digits : Text} {first n : ℕ}
    (hd : ∀ c ∈ digits, Numeral.isDigit c) :
    readQuantity quantity digits first = .ok n ↔ Numeral.Spells n digits := by
  constructor
  · intro h
    obtain ⟨m, hm, h⟩ := Except.bind_eq_ok_iff.1 h
    split_ifs at h with hz
    obtain rfl := Except.ok.inj h
    exact ⟨hd, readNumeral_eq_ok_iff.1 hm, hz⟩
  · intro h
    refine Except.bind_eq_ok_iff.2 ⟨n, readNumeral_eq_ok_iff.2 h.read, ?_⟩
    rw [if_neg h.ne_zero]

end Filter

theorem Numeral.Spells.ne_nil {n : ℕ} {digits : Text} (h : Numeral.Spells n digits) :
    digits ≠ [] := by
  rintro rfl
  exact h.ne_zero (Except.ok.inj h.read).symm

/-- Digits spell what they denote, if that is not zero and they are not too many. -/
theorem Numeral.spells_iff {n : ℕ} {digits : Text} :
    Numeral.Spells n digits ↔ n ≠ 0 ∧ Denotes n digits ∧ digits.length ≤ maxDigits := by
  constructor
  · intro h
    have hr := h.read
    unfold read at hr
    split_ifs at hr with hl
    obtain rfl := Except.ok.inj hr
    exact ⟨h.ne_zero, denotes_value h.isDigit h.ne_nil, Nat.le_of_not_lt hl⟩
  · rintro ⟨hn, hd, hl⟩
    exact ⟨hd.isDigit, by rw [read, if_neg (Nat.not_lt.2 hl), hd.value_eq], hn⟩

namespace Filter

/-! ## Ranges -/

theorem signed_splitSign (rest : Text) : signed (splitSign rest).1 (splitSign rest).2 = rest := by
  unfold splitSign
  split <;> rfl

/-- Digits have no minus sign in front that would be taken for one of the number. -/
theorem splitSign_signed_append (negative : Bool) {digits behind : Text}
    (hd : ∀ c ∈ digits, Numeral.isDigit c) (hb : digits = [] → behind = []) :
    splitSign (signed negative digits ++ behind) = (negative, digits ++ behind) := by
  rcases negative with _ | _
  · rcases digits with _ | ⟨c, digits⟩
    · rw [hb rfl]
      rfl
    · have hc : c ≠ '-' := by
        rintro rfl
        exact absurd (hd '-' List.mem_cons_self) (by decide)
      simp only [signed, Bool.false_eq_true, ↓reduceIte, List.cons_append]
      unfold splitSign
      split
      · rename_i heq
        exact absurd (List.cons.inj heq).1 hc
      · rfl
  · rfl

theorem stopForm?_eq_some_iff {text : Text} {ofLength negative : Bool} {digits : Text} :
    stopForm? text = some (ofLength, negative, digits)
      ↔ (∀ c ∈ digits, Numeral.isDigit c)
        ∧ text = (if ofLength then '+' else '-') :: signed negative digits := by
  constructor
  · intro h
    rcases text with _ | ⟨sign, rest⟩
    · simp [stopForm?] at h
    · simp only [stopForm?] at h
      split_ifs at h with hs ha
      simp only [Option.some.injEq, Prod.mk.injEq] at h
      obtain ⟨rfl, rfl, rfl⟩ := h
      refine ⟨List.all_eq_true.1 ha, ?_⟩
      rw [signed_splitSign]
      rcases hs with rfl | rfl <;> rfl
  · rintro ⟨hd, rfl⟩
    have hs : splitSign (signed negative digits) = (negative, digits) := by
      simpa using splitSign_signed_append negative hd fun _ => rfl
    have ha : digits.all Numeral.isDigit = true := List.all_eq_true.2 hd
    rcases ofLength with _ | _ <;> simp [stopForm?, hs, ha]

theorem isDigit_head_of_stopForm? {text : Text} {stop : Bool × Bool × Text}
    (h : stopForm? text = some stop) : ∀ c ∈ text.head?, Numeral.isDigit c = false := by
  obtain ⟨ofLength, negative, digits⟩ := stop
  obtain ⟨-, rfl⟩ := stopForm?_eq_some_iff.1 h
  intro c hc
  obtain rfl := Option.some.inj hc
  rcases ofLength with _ | _ <;> rfl

theorem rangeForm?_eq_some_iff {rest : Text} {form : RangeForm} :
    rangeForm? rest = some form
      ↔ form.digits ≠ [] ∧ (∀ c ∈ form.digits, Numeral.isDigit c)
        ∧ ∃ behind, rest = signed form.negative form.digits ++ behind
          ∧ (behind = [] ∧ form.stop = none
            ∨ ∃ stop, form.stop = some stop ∧ stopForm? behind = some stop) := by
  constructor
  · intro h
    rcases hsign : splitSign rest with ⟨negative, unsigned⟩
    rcases hspan : Numeral.span unsigned with ⟨digits, behind⟩
    obtain ⟨hu, hd, -⟩ := Numeral.span_eq_iff.1 hspan
    have hr : rest = signed negative digits ++ behind := by
      have hs := signed_splitSign rest
      rw [hsign] at hs
      rw [← hs, hu]
      rcases negative with _ | _ <;> rfl
    simp only [rangeForm?, hsign, hspan] at h
    rcases digits with _ | ⟨c, digits⟩
    · simp at h
    rcases behind with _ | ⟨sign, behind⟩
    · obtain rfl := Option.some.inj h
      exact ⟨by simp, hd, [], hr, .inl ⟨rfl, rfl⟩⟩
    · obtain ⟨stop, hstop, rfl⟩ := Option.map_eq_some_iff.1 h
      exact ⟨by simp, hd, sign :: behind, hr, .inr ⟨stop, rfl, hstop⟩⟩
  · rintro ⟨hn, hd, behind, rfl, hb⟩
    obtain ⟨negative, digits, stop⟩ := form
    simp only at hn hd hb
    have hsign : splitSign (signed negative digits ++ behind) = (negative, digits ++ behind) :=
      splitSign_signed_append negative hd fun h => absurd h hn
    rcases digits with _ | ⟨c, digits⟩
    · exact absurd rfl hn
    rcases hb with ⟨rfl, rfl⟩ | ⟨⟨ofLength, minus, more⟩, rfl, hstop⟩
    · have hspan : Numeral.span ((c :: digits) ++ []) = (c :: digits, []) :=
        Numeral.span_eq_iff.2 ⟨rfl, hd, by simp⟩
      simp only [rangeForm?, hsign, hspan]
    · have hspan : Numeral.span ((c :: digits) ++ behind) = (c :: digits, behind) :=
        Numeral.span_eq_iff.2 ⟨rfl, hd, isDigit_head_of_stopForm? hstop⟩
      rcases behind with _ | ⟨sign, behind⟩
      · simp [stopForm?] at hstop
      · simp only [rangeForm?, hsign, hspan, hstop, Option.map_some]

theorem signed_lt_zero {n : ℕ} (h : n ≠ 0) (negative : Bool) :
    (if negative then -(n : ℤ) else n) < 0 ↔ negative = true := by
  rcases negative with _ | _
  · simp
  · simpa using Nat.pos_of_ne_zero h

theorem exists_range_of_readSubstring {rest : Text} {filter : Filter}
    (h : readSubstring rest = .ok filter) :
    ∃ start extent index behind, SpellsIndex start index ∧ extent.Spells start behind
      ∧ rest = index ++ behind ∧ filter = .substring start extent := by
  simp only [readSubstring] at h
  rcases hform : rangeForm? rest with _ | ⟨negative, digits, stop⟩ <;> rw [hform] at h
  · simp at h
  obtain ⟨-, hd, behind, rfl, hb⟩ := rangeForm?_eq_some_iff.1 hform
  simp only at hd hb h
  obtain ⟨n, hn, h⟩ := Except.bind_eq_ok_iff.1 h
  have hn := (readQuantity_eq_ok_iff hd).1 hn
  have hstart := SpellsIndex.intro negative hn
  have hneg := signed_lt_zero hn.ne_zero negative
  rcases hb with ⟨rfl, rfl⟩ | ⟨⟨ofLength, minus, more⟩, rfl, hstop⟩
  · obtain rfl := Except.ok.inj h
    exact ⟨_, _, _, [], hstart, .single, rfl, rfl⟩
  obtain ⟨hm, rfl⟩ := stopForm?_eq_some_iff.1 hstop
  -- of the eight forms, those without digits or with a negative length are refused
  rcases ofLength with _ | _ <;> rcases minus with _ | _ <;> rcases more with _ | ⟨c, more⟩ <;>
    simp only [reduceCtorEq] at h
  · obtain rfl := Except.ok.inj h
    exact ⟨_, _, _, _, hstart, .toEnd, rfl, rfl⟩
  · obtain ⟨m, hq, h⟩ := Except.bind_eq_ok_iff.1 h
    have hi := (readQuantity_eq_ok_iff hm).1 hq
    obtain rfl := Except.ok.inj h
    rcases negative with _ | _
    · exact ⟨_, _, _, _, hstart,
        .toIndex (.intro false hi) fun h => absurd (hneg.1 h) (by simp), rfl, rfl⟩
    · exact ⟨_, _, _, _, hstart, .toUnsigned hi (hneg.2 rfl), rfl, rfl⟩
  · obtain ⟨m, hq, h⟩ := Except.bind_eq_ok_iff.1 h
    have hi := (readQuantity_eq_ok_iff hm).1 hq
    obtain rfl := Except.ok.inj h
    exact ⟨_, _, _, _, hstart,
      .toIndex (.intro true hi) fun _ => (signed_lt_zero hi.ne_zero true).2 rfl, rfl, rfl⟩
  · obtain ⟨m, hq, h⟩ := Except.bind_eq_ok_iff.1 h
    have hi := (readQuantity_eq_ok_iff hm).1 hq
    obtain rfl := Except.ok.inj h
    exact ⟨_, _, _, _, hstart, .toLength hi, rfl, rfl⟩

theorem rangeForm?_signed_append {n : ℕ} {digits behind : Text} {stop : Option (Bool × Bool × Text)}
    (negative : Bool) (h : Numeral.Spells n digits)
    (hb : behind = [] ∧ stop = none ∨ ∃ s, stop = some s ∧ stopForm? behind = some s) :
    rangeForm? (signed negative digits ++ behind) = some ⟨negative, digits, stop⟩ :=
  rangeForm?_eq_some_iff.2 ⟨h.ne_nil, h.isDigit, behind, rfl, hb⟩

theorem readSubstring_of_spells {start : ℤ} {extent : Extent} {index behind : Text}
    (hs : SpellsIndex start index) (he : extent.Spells start behind) :
    readSubstring (index ++ behind) = .ok (.substring start extent) := by
  obtain @⟨n, digits, negative, h⟩ := hs
  have hneg := signed_lt_zero h.ne_zero negative
  have hn (first : ℕ) : readQuantity .index digits first = .ok n :=
    (readQuantity_eq_ok_iff h.isDigit).2 h
  rcases he with _ | _ | @⟨m, more, hl⟩ | @⟨_, _, @⟨m, more, minus, hi⟩, hb⟩ | @⟨m, more, hu, hb⟩
  · have hform : rangeForm? (signed negative digits ++ []) = some ⟨negative, digits, none⟩ :=
      rangeForm?_signed_append negative h (.inl ⟨rfl, rfl⟩)
    simp only [readSubstring, hform]
    exact Except.bind_eq_ok_iff.2 ⟨n, hn _, rfl⟩
  · have hstop : stopForm? ['-'] = some (false, false, []) := rfl
    have hform := rangeForm?_signed_append negative h (.inr ⟨_, rfl, hstop⟩)
    simp only [readSubstring, hform]
    exact Except.bind_eq_ok_iff.2 ⟨n, hn _, rfl⟩
  · have hstop : stopForm? ('+' :: more) = some (true, false, more) :=
      stopForm?_eq_some_iff.2 ⟨hl.isDigit, rfl⟩
    have hform := rangeForm?_signed_append negative h (.inr ⟨_, rfl, hstop⟩)
    obtain ⟨c, more, rfl⟩ := List.exists_cons_of_ne_nil hl.ne_nil
    simp only [readSubstring, hform]
    exact Except.bind_eq_ok_iff.2 ⟨n, hn _,
      Except.bind_eq_ok_iff.2 ⟨m, (readQuantity_eq_ok_iff hl.isDigit).2 hl, rfl⟩⟩
  · have hstop : stopForm? ('-' :: signed minus more) = some (false, minus, more) :=
      stopForm?_eq_some_iff.2 ⟨hi.isDigit, rfl⟩
    have hform := rangeForm?_signed_append negative h (.inr ⟨_, rfl, hstop⟩)
    obtain ⟨c, more, rfl⟩ := List.exists_cons_of_ne_nil hi.ne_nil
    have hm (first : ℕ) : readQuantity .index (c :: more) first = .ok m :=
      (readQuantity_eq_ok_iff hi.isDigit).2 hi
    simp only [readSubstring, hform]
    refine Except.bind_eq_ok_iff.2 ⟨n, hn _, ?_⟩
    rcases minus with _ | _
    · refine Except.bind_eq_ok_iff.2 ⟨m, hm _, ?_⟩
      rcases negative with _ | _
      · rfl
      -- no forward index is the end of a backward range
      · exact absurd (hb (hneg.2 rfl)) (by simp)
    · exact Except.bind_eq_ok_iff.2 ⟨m, hm _, rfl⟩
  · have hstop : stopForm? ('-' :: more) = some (false, false, more) :=
      stopForm?_eq_some_iff.2 ⟨hu.isDigit, rfl⟩
    have hform := rangeForm?_signed_append negative h (.inr ⟨_, rfl, hstop⟩)
    obtain ⟨c, more, rfl⟩ := List.exists_cons_of_ne_nil hu.ne_nil
    obtain rfl := hneg.1 hb
    simp only [readSubstring, hform]
    exact Except.bind_eq_ok_iff.2 ⟨n, hn _,
      Except.bind_eq_ok_iff.2 ⟨m, (readQuantity_eq_ok_iff hu.isDigit).2 hu, rfl⟩⟩

theorem readSubstring_eq_ok_iff {rest : Text} {filter : Filter} :
    readSubstring rest = .ok filter
      ↔ ∃ start extent index behind, SpellsIndex start index ∧ extent.Spells start behind
        ∧ rest = index ++ behind ∧ filter = .substring start extent := by
  constructor
  · exact exists_range_of_readSubstring
  · rintro ⟨start, extent, index, behind, hs, he, rfl, rfl⟩
    exact readSubstring_of_spells hs he

/-! ## Padding -/

theorem isDigit_of_padSymbols {symbol : Char} {side : Side} (h : (symbol, side) ∈ padSymbols) :
    Numeral.isDigit symbol = false := by
  simp only [padSymbols, List.mem_cons, List.not_mem_nil, Prod.mk.injEq, or_false] at h
  rcases h with ⟨rfl, -⟩ | ⟨rfl, -⟩ <;> rfl

theorem readPad_of_mask (symbol : Char) (side : Side) {mask : Text} (hm : mask ≠ []) :
    readPad symbol side (symbol :: mask) = .ok (.pad side mask none) := by
  simp [readPad, hm]

theorem readPad_of_count {symbol : Char} (side : Side) {mask digits : Text} {n : ℕ}
    {delimiter : Char} (hs : Numeral.isDigit symbol = false) (hm : mask ≠ [])
    (hn : Numeral.Spells n digits) (hd : Numeral.isDigit delimiter = false) :
    readPad symbol side (digits ++ delimiter :: mask) = .ok (.pad side mask (some n)) := by
  have hspan : Numeral.span (digits ++ delimiter :: mask) = (digits, delimiter :: mask) := by
    refine Numeral.span_eq_iff.2 ⟨rfl, hn.isDigit, fun c hc => ?_⟩
    obtain rfl := Option.some.inj hc
    exact hd
  obtain ⟨c, more, rfl⟩ := List.exists_cons_of_ne_nil hn.ne_nil
  have hc : c ≠ symbol := by
    rintro rfl
    simp [hn.isDigit c List.mem_cons_self] at hs
  have hread := readNumeral_eq_ok_iff.2 hn.read
  simp only [readPad, hspan]
  rw [if_neg (by simpa using hc), if_neg (by simp)]
  refine Except.bind_eq_ok_iff.2 ⟨n, hread, ?_⟩
  rw [if_neg hn.ne_zero]
  simp [hm]

theorem readPad_eq_ok_iff {symbol : Char} {side : Side} (hs : (symbol, side) ∈ padSymbols)
    {rest : Text} {filter : Filter} :
    readPad symbol side rest = .ok filter
      ↔ (∃ mask, mask ≠ [] ∧ rest = symbol :: mask ∧ filter = .pad side mask none)
        ∨ ∃ n digits delimiter mask, mask ≠ [] ∧ Numeral.Spells n digits
          ∧ Numeral.isDigit delimiter = false ∧ rest = digits ++ delimiter :: mask
          ∧ filter = .pad side mask (some n) := by
  constructor
  · intro h
    rcases hspan : Numeral.span rest with ⟨digits, behind⟩
    obtain ⟨hr, hd, hhead⟩ := Numeral.span_eq_iff.1 hspan
    simp only [readPad, hspan] at h
    split_ifs at h with hsymbol hm hdigits
    · obtain rfl := Except.ok.inj h
      rcases rest with _ | ⟨c, mask⟩
      · simp at hsymbol
      · obtain rfl := Option.some.inj hsymbol
        exact .inl ⟨mask, hm, rfl, rfl⟩
    · obtain ⟨n, hn, h⟩ := Except.bind_eq_ok_iff.1 h
      split_ifs at h with hz
      rcases behind with _ | ⟨delimiter, mask⟩
      · simp at h
      simp only at h
      split_ifs at h with hm
      obtain rfl := Except.ok.inj h
      exact .inr ⟨n, digits, delimiter, mask, hm, ⟨hd, readNumeral_eq_ok_iff.1 hn, hz⟩,
        hhead delimiter rfl, hr, rfl⟩
  · rintro (⟨mask, hm, rfl, rfl⟩ | ⟨n, digits, delimiter, mask, hm, hn, hd, rfl, rfl⟩)
    · exact readPad_of_mask symbol side hm
    · exact readPad_of_count side (isDigit_of_padSymbols hs) hm hn hd

end Filter

/-! ## Substitutions -/

theorem Text.splitAt_of_not_mem {mark : Char} : ∀ {text : Text}, mark ∉ text →
    Text.splitAt mark text = (text, none)
  | [], _ => rfl
  | c :: rest, h => by
    rw [List.mem_cons, not_or] at h
    rw [Text.splitAt, if_neg (Ne.symm h.1), splitAt_of_not_mem h.2]

theorem Text.splitAt_append {mark : Char} (behind : Text) : ∀ {before : Text}, mark ∉ before →
    Text.splitAt mark (before ++ mark :: behind) = (before, some behind)
  | [], _ => by rw [List.nil_append, Text.splitAt, if_pos rfl]
  | c :: rest, h => by
    rw [List.mem_cons, not_or] at h
    rw [List.cons_append, Text.splitAt, if_neg (Ne.symm h.1), splitAt_append behind h.2]

theorem Text.eq_append_of_splitAt {mark : Char} : ∀ {text before : Text} {behind : Option Text},
    Text.splitAt mark text = (before, behind) →
      mark ∉ before ∧ text = before ++ behind.elim [] (mark :: ·)
  | [], before, behind, h => by
    obtain ⟨rfl, rfl⟩ := Prod.mk.inj h
    simp
  | c :: rest, before, behind, h => by
    rw [Text.splitAt] at h
    split_ifs at h with hc
    · obtain ⟨rfl, rfl⟩ := Prod.mk.inj h
      simp [hc]
    · rcases hr : Text.splitAt mark rest with ⟨first, more⟩
      rw [hr] at h
      obtain ⟨rfl, rfl⟩ := Prod.mk.inj h
      obtain ⟨hm, ht⟩ := eq_append_of_splitAt hr
      exact ⟨by simp [hm, Ne.symm hc], by rw [List.cons_append, ← ht]⟩

namespace Filter

theorem readSubstitution_eq_ok_iff {symbol : Char} {rest target replacement : Text} :
    readSubstitution symbol rest = .ok (target, replacement)
      ↔ target ≠ [] ∧ Substitutes target replacement rest := by
  constructor
  · intro h
    rcases rest with _ | ⟨delimiter, body⟩
    · simp [readSubstitution] at h
    rcases hsplit : Text.splitAt delimiter body with ⟨before, behind⟩
    obtain ⟨hm, rfl⟩ := Text.eq_append_of_splitAt hsplit
    rcases before with _ | ⟨c, before⟩ <;>
      simp only [readSubstitution, hsplit, reduceCtorEq, Except.ok.injEq, Prod.mk.injEq] at h
    obtain ⟨rfl, rfl⟩ := h
    rcases behind with _ | behind
    · rw [Option.elim_none, List.append_nil]
      exact ⟨by simp, .bare hm⟩
    · exact ⟨by simp, .full behind hm⟩
  · rintro ⟨hn, h⟩
    obtain ⟨c, before, rfl⟩ := List.exists_cons_of_ne_nil hn
    rcases h with ⟨replacement, hm⟩ | hm
    · simp only [List.cons_append, readSubstitution]
      rw [← List.cons_append, Text.splitAt_append _ hm]
      rfl
    · simp only [readSubstitution, Text.splitAt_of_not_mem hm]
      rfl

theorem readPattern_eq_ok_iff {source : Text} {first : ℕ} {pattern : Regex.Pattern} :
    readPattern source first = .ok pattern ↔ Regex.Pattern.compile source = .ok pattern :=
  Except.mapError_eq_ok_iff

theorem readReplace_eq_ok_iff {symbol : Char} {all : Bool} {rest : Text} {filter : Filter} :
    readReplace symbol all rest = .ok filter
      ↔ ∃ target replacement, target ≠ [] ∧ Substitutes target replacement rest
        ∧ filter = .replace target replacement all := by
  constructor
  · intro h
    obtain ⟨⟨target, replacement⟩, hs, h⟩ := Except.bind_eq_ok_iff.1 h
    obtain ⟨hn, hs⟩ := readSubstitution_eq_ok_iff.1 hs
    exact ⟨target, replacement, hn, hs, (Except.ok.inj h).symm⟩
  · rintro ⟨target, replacement, hn, hs, rfl⟩
    exact Except.bind_eq_ok_iff.2 ⟨_, readSubstitution_eq_ok_iff.2 ⟨hn, hs⟩, rfl⟩

theorem readRegexReplace_eq_ok_iff {symbol : Char} {all : Bool} {rest : Text} {filter : Filter} :
    readRegexReplace symbol all rest = .ok filter
      ↔ ∃ pattern replacement parts, pattern.Compiled
        ∧ Regex.Replacement.read pattern replacement = .ok parts
        ∧ Substitutes pattern.source replacement rest
        ∧ filter = .regexReplace pattern replacement all := by
  constructor
  · intro h
    obtain ⟨⟨source, replacement⟩, hs, h⟩ := Except.bind_eq_ok_iff.1 h
    obtain ⟨hn, hs⟩ := readSubstitution_eq_ok_iff.1 hs
    obtain ⟨pattern, hp, h⟩ := Except.bind_eq_ok_iff.1 h
    have hc := readPattern_eq_ok_iff.1 hp
    obtain rfl := Regex.Pattern.source_of_compile hc
    obtain ⟨parts, hr, h⟩ := Except.bind_eq_ok_iff.1 h
    exact ⟨pattern, replacement, parts, ⟨hn, hc⟩, Except.mapError_eq_ok_iff.1 hr, hs,
      (Except.ok.inj h).symm⟩
  · rintro ⟨pattern, replacement, parts, ⟨hn, hc⟩, hr, hs, rfl⟩
    exact Except.bind_eq_ok_iff.2 ⟨_, readSubstitution_eq_ok_iff.2 ⟨hn, hs⟩,
      Except.bind_eq_ok_iff.2 ⟨_, readPattern_eq_ok_iff.2 hc,
        Except.bind_eq_ok_iff.2 ⟨_, Except.mapError_eq_ok_iff.2 hr, rfl⟩⟩⟩

theorem readRegexMatch_eq_ok_iff {rest : Text} {filter : Filter} :
    readRegexMatch rest = .ok filter
      ↔ ∃ pattern, pattern.Compiled ∧ pattern.source = rest ∧ filter = .regexMatch pattern := by
  unfold readRegexMatch
  split_ifs with hr
  · simp only [false_iff, not_exists, not_and]
    rintro pattern ⟨hn, -⟩ hs
    exact absurd (hs.trans hr) hn
  · constructor
    · intro h
      obtain ⟨pattern, hp, rfl⟩ := Except.map_eq_ok_iff.1 h
      have hc := readPattern_eq_ok_iff.1 hp
      obtain rfl := Regex.Pattern.source_of_compile hc
      exact ⟨pattern, ⟨hr, hc⟩, rfl, rfl⟩
    · rintro ⟨pattern, ⟨-, hc⟩, rfl, rfl⟩
      exact Except.map_eq_ok_iff.2 ⟨pattern, readPattern_eq_ok_iff.2 hc, rfl⟩

/-! ## All filters -/

theorem readFixed_eq_ok_iff {symbol : Char} {filter found : Filter} {rest : Text} :
    readFixed symbol filter rest = .ok found ↔ rest = [] ∧ filter = found := by
  unfold readFixed
  split_ifs with h <;> simp [h]

theorem spells_of_readPad {symbol : Char} {side : Side} {rest : Text} {filter : Filter}
    (hs : (symbol, side) ∈ padSymbols) (h : readPad symbol side rest = .ok filter) :
    Spells filter (symbol :: rest) := by
  obtain ⟨mask, hm, rfl, rfl⟩ | ⟨n, digits, delimiter, mask, hm, hn, hd, rfl, rfl⟩ :=
    (readPad_eq_ok_iff hs).1 h
  · exact .mask hs hm
  · exact .count hs hm hn hd

theorem spells_of_read {text : Text} {filter : Filter} (h : read text = .ok filter) :
    Spells filter text := by
  unfold read at h
  split at h
  · simp at h
  · split at h
    case h_1 =>
      obtain ⟨start, extent, index, behind, hs, he, rfl, rfl⟩ := readSubstring_eq_ok_iff.1 h
      exact .substring hs he
    case h_12 => exact spells_of_readPad (by simp [padSymbols]) h
    case h_13 => exact spells_of_readPad (by simp [padSymbols]) h
    case h_14 =>
      obtain ⟨target, replacement, hn, hs, rfl⟩ := readReplace_eq_ok_iff.1 h
      exact .replace (by simp [replaceSymbols]) hn hs
    case h_15 =>
      obtain ⟨target, replacement, hn, hs, rfl⟩ := readReplace_eq_ok_iff.1 h
      exact .replace (by simp [replaceSymbols]) hn hs
    case h_16 =>
      obtain rfl := Except.ok.inj h
      exact .replaceEmpty _
    case h_17 =>
      obtain ⟨pattern, hc, rfl, rfl⟩ := readRegexMatch_eq_ok_iff.1 h
      exact .regexMatch hc
    case h_18 =>
      obtain ⟨pattern, replacement, parts, hc, hr, hs, rfl⟩ := readRegexReplace_eq_ok_iff.1 h
      exact .regexReplace (by simp [regexReplaceSymbols]) hc hr hs
    case h_19 =>
      obtain ⟨pattern, replacement, parts, hc, hr, hs, rfl⟩ := readRegexReplace_eq_ok_iff.1 h
      exact .regexReplace (by simp [regexReplaceSymbols]) hc hr hs
    case h_20 => simp at h
    all_goals
      obtain ⟨rfl, rfl⟩ := readFixed_eq_ok_iff.1 h
      exact .fixed (by simp [fixed])

theorem read_of_padSymbols {symbol : Char} {side : Side} (h : (symbol, side) ∈ padSymbols)
    (rest : Text) : read (symbol :: rest) = readPad symbol side rest := by
  simp only [padSymbols, List.mem_cons, List.not_mem_nil, Prod.mk.injEq, or_false] at h
  rcases h with ⟨rfl, rfl⟩ | ⟨rfl, rfl⟩ <;> rfl

theorem read_of_replaceSymbols {symbol : Char} {all : Bool} (h : (symbol, all) ∈ replaceSymbols)
    (rest : Text) : read (symbol :: rest) = readReplace symbol all rest := by
  simp only [replaceSymbols, List.mem_cons, List.not_mem_nil, Prod.mk.injEq, or_false] at h
  rcases h with ⟨rfl, rfl⟩ | ⟨rfl, rfl⟩ <;> rfl

theorem read_of_regexReplaceSymbols {symbol : Char} {all : Bool}
    (h : (symbol, all) ∈ regexReplaceSymbols) (rest : Text) :
    read (symbol :: rest) = readRegexReplace symbol all rest := by
  simp only [regexReplaceSymbols, List.mem_cons, List.not_mem_nil, Prod.mk.injEq, or_false] at h
  rcases h with ⟨rfl, rfl⟩ | ⟨rfl, rfl⟩ <;> rfl

theorem read_of_spells {filter : Filter} {text : Text} (h : Spells filter text) :
    read text = .ok filter := by
  cases h with
  | substring hs he => exact readSubstring_of_spells hs he
  | fixed hm =>
    have read_ok : ∀ entry ∈ fixed, read [entry.1] = .ok entry.2 := by
      simp [fixed, read, readFixed]
    exact read_ok _ hm
  | mask hs hm =>
    rw [read_of_padSymbols hs]
    exact (readPad_eq_ok_iff hs).2 (.inl ⟨_, hm, rfl, rfl⟩)
  | count hs hm hn hd =>
    rw [List.cons_append, read_of_padSymbols hs]
    exact (readPad_eq_ok_iff hs).2 (.inr ⟨_, _, _, _, hm, hn, hd, rfl, rfl⟩)
  | replace ha hn hs =>
    rw [read_of_replaceSymbols ha]
    exact readReplace_eq_ok_iff.2 ⟨_, _, hn, hs, rfl⟩
  | replaceEmpty => rfl
  | regexMatch hc => exact readRegexMatch_eq_ok_iff.2 ⟨_, hc, rfl, rfl⟩
  | regexReplace ha hc hr hs =>
    rw [read_of_regexReplaceSymbols ha]
    exact readRegexReplace_eq_ok_iff.2 ⟨_, _, _, hc, hr, hs, rfl⟩

/-- A text is read as a filter exactly if it spells the filter. -/
theorem read_eq_ok_iff {text : Text} {filter : Filter} :
    read text = .ok filter ↔ Spells filter text :=
  ⟨spells_of_read, read_of_spells⟩

end Filter

end FilterTemplate
