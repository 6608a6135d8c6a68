import Mathlib
import FilterTemplate.Proofs.Arguments
import FilterTemplate.Proofs.Ranges
import FilterTemplate.Proofs.Rendering

/-!
# Ranges as they are written

The text of a range says where its two ends are in a text of any length (`Filter.SpellsEnds`), and
the filter gives what is between them. Different texts with the same ends are notations of one range
(`agree_of_ends`). Ends that a text has are not moved, so there a template renders the slice that
one would expect (`renders_slice`).
-/

namespace FilterTemplate

/-- Whether the digits are those of a number other than zero, and are not too many to be read. -/
structure Numeral.Positive (n : ℕ) (digits : Text) : Prop where
  ne_zero : n ≠ 0
  denotes : Denotes n digits
  length_le : digits.length ≤ maxDigits

namespace Numeral.Positive

variable {n : ℕ} {digits : Text}

theorem spells (h : Positive n digits) : Numeral.Spells n digits :=
  Numeral.spells_iff.2 ⟨h.ne_zero, h.denotes, h.length_le⟩

theorem forward (h : Positive n digits) : SpellsIndex n digits := .intro false h.spells

theorem backward (h : Positive n digits) : SpellsIndex (-n) ('-' :: digits) := .intro true h.spells

end Numeral.Positive

namespace Filter

/-- Whether a text spells a range that has these two ends in a text of the given length. -/
def SpellsEnds (length : ℤ) (text : Text) (low high : ℤ) : Prop :=
  ∃ start extent, Spells (.substring start extent) text
    ∧ rangeBounds start extent length = (low, high)

/-- Whether two texts are read as filters that give the same result for every value. -/
def Agree (text other : Text) : Prop :=
  ∀ value, ∃ result, Gives text value result ∧ Gives other value result

namespace SpellsEnds

theorem gives {text value : Text} {low high : ℤ} (h : SpellsEnds value.length text low high) :
    Gives text value (value.between low high) := by
  obtain ⟨start, extent, hs, hb⟩ := h
  refine ⟨_, read_of_spells hs, fun special => ?_⟩
  rw [apply, substring_eq_between, hb]

/-! ## The forms of a range and their ends -/

section Forms

variable (length : ℤ) {a b : ℕ} {as bs : Text}

theorem single (ha : Numeral.Positive a as) : SpellsEnds length ('#' :: as) a a := by
  refine ⟨a, .single, ?_, rangeBounds_natCast length ha.ne_zero _⟩
  simpa using Spells.substring ha.forward .single

theorem toEnd (ha : Numeral.Positive a as) : SpellsEnds length ('#' :: as ++ ['-']) a length :=
  ⟨a, .toEnd, .substring ha.forward .toEnd, rangeBounds_natCast length ha.ne_zero _⟩

theorem toLength (ha : Numeral.Positive a as) (hb : Numeral.Positive b bs) :
    SpellsEnds length ('#' :: as ++ '+' :: bs) a (a + b - 1) :=
  ⟨a, .toLength b, .substring ha.forward (.toLength hb.spells),
    rangeBounds_natCast length ha.ne_zero _⟩

theorem toIndex (ha : Numeral.Positive a as) (hb : Numeral.Positive b bs) :
    SpellsEnds length ('#' :: as ++ '-' :: bs) a b := by
  refine ⟨a, .toIndex b, .substring ha.forward (.toIndex hb.forward fun h => ?_), ?_⟩
  · omega
  · simp only [rangeBounds_natCast length ha.ne_zero, effectivePosition_natCast length hb.ne_zero]

theorem toIndex_fromEnd (ha : Numeral.Positive a as) (hb : Numeral.Positive b bs) :
    SpellsEnds length ('#' :: as ++ '-' :: '-' :: bs) a (length + 1 - b) := by
  refine ⟨a, .toIndex (-b), .substring ha.forward (.toIndex hb.backward fun h => ?_), ?_⟩
  · omega
  · simp only [rangeBounds_natCast length ha.ne_zero,
      effectivePosition_neg_natCast length hb.ne_zero]

theorem fromEnd (ha : Numeral.Positive a as) :
    SpellsEnds length ('#' :: '-' :: as) (length + 1 - a) (length + 1 - a) := by
  refine ⟨-a, .single, ?_, rangeBounds_neg_natCast length ha.ne_zero _⟩
  simpa using Spells.substring ha.backward .single

theorem fromEnd_toEnd (ha : Numeral.Positive a as) :
    SpellsEnds length ('#' :: '-' :: as ++ ['-']) 1 (length + 1 - a) :=
  ⟨-a, .toEnd, .substring ha.backward .toEnd, rangeBounds_neg_natCast length ha.ne_zero _⟩

theorem fromEnd_toLength (ha : Numeral.Positive a as) (hb : Numeral.Positive b bs) :
    SpellsEnds length ('#' :: '-' :: as ++ '+' :: bs) (length + 2 - a - b) (length + 1 - a) :=
  ⟨-a, .toLength b, .substring ha.backward (.toLength hb.spells),
    rangeBounds_neg_natCast length ha.ne_zero _⟩

/-- Without a sign of its own the end of a backward range counts backward as well. -/
theorem fromEnd_toIndex (ha : Numeral.Positive a as) (hb : Numeral.Positive b bs)
    {last : Text} (hl : last = bs ∨ last = '-' :: bs) :
    SpellsEnds length ('#' :: '-' :: as ++ '-' :: last) (length + 1 - b) (length + 1 - a) := by
  have hna := ha.ne_zero
  have hnb := hb.ne_zero
  refine ⟨-a, .toIndex (-b), .substring ha.backward ?_, ?_⟩
  · rcases hl with rfl | rfl
    · exact .toUnsigned hb.spells (by omega)
    · exact .toIndex hb.backward fun _ => by omega
  · simp only [rangeBounds_neg_natCast length hna, effectivePosition_neg_natCast length hnb]

end Forms

end SpellsEnds

/-! ## Notations of one range -/

theorem agree_of_ends {text other : Text} {low high low' high' : ℤ → ℤ}
    (ht : ∀ length, SpellsEnds length text (low length) (high length))
    (ho : ∀ length, SpellsEnds length other (low' length) (high' length))
    (h : ∀ length, low length = low' length ∧ high length = high' length) : Agree text other := by
  intro value
  obtain ⟨hl, hh⟩ := h value.length
  exact ⟨_, (ht value.length).gives, hl ▸ hh ▸ (ho value.length).gives⟩

/-- Different notations of one range give the same result for every value, wherever its ends are. A
range of a value that is not empty is not empty either, unless it has an index for its end; then it
is empty exactly if its two ends, moved into the value, are out of order. -/
theorem gives_range_notations {a : ℕ} {as one : Text} (ha : Numeral.Positive a as)
    (h1 : Numeral.Positive 1 one) :
    Agree ('#' :: as) ('#' :: as ++ '-' :: as)
    ∧ Agree ('#' :: as) ('#' :: as ++ '+' :: one)
    ∧ Agree ('#' :: '-' :: as) ('#' :: '-' :: as ++ '-' :: as)
    ∧ Agree ('#' :: '-' :: as) ('#' :: '-' :: as ++ '+' :: one)
    ∧ (∀ l ls m ms, Numeral.Positive l ls → Numeral.Positive m ms → m = a + l - 1 →
        Agree ('#' :: as ++ '+' :: ls) ('#' :: as ++ '-' :: ms)
        ∧ Agree ('#' :: '-' :: as ++ '+' :: ls) ('#' :: '-' :: as ++ '-' :: ms))
    ∧ (∀ b bs, Numeral.Positive b bs →
        Agree ('#' :: '-' :: as ++ '-' :: bs) ('#' :: '-' :: as ++ '-' :: '-' :: bs))
    ∧ Agree ('#' :: as ++ ['-']) ('#' :: as ++ '-' :: '-' :: one)
    ∧ Agree ('#' :: '-' :: as ++ ['-']) ('#' :: one ++ '-' :: '-' :: as)
    ∧ ∀ value : Text, let n : ℤ := value.length
      (∀ l ls, Numeral.Positive l ls → n ≤ l → ∃ result,
        Gives ('#' :: '-' :: as ++ ['-']) value result
          ∧ Gives ('#' :: '-' :: as ++ '+' :: ls) value result)
      ∧ (value ≠ [] → ∀ l ls, Numeral.Positive l ls →
        ∀ range ∈ [('#' :: as, (a : ℤ), (a : ℤ)), ('#' :: '-' :: as, n + 1 - a, n + 1 - a),
          ('#' :: as ++ ['-'], (a : ℤ), n), ('#' :: '-' :: as ++ ['-'], 1, n + 1 - a),
          ('#' :: as ++ '+' :: ls, (a : ℤ), a + l - 1),
          ('#' :: '-' :: as ++ '+' :: ls, n + 2 - a - l, n + 1 - a)],
        Gives range.1 value (value.between range.2.1 range.2.2)
          ∧ value.between range.2.1 range.2.2 ≠ [])
      ∧ (value ≠ [] → ∀ b bs, Numeral.Positive b bs →
        ∀ range ∈ [('#' :: as ++ '-' :: bs, (a : ℤ), (b : ℤ)),
          ('#' :: as ++ '-' :: '-' :: bs, (a : ℤ), n + 1 - b),
          ('#' :: '-' :: as ++ '-' :: bs, n + 1 - b, n + 1 - a),
          ('#' :: '-' :: as ++ '-' :: '-' :: bs, n + 1 - b, n + 1 - a)],
        Gives range.1 value (value.between range.2.1 range.2.2)
          ∧ (value.between range.2.1 range.2.2 = []
            ↔ clampPosition n range.2.2 < clampPosition n range.2.1)) := by
  -- notations of one range have the same two ends in a text of any length
  have hna := ha.ne_zero
  refine ⟨agree_of_ends (.single · ha) (.toIndex · ha ha) fun _ => ⟨rfl, rfl⟩,
    agree_of_ends (.single · ha) (.toLength · ha h1) fun _ => by omega,
    agree_of_ends (.fromEnd · ha) (.fromEnd_toIndex · ha ha (.inl rfl)) fun _ => ⟨rfl, rfl⟩,
    agree_of_ends (.fromEnd · ha) (.fromEnd_toLength · ha h1) fun _ => by omega,
    fun l ls m ms hl hm hlm => ?_, fun b bs hb => ?_,
    agree_of_ends (.toEnd · ha) (.toIndex_fromEnd · ha h1) fun _ => by omega,
    agree_of_ends (.fromEnd_toEnd · ha) (.toIndex_fromEnd · h1 ha) fun _ => ⟨rfl, rfl⟩,
    fun value => ⟨fun l ls hl hn => ?_, fun hv l ls hl => ?_, fun hv b bs hb => ?_⟩⟩
  · have hnl := hl.ne_zero
    exact ⟨agree_of_ends (.toLength · ha hl) (.toIndex · ha hm) fun _ => by omega,
      agree_of_ends (.fromEnd_toLength · ha hl) (.fromEnd_toIndex · ha hm (.inl rfl))
        fun _ => by omega⟩
  · exact agree_of_ends (.fromEnd_toIndex · ha hb (.inl rfl)) (.fromEnd_toIndex · ha hb (.inr rfl))
      fun _ => ⟨rfl, rfl⟩
  · -- these two have different ends, but a length that is long enough reaches the first position
    refine ⟨_, (SpellsEnds.fromEnd_toEnd _ ha).gives, ?_⟩
    rw [← Text.between_of_le_one (by omega : (value.length : ℤ) + 2 - a - l ≤ 1)]
    exact (SpellsEnds.fromEnd_toLength _ ha hl).gives
  · have hnl := hl.ne_zero
    intro range hr
    simp only [List.mem_cons, List.not_mem_nil, or_false] at hr
    rcases hr with rfl | rfl | rfl | rfl | rfl | rfl
    · exact ⟨(SpellsEnds.single _ ha).gives, Text.between_ne_nil hv (.inl le_rfl)⟩
    · exact ⟨(SpellsEnds.fromEnd _ ha).gives, Text.between_ne_nil hv (.inl le_rfl)⟩
    · exact ⟨(SpellsEnds.toEnd _ ha).gives, Text.between_ne_nil hv (.inr (.inr le_rfl))⟩
    · exact ⟨(SpellsEnds.fromEnd_toEnd _ ha).gives, Text.between_ne_nil hv (.inr (.inl le_rfl))⟩
    · refine ⟨(SpellsEnds.toLength _ ha hl).gives, Text.between_ne_nil hv (.inl ?_)⟩
      simp only []
      omega
    · refine ⟨(SpellsEnds.fromEnd_toLength _ ha hl).gives, Text.between_ne_nil hv (.inl ?_)⟩
      simp only []
      omega
  · intro range hr
    refine ⟨?_, Text.between_eq_nil_iff hv⟩
    simp only [List.mem_cons, List.not_mem_nil, or_false] at hr
    rcases hr with rfl | rfl | rfl | rfl
    · exact (SpellsEnds.toIndex _ ha hb).gives
    · exact (SpellsEnds.toIndex_fromEnd _ ha hb).gives
    · exact (SpellsEnds.fromEnd_toIndex _ ha hb (.inl rfl)).gives
    · exact (SpellsEnds.fromEnd_toIndex _ ha hb (.inr rfl)).gives

/-- Of a value of two characters, a range that starts and ends behind it is the last one, and one
that starts in front of it and has a length is the first one; a range between positions behind it
and in front of it is empty. -/
theorem gives_range_notations_outside :
    Agree ['#', '3'] ['#', '3', '-', '3']
      ∧ Agree ['#', '-', '3', '+', '2'] ['#', '-', '3', '-', '4']
      ∧ (∃ result, Gives ['#', '-', '3', '-'] ['a', 'b'] result
        ∧ Gives ['#', '-', '3', '+', '2'] ['a', 'b'] result)
      ∧ Gives ['#', '3', '-'] ['a', 'b'] ['b'] ∧ Gives ['#', '-', '3', '+', '2'] ['a', 'b'] ['a']
      ∧ Gives ['#', '3', '-', '-', '4'] ['a', 'b'] [] := by
  have h1 : Numeral.Positive 1 ['1'] := ⟨by decide, ⟨0, rfl⟩, by decide⟩
  have h2 : Numeral.Positive 2 ['2'] := ⟨by decide, ⟨0, rfl⟩, by decide⟩
  have h3 : Numeral.Positive 3 ['3'] := ⟨by decide, ⟨0, rfl⟩, by decide⟩
  have h4 : Numeral.Positive 4 ['4'] := ⟨by decide, ⟨0, rfl⟩, by decide⟩
  have hv : ['a', 'b'] ≠ [] := by decide
  obtain ⟨hsingle, -, -, -, hlength, -, -, -, hvalue⟩ := gives_range_notations h3 h1
  obtain ⟨hend, hnonempty, hindex⟩ := hvalue ['a', 'b']
  obtain ⟨hbehind, -⟩ := hnonempty hv 2 _ h2 (['#', '3', '-'], 3, 2) (by simp)
  obtain ⟨hfront, -⟩ := hnonempty hv 2 _ h2 (['#', '-', '3', '+', '2'], -1, 0) (by simp)
  obtain ⟨hcrossed, hnil⟩ := hindex hv 4 _ h4 (['#', '3', '-', '-', '4'], 3, -1) (by simp)
  have hfirst : Text.between ['a', 'b'] (-1) 0 = ['a'] := by decide
  have hempty : Text.between ['a', 'b'] 3 (-1) = [] := hnil.2 (by decide)
  exact ⟨hsingle, (hlength 2 _ 4 _ h2 h4 rfl).2, hend 2 _ h2 (by decide), hbehind, hfirst ▸ hfront,
    hempty ▸ hcrossed⟩

end Filter

/-! ## Ranges inside of a value -/

theorem SpellsIndex.chars {index : ℤ} {text : Text} (h : SpellsIndex index text) :
    ∀ c ∈ text, c = '-' ∨ Numeral.isDigit c := by
  obtain @⟨n, digits, negative, h⟩ := h
  intro c hc
  rcases negative with _ | _
  · exact .inr (h.isDigit c hc)
  · exact (List.mem_cons.1 hc).imp_right (h.isDigit c)

theorem Extent.Spells.chars {start : ℤ} {extent : Extent} {text : Text}
    (h : extent.Spells start text) : ∀ c ∈ text, c = '+' ∨ c = '-' ∨ Numeral.isDigit c := by
  intro c hc
  cases h with
  | single => simp at hc
  | toEnd => exact .inr (.inl (List.mem_singleton.1 hc))
  | toLength h => exact (List.mem_cons.1 hc).imp_right fun hc => .inr (h.isDigit c hc)
  | toIndex h _ => exact .inr ((List.mem_cons.1 hc).elim .inl (h.chars c))
  | toUnsigned h _ => exact .inr ((List.mem_cons.1 hc).imp_right (h.isDigit c))

namespace Delimiters

theorem has_default_of_isDigit {c : Char} (h : Numeral.isDigit c) :
    (default : Delimiters).has c = false := by
  rw [has_eq_false]
  refine ⟨?_, ?_, ?_, ?_⟩ <;> rintro rfl <;> exact absurd h (by decide)

end Delimiters

namespace Filter.SpellsEnds

variable {value text : Text} {low high : ℤ}

/-- The default delimiters do not occur in the text of a range. -/
theorem has_default {length : ℤ} (h : SpellsEnds length text low high) :
    ∀ c ∈ text, (default : Delimiters).has c = false := by
  obtain ⟨start, extent, hs, -⟩ := h
  cases hs with
  | fixed hf => simp [fixed] at hf
  | substring hi he =>
    intro c hc
    rw [List.cons_append, List.mem_cons, List.mem_append] at hc
    rcases hc with rfl | hc | hc
    · rfl
    · rcases hi.chars c hc with rfl | hd
      · rfl
      · exact Delimiters.has_default_of_isDigit hd
    · rcases he.chars c hc with rfl | rfl | hd
      · rfl
      · rfl
      · exact Delimiters.has_default_of_isDigit hd

theorem gives_slice (h : SpellsEnds value.length text low high) {first last : ℕ}
    (hl : low = first + 1) (hh : high = last) (hf : first < value.length) (h1 : 1 ≤ last)
    (hn : last ≤ value.length) : Gives text value (Text.slice value first last) :=
  Text.between_eq_slice hl hh hf h1 hn ▸ h.gives

theorem renders_slice (h : SpellsEnds value.length text low high) {first last : ℕ}
    (hl : low = first + 1) (hh : high = last) (hf : first < value.length) (h1 : 1 ≤ last)
    (hn : last ≤ value.length) :
    (default : Delimiters).Renders ('\x7b' :: text ++ ['\x7d']) value
      (Text.slice value first last) :=
  (default : Delimiters).renders_joinRaw (h.gives_slice hl hh hf h1 hn).givesAll
    (List.forall_mem_singleton.2 h.has_default)

theorem renders_nil (h : SpellsEnds value.length text low high) {first last : ℕ}
    (hl : low = first + 1) (hh : high = last) (hf : first < value.length) (h1 : 1 ≤ last)
    (hle : last ≤ first) :
    (default : Delimiters).Renders ('\x7b' :: text ++ ['\x7d']) value [] := by
  have hn : last ≤ value.length := hle.trans hf.le
  exact (Text.slice_eq_nil_iff hn).2 hle ▸ h.renders_slice hl hh hf h1 hn

end Filter.SpellsEnds

namespace Delimiters

open Filter.SpellsEnds

section Inside

variable {a b : ℕ} {as bs : Text} (ha : Numeral.Positive a as) (hb : Numeral.Positive b bs)

include ha hb

/-- What stands up to a position and what stands behind it are together the value. -/
theorem renders_parts {one value : Text} (h1 : Numeral.Positive 1 one) (hba : b = a + 1)
    (hn : a < value.length) :
    (default : Delimiters).Renders ('\x7b' :: ('#' :: one ++ '-' :: as) ++ ['\x7d']
      ++ '\x7b' :: ('#' :: bs ++ ['-']) ++ ['\x7d']) value value := by
  have hna := ha.ne_zero
  have hv : Text.slice value 0 a ++ Text.slice value a value.length = value := by
    rw [Text.slice_append_slice value (Nat.zero_le a) hn.le]
    simp [Text.slice]
  have hfirst : (default : Delimiters).Renders ('\x7b' :: ('#' :: one ++ '-' :: as) ++ ['\x7d'])
      value (Text.slice value 0 a) :=
    (toIndex _ h1 ha).renders_slice (by omega) rfl (by omega) (by omega) hn.le
  have hsecond : (default : Delimiters).Renders ('\x7b' :: ('#' :: bs ++ ['-']) ++ ['\x7d'])
      value (Text.slice value a value.length) :=
    (toEnd _ hb).renders_slice (by omega) rfl hn (by omega) le_rfl
  have hboth := hfirst.append hsecond
  rwa [hv, ← List.append_assoc] at hboth

/-- A range of a range is a range of the value, further on. -/
theorem renders_range_of_range {value : Text} (hab : a ≤ b) (hn : b ≤ value.length) {i j : ℕ}
    {is js : Text} (hi : Numeral.Positive i is) (hj : Numeral.Positive j js) (hij : i ≤ j)
    (hjn : j ≤ b - a + 1) :
    (default : Delimiters).Renders
      ('\x7b' :: ('#' :: as ++ '-' :: bs ++ '|' :: '#' :: is ++ '-' :: js) ++ ['\x7d']) value
      (Text.slice value (a + i - 2) (a + j - 1)) := by
  have hna := ha.ne_zero
  have hni := hi.ne_zero
  have hfirst : Filter.Gives ('#' :: as ++ '-' :: bs) value (Text.slice value (a - 1) b) :=
    (toIndex _ ha hb).gives_slice (by omega) rfl (by omega) (by omega) hn
  have hlen : (Text.slice value (a - 1) b).length = b - (a - 1) := Text.length_slice hn
  have hsecond : Filter.Gives ('#' :: is ++ '-' :: js) (Text.slice value (a - 1) b)
      (Text.slice (Text.slice value (a - 1) b) (i - 1) j) :=
    (toIndex _ hi hj).gives_slice (by omega) rfl (by omega) (by omega) (by omega)
  have hplain : ∀ text ∈ ['#' :: as ++ '-' :: bs, '#' :: is ++ '-' :: js], ∀ c ∈ text,
      (default : Delimiters).has c = false := by
    simp only [List.forall_mem_cons]
    exact ⟨(toIndex 0 ha hb).has_default, (toIndex 0 hi hj).has_default, by simp⟩
  have hchain := (default : Delimiters).renders_joinRaw (.cons hfirst hsecond.givesAll) hplain
  rw [Text.slice_slice value (by omega), joinRaw_cons_cons, joinRaw_singleton,
    show a - 1 + (i - 1) = a + i - 2 by omega, show a - 1 + j = a + j - 1 by omega] at hchain
  have ht : '#' :: as ++ '-' :: bs ++ '|' :: '#' :: is ++ '-' :: js
      = '#' :: as ++ '-' :: bs ++ '|' :: ('#' :: is ++ '-' :: js) := by simp
  rw [ht]
  exact hchain

end Inside

/-- With the default delimiters, a range inside of a value renders the slice that its positions say,
counted from either end, and nothing if its end comes before its start. A value is put together
again from what stands up to a position and what stands behind it, and a range of a range is a range
of the value, further on. -/
theorem renders_range_inside {a b : ℕ} {as bs : Text} (ha : Numeral.Positive a as)
    (hb : Numeral.Positive b bs) (value : Text) :
    let d : Delimiters := default
    let n := value.length
    (a ≤ b → b ≤ n →
      d.Renders ('\x7b' :: ('#' :: as ++ '-' :: bs) ++ ['\x7d']) value (Text.slice value (a - 1) b)
      ∧ (Text.slice value (a - 1) b).length = b - a + 1
      ∧ d.Renders ('\x7b' :: ('#' :: '-' :: as ++ '-' :: bs) ++ ['\x7d']) value
        (Text.slice value (n - b) (n - a + 1)))
    ∧ (a ≤ n → b ≤ n →
      d.Renders ('\x7b' :: ('#' :: as ++ '-' :: '-' :: bs) ++ ['\x7d']) value
        (if a ≤ n - b + 1 then Text.slice value (a - 1) (n - b + 1) else []))
    ∧ (b < a → a ≤ n →
      d.Renders ('\x7b' :: ('#' :: as ++ '-' :: bs) ++ ['\x7d']) value []
      ∧ d.Renders ('\x7b' :: ('#' :: '-' :: as ++ '-' :: bs) ++ ['\x7d']) value [])
    ∧ (a + b - 1 ≤ n →
      d.Renders ('\x7b' :: ('#' :: as ++ '+' :: bs) ++ ['\x7d']) value
        (Text.slice value (a - 1) (a + b - 1))
      ∧ d.Renders ('\x7b' :: ('#' :: '-' :: as ++ '+' :: bs) ++ ['\x7d']) value
        (Text.slice value (n + 1 - a - b) (n - a + 1)))
    ∧ (∀ one, Numeral.Positive 1 one → b = a + 1 → a < n →
      d.Renders ('\x7b' :: ('#' :: one ++ '-' :: as) ++ ['\x7d']
        ++ '\x7b' :: ('#' :: bs ++ ['-']) ++ ['\x7d']) value value)
    ∧ (a ≤ b → b ≤ n → ∀ i j k l is js ks ls, Numeral.Positive i is → Numeral.Positive j js →
      Numeral.Positive k ks → Numeral.Positive l ls → i ≤ j → j ≤ b - a + 1 → k = a + i - 1 →
      l = a + j - 1 → ∃ result,
        d.Renders ('\x7b' :: ('#' :: as ++ '-' :: bs ++ '|' :: '#' :: is ++ '-' :: js) ++ ['\x7d'])
          value result
        ∧ d.Renders ('\x7b' :: ('#' :: ks ++ '-' :: ls) ++ ['\x7d']) value result) := by
  have hna := ha.ne_zero
  have hnb := hb.ne_zero
  refine ⟨fun hab hbn => ⟨?_, ?_, ?_⟩, fun han hbn => ?_, fun hba han => ⟨?_, ?_⟩,
    fun hn => ⟨?_, ?_⟩, fun one h1 hba han => renders_parts ha hb h1 hba han,
    fun hab hbn i j k l is js ks ls hi hj hk hl hij hjn hki hlj => ?_⟩
  · exact (toIndex _ ha hb).renders_slice (by omega) rfl (by omega) (by omega) hbn
  · rw [Text.length_slice hbn]
    omega
  · exact (fromEnd_toIndex _ ha hb (.inl rfl)).renders_slice (by omega) (by omega) (by omega)
      (by omega) (by omega)
  · have hends := toIndex_fromEnd (value.length : ℤ) ha hb
    split_ifs with h
    · exact hends.renders_slice (by omega) (by omega) (by omega) (by omega) (by omega)
    · exact hends.renders_nil (by omega : (a : ℤ) = (a - 1 : ℕ) + 1)
        (by omega : (value.length : ℤ) + 1 - b = (value.length - b + 1 : ℕ)) (by omega) (by omega)
        (by omega)
  · exact (toIndex _ ha hb).renders_nil (by omega : (a : ℤ) = (a - 1 : ℕ) + 1) rfl (by omega)
      (by omega) (by omega)
  · exact (fromEnd_toIndex _ ha hb (.inl rfl)).renders_nil
      (by omega : (value.length : ℤ) + 1 - b = (value.length - b : ℕ) + 1)
      (by omega : (value.length : ℤ) + 1 - a = (value.length + 1 - a : ℕ)) (by omega) (by omega)
      (by omega)
  · exact (toLength _ ha hb).renders_slice (by omega) (by omega) (by omega) (by omega) hn
  · exact (fromEnd_toLength _ ha hb).renders_slice (by omega) (by omega) (by omega) (by omega)
      (by omega)
  · have hni := hi.ne_zero
    refine ⟨_, renders_range_of_range ha hb hab hbn hi hj hij hjn, ?_⟩
    rw [← hlj]
    exact (toIndex _ hk hl).renders_slice (by omega) rfl (by omega) (by omega) (by omega)

/-- Zeros in front of a position do not count. -/
theorem renders_range_inside_zeros :
    let value : Text := ['a', 'b', 'c', 'd', 'e', 'f']
    (default : Delimiters).Renders ['\x7b', '#', '0', '2', '-', '3', '\x7d'] value ['b', 'c']
      ∧ (default : Delimiters).Renders ['\x7b', '#', '-', '0', '2', '-', '3', '\x7d'] value
        ['d', 'e']
      ∧ (default : Delimiters).Renders ['\x7b', '#', '0', '2', '-', '-', '3', '\x7d'] value
        ['b', 'c', 'd']
      ∧ (default : Delimiters).Renders ['\x7b', '#', '3', '-', '0', '2', '\x7d'] value []
      ∧ (default : Delimiters).Renders ['\x7b', '#', '-', '0', '2', '+', '3', '\x7d'] value
        ['c', 'd', 'e']
      ∧ (default : Delimiters).Renders ['\x7b', '#', '1', '-', '0', '2', '\x7d', '\x7b', '#', '3',
        '-', '\x7d'] value value
      ∧ ∃ result, (default : Delimiters).Renders ['\x7b', '#', '0', '2', '-', '3', '|', '#', '1',
          '-', '0', '2', '\x7d'] value result
        ∧ (default : Delimiters).Renders ['\x7b', '#', '0', '2', '-', '3', '\x7d'] value
          result := by
  intro value
  have h1 : Numeral.Positive 1 ['1'] := ⟨by decide, ⟨0, rfl⟩, by decide⟩
  have h2 : Numeral.Positive 2 ['0', '2'] := ⟨by decide, ⟨1, rfl⟩, by decide⟩
  have h3 : Numeral.Positive 3 ['3'] := ⟨by decide, ⟨0, rfl⟩, by decide⟩
  obtain ⟨hin, hlast, -, hlength, hparts, hrange⟩ := renders_range_inside h2 h3 value
  obtain ⟨hforward, -, hbackward⟩ := hin (by decide) (by decide)
  obtain ⟨-, -, hcrossed, -⟩ := renders_range_inside h3 h2 value
  exact ⟨hforward, hbackward, hlast (by decide) (by decide), (hcrossed (by decide) (by decide)).1,
    (hlength (by decide)).2, hparts _ h1 rfl (by decide),
    hrange (by decide) (by decide) 1 2 2 3 _ _ _ _ h1 h2 h2 h3 (by decide) (by decide) rfl rfl⟩

end Delimiters

end FilterTemplate
