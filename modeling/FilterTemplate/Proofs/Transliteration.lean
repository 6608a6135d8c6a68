import Mathlib
import FilterTemplate.Transliterate
import FilterTemplate.Unicode.Range

/-!
# Transliteration of composed and decomposed text

A special case does not decompose, and neither does ASCII, so both are spelled alike in the two
forms of a text. Every other character is spelled by the ASCII characters among its parts. Each of
these parts is spelled by itself: ASCII stays, and what is not ASCII is dropped, since it has no
ASCII characters among parts of its own (`toAscii_of_simple`). So the two forms of a character come
to the same (`transliterate_decompose`), unless one of the parts is a special case. There are six
letters of this kind (`marked`). The table does not know them, so they are dropped, while their
parts are not.
-/

namespace FilterTemplate

namespace Unicode

/-! ## What decompositions are made of -/

theorem mem_of_valueAt? {α : Type} : ∀ {table : List (ℕ × α)} {c : ℕ} {value : α},
    valueAt? table c = some value → (c, value) ∈ table
  | [], _, _, h => by cases h
  | (key, found) :: rest, c, value, h => by
    rw [valueAt?] at h
    split_ifs at h with _ hk
    · obtain rfl := Option.some.inj h
      exact hk ▸ List.mem_cons_self
    · exact List.mem_cons_of_mem _ (mem_of_valueAt? h)

/-- The ways in which a code point can decompose. -/
inductive Decomposes : ℕ → List ℕ → Prop
  | whole (c : ℕ) : Decomposes c [c]
  | composite {c : ℕ} {parts : List ℕ} : (c, parts) ∈ composites → Decomposes c parts
  | singleton {c value : ℕ} : (c, value) ∈ singletons → Decomposes c [value]
  | syllable {k : ℕ} : k < 11172 → Decomposes (Hangul.syllables + k) (Hangul.parts k)

theorem decomposes (c : ℕ) : Decomposes c (decompositionOf c) := by
  unfold decompositionOf
  split_ifs with hs
  · obtain ⟨k, rfl⟩ := Nat.exists_eq_add_of_le hs.1
    rw [Nat.add_sub_cancel_left]
    exact .syllable (by omega)
  · split
    · rename_i parts hc
      exact .composite (mem_of_valueAt? hc)
    · rcases hv : valueAt? singletons c with _ | value
      · exact .whole c
      · exact .singleton (mem_of_valueAt? hv)

theorem Hangul.bounds_of_mem_parts {k p : ℕ} (hk : k < 11172) (hp : p ∈ parts k) :
    0x1100 ≤ p ∧ p < 0x1200 := by
  simp only [parts, leading, vowels, trailing] at hp
  split_ifs at hp <;> simp at hp <;> omega

/-! ## Where the tables lie -/

/-- Whether one of the ranges holds the code point. -/
def covers (ranges : List Range) (c : ℕ) : Bool :=
  ranges.any fun range => range.1 ≤ c && c ≤ range.2

/-- Ranges of characters that may decompose: all that do are in them, but no special case and
nothing of ASCII. -/
def decomposing : List Range :=
  [(0x154, 0x1e9d), (0x1e9f, 0x2012), (0x2213, 0xfaff), (0xfb05, 0x10ffff), (0x2020, 0x2211),
   (0xff, 0x10f), (0x112, 0x125), (0x128, 0x130), (0x132, 0x140), (0x143, 0x151), (0xf9, 0xfd),
   (0xf1, 0xf7), (0xe7, 0xef), (0xe0, 0xe5), (0xd9, 0xdd), (0xd1, 0xd7), (0xc7, 0xcf),
   (0xc0, 0xc5)]

/-- Ranges of characters that may be parts: all parts are in them, except for special cases, but no
character that has ASCII characters among other parts of its own. -/
def simple : List Range :=
  [(0x0, 0x7f), (0x292, 0x345), (0x2270, 0xd7ff), (0x391, 0x1dff), (0x1efa, 0x1fee),
   (0x1ff0, 0x2012), (0x2020, 0x2129), (0x212c, 0x2211), (0x2213, 0x225f), (0x2261, 0x226d),
   (0xa8, 0xa8), (0xb4, 0xb7), (0x17f, 0x17f), (0x1b7, 0x1b7), (0xfb05, 0x10ffff)]

/-- The letters that have a special case among their parts: Æ with a macron or an acute accent, and
Ø with an acute accent. -/
def marked : List Char := ['Ǣ', 'ǣ', 'Ǽ', 'ǽ', 'Ǿ', 'ǿ']

/-- What holds of every entry of the tables. -/
structure Tabled (c : ℕ) (parts : List ℕ) : Prop where
  decomposing : covers decomposing c
  simple : c ∉ marked.map Char.toNat → ∀ p ∈ parts, covers simple p
  le : covers Unicode.simple c → ∀ p ∈ parts, 128 ≤ p

/-- A check that computes whether an entry is so. -/
def isTabled (c : ℕ) (parts : List ℕ) : Bool :=
  covers decomposing c && (parts.all (covers simple) || (marked.map Char.toNat).contains c)
    && (parts.all (128 ≤ ·) || !covers simple c)

theorem tabled_of_isTabled {c : ℕ} {parts : List ℕ} (h : isTabled c parts) : Tabled c parts := by
  simp only [isTabled, Bool.and_eq_true, Bool.or_eq_true, List.contains_iff_mem, List.all_eq_true,
    decide_eq_true_eq, Bool.not_eq_true'] at h
  obtain ⟨⟨hd, hs⟩, hle⟩ := h
  exact ⟨hd, hs.resolve_right, fun hc => hle.resolve_right (by simp [hc])⟩

theorem composites_tabled : composites.all fun entry => isTabled entry.1 entry.2 := by
  decide +kernel

theorem singletons_tabled : singletons.all fun entry => isTabled entry.1 [entry.2] := by
  decide +kernel

theorem special_apart : ∀ entry ∈ SpecialCases.standard,
    covers simple entry.1.toNat = false ∧ covers decomposing entry.1.toNat = false := by
  decide +kernel

theorem covers_simple_of_hangul {p : ℕ} (h : 0x1100 ≤ p) (h' : p < 0x1200) : covers simple p := by
  have h4 : p ≤ 0x1dff := by omega
  simp [covers, simple, h4, (by omega : 0x391 ≤ p)]

theorem toNat_ofNat_of_simple {p : ℕ} (h : covers simple p) : (Char.ofNat p).toNat = p := by
  have hv : p.isValidChar := by
    simp only [covers, simple, List.any_cons, List.any_nil, Bool.or_false, Bool.or_eq_true,
      Bool.and_eq_true, decide_eq_true_eq] at h
    unfold Nat.isValidChar
    omega
  rw [Char.ofNat, dif_pos hv]
  rfl

namespace Decomposes

variable {c : ℕ} {parts : List ℕ}

theorem eq_or_tabled (h : Decomposes c parts) : parts = [c] ∨ Tabled c parts := by
  cases h with
  | whole => exact .inl rfl
  | composite hm => exact .inr (tabled_of_isTabled (List.all_eq_true.1 composites_tabled _ hm))
  | singleton hm => exact .inr (tabled_of_isTabled (List.all_eq_true.1 singletons_tabled _ hm))
  | @syllable k hk =>
    have hl : 0x2213 ≤ Hangul.syllables + k := by unfold Hangul.syllables; omega
    have hu : Hangul.syllables + k ≤ 0xfaff := by unfold Hangul.syllables; omega
    have hb := fun p => Hangul.bounds_of_mem_parts (p := p) hk
    refine .inr ⟨by simp [covers, decomposing, hl, hu], fun _ p hp => ?_, fun _ p hp => ?_⟩
    · exact covers_simple_of_hangul (hb p hp).1 (hb p hp).2
    · exact le_trans (by decide) (hb p hp).1

theorem le_of_mem (h : Decomposes c parts) (hs : covers simple c) (hc : 128 ≤ c) :
    ∀ p ∈ parts, 128 ≤ p := by
  rcases h.eq_or_tabled with rfl | h
  · simpa using hc
  · exact h.le hs

/-- The parts of what may be a part may be parts. -/
theorem simple_of_simple (h : Decomposes c parts) (hs : covers simple c) :
    ∀ p ∈ parts, covers simple p := by
  have hm : c ∉ marked.map Char.toNat := by
    intro hm
    have apart : ∀ m ∈ marked.map Char.toNat, covers simple m = false := by decide +kernel
    rw [apart c hm] at hs
    cases hs
  rcases h.eq_or_tabled with rfl | h
  · simpa using hs
  · exact h.simple hm

end Decomposes

end Unicode

/-! ## Spelling the parts -/

section Spelling

open Unicode

theorem SpecialCases.apart_of_lookup {c : Char} {spelling : Text}
    (h : standard.lookup c = some spelling) :
    covers simple c.toNat = false ∧ covers decomposing c.toNat = false := by
  obtain ⟨before, behind, he, -⟩ := List.lookup_eq_some_iff.1 h
  exact special_apart (c, spelling) (he ▸ by simp)

theorem toAscii_of_ascii {c : Char} (special : SpecialCases) (h : Text.isAscii c) :
    toAscii special c = [c] := if_pos h

/-- A character that the table does not know is spelled by the ASCII characters among its parts. -/
theorem toAscii_of_lookup {c : Char} {special : SpecialCases} (ha : ¬Text.isAscii c)
    (h : special.lookup c = none) : toAscii special c = (decompose c).filter Text.isAscii := by
  rw [toAscii, if_neg ha, h]

/-- A part of a decomposition, if it is not a special case, is spelled by itself or not at all. -/
theorem toAscii_of_simple {p : ℕ} (h : covers simple p) :
    toAscii .standard (Char.ofNat p) = [Char.ofNat p].filter Text.isAscii := by
  have hp := toNat_ofNat_of_simple h
  by_cases ha : Text.isAscii (Char.ofNat p)
  · simp [toAscii_of_ascii _ ha, ha]
  have hl : SpecialCases.standard.lookup (Char.ofNat p) = none := by
    rcases hs : SpecialCases.standard.lookup (Char.ofNat p) with _ | spelling
    · rfl
    · have := (SpecialCases.apart_of_lookup hs).1
      rw [hp, h] at this
      cases this
  rw [toAscii_of_lookup ha hl]
  have hge : 128 ≤ p := by simpa [Text.isAscii, hp] using ha
  have hnone : (decompose (Char.ofNat p)).filter Text.isAscii = [] := by
    rw [List.filter_eq_nil_iff, decompose, hp, List.forall_mem_map]
    intro q hq
    have := (decomposes p).le_of_mem h hge q hq
    simpa [Text.isAscii, toNat_ofNat_of_simple ((decomposes p).simple_of_simple h q hq)] using this
  simp [hnone, ha]

theorem toAscii_of_decomposing {c : Char} (h : covers decomposing c.toNat) :
    toAscii .standard c = (decompose c).filter Text.isAscii := by
  refine toAscii_of_lookup (fun ha => ?_) ?_
  · have low : ∀ n < 128, covers decomposing n = false := by decide +kernel
    rw [low c.toNat (by simpa [Text.isAscii] using ha)] at h
    cases h
  · rcases hs : SpecialCases.standard.lookup c with _ | spelling
    · rfl
    · rw [(SpecialCases.apart_of_lookup hs).2] at h
      cases h

/-- A character comes to the same as its parts, if none of them is a special case. -/
theorem transliterate_decompose {c : Char} (h : c ∉ marked) :
    transliterate .standard (decompose c) = toAscii .standard c := by
  have hm : c.toNat ∉ marked.map Char.toNat := by
    rw [List.mem_map]
    rintro ⟨m, hm, he⟩
    exact h (Char.toNat_inj.1 he ▸ hm)
  rcases (decomposes c.toNat).eq_or_tabled with hd | hd
  · rw [decompose, hd, List.map_singleton, Char.ofNat_toNat, transliterate, List.flatMap_singleton]
  · have hparts : ∀ part ∈ decompose c, toAscii .standard part = [part].filter Text.isAscii := by
      rw [decompose, List.forall_mem_map]
      exact fun p hp => toAscii_of_simple (hd.simple hm p hp)
    rw [toAscii_of_decomposing hd.decomposing, transliterate, List.flatMap_congr hparts,
      ← List.filter_flatMap, List.flatMap_singleton']

/-! ## Decomposed texts -/

theorem transliterate_append (special : SpecialCases) (v w : Text) :
    transliterate special (v ++ w) = transliterate special v ++ transliterate special w :=
  List.flatMap_append

theorem transliterate_cons (special : SpecialCases) (c : Char) (v : Text) :
    transliterate special (c :: v) = toAscii special c ++ transliterate special v :=
  List.flatMap_cons

/-- The second text has some characters of the first one decomposed, but none of the marked ones. -/
inductive Respelled : Text → Text → Prop
  | nil : Respelled [] []
  | keep (c : Char) {v w : Text} : Respelled v w → Respelled (c :: v) (c :: w)
  | decompose {c : Char} {v w : Text} : c ∉ marked → Respelled v w →
    Respelled (c :: v) (decompose c ++ w)

theorem Respelled.transliterate_eq {v w : Text} (h : Respelled v w) :
    transliterate .standard w = transliterate .standard v := by
  induction h with
  | nil => rfl
  | keep c _ ih => rw [transliterate_cons, transliterate_cons, ih]
  | decompose hm _ ih =>
    rw [transliterate_append, transliterate_cons, transliterate_decompose hm, ih]

theorem decompose_marked : marked.map decompose = [['Æ', '\u0304'], ['æ', '\u0304'],
    ['Æ', '\u0301'], ['æ', '\u0301'], ['Ø', '\u0301'], ['ø', '\u0301']] := by
  decide +kernel

/-- A marked letter is dropped. Its decomposition is spelled like the special case that it starts
with. -/
theorem transliterate_marked : ∀ c ∈ marked, transliterate .standard [c] = []
    ∧ transliterate .standard (decompose c) ≠ []
    ∧ (decompose c).head?.bind (List.lookup · SpecialCases.standard)
      = some (transliterate .standard (decompose c)) := by
  have composed : marked.all fun c => covers decomposing c.toNat := by decide +kernel
  have spelled : ∀ parts ∈ marked.map decompose, parts.filter Text.isAscii = []
      ∧ transliterate .standard parts ≠ []
      ∧ parts.head?.bind (List.lookup · SpecialCases.standard)
        = some (transliterate .standard parts) := by
    rw [decompose_marked]
    decide +kernel
  intro c hc
  obtain ⟨hdropped, hkept⟩ := spelled _ (List.mem_map_of_mem hc)
  refine ⟨?_, hkept⟩
  rw [transliterate, List.flatMap_singleton,
    toAscii_of_decomposing (List.all_eq_true.1 composed c hc), hdropped]

/-- Transliteration does not depend on whether a text is composed or decomposed, except for six
letters: composed they are dropped, and decomposed they are spelled like the special case among
their parts. -/
theorem transliterate_respelled :
    (∀ v w, Respelled v w → transliterate .standard w = transliterate .standard v)
    ∧ (∀ before behind c, transliterate .standard (before ++ decompose c ++ behind)
        = transliterate .standard (before ++ c :: behind) ↔ c ∉ marked)
    ∧ ∀ c ∈ marked, transliterate .standard [c] = []
      ∧ transliterate .standard (decompose c) ≠ []
      ∧ (decompose c).head?.bind (List.lookup · SpecialCases.standard)
        = some (transliterate .standard (decompose c)) := by
  refine ⟨fun v w h => h.transliterate_eq, fun before behind c => ?_, transliterate_marked⟩
  rw [transliterate_append, transliterate_append, transliterate_append, transliterate_cons,
    List.append_assoc, List.append_cancel_left_eq, List.append_cancel_right_eq]
  refine ⟨fun h hm => ?_, transliterate_decompose⟩
  obtain ⟨hdropped, hkept, -⟩ := transliterate_marked c hm
  rw [transliterate, List.flatMap_singleton] at hdropped
  exact hkept (h.trans hdropped)

/-- A letter with two marks, a syllable, a ligature that does not decompose, and a letter that is
only dropped where it is composed. -/
theorem transliterate_respelled_mixed :
    let composed : Text := ['ế', 'ﬁ', '각', 'Ø']
    let decomposed : Text := ['e', '\u0302', '\u0301', 'ﬁ', '\u1100', '\u1161', '\u11a8', 'Ø']
    Respelled composed decomposed
      ∧ transliterate .standard composed = ['e', 'f', 'i', 'O']
      ∧ transliterate .standard decomposed = transliterate .standard composed
      ∧ transliterate .standard ['Ǽ'] = []
      ∧ transliterate .standard (decompose 'Ǽ') ≠ [] := by
  intro composed decomposed
  have he : decompose 'ế' = ['e', '\u0302', '\u0301'] := by decide +kernel
  have hg : decompose '각' = ['\u1100', '\u1161', '\u11a8'] := by decide +kernel
  have hr : Respelled composed decomposed := by
    have h := Respelled.decompose (c := 'ế') (by decide)
      (.keep 'ﬁ' (.decompose (c := '각') (by decide) (.keep 'Ø' .nil)))
    rwa [he, hg] at h
  obtain ⟨heq, -, hmarked⟩ := transliterate_respelled
  obtain ⟨hdropped, hkept, -⟩ := hmarked 'Ǽ' (by decide)
  exact ⟨hr, by decide +kernel, heq _ _ hr, hdropped, hkept⟩

/-- An O with a stroke and an accent is dropped where both are one character, and it is an O where
the accent stands apart. -/
theorem transliterate_composed_stroke :
    decompose 'Ǿ' = ['Ø', '\u0301'] ∧ transliterate .standard ['Ǿ'] = []
      ∧ transliterate .standard ['Ø', '\u0301'] = ['O']
      ∧ ¬∀ before behind c, transliterate .standard (before ++ decompose c ++ behind)
        = transliterate .standard (before ++ c :: behind) := by
  have hd : decompose 'Ǿ' = ['Ø', '\u0301'] := by decide +kernel
  have hc : transliterate .standard ['Ǿ'] = [] := by decide +kernel
  have ha : transliterate .standard ['Ø', '\u0301'] = ['O'] := by decide +kernel
  refine ⟨hd, hc, ha, fun h => ?_⟩
  have heq : transliterate .standard ['Ø', '\u0301'] = transliterate .standard ['Ǿ'] := by
    simpa [hd] using h [] [] 'Ǿ'
  rw [ha, hc] at heq
  cases heq

end Spelling

end FilterTemplate
