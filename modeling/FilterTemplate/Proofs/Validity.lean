import Mathlib
import FilterTemplate.Proofs.Segments
import FilterTemplate.Proofs.Spelling

/-!
# Filters that make sense

Only some filters have a spelling: a range counts from some character on and, where it goes
backward, to one that is counted from the end as well; a mask and a target have characters; a
pattern is what its source is compiled to, and a replacement suits its pattern. Every filter that is
spelled is such a filter (`valid_of_spells`), and so are all filters of a template
(`valid_of_compile`). Conversely, such a filter has a spelling (`Valid.exists_spells`), unless its
target has all characters that there are and leaves none for a delimiter.
-/

namespace FilterTemplate

/-- Whether a range with the given start can end so. -/
def Extent.Valid (start : ℤ) : Extent → Prop
  | .single => True
  | .toIndex index => index ≠ 0 ∧ (start < 0 → index < 0) ∧ Numeral.Fits index.natAbs
  | .toLength length => 1 ≤ length ∧ Numeral.Fits length.natAbs
  | .toEnd => True

/-- Whether the filter has a spelling. -/
def Filter.Valid : Filter → Prop
  | .substring start extent => start ≠ 0 ∧ Numeral.Fits start.natAbs ∧ extent.Valid start
  | .pad _ mask count => mask ≠ [] ∧ ∀ n, count = some n → 1 ≤ n ∧ Numeral.Fits n.natAbs
  | .replace target _ _ => target ≠ []
  | .regexMatch pattern => pattern.Compiled
  | .regexReplace pattern replacement _ =>
    pattern.Compiled ∧ ∃ parts, Regex.Replacement.read pattern replacement = .ok parts
  | .trim | .lowercase | .uppercase | .transliterate | .removeNonAscii | .parentPath | .fileName
  | .baseName | .extension _ | .replaceEmpty _ => True

/-! ## What is spelled makes sense -/

theorem Numeral.Spells.fits {n : ℕ} {digits : Text} (h : Numeral.Spells n digits) : Fits n :=
  fits_of_read h.isDigit h.read

theorem SpellsIndex.valid {index : ℤ} {text : Text} (h : SpellsIndex index text) :
    index ≠ 0 ∧ Numeral.Fits index.natAbs := by
  obtain ⟨negative, h⟩ := h
  have hn := h.ne_zero
  rcases negative with _ | _
  · exact ⟨by simpa using hn, by simpa using h.fits⟩
  · exact ⟨by simpa using hn, by simpa using h.fits⟩

theorem Extent.Spells.valid {start : ℤ} {extent : Extent} {text : Text}
    (h : extent.Spells start text) : extent.Valid start := by
  cases h with
  | single => trivial
  | toEnd => trivial
  | toLength hl => exact ⟨by have := hl.ne_zero; omega, by simpa using hl.fits⟩
  | toIndex hi hb => exact ⟨hi.valid.1, hb, hi.valid.2⟩
  | toUnsigned hu hs =>
    have hi := (SpellsIndex.intro true hu).valid
    exact ⟨hi.1, fun _ => by have := hu.ne_zero; omega, hi.2⟩

theorem Filter.valid_of_spells {filter : Filter} {text : Text} (h : filter.Spells text) :
    filter.Valid := by
  cases h with
  | substring hs he => exact ⟨hs.valid.1, hs.valid.2, he.valid⟩
  | fixed hm =>
    have valid : ∀ entry ∈ fixed, entry.2.Valid := by simp [fixed, Valid]
    exact valid _ hm
  | mask hs hm => exact ⟨hm, by simp⟩
  | count hs hm hn hd =>
    refine ⟨hm, fun n h => ?_⟩
    obtain rfl := Option.some.inj h
    exact ⟨by have := hn.ne_zero; omega, by simpa using hn.fits⟩
  | replace ha hn hs => exact hn
  | replaceEmpty => trivial
  | regexMatch hc => exact hc
  | regexReplace ha hc hr hs => exact ⟨hc, _, hr⟩

/-! ## What makes sense is spelled -/

theorem Numeral.spells_write {n : ℕ} (hn : n ≠ 0) (hf : Fits n) : Spells n (write n) :=
  ⟨fun _ => isDigit_of_mem_write, read_write hf, hn⟩

theorem exists_spellsIndex {index : ℤ} (h : index ≠ 0) (hf : Numeral.Fits index.natAbs) :
    ∃ text, SpellsIndex index text := by
  have hs := Numeral.spells_write (Int.natAbs_ne_zero.2 h) hf
  rcases lt_or_ge index 0 with hi | hi
  · have ht := SpellsIndex.intro true hs
    rw [if_pos rfl, show -(index.natAbs : ℤ) = index by omega] at ht
    exact ⟨_, ht⟩
  · have ht := SpellsIndex.intro false hs
    rw [if_neg (by decide), Int.natAbs_of_nonneg hi] at ht
    exact ⟨_, ht⟩

theorem Extent.Valid.exists_spells {start : ℤ} {extent : Extent} (h : extent.Valid start) :
    ∃ text, extent.Spells start text := by
  rcases extent with _ | index | length | _
  · exact ⟨_, .single⟩
  · obtain ⟨hn, hb, hf⟩ := h
    obtain ⟨text, hi⟩ := exists_spellsIndex hn hf
    exact ⟨_, .toIndex hi hb⟩
  · obtain ⟨hl, hf⟩ := h
    have hs := Numeral.spells_write (n := length.natAbs) (by omega) hf
    have ht : Extent.Spells start (.toLength length.natAbs) _ := .toLength hs
    rw [Int.natAbs_of_nonneg (by omega)] at ht
    exact ⟨_, ht⟩
  · exact ⟨_, .toEnd⟩

namespace Filter

/-- What a delimiter has to be kept out of. -/
def target? : Filter → Option Text
  | .replace target _ _ => some target
  | .regexReplace pattern _ _ => some pattern.source
  | _ => none

/-- A filter that makes sense has a spelling, if some character is left for a delimiter. -/
theorem Valid.exists_spells {filter : Filter} (h : filter.Valid)
    (hd : ∀ target, filter.target? = some target → ∃ c, c ∉ target) :
    ∃ text, filter.Spells text := by
  rcases filter with ⟨start, extent⟩ | _ | _ | _ | _ | _ | _ | _ | _ | withDot
    | ⟨side, mask, _ | count⟩ | ⟨target, replacement, all⟩ | replacement | pattern
    | ⟨pattern, replacement, all⟩
  case substring =>
    obtain ⟨hn, hf, he⟩ := h
    obtain ⟨index, hi⟩ := exists_spellsIndex hn hf
    obtain ⟨behind, hb⟩ := he.exists_spells
    exact ⟨_, .substring hi hb⟩
  case trim => exact ⟨['t'], .fixed (by simp [fixed])⟩
  case lowercase => exact ⟨['v'], .fixed (by simp [fixed])⟩
  case uppercase => exact ⟨['^'], .fixed (by simp [fixed])⟩
  case transliterate => exact ⟨['i'], .fixed (by simp [fixed])⟩
  case removeNonAscii => exact ⟨['I'], .fixed (by simp [fixed])⟩
  case parentPath => exact ⟨['d'], .fixed (by simp [fixed])⟩
  case fileName => exact ⟨['f'], .fixed (by simp [fixed])⟩
  case baseName => exact ⟨['b'], .fixed (by simp [fixed])⟩
  case extension =>
    rcases withDot with _ | _
    · exact ⟨['e'], .fixed (by simp [fixed])⟩
    · exact ⟨['E'], .fixed (by simp [fixed])⟩
  case pad.none =>
    rcases side with _ | _
    · exact ⟨'<' :: '<' :: mask, .mask (by simp [padSymbols]) h.1⟩
    · exact ⟨'>' :: '>' :: mask, .mask (by simp [padSymbols]) h.1⟩
  case pad.some =>
    obtain ⟨hm, hc⟩ := h
    obtain ⟨hpos, hf⟩ := hc count rfl
    have hn := Numeral.spells_write (n := count.natAbs) (by omega) hf
    have hcolon : Numeral.isDigit ':' = false := by decide
    rw [← Int.natAbs_of_nonneg (show 0 ≤ count by omega)]
    rcases side with _ | _
    · exact ⟨'<' :: _, .count (by simp [padSymbols]) hm hn hcolon⟩
    · exact ⟨'>' :: _, .count (by simp [padSymbols]) hm hn hcolon⟩
  case replace =>
    obtain ⟨c, hc⟩ := hd target rfl
    rcases all with _ | _
    · exact ⟨'r' :: _, .replace (by simp [replaceSymbols]) h (.full replacement hc)⟩
    · exact ⟨'R' :: _, .replace (by simp [replaceSymbols]) h (.full replacement hc)⟩
  case replaceEmpty => exact ⟨_, .replaceEmpty replacement⟩
  case regexMatch => exact ⟨_, .regexMatch h⟩
  case regexReplace =>
    obtain ⟨hp, parts, hr⟩ := h
    obtain ⟨c, hc⟩ := hd pattern.source rfl
    rcases all with _ | _
    · exact ⟨'s' :: _, .regexReplace (by simp [regexReplaceSymbols]) hp hr (.full replacement hc)⟩
    · exact ⟨'S' :: _, .regexReplace (by simp [regexReplaceSymbols]) hp hr (.full replacement hc)⟩

end Filter

/-! ## Templates -/

/-- The filters of all chains, in order. -/
def Template.filters (template : Template) : List Filter :=
  template.segments.flatMap fun segment => segment.value.filters.map (·.value)

section Related

variable {α β : Type} {R : α → β → Prop}

theorem exists_related_of_mem : ∀ {as : List α} {bs : List β}, List.Forall₂ R as bs →
    ∀ {a : α}, a ∈ as → ∃ b ∈ bs, R a b
  | _, _, .nil, a, ha => by simp at ha
  | _, b :: bs, .cons hr h, a, ha => by
    rcases List.mem_cons.1 ha with rfl | ha
    · exact ⟨b, List.mem_cons_self, hr⟩
    · obtain ⟨c, hc, hr⟩ := exists_related_of_mem h ha
      exact ⟨c, List.mem_cons_of_mem _ hc, hr⟩

theorem exists_forall₂_of_exists : ∀ {as : List α}, (∀ a ∈ as, ∃ b, R a b) →
    ∃ bs, List.Forall₂ R as bs
  | [], _ => ⟨[], .nil⟩
  | a :: as, h => by
    obtain ⟨b, hb⟩ := h a List.mem_cons_self
    obtain ⟨bs, hbs⟩ := exists_forall₂_of_exists fun c hc => h c (List.mem_cons_of_mem _ hc)
    exact ⟨b :: bs, .cons hb hbs⟩

end Related

theorem spells_of_readPieces : ∀ {pieces : List Piece} {chain : Chain},
    readPieces pieces = .ok chain →
      List.Forall₂ Filter.Spells (chain.map (·.value)) (pieces.map Piece.text)
  | [], chain, h => by
    obtain rfl := Except.ok.inj h
    exact .nil
  | piece :: pieces, chain, h => by
    obtain ⟨filter, filters, hf, hr, rfl⟩ := readPieces_cons_eq_ok h
    exact .cons (Filter.spells_of_read (Piece.read_eq_ok_iff.1 hf).1) (spells_of_readPieces hr)

namespace Delimiters

variable (d : Delimiters)

theorem spells_of_readChain {body : Text} {i : ℕ} {chain : Chain}
    (h : d.readChain body i = .ok chain) :
    ∃ texts, List.Forall₂ Filter.Spells (chain.map (·.value)) texts := by
  unfold readChain at h
  split_ifs at h with hb
  · obtain rfl := Except.ok.inj h
    exact ⟨[], .nil⟩
  · rcases hp : d.pieces body i with fault | ⟨piece, more⟩ <;> rw [hp] at h
    · simp at h
    · exact ⟨_, spells_of_readPieces h⟩

theorem valid_of_readChain {body : Text} {i : ℕ} {chain : Chain}
    (h : d.readChain body i = .ok chain) : ∀ filter ∈ chain, filter.value.Valid := by
  intro filter hf
  obtain ⟨texts, hs⟩ := d.spells_of_readChain h
  obtain ⟨text, -, ht⟩ := exists_related_of_mem hs (List.mem_map_of_mem hf)
  exact Filter.valid_of_spells ht

theorem valid_of_readToken : ∀ {token : Located Token} {segment : Located Segment},
    d.readToken token = .ok segment → ∀ filter ∈ segment.value.filters, filter.value.Valid
  | ⟨.literal text, start, stop⟩, segment, h => by
    obtain rfl := Except.ok.inj h
    simp [Segment.filters]
  | ⟨.chain body, start, stop⟩, segment, h => by
    obtain ⟨filters, hf, rfl⟩ := Except.map_eq_ok_iff.1 h
    exact d.valid_of_readChain hf

/-- Every filter of a template makes sense. -/
theorem valid_of_compile {text : Text} {template : Template}
    (h : d.compile text = .ok template) : ∀ filter ∈ template.filters, filter.Valid := by
  obtain ⟨-, tokens, -, hs⟩ := d.compile_eq_ok_iff.1 h
  intro filter hf
  obtain ⟨segment, hsegment, hf⟩ := List.mem_flatMap.1 hf
  obtain ⟨located, hl, rfl⟩ := List.mem_map.1 hf
  obtain ⟨token, -, ht⟩ := d.exists_token_of_readTokens hs segment hsegment
  exact d.valid_of_readToken ht located hl

end Delimiters

end FilterTemplate
