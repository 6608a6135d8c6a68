import Mathlib
import FilterTemplate.Proofs.Escape
import FilterTemplate.Proofs.Tokens
import FilterTemplate.Proofs.Validity

/-!
# Templates and how they are written

An outline is what a template has in its segments, without the places. To write it, its literals are
doubled where they have to be, and each of its filters is spelled, protected by escapes and put
behind a separator. What is written for a canonical outline is a template with this outline, in
whatever way its filters are spelled and whatever the delimiters are
(`exists_compile_writeTokens`); and all templates have such outlines (`exists_writes_of_compile`).
-/

namespace FilterTemplate

/-- A segment without places. -/
inductive Outline
  | literal (text : Text)
  | chain (filters : List Filter)
  deriving DecidableEq, Repr

def Segment.outline : Segment → Outline
  | .literal text => .literal text
  | .chain filters => .chain (filters.map (·.value))

/-- What a template has in its segments. -/
def Template.outline (template : Template) : List Outline :=
  template.segments.map (·.value.outline)

namespace Outline

def isLiteral : Outline → Bool
  | .literal _ => true
  | .chain _ => false

/-- Outlines of the segments that a template can have. -/
structure Canonical (outlines : List Outline) : Prop where
  nonempty : .literal [] ∉ outlines
  apart : outlines.IsChain fun a b => ¬(a.isLiteral ∧ b.isLiteral)
  valid : ∀ filters, .chain filters ∈ outlines → ∀ filter ∈ filters, filter.Valid

end Outline

namespace Delimiters

variable (d : Delimiters)

/-- Whether a token is a way to write an outline. -/
inductive Writes : Outline → Token → Prop
  | literal (text : Text) : Writes (.literal text) (.literal text)
  | chain {filters : List Filter} {texts : List Text} : List.Forall₂ Filter.Spells filters texts →
    Writes (.chain filters) (.chain (d.writeBody texts))

end Delimiters

/-! ## Filters and their texts -/

theorem Filter.Spells.ne_nil {filter : Filter} {text : Text} (h : filter.Spells text) :
    text ≠ [] := by
  cases h <;> simp

theorem exists_readPieces : ∀ {filters : List Filter} {pieces : List Piece},
    List.Forall₂ Filter.Spells filters (pieces.map Piece.text) →
      ∃ chain, readPieces pieces = .ok chain ∧ chain.map (·.value) = filters
  | [], [], _ => ⟨[], rfl, rfl⟩
  | filter :: filters, piece :: pieces, .cons hs h => by
    obtain ⟨chain, hc, rfl⟩ := exists_readPieces h
    have hp : piece.read = .ok ⟨filter, piece.start, piece.stop⟩ :=
      Piece.read_eq_ok_iff.2 ⟨Filter.read_of_spells hs, rfl⟩
    exact ⟨_, by rw [readPieces, hp, hc]; rfl, rfl⟩

namespace Delimiters

variable (d : Delimiters)

theorem writeBody_ne_nil : ∀ {text : Text} (rest : List Text), text ≠ [] →
    d.writeBody (text :: rest) ≠ []
  | [], _, h => absurd rfl h
  | c :: text, [], _ => by
    rcases hc : d.has c with _ | _
    · simp [writeBody, Text.joinWith, d.protect_cons_of_not_has hc]
    · simp [writeBody, Text.joinWith, d.protect_cons_of_has hc]
  | c :: text, second :: rest, _ => by
    rw [writeBody_cons_cons]
    simp

/-- The filters that are spelled inside of a chain are read from it. -/
theorem exists_readChain : ∀ {filters : List Filter} {texts : List Text},
    List.Forall₂ Filter.Spells filters texts → ∀ i : ℕ,
      ∃ chain, d.readChain (d.writeBody texts) i = .ok chain ∧ chain.map (·.value) = filters
  | [], [], _, _ => ⟨[], rfl, rfl⟩
  | filter :: filters, text :: rest, .cons hs h, i => by
    obtain ⟨piece, more, hp, rfl, rfl⟩ := d.exists_pieces_writeBody text rest i
    have hp' : List.Forall₂ Filter.Spells (filter :: filters) ((piece :: more).map Piece.text) :=
      .cons hs h
    obtain ⟨chain, hc, hv⟩ := exists_readPieces hp'
    refine ⟨chain, ?_, hv⟩
    rw [readChain, if_neg (d.writeBody_ne_nil _ hs.ne_nil), hp]
    exact hc

/-! ## Outlines and their tokens -/

theorem map_isLiteral_of_writes : ∀ {outlines : List Outline} {tokens : List Token},
    List.Forall₂ d.Writes outlines tokens →
      outlines.map Outline.isLiteral = tokens.map Token.isLiteral
  | _, _, .nil => rfl
  | _, _, .cons hw h => by
    rw [List.map_cons, List.map_cons, map_isLiteral_of_writes h]
    cases hw <;> rfl

/-- Whether two literals are neighbours is a matter of which parts are literals. -/
theorem isChain_apart_congr {α β : Type} {f : α → Bool} {g : β → Bool} {as : List α} {bs : List β}
    (h : as.map f = bs.map g) :
    (as.IsChain fun a b => ¬(f a ∧ f b)) ↔ bs.IsChain fun a b => ¬(g a ∧ g b) := by
  rw [← List.isChain_map (R := fun a b : Bool => ¬(a ∧ b)) f, h, List.isChain_map]

theorem isBody_of_writes {outlines : List Outline} {tokens : List Token}
    (h : List.Forall₂ d.Writes outlines tokens) {body : Text} (hb : .chain body ∈ tokens) :
    d.isBody body := by
  obtain ⟨outline, -, hw⟩ := exists_related_of_mem (R := flip d.Writes) h.flip hb
  cases hw
  exact d.isBody_writeBody _

/-- Canonical outlines are written with canonical tokens, and no other outlines are. -/
theorem canonical_iff_of_writes {outlines : List Outline} {tokens : List Token}
    (h : List.Forall₂ d.Writes outlines tokens) :
    Outline.Canonical outlines ↔ d.Canonical tokens := by
  have ha := isChain_apart_congr (d.map_isLiteral_of_writes h)
  constructor
  · rintro ⟨hn, hc, -⟩
    refine ⟨fun hmem => ?_, ha.1 hc, fun body hmem => d.isBody_of_writes h hmem⟩
    obtain ⟨outline, ho, hw⟩ := exists_related_of_mem (R := flip d.Writes) h.flip hmem
    cases hw
    exact hn ho
  · rintro ⟨hn, hc, -⟩
    refine ⟨fun hmem => ?_, ha.2 hc, fun filters hmem filter hfilter => ?_⟩
    · obtain ⟨token, ht, hw⟩ := exists_related_of_mem h hmem
      cases hw
      exact hn ht
    · obtain ⟨token, ht, hw⟩ := exists_related_of_mem h hmem
      cases hw with
      | chain hs =>
        obtain ⟨text, -, hspells⟩ := exists_related_of_mem hs hfilter
        exact Filter.valid_of_spells hspells

/-! ## Reading what is written -/

theorem exists_readTokens {outlines : List Outline} {tokens : List Token}
    (h : List.Forall₂ d.Writes outlines tokens) (i : ℕ) :
    ∃ segments, d.readTokens (d.place i tokens) = .ok segments
      ∧ segments.map (·.value.outline) = outlines := by
  induction h generalizing i with
  | nil => exact ⟨[], rfl, rfl⟩
  | @cons outline token outlines tokens hw h ih =>
    obtain ⟨segments, hs, rfl⟩ := ih (i + (d.writeToken token).length)
    cases hw with
    | literal text =>
      refine ⟨⟨.literal text, i, i + (d.writeToken (.literal text)).length⟩ :: segments, ?_, rfl⟩
      rw [place, d.readTokens_cons rfl, hs, Except.map_ok_eq]
    | @chain filters texts hf =>
      obtain ⟨chain, hc, rfl⟩ := d.exists_readChain hf (i + 1)
      refine ⟨⟨.chain chain, i, i + (d.writeToken (.chain (d.writeBody texts))).length⟩ :: segments,
        ?_, rfl⟩
      have ht : d.readToken ⟨.chain (d.writeBody texts), i,
          i + (d.writeToken (.chain (d.writeBody texts))).length⟩
          = .ok ⟨.chain chain, i, i + (d.writeToken (.chain (d.writeBody texts))).length⟩ := by
        rw [readToken, hc, Except.map_ok_eq]
      rw [place, d.readTokens_cons ht, hs, Except.map_ok_eq]

/-- The segments that are read can be written as well, with literals where they have been read from
literals, and with the same ones. -/
theorem exists_writes_of_readTokens : ∀ {tokens : List (Located Token)}
    {segments : List (Located Segment)}, d.readTokens tokens = .ok segments →
      ∃ written, List.Forall₂ d.Writes (segments.map (·.value.outline)) written
        ∧ written.map Token.isLiteral = tokens.map (·.value.isLiteral)
        ∧ ∀ text, .literal text ∈ written → .literal text ∈ tokens.map (·.value)
  | [], segments, h => by
    obtain rfl := Except.ok.inj h
    exact ⟨[], .nil, rfl, by simp⟩
  | ⟨.literal text, start, stop⟩ :: rest, segments, h => by
    obtain ⟨segment, more, hs, hm, rfl⟩ := d.readTokens_cons_eq_ok h
    obtain rfl := Except.ok.inj hs
    obtain ⟨written, hw, hl, ht⟩ := exists_writes_of_readTokens hm
    refine ⟨.literal text :: written, .cons (.literal text) hw, by rw [List.map_cons, hl]; rfl,
      fun literal hmem => ?_⟩
    rcases List.mem_cons.1 hmem with he | hmem
    · rw [he]
      exact List.mem_cons_self
    · exact List.mem_cons_of_mem _ (ht literal hmem)
  | ⟨.chain body, start, stop⟩ :: rest, segments, h => by
    obtain ⟨segment, more, hs, hm, rfl⟩ := d.readTokens_cons_eq_ok h
    obtain ⟨chain, hc, rfl⟩ := Except.map_eq_ok_iff.1 hs
    obtain ⟨texts, hf⟩ := d.spells_of_readChain hc
    obtain ⟨written, hw, hl, ht⟩ := exists_writes_of_readTokens hm
    refine ⟨.chain (d.writeBody texts) :: written, .cons (.chain hf) hw,
      by rw [List.map_cons, hl]; rfl, fun literal hmem => ?_⟩
    rcases List.mem_cons.1 hmem with he | hmem
    · cases he
    · exact List.mem_cons_of_mem _ (ht literal hmem)

/-- What is written for canonical outlines is a template that has them, where they were written. -/
theorem exists_compile_writeTokens {outlines : List Outline} {tokens : List Token}
    (hc : Outline.Canonical outlines) (hw : List.Forall₂ d.Writes outlines tokens) :
    ∃ template, d.compile (d.writeTokens tokens) = .ok template ∧ template.outline = outlines
      ∧ template.segments.map Located.span = (d.place 0 tokens).map Located.span := by
  obtain ⟨segments, hs, ho⟩ := d.exists_readTokens hw 0
  have hsplit := d.split_writeTokens ((d.canonical_iff_of_writes hw).1 hc)
  exact ⟨⟨d.writeTokens tokens, segments⟩, d.compile_eq_ok_iff.2 ⟨rfl, _, hsplit, hs⟩, ho,
    d.map_span_of_readTokens hs⟩

/-- The outlines of a template are canonical, and there is a way to write them. -/
theorem exists_writes_of_compile {text : Text} {template : Template}
    (h : d.compile text = .ok template) :
    Outline.Canonical template.outline ∧ ∃ tokens, List.Forall₂ d.Writes template.outline tokens := by
  obtain ⟨-, located, ht, hs⟩ := d.compile_eq_ok_iff.1 h
  obtain ⟨tokens, hc, -, rfl⟩ := d.exists_canonical_of_split ht
  obtain ⟨written, hw, hl, hmem⟩ := d.exists_writes_of_readTokens hs
  rw [map_value_place] at hmem
  have hl : written.map Token.isLiteral = tokens.map Token.isLiteral := by
    have hv := congrArg (List.map Token.isLiteral) (d.map_value_place 0 tokens)
    rw [List.map_map] at hv
    exact hl.trans hv
  exact ⟨(d.canonical_iff_of_writes hw).2 ⟨fun hn => hc.nonempty (hmem _ hn),
    (isChain_apart_congr hl).2 hc.apart, fun body hb => d.isBody_of_writes hw hb⟩, written, hw⟩

/-- Canonical outlines can be written, if no target has all characters that there are. -/
theorem exists_writes_of_canonical {outlines : List Outline} (hc : Outline.Canonical outlines)
    (hd : ∀ filters, .chain filters ∈ outlines → ∀ filter ∈ filters, ∀ target,
      filter.target? = some target → ∃ c, c ∉ target) :
    ∃ tokens, List.Forall₂ d.Writes outlines tokens := by
  refine exists_forall₂_of_exists fun outline ho => ?_
  rcases outline with text | filters
  · exact ⟨_, .literal text⟩
  · obtain ⟨texts, ht⟩ := exists_forall₂_of_exists fun filter hf =>
      (hc.valid filters ho filter hf).exists_spells (hd filters ho filter hf)
    exact ⟨_, .chain ht⟩

/-- Writing outlines and reading templates are inverse to each other. Whatever the delimiters are
and in whatever way the filters are spelled, the text that is written for canonical outlines is a
template that has exactly them, each where it was written. Canonical outlines can be written, unless
a target leaves no character for its delimiter. The outlines of every template are canonical and can
be written, and any way to write them gives a template that has the same ones. -/
theorem compile_written_inverse :
    (∀ (outlines : List Outline) (tokens : List Token), Outline.Canonical outlines →
      List.Forall₂ d.Writes outlines tokens →
      ∃ template, d.compile (d.writeTokens tokens) = .ok template ∧ template.outline = outlines
        ∧ template.segments.map Located.span = (d.place 0 tokens).map Located.span)
    ∧ (∀ outlines : List Outline, Outline.Canonical outlines →
        (∀ filters, .chain filters ∈ outlines → ∀ filter ∈ filters, ∀ target,
          filter.target? = some target → ∃ c, c ∉ target) →
        ∃ tokens, List.Forall₂ d.Writes outlines tokens)
    ∧ ∀ (text : Text) (template : Template), d.compile text = .ok template →
        Outline.Canonical template.outline
        ∧ (∃ tokens, List.Forall₂ d.Writes template.outline tokens)
        ∧ ∀ tokens, List.Forall₂ d.Writes template.outline tokens →
          ∃ again, d.compile (d.writeTokens tokens) = .ok again
            ∧ again.outline = template.outline := by
  refine ⟨fun _ _ hc hw => d.exists_compile_writeTokens hc hw,
    fun _ hc hd => d.exists_writes_of_canonical hc hd, fun text template h => ?_⟩
  obtain ⟨hc, hw⟩ := d.exists_writes_of_compile h
  refine ⟨hc, hw, fun tokens ht => ?_⟩
  obtain ⟨again, ha, ho, -⟩ := d.exists_compile_writeTokens hc ht
  exact ⟨again, ha, ho⟩

/-- Every delimiter is at the same time a letter, digit or sign that filters are spelled with. -/
theorem compile_written_inverse_crossed :
    let d : Delimiters := { opening := 't', closing := '#', separator := '1', escape := '-' }
    let outlines : List Outline := [.literal ['a', 't'], .chain [.trim,
      .substring (-1) (.toIndex (-10)), .replace ['1', '-'] ['t', '#'] true], .chain []]
    let tokens : List Token := [.literal ['a', 't'],
      .chain ['-', 't', '1', '-', '#', '-', '-', '-', '1', '-', '-', '-', '1', '0', '1', 'R', 'a',
        '-', '1', '-', '-', 'a', '-', 't', '-', '#'], .chain []]
    Outline.Canonical outlines ∧ List.Forall₂ d.Writes outlines tokens
      ∧ d.writeTokens tokens = ['a', 't', 't', 't', '-', 't', '1', '-', '#', '-', '-', '-', '1',
        '-', '-', '-', '1', '0', '1', 'R', 'a', '-', '1', '-', '-', 'a', '-', 't', '-', '#', '#',
        't', '#']
      ∧ (∃ template, d.compile (d.writeTokens tokens) = .ok template ∧ template.outline = outlines
        ∧ template.segments.map Located.span = [(0, 3), (3, 31), (31, 33)])
      ∧ (∃ others, List.Forall₂ d.Writes outlines others)
      ∧ ∀ others, List.Forall₂ d.Writes outlines others →
        ∃ again, d.compile (d.writeTokens others) = .ok again ∧ again.outline = outlines := by
  intro d outlines tokens
  have ht : Filter.Spells .trim ['t'] := .fixed (by simp [Filter.fixed])
  have hone : Numeral.Spells 1 ['1'] := ⟨List.all_eq_true.1 rfl, rfl, by decide⟩
  have hten : Numeral.Spells 10 ['1', '0'] := ⟨List.all_eq_true.1 rfl, rfl, by decide⟩
  have hs : Filter.Spells (.substring (-1) (.toIndex (-10))) ['#', '-', '1', '-', '1', '0'] :=
    .substring (.intro true hone) (.toUnsigned hten (by decide))
  have hr : Filter.Spells (.replace ['1', '-'] ['t', '#'] true)
      ['R', 'a', '1', '-', 'a', 't', '#'] :=
    .replace (by decide) (by decide) (.full _ (by decide))
  have hw : List.Forall₂ d.Writes outlines tokens :=
    .cons (.literal _) (.cons (.chain (.cons ht (.cons hs (.cons hr .nil))))
      (.cons (.chain .nil) .nil))
  have hc : Outline.Canonical outlines := (d.canonical_iff_of_writes hw).2
    ⟨by decide, by decide, fun body hb => d.isBody_of_writes hw hb⟩
  have hd : ∀ filters, .chain filters ∈ outlines → ∀ filter ∈ filters, ∀ target,
      filter.target? = some target → ∃ c, c ∉ target := by
    intro filters hf filter hfilter target htarget
    refine ⟨'a', ?_⟩
    simp only [outlines, List.mem_cons, List.not_mem_nil, reduceCtorEq, Outline.chain.injEq,
      or_false, false_or] at hf
    rcases hf with rfl | rfl
    · simp only [List.mem_cons, List.not_mem_nil, or_false] at hfilter
      rcases hfilter with rfl | rfl | rfl <;> simp only [Filter.target?, reduceCtorEq] at htarget
      obtain rfl := Option.some.inj htarget
      decide
    · simp at hfilter
  obtain ⟨write_compile, write_exists, compile_write⟩ := compile_written_inverse d
  obtain ⟨template, h, ho, hp⟩ := write_compile outlines tokens hc hw
  obtain ⟨-, -, again⟩ := compile_write _ template h
  rw [ho] at again
  exact ⟨hc, hw, rfl, ⟨template, h, ho, hp⟩, write_exists outlines hc hd, again⟩

end Delimiters

end FilterTemplate
