import Mathlib
import FilterTemplate.Proofs.FilterTexts
import FilterTemplate.Template.Explain

/-!
# Explanations and the source

The spans of a template leave out nothing of its source but what holds a chain together. Its
segments tile the source, and the filters of a chain tile what stands between the delimiters, one
separator apart (`encloses_of_compile`). So the fragments of an explanation make up the source again
(`rebuild_explain`). The fragment of a filter is the filter's own raw text, so it is read as that
filter alone (`readLoneChain_fragment`).
-/

namespace FilterTemplate

/-- The part of a source that something with a span stands for. -/
def Located.fragment {α : Type} (source : Text) (part : Located α) : Text :=
  Text.slice source part.start part.stop

/-- Whether the spans of the parts follow each other from `i` up to `n`, with one character between
neighbours, which is the mark. -/
def TilesApart {α : Type} (text : Text) (mark : Char) : ℕ → List (Located α) → ℕ → Prop
  | i, [], n => i = n
  | i, [part], n => part.start = i ∧ i ≤ part.stop ∧ part.stop = n
  | i, part :: next :: rest, n =>
    part.start = i ∧ i ≤ part.stop ∧ text[part.stop]? = some mark
      ∧ TilesApart text mark (part.stop + 1) (next :: rest) n

section Tiles

variable {α β : Type}

theorem Tiles.le : ∀ {i n : ℕ} {parts : List (Located α)}, Tiles i parts n → i ≤ n
  | _, _, [], h => Nat.le_of_eq h
  | _, _, _ :: _, ⟨_, hle, h⟩ => hle.trans (Tiles.le h)

/-- Parts that tile a text have it as their fragments. -/
theorem Tiles.flatMap_fragment (text : Text) : ∀ {i n : ℕ} {parts : List (Located α)},
    Tiles i parts n → parts.flatMap (Located.fragment text) = Text.slice text i n
  | i, n, [], h => by
    obtain rfl : i = n := h
    simp
  | i, n, part :: rest, h => by
    obtain ⟨rfl, hle, h⟩ := h
    rw [List.flatMap_cons, Tiles.flatMap_fragment text h, Located.fragment,
      Text.slice_append_slice text hle h.le]

theorem tiles_of_map_span_eq : ∀ {i n : ℕ} {parts : List (Located α)} {others : List (Located β)},
    parts.map Located.span = others.map Located.span → Tiles i parts n → Tiles i others n
  | _, _, [], others, hs, h => by
    rw [List.map_nil, eq_comm, List.map_eq_nil_iff] at hs
    exact hs ▸ h
  | i, n, part :: rest, [], hs, _ => by simp at hs
  | i, n, part :: rest, other :: others, hs, ⟨hi, hle, h⟩ => by
    simp only [List.map_cons, List.cons.injEq, Located.span, Prod.mk.injEq] at hs
    obtain ⟨⟨hstart, hstop⟩, hs⟩ := hs
    refine ⟨hstart ▸ hi, hstop ▸ hle, ?_⟩
    rw [← hstop]
    exact tiles_of_map_span_eq hs h

theorem TilesApart.le {text : Text} {mark : Char} : ∀ {i n : ℕ} {parts : List (Located α)},
    TilesApart text mark i parts n → i ≤ n
  | _, _, [], h => Nat.le_of_eq h
  | _, _, [_], ⟨_, hle, h⟩ => hle.trans_eq h
  | _, _, _ :: _ :: _, ⟨_, hle, _, h⟩ => hle.trans (Nat.le_of_succ_le (TilesApart.le h))

end Tiles

/-! ## Explanations -/

namespace Segment

/-- How many parts an explanation has for a segment: one for each filter, and one for a segment
without filters. -/
def partCount (segment : Segment) : ℕ := max 1 segment.filters.length

theorem length_explain (source : Text) : ∀ segment : Located Segment,
    (Segment.explain source segment).length = segment.value.partCount
  | ⟨.literal _, _, _⟩ => rfl
  | ⟨.chain [], _, _⟩ => rfl
  | ⟨.chain (filter :: rest), _, _⟩ => by
    simp [Segment.explain, partCount, filters]

theorem mem_explain (source : Text) : ∀ {segment : Located Segment} {filter : Located Filter},
    filter ∈ segment.value.filters →
      (filter.fragment source, filter.value.describe) ∈ Segment.explain source segment
  | ⟨.literal _, _, _⟩, _, h => by simp [filters] at h
  | ⟨.chain [], _, _⟩, _, h => by simp [filters] at h
  | ⟨.chain (_ :: _), _, _⟩, _, h => List.mem_map.2 ⟨_, h, rfl⟩

end Segment

namespace Template

/-- How many literals there are. -/
def literalCount (template : Template) : ℕ := template.segments.countP (!·.value.isChain)

/-- How many chains have no filters. -/
def emptyChainCount (template : Template) : ℕ := template.segments.countP (·.value = .chain [])

theorem length_explain (template : Template) : template.explain.length
    = template.literalCount + template.emptyChainCount + template.filterCount := by
  simp only [explain, literalCount, emptyChainCount, filterCount]
  induction template.segments with
  | nil => rfl
  | cons segment rest ih =>
    rw [List.flatMap_cons, List.length_append, ih, Segment.length_explain, List.countP_cons,
      List.countP_cons, List.flatMap_cons, List.length_append]
    rcases segment with ⟨text | _ | ⟨filter, filters⟩, start, stop⟩ <;>
      simp [Segment.partCount, Segment.filters, Segment.isChain] <;> omega

end Template

namespace Delimiters

variable (d : Delimiters)

/-- The source that the fragments of a segment's parts make up. Those of filters stand between
delimiters, one separator apart. -/
def joinParts (segment : Segment) (fragments : List Text) : Text :=
  if segment.filters = [] then fragments.flatten
  else d.opening :: d.joinRaw fragments ++ [d.closing]

/-- The source that the fragments of an explanation make up. -/
def rebuild : List Segment → List Text → Text
  | [], fragments => fragments.flatten
  | segment :: rest, fragments =>
    d.joinParts segment (fragments.take segment.partCount)
      ++ rebuild rest (fragments.drop segment.partCount)

theorem rebuild_flatMap {fragments : Located Segment → List Text}
    (h : ∀ segment, (fragments segment).length = segment.value.partCount) :
    ∀ segments : List (Located Segment),
      d.rebuild (segments.map (·.value)) (segments.flatMap fragments)
        = segments.flatMap fun segment => d.joinParts segment.value (fragments segment)
  | [] => rfl
  | segment :: rest => by
    rw [List.map_cons, rebuild, List.flatMap_cons, ← h segment, List.take_left, List.drop_left,
      rebuild_flatMap h rest, List.flatMap_cons]

/-- Filters that stand one separator apart have what is between them and around them as their
fragments. -/
theorem joinRaw_fragment {α : Type} {text : Text} : ∀ {i n : ℕ} {parts : List (Located α)},
    parts ≠ [] → TilesApart text d.separator i parts n →
      d.joinRaw (parts.map (Located.fragment text)) = Text.slice text i n
  | _, _, [], hn, _ => absurd rfl hn
  | _, _, [part], _, h => by
    obtain ⟨rfl, -, rfl⟩ := h
    rfl
  | _, _, part :: next :: rest, _, h => by
    obtain ⟨rfl, hle, hs, h⟩ := h
    have ih := joinRaw_fragment (List.cons_ne_nil next rest) h
    rw [List.map_cons] at ih
    rw [List.map_cons, List.map_cons, joinRaw_cons_cons, ih, List.append_cons,
      ← Text.slice_one hs, Located.fragment, Text.slice_append_slice text hle (Nat.le_succ _),
      Text.slice_append_slice text (hle.trans (Nat.le_succ _)) h.le]

/-- Whether the filters of a chain fill what stands in a text between the chain's delimiters, one
separator apart. -/
structure Encloses (text : Text) (start stop : ℕ) (filters : Chain) : Prop where
  opening : text[start]? = some d.opening
  filters : TilesApart text d.separator (start + 1) filters (stop - 1)
  closing : text[stop - 1]? = some d.closing

theorem Encloses.joinParts_fragment {text : Text} {start stop : ℕ} {filters : Chain}
    (h : d.Encloses text start stop filters) (hn : filters ≠ []) :
    d.joinParts (.chain filters) (filters.map (Located.fragment text))
      = Text.slice text start stop := by
  have hle := h.filters.le
  have hlast : Text.slice text start (stop - 1 + 1)
      = Text.slice text start (stop - 1) ++ [d.closing] :=
    Text.slice_succ (by omega) h.closing
  rw [Nat.sub_add_cancel (by omega)] at hlast
  rw [joinParts, if_neg (by simpa [Segment.filters] using hn), d.joinRaw_fragment hn h.filters,
    hlast, ← Text.slice_append_slice text (Nat.le_succ start) hle, Text.slice_one h.opening]
  rfl

/-! ## Where segments and filters stand -/

/-- Whatever stands where the pieces of raw texts do fills the place of these, one separator
apart. -/
theorem tilesApart_placePieces {α : Type} (behind : Text) : ∀ (rest : List Text)
    {raw before : Text} {parts : List (Located α)},
    parts.map Located.span
        = ((d.placePieces before.length (raw :: rest)).map Piece.located).map Located.span →
      TilesApart (before ++ d.joinRaw (raw :: rest) ++ behind) d.separator before.length parts
        (before.length + (d.joinRaw (raw :: rest)).length)
  | _, _, _, [], h => by simp [placePieces] at h
  | [], raw, before, [part], h => by
    obtain ⟨hstart, hstop⟩ := Prod.mk.inj (List.cons.inj h).1
    exact ⟨hstart, hstop.symm ▸ Nat.le_add_right _ _, hstop⟩
  | [], raw, before, part :: next :: others, h => by simp [placePieces] at h
  | second :: rest, raw, before, [part], h => by simp [placePieces] at h
  | second :: rest, raw, before, part :: next :: others, h => by
    obtain ⟨hspan, hothers⟩ := List.cons.inj h
    obtain ⟨hstart, hstop⟩ := Prod.mk.inj hspan
    have hstop : part.stop = before.length + raw.length := hstop
    have hlen : (before ++ raw ++ [d.separator]).length = before.length + raw.length + 1 := by
      rw [List.length_append, List.length_append, List.length_singleton]
    have htext : before ++ d.joinRaw (raw :: second :: rest) ++ behind
        = before ++ raw ++ [d.separator] ++ d.joinRaw (second :: rest) ++ behind := by
      simp [joinRaw_cons_cons]
    have hend : before.length + (d.joinRaw (raw :: second :: rest)).length
        = (before ++ raw ++ [d.separator]).length + (d.joinRaw (second :: rest)).length := by
      rw [hlen, joinRaw_cons_cons, List.length_append, List.length_cons]
      omega
    rw [← hlen] at hothers
    refine ⟨hstart, hstop ▸ Nat.le_add_right _ _, ?_, ?_⟩
    · rw [htext, hstop, ← List.length_append]
      simp
    · rw [htext, hend, hstop, ← hlen]
      exact tilesApart_placePieces behind rest hothers

theorem encloses_of_readChain {body : Text} (hb : d.isBody body) (before behind : Text)
    {filters : Chain} (h : d.readChain body (before.length + 1) = .ok filters) :
    d.Encloses (before ++ (d.opening :: body ++ [d.closing]) ++ behind) before.length
      (before.length + (body.length + 2)) filters := by
  refine ⟨by simp, ?_, ?_⟩
  · rw [show before.length + (body.length + 2) - 1 = before.length + 1 + body.length by omega]
    by_cases hn : body = []
    · rw [readChain, if_pos hn] at h
      obtain rfl := Except.ok.inj h
      rw [hn]
      rfl
    · obtain ⟨raw, rest, hr, rfl⟩ := d.exists_raws (d.isPaired_of_isBody hb)
      rw [d.readChain_joinRaw hr hn, ← List.length_concat (a := d.opening)] at h
      have ht := d.tilesApart_placePieces (d.closing :: behind) rest (map_span_of_readPieces h)
      rw [List.length_concat] at ht
      simpa using ht
  · rw [List.getElem?_append_left (by simp), List.getElem?_append_right (by omega)]
    simp

/-- The filters of every chain fill what stands between its delimiters. -/
theorem encloses_of_compile {text : Text} {template : Template} (h : d.compile text = .ok template)
    {segment : Located Segment} (hs : segment ∈ template.segments) {filters : Chain}
    (hv : segment.value = .chain filters) :
    d.Encloses text segment.start segment.stop filters := by
  obtain ⟨-, tokens, ht, hr⟩ := d.compile_eq_ok_iff.1 h
  obtain ⟨token, hm, hread⟩ := d.exists_token_of_readTokens hr segment hs
  obtain ⟨before, behind, rfl, hstart, hstop⟩ := d.exists_around_of_split ht hm
  have hb := d.isBody_of_split ht
  rcases token with ⟨text | body, start, stop⟩
  · obtain rfl := Except.ok.inj hread
    cases hv
  · obtain ⟨filters, hf, rfl⟩ := Except.map_eq_ok_iff.1 hread
    obtain rfl := Segment.chain.inj hv
    obtain rfl : start = before.length := hstart
    obtain rfl : stop = before.length + (d.opening :: body ++ [d.closing]).length := hstop
    have he := d.encloses_of_readChain (hb body (List.mem_map.2 ⟨_, hm, rfl⟩)) before behind hf
    simpa [writeToken] using he

theorem tiles_of_compile {text : Text} {template : Template} (h : d.compile text = .ok template) :
    Tiles 0 template.segments text.length := by
  obtain ⟨-, located, ht, hr⟩ := d.compile_eq_ok_iff.1 h
  obtain ⟨tokens, -, rfl, rfl⟩ := d.exists_canonical_of_split ht
  have hp := d.tiles_place 0 tokens
  rw [Nat.zero_add] at hp
  exact tiles_of_map_span_eq (d.map_span_of_readTokens hr).symm hp

/-! ## Fragments -/

theorem joinParts_explain {text : Text} {template : Template} (h : d.compile text = .ok template)
    {segment : Located Segment} (hs : segment ∈ template.segments) :
    d.joinParts segment.value ((Segment.explain text segment).map (·.1))
      = segment.fragment text := by
  rcases segment with ⟨literal | _ | ⟨filter, filters⟩, start, stop⟩
  · simp [joinParts, Segment.filters, Segment.explain, Located.fragment]
  · simp [joinParts, Segment.filters, Segment.explain, Located.fragment]
  · have he := (d.encloses_of_compile h hs rfl).joinParts_fragment d (List.cons_ne_nil _ _)
    simp only [Segment.explain, List.map_map]
    exact he

/-- The fragments of a template's explanation make up its source. -/
theorem rebuild_explain {text : Text} {template : Template} (h : d.compile text = .ok template) :
    d.rebuild (template.segments.map (·.value)) (template.explain.map (·.1)) = text := by
  have hsource := (d.compile_eq_ok_iff.1 h).1
  have hlen (segment : Located Segment) :
      ((Segment.explain text segment).map (·.1)).length = segment.value.partCount := by
    rw [List.length_map, Segment.length_explain]
  rw [Template.explain, List.map_flatMap, hsource, d.rebuild_flatMap hlen,
    List.flatMap_congr fun _ hs => d.joinParts_explain h hs,
    (d.tiles_of_compile h).flatMap_fragment text]
  simp [Text.slice]

theorem rawPiece_add {raw : Text} (h : d.isRaw raw) (i n : ℕ) :
    d.rawPiece raw (i + n) = (d.rawPiece raw i).shift n := by
  have hall : ∀ r ∈ [raw], d.isRaw r := by simpa using h
  have hp (i : ℕ) : d.pieces raw i = .ok (d.rawPiece raw i, []) := d.pieces_joinRaw hall
  have ha := d.pieces_add n raw i
  rw [hp, hp] at ha
  exact (Prod.mk.inj (Except.ok.inj ha)).1

/-- A raw text that spells a filter in a template spells it alone. -/
theorem readLoneChain_raw {raw : Text} (hr : d.isRaw raw) {i : ℕ} {filter : Located Filter}
    (h : (d.rawPiece raw i).read = .ok filter) :
    d.readLoneChain raw = .ok ⟨[⟨filter.value, 0, raw.length⟩], -1, raw.length + 1⟩ := by
  obtain ⟨hread, -⟩ := Piece.read_eq_ok_iff.1 h
  have hn : d.joinRaw [raw] ≠ [] := by
    rintro rfl
    cases hread
  rw [← Nat.zero_add i, d.rawPiece_add hr, Piece.text_shift] at hread
  have hp : (d.rawPiece raw 0).read = .ok ⟨filter.value, 0, raw.length⟩ :=
    Piece.read_eq_ok_iff.2 ⟨hread, by simp [Located.span, rawPiece]⟩
  have hall : ∀ r ∈ [raw], d.isRaw r := by simpa using hr
  have hc := d.readChain_joinRaw hall hn 0
  rw [joinRaw_singleton, placePieces, readPieces, hp] at hc
  rw [readLoneChain, hc]
  rfl

theorem Site.slice_eq {d : Delimiters} (site : d.Site) :
    Text.slice (d.writeTokens site.tokens) site.piece.start site.piece.stop = site.raw := by
  rw [Text.slice, site.take_eq]
  exact List.drop_left

/-- The fragment of a filter spells this filter and no other. -/
theorem readLoneChain_fragment {text : Text} {template : Template}
    (h : d.compile text = .ok template) {segment : Located Segment}
    (hs : segment ∈ template.segments) {filter : Located Filter}
    (hf : filter ∈ segment.value.filters) :
    d.readLoneChain (filter.fragment text)
      = .ok ⟨[⟨filter.value, 0, (filter.fragment text).length⟩], -1,
        (filter.fragment text).length + 1⟩ := by
  obtain ⟨-, tokens, ht, hr⟩ := d.compile_eq_ok_iff.1 h
  have hp := d.readTokens_filterTexts (d.isBody_of_split ht)
  rw [hr, Except.map_ok_eq] at hp
  obtain ⟨piece, hmem, hread⟩ :=
    exists_piece_of_readPieces hp.symm filter (List.mem_flatMap.2 ⟨segment, hs, hf⟩)
  obtain ⟨before, behind, hb⟩ := List.append_of_mem hmem
  obtain ⟨site, rfl, -, -, rfl⟩ := d.exists_site ht hb
  obtain ⟨hstart, hstop⟩ := Prod.mk.inj (Piece.read_eq_ok_iff.1 hread).2
  have hfragment : filter.fragment (d.writeTokens site.tokens) = site.raw := by
    rw [Located.fragment, hstart, hstop, site.slice_eq]
  rw [hfragment]
  exact d.readLoneChain_raw site.isRaw_raw hread

/-- An explanation takes the source apart without loss. Its fragments, those of a chain's filters
put between delimiters and separators again, make up the source: the segments tile it, and the
filters of a chain tile what stands between the chain's delimiters, one separator apart. There is
one part for each literal, each chain without filters and each filter; and the fragment of a filter,
read as the inside of a chain, is that filter alone. -/
theorem compile_explain {text : Text} {template : Template} (h : d.compile text = .ok template) :
    d.rebuild (template.segments.map (·.value)) (template.explain.map (·.1)) = text
    ∧ Tiles 0 template.segments text.length
    ∧ (∀ segment ∈ template.segments, ∀ filters, segment.value = .chain filters →
        d.Encloses text segment.start segment.stop filters)
    ∧ template.explain.length
      = template.literalCount + template.emptyChainCount + template.filterCount
    ∧ ∀ segment ∈ template.segments, ∀ filter ∈ segment.value.filters,
        (filter.fragment text, filter.value.describe) ∈ template.explain
        ∧ d.readLoneChain (filter.fragment text)
          = .ok ⟨[⟨filter.value, 0, (filter.fragment text).length⟩], -1,
            (filter.fragment text).length + 1⟩ := by
  refine ⟨d.rebuild_explain h, d.tiles_of_compile h, fun _ hs _ hv => d.encloses_of_compile h hs hv,
    template.length_explain, fun segment hs filter hf => ⟨?_, d.readLoneChain_fragment h hs hf⟩⟩
  rw [Template.explain, (d.compile_eq_ok_iff.1 h).1]
  exact List.mem_flatMap.2 ⟨segment, hs, Segment.mem_explain text hf⟩

/-- Behind a literal that ends with a doubled delimiter stands a chain whose first filter has
separators of its own, and behind that an empty one. -/
theorem compile_explain_protected :
    let text : Text := ['a', '\x7b', '\x7b', '\x7b', 'r', '\\', '|', 'x', '\\', '|', 'y', '|', '^',
      '\x7d', '\x7b', '\x7d']
    let replace : Text := ['r', '\\', '|', 'x', '\\', '|', 'y']
    ∃ template, (default : Delimiters).compile text = .ok template
      ∧ template.explain.map (·.1) = [['a', '\x7b', '\x7b'], replace, ['^'], ['\x7b', '\x7d']]
      ∧ (default : Delimiters).rebuild (template.segments.map (·.value))
        [['a', '\x7b', '\x7b'], replace, ['^'], ['\x7b', '\x7d']] = text
      ∧ (default : Delimiters).Encloses text 3 14
        [⟨.replace ['x'] ['y'] false, 4, 11⟩, ⟨.uppercase, 12, 13⟩]
      ∧ template.literalCount + template.emptyChainCount + template.filterCount = 4
      ∧ (default : Delimiters).readLoneChain replace
        = .ok ⟨[⟨.replace ['x'] ['y'] false, 0, 7⟩], -1, 8⟩ := by
  intro text replace
  have h : (default : Delimiters).compile text = .ok ⟨text, [⟨.literal ['a', '\x7b'], 0, 3⟩,
      ⟨.chain [⟨.replace ['x'] ['y'] false, 4, 11⟩, ⟨.uppercase, 12, 13⟩], 3, 14⟩,
      ⟨.chain [], 14, 16⟩]⟩ := by
    rfl
  obtain ⟨rebuilt, -, enclosed, count, alone⟩ := compile_explain default h
  refine ⟨_, h, rfl, rebuilt, ?_, count.symm, ?_⟩
  · exact enclosed ⟨_, 3, 14⟩ (by simp) _ rfl
  · exact (alone ⟨_, 3, 14⟩ (.tail _ (.head _)) _ (.head _)).2

end Delimiters

end FilterTemplate
