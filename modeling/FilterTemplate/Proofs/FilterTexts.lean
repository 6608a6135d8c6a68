import Mathlib
import FilterTemplate.Proofs.Concatenation
import FilterTemplate.Proofs.Pieces

/-!
# The texts of the filters

A template's filters are spelled by the pieces of its chains, in the order of the source
(`filterTexts`). Reading a template comes to reading these pieces one after the other
(`readTokens_filterTexts`), so it fails at the first one that cannot be read. Each piece has a site
in its template (`Site`): whole filters stand in front of it, and a separator or the end of the
chain behind it. What comes after that is never asked for (`Site.compile_front`).
-/

namespace FilterTemplate

/-! ## Reading pieces -/

/-- Whether the piece is the first one that cannot be read, and how it fails. -/
def FailsFirst (pieces : List Piece) (piece : Piece) (failure : Failure) : Prop :=
  ∃ before behind, pieces = before ++ piece :: behind
    ∧ (∀ other ∈ before, ∃ filter, other.read = .ok filter) ∧ piece.read = .error failure

theorem readPieces_append (others : List Piece) : ∀ pieces : List Piece,
    readPieces (pieces ++ others)
      = (readPieces pieces).bind fun filters => (readPieces others).map (filters ++ ·)
  | [] => by
    rcases ho : readPieces others with failure | filters <;> simp [readPieces, Except.bind, ho]
  | piece :: rest => by
    simp only [List.cons_append, readPieces, readPieces_append others rest]
    rcases piece.read with failure | filter
    · rfl
    · rcases readPieces rest with failure | filters
      · rfl
      · rcases readPieces others with failure | more <;> rfl

theorem exists_readPieces_iff : ∀ {pieces : List Piece},
    (∃ filters, readPieces pieces = .ok filters)
      ↔ ∀ piece ∈ pieces, ∃ filter, piece.read = .ok filter
  | [] => by simp [readPieces]
  | piece :: rest => by
    have ih : (∃ filters, readPieces rest = .ok filters)
        ↔ ∀ piece ∈ rest, ∃ filter, piece.read = .ok filter := exists_readPieces_iff
    rw [List.forall_mem_cons, ← ih]
    constructor
    · rintro ⟨filters, h⟩
      obtain ⟨filter, hf, h⟩ := Except.bind_eq_ok_iff.1 h
      obtain ⟨more, hm, -⟩ := Except.bind_eq_ok_iff.1 h
      exact ⟨⟨filter, hf⟩, more, hm⟩
    · rintro ⟨⟨filter, hf⟩, more, hm⟩
      exact ⟨filter :: more, by simp only [readPieces, hf, hm]; rfl⟩

theorem readPieces_eq_error_iff {failure : Failure} : ∀ {pieces : List Piece},
    readPieces pieces = .error failure ↔ ∃ piece, FailsFirst pieces piece failure
  | [] => by simp [readPieces, FailsFirst]
  | piece :: rest => by
    have ih : readPieces rest = .error failure ↔ ∃ piece, FailsFirst rest piece failure :=
      readPieces_eq_error_iff
    rw [readPieces, Except.bind_eq_error_iff]
    constructor
    · rintro (h | ⟨filter, hf, h⟩)
      · exact ⟨piece, [], rest, rfl, by simp, h⟩
      · have hr : readPieces rest = .error failure := by
          rcases Except.bind_eq_error_iff.1 h with h | ⟨filters, -, h⟩
          · exact h
          · cases h
        obtain ⟨found, before, behind, rfl, hb, he⟩ := ih.1 hr
        refine ⟨found, piece :: before, behind, rfl, ?_, he⟩
        exact List.forall_mem_cons.2 ⟨⟨filter, hf⟩, hb⟩
    · rintro ⟨found, before, behind, hp, hb, he⟩
      rcases before with _ | ⟨first, before⟩
      · obtain ⟨rfl, rfl⟩ := List.cons.inj hp
        exact .inl he
      · obtain ⟨rfl, rfl⟩ := List.cons.inj hp
        obtain ⟨⟨filter, hf⟩, hb⟩ := List.forall_mem_cons.1 hb
        have hr := ih.2 ⟨found, before, behind, rfl, hb, he⟩
        exact .inr ⟨filter, hf, Except.bind_eq_error_iff.2 (.inl hr)⟩

/-- A member of a list that is put together from parts stands in one of the parts. -/
theorem exists_of_flatMap {α β : Type} {f : α → List β} {x : β} {behind : List β} :
    ∀ {parts : List α} {before : List β}, parts.flatMap f = before ++ x :: behind →
      ∃ first part rest front back, parts = first ++ part :: rest
        ∧ first.flatMap f ++ front = before ∧ f part = front ++ x :: back
  | [], before, h => by simp at h
  | part :: parts, before, h => by
    rw [List.flatMap_cons] at h
    rcases List.append_eq_append_iff.1 h with ⟨others, rfl, ho⟩ | ⟨_ | ⟨first, back⟩, hb, ho⟩
    · obtain ⟨first, found, rest, front, back, rfl, rfl, hf⟩ := exists_of_flatMap ho
      exact ⟨part :: first, found, rest, front, back, rfl, by simp, hf⟩
    · -- the part ends just before the member, which the ones behind it have first
      have hp : parts.flatMap f = [] ++ x :: behind := ho.symm
      obtain ⟨first, found, rest, front, back, rfl, hnil, hf⟩ := exists_of_flatMap hp
      refine ⟨part :: first, found, rest, front, back, rfl, ?_, hf⟩
      rw [List.flatMap_cons, List.append_assoc, hnil, hb, List.append_nil, List.append_nil]
    · obtain ⟨rfl, -⟩ := List.cons.inj ho
      exact ⟨[], part, parts, before, back, rfl, rfl, hb⟩

namespace Delimiters

variable (d : Delimiters)

/-! ## The pieces of a template -/

/-- The texts of the filters of a token. -/
def filterTexts : Located Token → List Piece
  | ⟨.literal _, _, _⟩ => []
  | ⟨.chain body, start, _⟩ =>
    if body = [] then []
    else
      match d.pieces body (start + 1) with
      | .error _ => []
      | .ok (piece, more) => piece :: more

theorem readChain_joinRaw {raws : List Text} (h : ∀ r ∈ raws, d.isRaw r)
    (hn : d.joinRaw raws ≠ []) (i : ℕ) :
    d.readChain (d.joinRaw raws) i = readPieces (d.placePieces i raws) := by
  rcases raws with _ | ⟨raw, rest⟩
  · exact absurd rfl hn
  · simp only [readChain, if_neg hn, d.pieces_joinRaw h]
    rfl

theorem filterTexts_joinRaw {raws : List Text} (h : ∀ r ∈ raws, d.isRaw r)
    (hn : d.joinRaw raws ≠ []) (start stop : ℕ) :
    d.filterTexts ⟨.chain (d.joinRaw raws), start, stop⟩ = d.placePieces (start + 1) raws := by
  rcases raws with _ | ⟨raw, rest⟩
  · exact absurd rfl hn
  · simp only [filterTexts, if_neg hn, d.pieces_joinRaw h]
    rfl

theorem readChain_filterTexts {body : Text} (h : d.isBody body) (start stop : ℕ) :
    d.readChain body (start + 1) = readPieces (d.filterTexts ⟨.chain body, start, stop⟩) := by
  by_cases hn : body = []
  · simp [readChain, filterTexts, hn, readPieces]
  · obtain ⟨raw, rest, hr, rfl⟩ := d.exists_raws (d.isPaired_of_isBody h)
    rw [d.readChain_joinRaw hr hn, d.filterTexts_joinRaw hr hn]

/-- A template's filters are those that its pieces spell. -/
theorem readTokens_filterTexts : ∀ {tokens : List (Located Token)},
    (∀ body, .chain body ∈ tokens.map (·.value) → d.isBody body) →
      (d.readTokens tokens).map (fun segments => segments.flatMap (·.value.filters))
        = readPieces (tokens.flatMap d.filterTexts)
  | [], _ => rfl
  | ⟨.literal text, start, stop⟩ :: rest, h => by
    have ih := readTokens_filterTexts fun body (hb : .chain body ∈ rest.map (·.value)) =>
      h body (.tail _ hb)
    have hl : d.readToken ⟨.literal text, start, stop⟩ = .ok ⟨.literal text, start, stop⟩ := rfl
    rw [d.readTokens_cons hl, Except.map_map_eq]
    exact ih
  | ⟨.chain body, start, stop⟩ :: rest, h => by
    have ih := readTokens_filterTexts fun body (hb : .chain body ∈ rest.map (·.value)) =>
      h body (.tail _ hb)
    have hc := d.readChain_filterTexts (h body (.head _)) start stop
    rw [List.flatMap_cons, readPieces_append, ← ih, ← hc, readTokens, readToken]
    rcases d.readChain body (start + 1) with failure | filters
    · rfl
    · rcases d.readTokens rest with failure | segments <;> rfl

theorem isBody_of_split {text : Text} {tokens : List (Located Token)}
    (h : d.split text = .ok tokens) :
    ∀ body, .chain body ∈ tokens.map (·.value) → d.isBody body := by
  obtain ⟨tokens, hc, -, rfl⟩ := d.exists_canonical_of_split h
  rw [map_value_place]
  exact hc.bodies

/-- A template is compiled if all its filters' texts can be read, and fails as the first of them
fails that cannot. -/
theorem compile_eq_error_iff {text : Text} {tokens : List (Located Token)}
    (h : d.split text = .ok tokens) {failure : Failure} :
    d.compile text = .error failure
      ↔ ∃ piece, FailsFirst (tokens.flatMap d.filterTexts) piece failure := by
  rw [← readPieces_eq_error_iff, ← d.readTokens_filterTexts (d.isBody_of_split h),
    Except.map_eq_error_iff]
  simp only [compile, h, Except.map_eq_error_iff]

theorem exists_compile_iff {text : Text} {tokens : List (Located Token)}
    (h : d.split text = .ok tokens) :
    (∃ template, d.compile text = .ok template)
      ↔ ∀ piece ∈ tokens.flatMap d.filterTexts, ∃ filter, piece.read = .ok filter := by
  rw [← exists_readPieces_iff, ← d.readTokens_filterTexts (d.isBody_of_split h)]
  simp only [compile, h]
  rcases d.readTokens tokens with failure | segments <;> simp

/-! ## Where a filter's text stands -/

theorem place_append (others : List Token) : ∀ (i : ℕ) (tokens : List Token),
    d.place i (tokens ++ others)
      = d.place i tokens ++ d.place (i + (d.writeTokens tokens).length) others
  | _, [] => rfl
  | i, token :: rest => by
    have ih := place_append others (i + (d.writeToken token).length) rest
    rw [List.cons_append, place, place, ih, writeTokens, writeTokens, List.flatMap_cons,
      List.length_append, Nat.add_assoc]
    rfl

/-- The text of a filter in a template: the tokens before and after its chain, and the raw texts
before and after it in the chain. -/
structure Site where
  earlier : List Token
  front : List Text
  raw : Text
  rest : List Text
  later : List Token
  isRaw : ∀ r ∈ front ++ raw :: rest, d.isRaw r
  nonempty : d.joinRaw (front ++ raw :: rest) ≠ []
  canonical : d.Canonical (earlier ++ .chain (d.joinRaw (front ++ raw :: rest)) :: later)

namespace Site

variable {d} (site : d.Site)

def body : Text := d.joinRaw (site.front ++ site.raw :: site.rest)

def tokens : List Token := site.earlier ++ .chain site.body :: site.later

/-- Where the chain is opened. -/
def opened : ℕ := (d.writeTokens site.earlier).length

/-- The token of the chain. -/
def token : Located Token :=
  ⟨.chain site.body, site.opened, site.opened + (site.body.length + 2)⟩

/-- What stands before the filter's text. -/
def lead : Text := d.writeTokens site.earlier ++ d.opening :: d.separated site.front

/-- The filters' texts before this one. -/
def before : List Piece :=
  (d.place 0 site.earlier).flatMap d.filterTexts ++ d.placePieces (site.opened + 1) site.front

def piece : Piece := d.rawPiece site.raw site.lead.length

theorem length_lead : site.lead.length = site.opened + 1 + (d.separated site.front).length := by
  rw [lead, List.length_append, List.length_cons, opened]
  omega

theorem canonical_earlier : d.Canonical site.earlier where
  nonempty h := site.canonical.nonempty (List.mem_append_left _ h)
  apart := site.canonical.apart.left_of_append
  bodies body h := site.canonical.bodies body (List.mem_append_left _ h)

theorem place_tokens : d.place 0 site.tokens = d.place 0 site.earlier ++ site.token
    :: d.place (site.opened + (site.body.length + 2)) site.later := by
  rw [tokens, place_append, place, Nat.zero_add, token, opened, writeToken, List.length_append,
    List.length_cons, List.length_singleton]

theorem filterTexts_token : d.filterTexts site.token
    = d.placePieces (site.opened + 1) site.front
      ++ site.piece :: d.placePieces (site.piece.stop + 1) site.rest := by
  rw [token, body, d.filterTexts_joinRaw site.isRaw site.nonempty, placePieces_append, placePieces,
    ← length_lead]
  rfl

theorem split_text : d.split (d.writeTokens site.tokens) = .ok (d.place 0 site.tokens) :=
  d.split_writeTokens site.canonical

theorem exists_filterTexts : ∃ behind,
    (d.place 0 site.tokens).flatMap d.filterTexts = site.before ++ site.piece :: behind := by
  rw [place_tokens, List.flatMap_append, List.flatMap_cons, filterTexts_token, before]
  simp only [List.append_assoc, List.cons_append]
  exact ⟨_, rfl⟩

theorem isRaw_raw : d.isRaw site.raw := site.isRaw _ (by simp)

theorem start_eq : site.piece.start = site.lead.length := rfl

theorem stop_eq : site.piece.stop = site.lead.length + site.raw.length := rfl

theorem token_mem : site.token ∈ d.place 0 site.tokens := by
  rw [place_tokens]
  simp

/-- Behind a filter's text its chain ends, or a separator stands there. -/
theorem exists_body_eq : ∃ tail, site.body = d.separated site.front ++ site.raw ++ tail
    ∧ (tail = [] ∨ ∃ text, tail = d.separator :: text) := by
  obtain ⟨tail, hj, ht⟩ := d.exists_joinRaw_cons site.raw site.rest
  exact ⟨tail, by rw [body, joinRaw_append, hj, List.append_assoc], ht⟩

theorem exists_text_eq : ∃ ending behind,
    d.writeTokens site.tokens = site.lead ++ site.raw ++ ending :: behind := by
  have hw : d.writeTokens site.tokens = d.writeTokens site.earlier
      ++ (d.opening :: site.body ++ [d.closing]) ++ d.writeTokens site.later := by
    simp [tokens, writeTokens, writeToken]
  obtain ⟨tail, hb, rfl | ⟨text, rfl⟩⟩ := site.exists_body_eq
  · refine ⟨d.closing, d.writeTokens site.later, ?_⟩
    rw [hw, hb, lead]
    simp
  · refine ⟨d.separator, text ++ d.closing :: d.writeTokens site.later, ?_⟩
    rw [hw, hb, lead]
    simp

theorem take_eq : (d.writeTokens site.tokens).take site.piece.stop = site.lead ++ site.raw := by
  obtain ⟨ending, behind, hw⟩ := site.exists_text_eq
  rw [hw]
  exact List.take_left' (by rw [List.length_append, site.stop_eq])

/-- A filter's text is what stands in the source at its span. -/
theorem piece_eq : site.piece = d.rawPiece
    (Text.slice (d.writeTokens site.tokens) site.piece.start site.piece.stop) site.piece.start := by
  rw [Text.slice, site.take_eq]
  exact congrArg (d.rawPiece · site.lead.length) (List.drop_left).symm

theorem lt_start : site.token.start < site.piece.start := by
  have ht : site.token.start = site.opened := rfl
  rw [start_eq, ht, length_lead]
  omega

theorem stop_lt : site.piece.stop < site.token.stop := by
  obtain ⟨tail, hb, -⟩ := site.exists_body_eq
  have ht : site.token.stop = site.opened + (site.body.length + 2) := rfl
  rw [stop_eq, ht, length_lead, hb, List.length_append, List.length_append]
  omega

theorem stop_lt_length : site.piece.stop < (d.writeTokens site.tokens).length := by
  obtain ⟨ending, behind, hw⟩ := site.exists_text_eq
  rw [hw, stop_eq, List.length_append, List.length_append, List.length_cons]
  omega

end Site

theorem exists_of_placePieces {piece : Piece} {behind : List Piece} :
    ∀ {i : ℕ} {raws : List Text} {before : List Piece},
      d.placePieces i raws = before ++ piece :: behind →
        ∃ front raw rest, raws = front ++ raw :: rest ∧ d.placePieces i front = before
          ∧ d.rawPiece raw (i + (d.separated front).length) = piece
  | i, [], before, h => by simp [placePieces] at h
  | i, raw :: rest, [], h => by
    obtain ⟨rfl, -⟩ := List.cons.inj h
    exact ⟨[], raw, rest, rfl, rfl, rfl⟩
  | i, raw :: rest, first :: before, h => by
    obtain ⟨rfl, hr⟩ := List.cons.inj h
    obtain ⟨front, found, others, rfl, rfl, rfl⟩ := exists_of_placePieces hr
    refine ⟨raw :: front, found, others, rfl, rfl, ?_⟩
    rw [separated_cons, List.length_append, List.length_cons]
    congr 1
    omega

theorem exists_of_place {found : Located Token} {behind : List (Located Token)} :
    ∀ {i : ℕ} {tokens : List Token} {before : List (Located Token)},
      d.place i tokens = before ++ found :: behind →
        ∃ earlier token later, tokens = earlier ++ token :: later ∧ d.place i earlier = before
          ∧ ⟨token, i + (d.writeTokens earlier).length,
            i + (d.writeTokens earlier).length + (d.writeToken token).length⟩ = found
  | i, [], before, h => by simp [place] at h
  | i, token :: rest, [], h => by
    obtain ⟨rfl, -⟩ := List.cons.inj h
    exact ⟨[], token, rest, rfl, rfl, rfl⟩
  | i, token :: rest, first :: before, h => by
    obtain ⟨rfl, hr⟩ := List.cons.inj h
    obtain ⟨earlier, next, later, rfl, rfl, rfl⟩ := exists_of_place hr
    refine ⟨token :: earlier, next, later, rfl, rfl, ?_⟩
    rw [writeTokens, List.flatMap_cons, List.length_append, ← Nat.add_assoc]
    rfl

/-- A token stands in the source where it was written. -/
theorem exists_around_of_split {text : Text} {tokens : List (Located Token)}
    (h : d.split text = .ok tokens) {token : Located Token} (ht : token ∈ tokens) :
    ∃ before behind, text = before ++ d.writeToken token.value ++ behind
      ∧ token.start = before.length
      ∧ token.stop = before.length + (d.writeToken token.value).length := by
  obtain ⟨tokens, -, rfl, rfl⟩ := d.exists_canonical_of_split h
  obtain ⟨before, behind, hp⟩ := List.append_of_mem ht
  obtain ⟨earlier, value, later, rfl, -, rfl⟩ := d.exists_of_place hp
  refine ⟨d.writeTokens earlier, d.writeTokens later, by simp [writeTokens], ?_, ?_⟩ <;>
    simp only [Nat.zero_add]

/-- Every filter's text of a template has its site there. -/
theorem exists_site {text : Text} {tokens : List (Located Token)} (h : d.split text = .ok tokens)
    {before behind : List Piece} {piece : Piece}
    (hp : tokens.flatMap d.filterTexts = before ++ piece :: behind) :
    ∃ site : d.Site, d.writeTokens site.tokens = text ∧ d.place 0 site.tokens = tokens
      ∧ site.before = before ∧ site.piece = piece := by
  obtain ⟨tokens, hc, rfl, rfl⟩ := d.exists_canonical_of_split h
  obtain ⟨first, found, others, front, back, hfound, rfl, ht⟩ := exists_of_flatMap hp
  obtain ⟨earlier, token, later, rfl, rfl, rfl⟩ := d.exists_of_place hfound
  rcases token with text | body
  · simp [filterTexts] at ht
  have hn : body ≠ [] := by
    rintro rfl
    simp [filterTexts] at ht
  obtain ⟨raw, rest, hr, rfl⟩ :=
    d.exists_raws (d.isPaired_of_isBody (hc.bodies body (by simp)))
  rw [d.filterTexts_joinRaw hr hn] at ht
  obtain ⟨front, found, others, hs, rfl, rfl⟩ := d.exists_of_placePieces ht
  rw [hs] at hr hn hc
  refine ⟨⟨earlier, front, found, others, later, hr, hn, hc⟩, ?_, ?_, ?_, ?_⟩
  · rw [hs]
    rfl
  · rw [hs]
    rfl
  · rw [Nat.zero_add]
    rfl
  · rw [Site.piece, Site.length_lead, Nat.zero_add]
    rfl

/-! ## The order of the filters' texts -/

theorem stop_lt_of_mem_placePieces {piece : Piece} : ∀ {i : ℕ} {raws : List Text},
    piece ∈ d.placePieces i raws → piece.stop < i + (d.separated raws).length
  | i, [], h => by simp [placePieces] at h
  | i, raw :: rest, h => by
    rw [separated_cons, List.length_append, List.length_cons]
    rcases List.mem_cons.1 h with rfl | h
    · have hp : (d.rawPiece raw i).stop = i + raw.length := rfl
      omega
    · have ih := stop_lt_of_mem_placePieces h
      omega

theorem stop_lt_of_mem_filterTexts {text : Text} {tokens : List (Located Token)}
    (h : d.split text = .ok tokens) {piece : Piece} (hp : piece ∈ tokens.flatMap d.filterTexts) :
    piece.stop < text.length := by
  obtain ⟨before, behind, hp⟩ := List.append_of_mem hp
  obtain ⟨site, rfl, -, -, rfl⟩ := d.exists_site h hp
  exact site.stop_lt_length

theorem Site.stop_lt_start {d : Delimiters} (site : d.Site) :
    ∀ piece ∈ site.before, piece.stop < site.piece.start := by
  intro piece hp
  rw [start_eq, length_lead]
  rcases List.mem_append.1 hp with hp | hp
  · have hlt := d.stop_lt_of_mem_filterTexts (d.split_writeTokens site.canonical_earlier) hp
    rw [← opened] at hlt
    omega
  · exact d.stop_lt_of_mem_placePieces hp

/-- The filters' texts stand one behind the other. -/
theorem pairwise_filterTexts {text : Text} {tokens : List (Located Token)}
    (h : d.split text = .ok tokens) :
    (tokens.flatMap d.filterTexts).Pairwise fun piece next => piece.stop < next.start := by
  refine List.pairwise_iff_getElem.2 fun i j hi hj hij => ?_
  have hp : tokens.flatMap d.filterTexts = (tokens.flatMap d.filterTexts).take j
      ++ (tokens.flatMap d.filterTexts)[j] :: (tokens.flatMap d.filterTexts).drop (j + 1) := by
    rw [← List.drop_eq_getElem_cons hj, List.take_append_drop]
  obtain ⟨site, -, -, hb, hs⟩ := d.exists_site h hp
  rw [← hs]
  refine site.stop_lt_start _ ?_
  rw [hb]
  exact List.mem_take_iff_getElem.2 ⟨i, by omega, rfl⟩

/-! ## What stands behind a filter's text -/

/-- A chain that starts so goes on behind a separator, or is closed. -/
theorem exists_chain_of_lexemes {inner behind : Text} {ending : Char} {i : ℕ} {found : List Lexeme}
    (hb : d.isBody inner) (he : ending = d.separator ∨ ending = d.closing)
    (h : d.lexemes (d.opening :: (inner ++ ending :: behind)) i = .ok found) :
    ∃ more others, found = .chain (inner ++ more) :: others
      ∧ (ending = d.closing ∧ more = [] ∨ ∃ text, more = d.separator :: text) := by
  have hne : ∃ next rest, inner ++ ending :: behind = next :: rest ∧ next ≠ d.opening := by
    rcases inner with _ | ⟨c, inner⟩
    · refine ⟨ending, behind, rfl, ?_⟩
      rcases he with rfl | rfl
      · exact (d.bounds_eq_false.1 d.bounds_separator).1
      · exact d.closing_ne_opening
    · obtain ⟨next, rest, hn, ho⟩ := d.head_body_ne_opening hb []
      obtain ⟨rfl, -⟩ := List.cons.inj hn
      exact ⟨c, _, rfl, ho⟩
  obtain ⟨next, rest, hn, ho⟩ := hne
  rw [hn, d.lexemes_opening ho, ← hn, d.chainLexemes_append i _ inner _ hb, Except.map_map_eq] at h
  obtain ⟨⟨more, others⟩, hm, rfl⟩ := Except.map_eq_ok_iff.1 h
  refine ⟨more, others, rfl, ?_⟩
  rcases he with rfl | rfl
  · rw [d.chainLexemes_plain i d.separator_ne_escape d.bounds_separator] at hm
    obtain ⟨⟨text, others'⟩, -, hp⟩ := Except.map_eq_ok_iff.1 hm
    obtain ⟨rfl, -⟩ := Prod.mk.inj hp
    exact .inr ⟨text, rfl⟩
  · rw [chainLexemes_closing] at hm
    obtain ⟨others', -, hp⟩ := Except.map_eq_ok_iff.1 hm
    obtain ⟨rfl, -⟩ := Prod.mk.inj hp
    exact .inl ⟨rfl, rfl⟩

theorem exists_canonical_of_proper {found : List Lexeme} (h : ∀ lexeme ∈ found, d.Proper lexeme) :
    ∃ tokens, d.Canonical tokens ∧ tokens.flatMap Token.lexemes = found := by
  obtain ⟨tokens, -, rfl, hn, ha⟩ := d.exists_place_eq_tokens 0 found
  refine ⟨tokens, ⟨hn, ha, fun body hb => ?_⟩, rfl⟩
  exact h (.chain body) (List.mem_flatMap.2 ⟨_, hb, by simp [Token.lexemes]⟩)

/-- A chain keeps the literals before it and those after it apart. -/
theorem canonical_append_chain {earlier later : List Token} {body : Text} (he : d.Canonical earlier)
    (hb : d.isBody body) (hl : d.Canonical later) :
    d.Canonical (earlier ++ .chain body :: later) where
  nonempty h := by
    simp only [List.mem_append, List.mem_cons, reduceCtorEq, false_or] at h
    exact h.elim he.nonempty hl.nonempty
  apart := by
    refine he.apart.append (hl.apart.cons ?_) ?_ <;> simp [Token.isLiteral]
  bodies text h := by
    simp only [List.mem_append, List.mem_cons, Token.chain.injEq] at h
    rcases h with h | rfl | h
    · exact he.bodies text h
    · exact hb
    · exact hl.bodies text h

namespace Site

variable {d} (site : d.Site)

theorem isPaired_inner : d.isPaired (d.separated site.front ++ site.raw) := by
  rw [d.isPaired_separated_append _ fun r hr => site.isRaw r (List.mem_append_left _ hr)]
  exact d.isPaired_of_isRaw site.isRaw_raw

theorem isBody_inner : d.isBody (d.separated site.front ++ site.raw) := by
  have hb : d.isBody (d.joinRaw (site.front ++ site.raw :: site.rest)) :=
    site.canonical.bodies _ (by simp)
  obtain ⟨tail, ht, -⟩ := site.exists_body_eq
  rw [body] at ht
  rw [ht, d.isBody_append _ site.isPaired_inner, Bool.and_eq_true] at hb
  exact hb.1

/-- A chain that goes on so has the same raw texts up to this one. -/
theorem exists_joinRaw {ending : Char} {more : Text}
    (he : ending = d.separator ∨ ending = d.closing ∧ site.opened + 1 < site.piece.stop)
    (hm : ending = d.closing ∧ more = [] ∨ ∃ text, more = d.separator :: text)
    (hb : d.isBody (d.separated site.front ++ site.raw ++ more)) :
    ∃ rest, (∀ r ∈ site.front ++ site.raw :: rest, d.isRaw r)
      ∧ d.joinRaw (site.front ++ site.raw :: rest) = d.separated site.front ++ site.raw ++ more
      ∧ d.separated site.front ++ site.raw ++ more ≠ [] := by
  have hraw : ∀ r ∈ site.front ++ [site.raw], d.isRaw r := by
    have h := site.isRaw
    simp only [List.forall_mem_append, List.forall_mem_cons] at h ⊢
    exact ⟨h.1, h.2.1, by simp⟩
  rcases hm with ⟨rfl, rfl⟩ | ⟨text, rfl⟩
  · rw [List.append_nil]
    refine ⟨[], hraw, d.joinRaw_append site.raw [] site.front, fun hnil => ?_⟩
    have hsc : d.closing ≠ d.separator := fun h => by simpa [← h] using d.bounds_separator
    obtain ⟨-, hlt⟩ := he.resolve_left hsc
    rw [stop_eq, length_lead, Nat.add_assoc, ← List.length_append, hnil, List.length_nil] at hlt
    omega
  · rw [d.isBody_append _ site.isPaired_inner, isBody_separator, Bool.and_eq_true] at hb
    obtain ⟨raw, rest, hr, rfl⟩ := d.exists_raws (d.isPaired_of_isBody hb.2)
    refine ⟨raw :: rest, ?_, ?_, by simp⟩
    · rw [List.append_cons]
      exact List.forall_mem_append.2 ⟨hraw, hr⟩
    · rw [joinRaw_append, joinRaw_cons_cons, List.append_assoc]

/-- Whatever stands behind a filter's text, the filters' texts up to it are the same. -/
theorem exists_front {ending : Char} {behind : Text} {located : List (Located Token)}
    (he : ending = d.separator ∨ ending = d.closing ∧ site.opened + 1 < site.piece.stop)
    (hs : d.split (site.lead ++ site.raw ++ ending :: behind) = .ok located) :
    ∃ other : d.Site, d.writeTokens other.tokens = site.lead ++ site.raw ++ ending :: behind
      ∧ other.before = site.before ∧ other.piece = site.piece := by
  have hw : site.lead ++ site.raw ++ ending :: behind = d.writeTokens site.earlier
      ++ d.opening :: (d.separated site.front ++ site.raw ++ ending :: behind) := by
    simp [lead]
  rw [hw] at hs ⊢
  obtain ⟨found, hf, -⟩ := Except.map_eq_ok_iff.1 hs
  have hearlier : d.lexemes (d.writeTokens site.earlier) 0
      = .ok (site.earlier.flatMap Token.lexemes) :=
    d.lexemes_eq_ok_iff.2
      ⟨d.written_flatMap_lexemes _, d.proper_lexemes site.canonical_earlier⟩
  rw [d.lexemes_append hearlier] at hf
  obtain ⟨found, hf, -⟩ := Except.map_eq_ok_iff.1 hf
  obtain ⟨more, others, rfl, hmore⟩ :=
    d.exists_chain_of_lexemes site.isBody_inner (he.imp_right And.left) hf
  obtain ⟨hwritten, hproper⟩ := d.lexemes_eq_ok_iff.1 hf
  obtain ⟨hbody, hproper⟩ := List.forall_mem_cons.1 hproper
  obtain ⟨rest, hr, hj, hn⟩ := site.exists_joinRaw he hmore hbody
  obtain ⟨later, hc, rfl⟩ := d.exists_canonical_of_proper hproper
  rw [Proper, ← hj] at hbody
  rw [← hj] at hn hwritten
  refine ⟨⟨site.earlier, site.front, site.raw, rest, later, hr, hn,
    d.canonical_append_chain site.canonical_earlier hbody hc⟩, ?_, rfl, rfl⟩
  rw [← hwritten, written_cons, written_flatMap_lexemes]
  simp [tokens, body, writeTokens, writeToken, write]

/-- Whatever stands behind the first text that cannot be read, a template fails there. -/
theorem compile_front {failure : Failure}
    (hb : ∀ piece ∈ site.before, ∃ filter, piece.read = .ok filter)
    (hf : site.piece.read = .error failure) {ending : Char} {behind : Text}
    (he : ending = d.separator ∨ ending = d.closing ∧ site.opened + 1 < site.piece.stop)
    {located : List (Located Token)}
    (hs : d.split (site.lead ++ site.raw ++ ending :: behind) = .ok located) :
    d.compile (site.lead ++ site.raw ++ ending :: behind) = .error failure := by
  obtain ⟨other, ht, hbefore, hpiece⟩ := site.exists_front he hs
  obtain ⟨after, hp⟩ := other.exists_filterTexts
  rw [← ht, d.compile_eq_error_iff other.split_text]
  exact ⟨site.piece, site.before, after, by rw [hp, hbefore, hpiece], hb, hf⟩

end Site

end Delimiters

end FilterTemplate
