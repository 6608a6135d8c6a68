import Mathlib
import FilterTemplate.Proofs.Except
import FilterTemplate.Template.Basic

/-!
# Tokens and their segments

Each token is read by itself into one segment, which has the token's span. So a template is read
where its text is split and all tokens are read (`compile_eq_ok_iff`), and its segments stand where
the tokens stood (`map_span_of_readTokens`).
-/

namespace FilterTemplate

/-- Where a part starts and where it stops. -/
def Located.span {α : Type} (part : Located α) : ℕ × ℕ := (part.start, part.stop)

/-- The text of a piece, where the piece stands. -/
def Piece.located (piece : Piece) : Located Text := ⟨piece.text, piece.start, piece.stop⟩

theorem Piece.read_eq_ok_iff {piece : Piece} {filter : Located Filter} :
    piece.read = .ok filter
      ↔ Filter.read piece.text = .ok filter.value ∧ filter.span = (piece.start, piece.stop) := by
  rcases filter with ⟨value, start, stop⟩
  unfold read
  rcases Filter.read piece.text with misreading | found
  · simp
  · simp only [Except.ok.injEq, Located.mk.injEq, Located.span, Prod.mk.injEq]
    tauto

theorem readPieces_cons_eq_ok {piece : Piece} {rest : List Piece} {filters : Chain}
    (h : readPieces (piece :: rest) = .ok filters) :
    ∃ filter more, piece.read = .ok filter ∧ readPieces rest = .ok more
      ∧ filter :: more = filters := by
  obtain ⟨filter, hf, h⟩ := Except.bind_eq_ok_iff.1 h
  obtain ⟨more, hm, h⟩ := Except.bind_eq_ok_iff.1 h
  exact ⟨filter, more, hf, hm, Except.ok.inj h⟩

theorem exists_piece_of_readPieces : ∀ {pieces : List Piece} {filters : Chain},
    readPieces pieces = .ok filters → ∀ filter ∈ filters, ∃ piece ∈ pieces, piece.read = .ok filter
  | [], filters, h => by
    obtain rfl := Except.ok.inj h
    simp
  | piece :: rest, filters, h => by
    obtain ⟨first, more, hf, hm, rfl⟩ := readPieces_cons_eq_ok h
    intro filter hmem
    rcases List.mem_cons.1 hmem with rfl | hmem
    · exact ⟨piece, List.mem_cons_self, hf⟩
    · obtain ⟨found, hp, hr⟩ := exists_piece_of_readPieces hm filter hmem
      exact ⟨found, List.mem_cons_of_mem _ hp, hr⟩

/-- Filters stand where their pieces stand. -/
theorem map_span_of_readPieces : ∀ {pieces : List Piece} {filters : Chain},
    readPieces pieces = .ok filters →
      filters.map Located.span = (pieces.map Piece.located).map Located.span
  | [], filters, h => by
    obtain rfl := Except.ok.inj h
    rfl
  | piece :: rest, filters, h => by
    obtain ⟨filter, more, hf, hm, rfl⟩ := readPieces_cons_eq_ok h
    rw [List.map_cons, List.map_cons, List.map_cons, (Piece.read_eq_ok_iff.1 hf).2,
      map_span_of_readPieces hm]
    rfl

namespace Delimiters

variable (d : Delimiters)

theorem readTokens_cons {token : Located Token} {segment : Located Segment}
    (h : d.readToken token = .ok segment) (rest : List (Located Token)) :
    d.readTokens (token :: rest) = (d.readTokens rest).map (segment :: ·) := by
  rw [readTokens, h]
  rcases d.readTokens rest with failure | segments <;> rfl

theorem readTokens_cons_eq_ok {token : Located Token} {rest : List (Located Token)}
    {segments : List (Located Segment)} (h : d.readTokens (token :: rest) = .ok segments) :
    ∃ segment more, d.readToken token = .ok segment ∧ d.readTokens rest = .ok more
      ∧ segment :: more = segments := by
  obtain ⟨segment, hs, h⟩ := Except.bind_eq_ok_iff.1 h
  obtain ⟨more, hm, h⟩ := Except.bind_eq_ok_iff.1 h
  exact ⟨segment, more, hs, hm, Except.ok.inj h⟩

theorem exists_token_of_readTokens : ∀ {tokens : List (Located Token)}
    {segments : List (Located Segment)}, d.readTokens tokens = .ok segments →
      ∀ segment ∈ segments, ∃ token ∈ tokens, d.readToken token = .ok segment
  | [], segments, h => by
    obtain rfl := Except.ok.inj h
    simp
  | token :: rest, segments, h => by
    obtain ⟨first, more, hf, hm, rfl⟩ := d.readTokens_cons_eq_ok h
    intro segment hmem
    rcases List.mem_cons.1 hmem with rfl | hmem
    · exact ⟨token, List.mem_cons_self, hf⟩
    · obtain ⟨found, ht, hr⟩ := exists_token_of_readTokens hm segment hmem
      exact ⟨found, List.mem_cons_of_mem _ ht, hr⟩

theorem span_of_readToken : ∀ {token : Located Token} {segment : Located Segment},
    d.readToken token = .ok segment → segment.span = token.span
  | ⟨.literal text, start, stop⟩, segment, h => by
    obtain rfl := Except.ok.inj h
    rfl
  | ⟨.chain body, start, stop⟩, segment, h => by
    obtain ⟨filters, -, rfl⟩ := Except.map_eq_ok_iff.1 h
    rfl

/-- Segments stand where their tokens stood. -/
theorem map_span_of_readTokens : ∀ {tokens : List (Located Token)}
    {segments : List (Located Segment)}, d.readTokens tokens = .ok segments →
      segments.map Located.span = tokens.map Located.span
  | [], segments, h => by
    obtain rfl := Except.ok.inj h
    rfl
  | token :: rest, segments, h => by
    obtain ⟨segment, more, hs, hm, rfl⟩ := d.readTokens_cons_eq_ok h
    rw [List.map_cons, List.map_cons, d.span_of_readToken hs, map_span_of_readTokens hm]

theorem compile_eq_ok_iff {text : Text} {template : Template} :
    d.compile text = .ok template
      ↔ template.source = text
        ∧ ∃ tokens, d.split text = .ok tokens ∧ d.readTokens tokens = .ok template.segments := by
  unfold compile
  rcases d.split text with fault | tokens
  · simp
  · constructor
    · intro h
      obtain ⟨segments, hs, rfl⟩ := Except.map_eq_ok_iff.1 h
      exact ⟨rfl, tokens, rfl, hs⟩
    · rintro ⟨rfl, tokens', ht, hs⟩
      obtain rfl := Except.ok.inj ht
      exact Except.map_eq_ok_iff.2 ⟨_, hs, rfl⟩

end Delimiters

end FilterTemplate
