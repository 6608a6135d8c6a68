import Mathlib
import FilterTemplate.Proofs.EscapeRuns

/-!
# The pieces of a chain as a code

Any texts can be written as the pieces of a chain's text, and are read from it again. Every text
that does not end in an odd run of escapes is cut into pieces (`pieces_eq_error_iff`), and nothing
of it gets lost: its pieces stand one separator apart, and a piece has the characters of its span
with their positions, without the escapes that protect a delimiter (`resolves_of_mem`).
-/

namespace FilterTemplate

namespace Delimiters

variable (d : Delimiters)

/-! ## What can be cut -/

theorem pieces_of_not_isPaired : ∀ {text : Text} {i : ℕ}, ¬ d.isPaired text →
    d.pieces text i = .error (d.danglingEscape (i + text.length - 1))
  | [], i, h => absurd rfl h
  | c :: text, i, h => by
    by_cases he : c = d.escape
    · subst he
      rcases text with _ | ⟨next, behind⟩
      · exact d.pieces_escape_end i
      · rw [isPaired_escape] at h
        have ih := pieces_of_not_isPaired (i := i + 2) h
        rw [pieces_escape, ih, Except.map_error_eq, List.length_cons, List.length_cons]
        congr 2
        omega
    · rw [d.isPaired_plain he] at h
      have ih := pieces_of_not_isPaired (i := i + 1) h
      rw [show i + 1 + text.length - 1 = i + (text.length + 1) - 1 by omega] at ih
      rw [List.length_cons]
      by_cases hs : c = d.separator
      · subst hs
        rw [d.pieces_separator he, ih, Except.map_error_eq]
      · rw [d.pieces_plain he hs, ih, Except.map_error_eq]

/-- A text is not cut exactly if it ends in an odd run of escapes; the last of them has nothing to
take. -/
theorem pieces_eq_error_iff {text : Text} {i : ℕ} {fault : Fault} :
    d.pieces text i = .error fault
      ↔ Odd (d.trailingEscapes text) ∧ fault = d.danglingEscape (i + text.length - 1) := by
  rw [← Nat.not_even_iff_odd, ← isPaired_iff_even]
  by_cases h : d.isPaired text
  · obtain ⟨raw, rest, hr, rfl⟩ := d.exists_raws h
    rw [d.pieces_joinRaw hr]
    simp [h]
  · rw [d.pieces_of_not_isPaired h]
    simp [h, eq_comm]

/-! ## What pieces leave out -/

/-- Whether a piece of a chain's text, which stands at position `i` of a source, has a position for
each of its characters, where the same character stands in the source, in the order of the source,
and no other position of its span is left out than those of the escapes that protect a delimiter. -/
structure Resolves (source text : Text) (i : ℕ) (piece : Piece) : Prop where
  length : piece.positions.length = piece.text.length
  increasing : piece.positions.Pairwise (· < ·)
  within : ∀ j ∈ piece.positions, piece.start ≤ j ∧ j < piece.stop
  char : ∀ k j : ℕ, piece.positions[k]? = some j → source[j]? = piece.text[k]?
  missing : ∀ j, piece.start ≤ j → j < piece.stop →
    (j ∉ piece.positions ↔ ∃ k, i + k = j ∧ d.Protects text k)

/-- In a text between others, its guards are those of the whole. -/
theorem mem_guards_middle {front raw : Text} (hf : d.isPaired front) (hr : d.isPaired raw)
    (behind : Text) {i j : ℕ} (hs : i + front.length ≤ j) (he : j < i + front.length + raw.length) :
    j ∈ d.guards (front ++ raw ++ behind) i ↔ j ∈ d.guards raw (i + front.length) := by
  have hpaired : d.isPaired (front ++ raw) := by rw [d.isPaired_append raw hf, hr]
  rw [d.guards_append behind hpaired, d.guards_append raw hf, List.mem_append, List.mem_append,
    List.length_append]
  constructor
  · rintro ((h | h) | h)
    · have := (d.guards_spec h).2.1
      omega
    · exact h
    · have := (d.guards_spec h).1
      omega
  · exact fun h => .inl (.inr h)

theorem mem_positions_rawPiece {raw : Text} (h : d.isRaw raw) {i j : ℕ} (hs : i ≤ j)
    (he : j < i + raw.length) : j ∈ (d.rawPiece raw i).positions ↔ j ∉ d.guards raw i := by
  simp only [Piece.positions, rawPiece, d.resolve_eq_filter h, List.mem_map, List.mem_filter,
    decide_eq_true_eq]
  constructor
  · rintro ⟨x, ⟨-, hx⟩, rfl⟩
    exact hx
  · intro hj
    have hlt : j - i < raw.length := by omega
    refine ⟨(raw[j - i], j), ⟨?_, hj⟩, rfl⟩
    exact List.mk_mem_zipIdx_iff_le_and_getElem?_sub.2 ⟨hs, List.getElem?_eq_getElem hlt⟩

/-- What stands around a raw text does not matter to its piece, if no escape in front of it reaches
into it. -/
theorem resolves_rawPiece {front raw : Text} (hf : d.isPaired front) (hr : d.isRaw raw)
    (before tail behind : Text) :
    d.Resolves (before ++ (front ++ raw ++ tail) ++ behind) (front ++ raw ++ tail) before.length
      (d.rawPiece raw (before.length + front.length)) := by
  have hord := d.ordered_rawPiece hr (before.length + front.length)
  refine ⟨by simp [Piece.positions, Piece.text], List.pairwise_map.2 hord.increasing, ?_, ?_, ?_⟩
  · intro j hj
    obtain ⟨x, hx, rfl⟩ := List.mem_map.1 hj
    exact hord.within x hx
  · intro k j hj
    rw [Piece.positions, List.getElem?_map, Option.map_eq_some_iff] at hj
    obtain ⟨⟨c, i⟩, hc, rfl⟩ := hj
    have hsource : before ++ (front ++ raw ++ tail) ++ behind
        = (before ++ front) ++ raw ++ (tail ++ behind) := by
      simp only [List.append_assoc]
    rw [Piece.text, List.getElem?_map, hc, hsource]
    refine d.getElem?_of_mem_resolve hr (tail ++ behind) ?_
    rw [List.length_append]
    exact List.mem_of_getElem? hc
  · intro j hs he
    have hs : before.length + front.length ≤ j := hs
    have hmem := d.mem_positions_rawPiece hr hs he
    have hguards := d.mem_guards_middle hf (d.isPaired_of_isRaw hr) tail hs he
    rw [hmem, not_not, ← hguards]
    constructor
    · intro hj
      obtain ⟨k, rfl⟩ := Nat.exists_eq_add_of_le ((Nat.le_add_right _ _).trans hs)
      exact ⟨k, rfl, (d.add_mem_guards_iff _ _ k).1 hj⟩
    · rintro ⟨k, rfl, hk⟩
      exact (d.add_mem_guards_iff _ _ k).2 hk

theorem resolves_of_mem {raws : List Text} (hr : ∀ r ∈ raws, d.isRaw r) (before behind : Text)
    {piece : Piece} (h : piece ∈ d.placePieces before.length raws) :
    d.Resolves (before ++ d.joinRaw raws ++ behind) (d.joinRaw raws) before.length piece := by
  obtain ⟨earlier, later, hp⟩ := List.append_of_mem h
  obtain ⟨front, raw, rest, rfl, -, rfl⟩ := d.exists_of_placePieces hp
  obtain ⟨tail, htail, -⟩ := d.exists_joinRaw_cons raw rest
  have hfront := d.isPaired_separated fun r hf => hr r (List.mem_append_left _ hf)
  rw [joinRaw_append, htail, ← List.append_assoc (d.separated front)]
  exact d.resolves_rawPiece hfront (hr raw (by simp)) before tail behind

/-- The pieces of a text are those of its raw texts. -/
theorem exists_raws_of_pieces {text : Text} {i : ℕ} {piece : Piece} {more : List Piece}
    (h : d.pieces text i = .ok (piece, more)) :
    ∃ raw rest, (∀ r ∈ raw :: rest, d.isRaw r) ∧ d.joinRaw (raw :: rest) = text
      ∧ piece :: more = d.placePieces i (raw :: rest) := by
  have hpaired : d.isPaired text := by
    by_contra hn
    rw [d.pieces_of_not_isPaired hn] at h
    cases h
  obtain ⟨raw, rest, hr, rfl⟩ := d.exists_raws hpaired
  have hp := d.pieces_joinRaw (i := i) hr
  rw [h] at hp
  obtain ⟨rfl, rfl⟩ := Prod.mk.inj (Except.ok.inj hp)
  exact ⟨raw, rest, hr, rfl, rfl⟩

/-- A piece stops at a separator exactly if an even run of escapes stands in front of it. -/
theorem exists_stop_iff_even {text : Text} {i : ℕ} {piece : Piece} {more : List Piece}
    (h : d.pieces text i = .ok (piece, more)) {k : ℕ} (hk : text[k]? = some d.separator) :
    (∃ found ∈ piece :: more, found.stop = i + k) ↔ Even (d.trailingEscapes (text.take k)) := by
  have hguarded := (d.cuts_of_pieces h).guarded_separator_iff k hk
  have hodd := d.guarded_iff_odd (i := i) hk (by simp [has, toList])
  rw [← Nat.not_odd_iff_even, ← hodd, hguarded]
  simp only [ne_eq, not_forall, not_not, exists_prop]

/-! ## The code -/

/-- Texts that are protected and joined by separators are the pieces of what is written so. A text
is cut exactly if it does not end in an odd run of escapes; its pieces then stand one separator
apart, at the separators that no odd run of escapes is in front of, and have every character of
their spans at its position, but for the escapes that protect a delimiter. The texts of the pieces
can be written and cut again. -/
theorem pieces_code :
    (∀ (text : Text) (rest : List Text) (i : ℕ), ∃ piece more,
      d.pieces (d.writeBody (text :: rest)) i = .ok (piece, more)
      ∧ (piece :: more).map Piece.text = text :: rest)
    ∧ (∀ (before text behind : Text) (piece : Piece) (more : List Piece),
      d.pieces text before.length = .ok (piece, more) →
      TilesApart (before ++ text ++ behind) d.separator before.length
          ((piece :: more).map Piece.located) (before.length + text.length)
      ∧ (∀ k, text[k]? = some d.separator →
        ((∃ found ∈ piece :: more, found.stop = before.length + k)
          ↔ Even (d.trailingEscapes (text.take k))))
      ∧ ∀ found ∈ piece :: more, d.Resolves (before ++ text ++ behind) text before.length found)
    ∧ ∀ (text : Text) (i : ℕ),
      (∀ fault, d.pieces text i = .error fault
        ↔ Odd (d.trailingEscapes text) ∧ fault = d.danglingEscape (i + text.length - 1))
      ∧ ∀ piece more, d.pieces text i = .ok (piece, more) → ∀ j, ∃ first others,
        d.pieces (d.writeBody ((piece :: more).map Piece.text)) j = .ok (first, others)
        ∧ (first :: others).map Piece.text = (piece :: more).map Piece.text := by
  have hwritten (text : Text) (rest : List Text) (i : ℕ) : ∃ piece more,
      d.pieces (d.writeBody (text :: rest)) i = .ok (piece, more)
      ∧ (piece :: more).map Piece.text = text :: rest := by
    obtain ⟨piece, more, hp, htext, hrest⟩ := d.exists_pieces_writeBody text rest i
    exact ⟨piece, more, hp, by rw [List.map_cons, htext, hrest]⟩
  refine ⟨hwritten, fun before text behind piece more h => ?_, fun text i =>
    ⟨fun fault => d.pieces_eq_error_iff, fun piece more _ j => hwritten _ _ j⟩⟩
  have hstop (k : ℕ) (hk : text[k]? = some d.separator) := d.exists_stop_iff_even h hk
  obtain ⟨raw, rest, hr, rfl, hp⟩ := d.exists_raws_of_pieces h
  refine ⟨d.tilesApart_placePieces behind rest (by rw [hp]), hstop, fun found hf => ?_⟩
  rw [hp] at hf
  exact d.resolves_of_mem hr before behind hf

/-- Of two runs in front of separators, the even one is halved and the text cut behind it, and the
odd one keeps its separator. Without the character behind it, that run cannot be cut. -/
theorem pieces_code_runs :
    let d : Delimiters := default
    let text : Text := ['a', '\\', '\\', '|', '\\', '\\', '\\', '|', 'b']
    let first : Piece := ⟨[('a', 1), ('\\', 3)], 1, 4⟩
    let second : Piece := ⟨[('\\', 6), ('|', 8), ('b', 9)], 5, 10⟩
    d.pieces text 1 = .ok (first, [second])
      ∧ (∃ found ∈ [first, second], found.stop = 1 + 3)
      ∧ ¬ (∃ found ∈ [first, second], found.stop = 1 + 7)
      ∧ d.Resolves (['\x7b'] ++ text ++ ['\x7d']) text 1 second
      ∧ d.pieces (text.take 7) 1 = .error (d.danglingEscape 7)
      ∧ ∃ piece more, d.pieces (d.writeBody [['a', '\\'], ['\\', '|', 'b']]) 0 = .ok (piece, more)
        ∧ (piece :: more).map Piece.text = [['a', '\\'], ['\\', '|', 'b']] := by
  intro d text first second
  have hp : d.pieces text 1 = .ok (first, [second]) := by rfl
  obtain ⟨-, hread, hwrite⟩ := pieces_code d
  obtain ⟨-, hstop, hresolves⟩ := hread ['\x7b'] text ['\x7d'] first [second] hp
  refine ⟨hp, (hstop 3 rfl).2 (by decide), fun h => ?_, hresolves second (by simp), ?_,
    (hwrite text 1).2 first [second] hp 0⟩
  · have heven := (hstop 7 rfl).1 h
    exact absurd heven (by decide)
  · exact ((hwrite (text.take 7) 1).1 _).2 ⟨by decide, rfl⟩

end Delimiters

end FilterTemplate
