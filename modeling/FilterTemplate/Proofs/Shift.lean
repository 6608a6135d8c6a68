import Mathlib
import FilterTemplate.Proofs.Lexemes
import FilterTemplate.Template.Basic

/-!
# Reading further on

Where a text stands is only noted, never asked for. So the pieces of a chain, the filters they spell
and the segments of tokens are the same further on, with their spans moved, and so is the fault that
is found in them (`pieces_add`, `readChain_add`, `readTokens_shift`).
-/

namespace FilterTemplate

/-- The failure, `n` characters further on. What is refused has no place. -/
def Failure.shift (n : ℕ) : Failure → Failure
  | .fault found => .fault (found.shift n)
  | .refused refusal => .refused refusal

/-- The span `n` characters further on. -/
def Located.shift {α : Type} (n : ℕ) (part : Located α) : Located α :=
  ⟨part.value, part.start + n, part.stop + n⟩

/-- The segment with its filters `n` characters further on. -/
def Segment.shift (n : ℕ) : Segment → Segment
  | .literal text => .literal text
  | .chain filters => .chain (filters.map (Located.shift n))

/-- The segment and its filters `n` characters further on. -/
def Segment.moved (n : ℕ) (segment : Located Segment) : Located Segment :=
  ⟨segment.value.shift n, segment.start + n, segment.stop + n⟩

namespace Piece

/-- The piece `n` characters further on. -/
def shift (n : ℕ) (piece : Piece) : Piece :=
  ⟨piece.chars.map fun (c, i) => (c, i + n), piece.start + n, piece.stop + n⟩

@[simp] theorem text_shift (n : ℕ) (piece : Piece) : (piece.shift n).text = piece.text := by
  simp [shift, text]

theorem positionOf_shift (n : ℕ) (piece : Piece) (index : ℕ) :
    (piece.shift n).positionOf index = piece.positionOf index + n := by
  simp only [positionOf, shift, List.getElem?_map]
  rcases piece.chars[index]? with _ | ⟨c, i⟩ <;> rfl

theorem fault_shift (n : ℕ) (piece : Piece) (cause : Cause) (first last : ℕ) :
    (piece.shift n).fault cause first last = (piece.fault cause first last).shift n := by
  simp only [fault, Fault.shift, text_shift, positionOf_shift]

theorem failure_shift (n : ℕ) (piece : Piece) (misreading : Misreading) :
    (piece.shift n).failure misreading = (piece.failure misreading).shift n := by
  rcases misreading with ⟨cause, first, last⟩ | refusal
  · simp only [failure, fault_shift, Failure.shift]
  · rfl

theorem behind_shift (n : ℕ) (piece : Piece) (chars : List (Char × ℕ)) (start : ℕ) :
    (piece.behind chars start).shift n
      = (piece.shift n).behind (chars.map fun (c, i) => (c, i + n)) (start + n) := by
  simp only [behind, shift, List.map_append]

theorem read_shift (n : ℕ) (piece : Piece) :
    (piece.shift n).read = (piece.read.mapError (Failure.shift n)).map (Located.shift n) := by
  simp only [read, text_shift]
  rcases Filter.read piece.text with misreading | filter
  · simp [failure_shift]
  · rfl

end Piece

theorem readPieces_shift (n : ℕ) : ∀ pieces : List Piece,
    readPieces (pieces.map (Piece.shift n))
      = ((readPieces pieces).mapError (Failure.shift n)).map fun filters =>
        filters.map (Located.shift n)
  | [] => rfl
  | piece :: rest => by
    simp only [List.map_cons, readPieces, Piece.read_shift, readPieces_shift n rest]
    rcases piece.read with failure | filter
    · rfl
    · rcases readPieces rest with failure | filters <;> rfl

namespace Delimiters

variable (d : Delimiters)

theorem escaped_add (c : Char) (i n : ℕ) :
    d.escaped c (i + n) = (d.escaped c i).map fun (c, i) => (c, i + n) := by
  unfold escaped
  split_ifs <;> simp [Nat.add_right_comm]

theorem pieces_escape (next : Char) (others : Text) (i : ℕ) :
    d.pieces (d.escape :: next :: others) i
      = (d.pieces others (i + 2)).map fun (piece, more) =>
        (piece.behind (d.escaped next i) i, more) := by
  rw [pieces.eq_def]
  simp

theorem pieces_escape_end (i : ℕ) : d.pieces [d.escape] i = .error (d.danglingEscape i) := by
  rw [pieces.eq_def]
  simp

theorem pieces_separator (h : d.separator ≠ d.escape) (rest : Text) (i : ℕ) :
    d.pieces (d.separator :: rest) i
      = (d.pieces rest (i + 1)).map fun (piece, more) => (⟨[], i, i⟩, piece :: more) := by
  rw [pieces.eq_def]
  simp [h]

theorem pieces_plain {c : Char} (he : c ≠ d.escape) (hs : c ≠ d.separator) (rest : Text) (i : ℕ) :
    d.pieces (c :: rest) i
      = (d.pieces rest (i + 1)).map fun (piece, more) => (piece.behind [(c, i)] i, more) := by
  rw [pieces.eq_def]
  simp [he, hs]

/-- Further on, the same pieces are cut out. -/
theorem pieces_add (n : ℕ) : ∀ (text : Text) (i : ℕ),
    d.pieces text (i + n)
      = ((d.pieces text i).mapError (Fault.shift n)).map fun (piece, more) =>
        (piece.shift n, more.map (Piece.shift n))
  | [], i => rfl
  | c :: rest, i => by
    by_cases he : c = d.escape
    · subst he
      rcases rest with _ | ⟨next, others⟩
      · simp [pieces_escape_end, danglingEscape, Fault.shift, Nat.add_right_comm]
      · have ih := pieces_add n others (i + 2)
        rw [pieces_escape, pieces_escape, Nat.add_right_comm, ih, escaped_add]
        rcases d.pieces others (i + 2) with fault | ⟨piece, more⟩
        · rfl
        · simp [Piece.behind_shift]
    · have ih := pieces_add n rest (i + 1)
      by_cases hs : c = d.separator
      · subst hs
        rw [d.pieces_separator he, d.pieces_separator he, Nat.add_right_comm, ih]
        rcases d.pieces rest (i + 1) with fault | ⟨piece, more⟩ <;> rfl
      · rw [d.pieces_plain he hs, d.pieces_plain he hs, Nat.add_right_comm, ih]
        rcases d.pieces rest (i + 1) with fault | ⟨piece, more⟩
        · rfl
        · simp [Piece.behind_shift]

theorem readChain_add (n : ℕ) (body : Text) (i : ℕ) :
    d.readChain body (i + n)
      = ((d.readChain body i).mapError (Failure.shift n)).map fun filters =>
        filters.map (Located.shift n) := by
  by_cases hb : body = []
  · simp [readChain, hb]
  · simp only [readChain, if_neg hb, pieces_add]
    rcases d.pieces body i with fault | ⟨piece, more⟩
    · rfl
    · simpa using readPieces_shift n (piece :: more)

theorem readToken_shift (n : ℕ) : ∀ token : Located Token,
    d.readToken (token.shift n)
      = ((d.readToken token).mapError (Failure.shift n)).map (Segment.moved n)
  | ⟨.literal text, start, stop⟩ => rfl
  | ⟨.chain body, start, stop⟩ => by
    simp only [readToken, Located.shift]
    rw [Nat.add_right_comm, readChain_add]
    rcases d.readChain body (start + 1) with failure | filters <;> rfl

theorem readTokens_shift (n : ℕ) : ∀ tokens : List (Located Token),
    d.readTokens (tokens.map (Located.shift n))
      = ((d.readTokens tokens).mapError (Failure.shift n)).map fun segments =>
        segments.map (Segment.moved n)
  | [] => rfl
  | token :: rest => by
    simp only [List.map_cons, readTokens, readToken_shift, readTokens_shift n rest]
    rcases d.readToken token with failure | segment
    · rfl
    · rcases d.readTokens rest with failure | segments <;> rfl

end Delimiters

end FilterTemplate
