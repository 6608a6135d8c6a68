import Mathlib
import FilterTemplate.Proofs.Shift

/-!
# Escapes

With an escape in front of every delimiter, any text can stand inside of a chain: it opens and
closes nothing (`isBody_writeBody`), and the pieces of the chain are the texts that were put there
(`exists_pieces_writeBody`). That holds for all delimiters, so also where a filter is spelled with
them.
-/

namespace FilterTemplate

namespace Delimiters

variable (d : Delimiters)

/-- The text with an escape in front of every delimiter. -/
def protect (text : Text) : Text := text.flatMap fun c => if d.has c then [d.escape, c] else [c]

/-- How the texts of filters are written inside of a chain. -/
def writeBody (texts : List Text) : Text := Text.joinWith [d.separator] (texts.map d.protect)

theorem has_eq_false {c : Char} : d.has c = false
    ↔ c ≠ d.opening ∧ c ≠ d.closing ∧ c ≠ d.separator ∧ c ≠ d.escape := by
  simp [has, toList]

theorem has_of_bounds {c : Char} (h : d.bounds c) : d.has c := by
  simp only [bounds, Bool.or_eq_true, decide_eq_true_eq] at h
  rcases h with rfl | rfl <;> simp [has, toList]

theorem ne_escape_of_bounds {c : Char} (h : d.bounds c) : c ≠ d.escape := by
  simp only [bounds, Bool.or_eq_true, decide_eq_true_eq] at h
  rcases h with rfl | rfl
  · exact d.escape_ne_opening.symm
  · exact d.escape_ne_closing.symm

theorem separator_ne_escape : d.separator ≠ d.escape := by
  have h := d.distinct
  simp only [List.nodup_cons, List.mem_cons] at h
  tauto

theorem bounds_separator : d.bounds d.separator = false := by
  have h := d.distinct
  simp only [List.nodup_cons, List.mem_cons] at h
  rw [bounds_eq_false]
  tauto

theorem protect_cons_of_has {c : Char} (h : d.has c) (text : Text) :
    d.protect (c :: text) = d.escape :: c :: d.protect text := by
  simp [protect, h]

theorem protect_cons_of_not_has {c : Char} (h : d.has c = false) (text : Text) :
    d.protect (c :: text) = c :: d.protect text := by
  simp [protect, h]

theorem writeBody_cons_cons (first second : Text) (rest : List Text) :
    d.writeBody (first :: second :: rest)
      = d.protect first ++ d.separator :: d.writeBody (second :: rest) := by
  simp [writeBody, Text.joinWith]

/-! ## Inside of a chain -/

theorem isBody_protect_append (rest : Text) : ∀ text : Text,
    d.isBody (d.protect text ++ rest) = d.isBody rest
  | [] => rfl
  | c :: text => by
    have ih := isBody_protect_append rest text
    rcases hc : d.has c with _ | _
    · have hb : d.bounds c = false := by
        rw [bounds_eq_false]
        exact ⟨(d.has_eq_false.1 hc).1, (d.has_eq_false.1 hc).2.1⟩
      rw [d.protect_cons_of_not_has hc, List.cons_append,
        d.isBody_plain (d.has_eq_false.1 hc).2.2.2, hb, ih]
      rfl
    · rw [d.protect_cons_of_has hc, List.cons_append, List.cons_append, isBody_escape, ih]

/-- Protected texts and separators can stand inside of a chain. -/
theorem isBody_writeBody : ∀ texts : List Text, d.isBody (d.writeBody texts)
  | [] => rfl
  | [text] => by
    have h := d.isBody_protect_append [] text
    rw [List.append_nil] at h
    exact h
  | first :: second :: rest => by
    rw [writeBody_cons_cons, isBody_protect_append, d.isBody_plain d.separator_ne_escape,
      bounds_separator, isBody_writeBody (second :: rest)]
    rfl

/-! ## Pieces of a chain -/

/-- A protected text is read into the first piece. -/
theorem exists_pieces_protect_append {rest : Text} {piece : Piece} {more : List Piece} :
    ∀ (text : Text) (i : ℕ), d.pieces rest (i + (d.protect text).length) = .ok (piece, more) →
      ∃ first, d.pieces (d.protect text ++ rest) i = .ok (first, more)
        ∧ first.text = text ++ piece.text
  | [], i, h => ⟨piece, h, rfl⟩
  | c :: text, i, h => by
    rcases hc : d.has c with _ | _
    · obtain ⟨-, -, hs, he⟩ := d.has_eq_false.1 hc
      rw [d.protect_cons_of_not_has hc, List.length_cons, Nat.add_comm _ 1, ← Nat.add_assoc] at h
      obtain ⟨first, hf, ht⟩ := exists_pieces_protect_append text (i + 1) h
      refine ⟨first.behind [(c, i)] i, ?_, ?_⟩
      · rw [d.protect_cons_of_not_has hc, List.cons_append, d.pieces_plain he hs, hf,
          Except.map_ok_eq]
      · simpa [Piece.text, Piece.behind] using ht
    · rw [d.protect_cons_of_has hc, List.length_cons, List.length_cons, Nat.add_assoc,
        Nat.add_comm _ 2, ← Nat.add_assoc] at h
      obtain ⟨first, hf, ht⟩ := exists_pieces_protect_append text (i + 2) h
      refine ⟨first.behind [(c, i + 1)] i, ?_, ?_⟩
      · rw [d.protect_cons_of_has hc, List.cons_append, List.cons_append, pieces_escape, hf,
          Except.map_ok_eq, escaped, if_pos hc]
      · simpa [Piece.text, Piece.behind] using ht

/-- The pieces of a chain are the texts that it was written for. -/
theorem exists_pieces_writeBody : ∀ (text : Text) (rest : List Text) (i : ℕ),
    ∃ piece more, d.pieces (d.writeBody (text :: rest)) i = .ok (piece, more)
      ∧ piece.text = text ∧ more.map Piece.text = rest
  | text, [], i => by
    have hend : d.pieces [] (i + (d.protect text).length)
        = .ok (⟨[], i + (d.protect text).length, i + (d.protect text).length⟩, []) := rfl
    obtain ⟨first, hf, ht⟩ := d.exists_pieces_protect_append text i hend
    rw [List.append_nil] at hf
    exact ⟨first, [], hf, by simpa [Piece.text] using ht, rfl⟩
  | text, second :: rest, i => by
    obtain ⟨piece, more, hp, htext, hrest⟩ :=
      exists_pieces_writeBody second rest (i + (d.protect text).length + 1)
    have hs : d.pieces (d.separator :: d.writeBody (second :: rest)) (i + (d.protect text).length)
        = .ok (⟨[], i + (d.protect text).length, i + (d.protect text).length⟩, piece :: more) := by
      rw [d.pieces_separator d.separator_ne_escape, hp, Except.map_ok_eq]
    obtain ⟨first, hf, ht⟩ := d.exists_pieces_protect_append text i hs
    rw [← writeBody_cons_cons] at hf
    refine ⟨first, piece :: more, hf, by simpa [Piece.text] using ht, ?_⟩
    rw [List.map_cons, htext, hrest]

end Delimiters

end FilterTemplate
