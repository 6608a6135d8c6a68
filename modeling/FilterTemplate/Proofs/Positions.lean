import Mathlib
import FilterTemplate.Proofs.Pieces

/-!
# The characters of a piece and their positions

A piece has the characters of its raw text with their positions, apart from the escapes that protect
a delimiter, which are left out (`resolve_eq_filter`). So its positions increase and lie inside of
its span (`ordered_rawPiece`), and the characters between two of its indices are those between the
positions of these (`Piece.Ordered.slice_chars`).
-/

namespace FilterTemplate

namespace Delimiters

variable (d : Delimiters)

/-! ## The characters of a piece -/

/-- The positions of the escapes that protect a delimiter, in a chain's text at position `i`. -/
def guards : Text → ℕ → List ℕ
  | [], _ => []
  | c :: rest, i =>
    if c = d.escape then
      match rest with
      | [] => []
      | next :: behind => (if d.has next then [i] else []) ++ guards behind (i + 2)
    else guards rest (i + 1)

theorem guards_escape (next : Char) (behind : Text) (i : ℕ) :
    d.guards (d.escape :: next :: behind) i
      = (if d.has next then [i] else []) ++ d.guards behind (i + 2) := by
  rw [guards.eq_def]
  simp

theorem guards_plain {c : Char} (h : c ≠ d.escape) (rest : Text) (i : ℕ) :
    d.guards (c :: rest) i = d.guards rest (i + 1) := by
  rw [guards.eq_def]
  simp [h]

theorem mem_guards_escape {next : Char} {behind : Text} {i j : ℕ} :
    j ∈ d.guards (d.escape :: next :: behind) i
      ↔ d.has next ∧ j = i ∨ j ∈ d.guards behind (i + 2) := by
  rw [guards_escape, List.mem_append]
  by_cases h : d.has next <;> simp [h]

theorem guards_append (second : Text) : ∀ {first : Text} {i : ℕ}, d.isPaired first →
    d.guards (first ++ second) i = d.guards first i ++ d.guards second (i + first.length)
  | [], _, _ => rfl
  | c :: first, i, h => by
    by_cases he : c = d.escape
    · subst he
      rcases first with _ | ⟨next, behind⟩
      · simp at h
      · rw [isPaired_escape] at h
        have ih := guards_append second (i := i + 2) h
        rw [List.cons_append, List.cons_append, guards_escape, guards_escape, ih, List.append_assoc,
          List.length_cons, List.length_cons,
          show i + (behind.length + 1 + 1) = i + 2 + behind.length by omega]
    · rw [d.isPaired_plain he] at h
      have ih := guards_append second (i := i + 1) h
      rw [List.cons_append, d.guards_plain he, d.guards_plain he, ih, List.length_cons,
        show i + (first.length + 1) = i + 1 + first.length by omega]

/-- A guard is an escape, and what stands behind it in the text is no guard. -/
theorem guards_spec : ∀ {text : Text} {i j : ℕ}, j ∈ d.guards text i →
    i ≤ j ∧ j + 1 < i + text.length ∧ text[j - i]? = some d.escape ∧ j + 1 ∉ d.guards text i
  | [], i, j, h => by simp [guards] at h
  | c :: rest, i, j, h => by
    by_cases he : c = d.escape
    · subst he
      rcases rest with _ | ⟨next, behind⟩
      · simp [guards] at h
      · have later : ∀ k ∈ d.guards behind (i + 2), i + 2 ≤ k := fun k hk => (guards_spec hk).1
        rw [mem_guards_escape] at h ⊢
        rcases h with ⟨-, rfl⟩ | h
        · refine ⟨le_rfl, by simp, by simp, ?_⟩
          rintro (⟨-, hj⟩ | hj)
          · omega
          · have := later _ hj
            omega
        · obtain ⟨hi, hl, ht, hn⟩ := guards_spec h
          refine ⟨by omega, by simp only [List.length_cons]; omega, ?_, ?_⟩
          · rw [show j - i = j - (i + 2) + 1 + 1 by omega]
            simpa using ht
          · rintro (⟨-, hj⟩ | hj)
            · omega
            · exact hn hj
    · rw [d.guards_plain he] at h ⊢
      obtain ⟨hi, hl, ht, hn⟩ := guards_spec h
      refine ⟨by omega, by simp only [List.length_cons]; omega, ?_, hn⟩
      rw [show j - i = j - (i + 1) + 1 by omega]
      simpa using ht

/-- A raw text stands for its characters without the escapes that protect a delimiter. -/
theorem resolve_eq_filter : ∀ {raw : Text} {i : ℕ}, d.isRaw raw →
    d.resolve raw i = (raw.zipIdx i).filter fun x => x.2 ∉ d.guards raw i
  | [], i, _ => rfl
  | c :: raw, i, hr => by
    by_cases he : c = d.escape
    · subst he
      rcases raw with _ | ⟨next, behind⟩
      · simp at hr
      · rw [isRaw_escape] at hr
        have later : ∀ k ∈ d.guards behind (i + 2), i + 2 ≤ k := fun k hk => (d.guards_spec hk).1
        have first : i ∈ d.guards (d.escape :: next :: behind) i ↔ d.has next := by
          rw [mem_guards_escape]
          refine ⟨fun h => h.elim And.left fun h => ?_, fun h => .inl ⟨h, rfl⟩⟩
          have := later i h
          omega
        have second : i + 1 ∉ d.guards (d.escape :: next :: behind) i := by
          rw [mem_guards_escape]
          rintro (⟨-, h⟩ | h)
          · omega
          · have := later _ h
            omega
        have others : (behind.zipIdx (i + 2)).filter
              (fun x => x.2 ∉ d.guards (d.escape :: next :: behind) i)
            = d.resolve behind (i + 2) := by
          rw [resolve_eq_filter hr]
          refine List.filter_congr fun x hx => ?_
          have hx := List.le_snd_of_mem_zipIdx hx
          have hi : x.2 ≠ i := by omega
          simp only [mem_guards_escape, hi, and_false, false_or]
        rw [List.zipIdx_cons, List.zipIdx_cons, resolve_escape, escaped, ← others]
        by_cases hn : d.has next <;> simp [first, hn, second]
    · rw [d.isRaw_plain he, Bool.and_eq_true] at hr
      have ih := resolve_eq_filter (i := i + 1) hr.2
      have first : i ∉ d.guards raw (i + 1) := fun h => by
        have := (d.guards_spec h).1
        omega
      rw [List.zipIdx_cons, d.resolve_plain he, d.guards_plain he,
        List.filter_cons_of_pos (by simpa), ← ih]

/-- What a raw text stands for is in the source at its positions. -/
theorem getElem?_of_mem_resolve {lead raw : Text} (hr : d.isRaw raw) (behind : Text) {c : Char}
    {i : ℕ} (h : (c, i) ∈ d.resolve raw lead.length) : (lead ++ raw ++ behind)[i]? = some c := by
  rw [d.resolve_eq_filter hr] at h
  obtain ⟨hle, hi⟩ := List.mk_mem_zipIdx_iff_le_and_getElem?_sub.1 (List.mem_of_mem_filter h)
  obtain ⟨hlt, -⟩ := List.getElem?_eq_some_iff.1 hi
  rw [List.append_assoc, List.getElem?_append_right hle, List.getElem?_append_left hlt, hi]

end Delimiters

/-! ## Positions in a piece -/

namespace Piece

variable {piece : Piece}

/-- Whether the positions of the characters increase and lie inside of the piece's span. -/
structure Ordered (piece : Piece) : Prop where
  increasing : piece.chars.Pairwise fun x y => x.2 < y.2
  within : ∀ x ∈ piece.chars, piece.start ≤ x.2 ∧ x.2 < piece.stop
  start_le_stop : piece.start ≤ piece.stop

theorem positionOf_of_getElem? {index : ℕ} {c : Char} {i : ℕ}
    (h : piece.chars[index]? = some (c, i)) : piece.positionOf index = i := by
  simp only [positionOf, h]

theorem positionOf_of_le {index : ℕ} (h : piece.chars.length ≤ index) :
    piece.positionOf index = piece.stop := by
  simp only [positionOf, List.getElem?_eq_none h]

theorem Ordered.positionOf_mem (h : piece.Ordered) (index : ℕ) :
    piece.start ≤ piece.positionOf index ∧ piece.positionOf index ≤ piece.stop := by
  rcases hc : piece.chars[index]? with _ | ⟨c, i⟩
  · rw [positionOf_of_le (List.getElem?_eq_none_iff.1 hc)]
    exact ⟨h.start_le_stop, le_rfl⟩
  · have hi := h.within _ (List.mem_of_getElem? hc)
    rw [positionOf_of_getElem? hc]
    exact ⟨hi.1, hi.2.le⟩

theorem Ordered.lt_positionOf (h : piece.Ordered) {index : ℕ} {x : Char × ℕ}
    (hx : x ∈ piece.chars.take index) : x.2 < piece.positionOf index := by
  rcases hc : piece.chars[index]? with _ | ⟨c, i⟩
  · rw [positionOf_of_le (List.getElem?_eq_none_iff.1 hc)]
    exact (h.within x (List.mem_of_mem_take hx)).2
  · have hd : (c, i) ∈ piece.chars.drop index := List.mem_of_getElem? (i := 0) (by simpa using hc)
    have hp := h.increasing
    rw [← List.take_append_drop index piece.chars, List.pairwise_append] at hp
    rw [positionOf_of_getElem? hc]
    exact hp.2.2 x hx _ hd

theorem Ordered.positionOf_le (h : piece.Ordered) {index : ℕ} {x : Char × ℕ}
    (hx : x ∈ piece.chars.drop index) : piece.positionOf index ≤ x.2 := by
  have hp := h.increasing.drop (i := index)
  rcases hd : piece.chars.drop index with _ | ⟨y, behind⟩
  · simp [hd] at hx
  · have hc : piece.chars[index]? = some y := by
      rw [← List.head?_drop, hd, List.head?_cons]
    rw [positionOf_of_getElem? (i := y.2) hc]
    rw [hd] at hx hp
    rcases List.mem_cons.1 hx with rfl | hx
    · exact le_rfl
    · exact (List.rel_of_pairwise_cons hp hx).le

theorem Ordered.positionOf_mono (h : piece.Ordered) {first last : ℕ} (hle : first ≤ last) :
    piece.positionOf first ≤ piece.positionOf last := by
  rcases hc : piece.chars[last]? with _ | ⟨c, i⟩
  · rw [positionOf_of_le (List.getElem?_eq_none_iff.1 hc)]
    exact (h.positionOf_mem first).2
  · rw [positionOf_of_getElem? hc]
    have hd : (c, i) ∈ piece.chars.drop first := by
      refine List.mem_of_getElem? (i := last - first) ?_
      rw [List.getElem?_drop, Nat.add_sub_cancel' hle, hc]
    exact h.positionOf_le hd

/-- The characters between two indices are those between their positions. -/
theorem Ordered.slice_chars (h : piece.Ordered) {first last : ℕ}
    (hlt : piece.positionOf first < piece.positionOf last) :
    (piece.chars.take last).drop first
      = piece.chars.filter fun x =>
        piece.positionOf first ≤ x.2 ∧ x.2 < piece.positionOf last := by
  have hle : first ≤ last := by
    by_contra hn
    have := h.positionOf_mono (Nat.le_of_not_le hn)
    omega
  have hfront : (piece.chars.take first).filter
      (fun x => piece.positionOf first ≤ x.2 ∧ x.2 < piece.positionOf last) = [] := by
    refine List.filter_eq_nil_iff.2 fun x hx => ?_
    have := h.lt_positionOf hx
    simp only [decide_eq_true_eq]
    omega
  have hbehind : (piece.chars.drop last).filter
      (fun x => piece.positionOf first ≤ x.2 ∧ x.2 < piece.positionOf last) = [] := by
    refine List.filter_eq_nil_iff.2 fun x hx => ?_
    have := h.positionOf_le hx
    simp only [decide_eq_true_eq]
    omega
  have hmiddle : ((piece.chars.take last).drop first).filter
      (fun x => piece.positionOf first ≤ x.2 ∧ x.2 < piece.positionOf last)
      = (piece.chars.take last).drop first := by
    refine List.filter_eq_self.2 fun x hx => ?_
    have hlast := h.lt_positionOf (List.mem_of_mem_drop hx)
    rw [List.drop_take] at hx
    have hfirst := h.positionOf_le (List.mem_of_mem_take hx)
    simp only [decide_eq_true_eq]
    omega
  conv_rhs => rw [← List.take_append_drop last piece.chars, List.filter_append, hbehind,
    List.append_nil, ← List.take_append_drop first (piece.chars.take last), List.filter_append,
    List.take_take, min_eq_left hle, hfront, hmiddle, List.nil_append]

end Piece

namespace Delimiters

variable (d : Delimiters)

theorem ordered_rawPiece {raw : Text} (h : d.isRaw raw) (i : ℕ) : (d.rawPiece raw i).Ordered := by
  have hc : (d.rawPiece raw i).chars = (raw.zipIdx i).filter fun x => x.2 ∉ d.guards raw i :=
    d.resolve_eq_filter h
  refine ⟨?_, fun x hx => ?_, Nat.le_add_right _ _⟩
  · rw [hc]
    refine List.Pairwise.filter _ ?_
    have hp : ((raw.zipIdx i).map Prod.snd).Pairwise (· < ·) := by
      rw [List.zipIdx_map_snd]
      exact List.pairwise_lt_range'
    exact List.pairwise_map.1 hp
  · rw [hc] at hx
    obtain ⟨hle, hlt, -⟩ := List.mem_zipIdx (List.mem_of_mem_filter hx)
    exact ⟨hle, hlt⟩

end Delimiters

end FilterTemplate
