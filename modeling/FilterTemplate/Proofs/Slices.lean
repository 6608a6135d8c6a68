import Mathlib
import FilterTemplate.Text.Basic

/-!
# Slices of a text

A text is made of its slices: neighbouring ones are one slice (`slice_append_slice`), and what
stands between two texts is cut out again where it stands (`slice_middle`).
-/

namespace FilterTemplate.Text

theorem length_slice {text : Text} {first last : ℕ} (h : last ≤ text.length) :
    (slice text first last).length = last - first := by
  rw [slice, List.length_drop, List.length_take, min_eq_left h]

theorem take_slice_drop (text : Text) {first last : ℕ} (h : first ≤ last) :
    text.take first ++ slice text first last ++ text.drop last = text := by
  rw [slice, List.drop_take, ← List.take_add, Nat.add_sub_cancel' h, List.take_append_drop]

theorem slice_middle (before middle behind : Text) :
    slice (before ++ middle ++ behind) before.length (before.length + middle.length) = middle := by
  rw [slice, List.take_left' List.length_append, List.drop_left]

@[simp] theorem slice_self (text : Text) (i : ℕ) : slice text i i = [] := by
  simp [slice]

theorem slice_append_slice (text : Text) {i j k : ℕ} (hij : i ≤ j) (hjk : j ≤ k) :
    slice text i j ++ slice text j k = slice text i k := by
  have hj : text.take j = (text.take k).take j := by rw [List.take_take, min_eq_left hjk]
  have hk : (text.take k).drop j = ((text.take k).drop i).drop (j - i) := by
    rw [List.drop_drop, Nat.add_sub_cancel' hij]
  rw [slice, slice, slice, hj, hk, List.drop_take, List.take_append_drop]

theorem slice_succ {text : Text} {first i : ℕ} {c : Char} (h : first ≤ i) (hc : text[i]? = some c) :
    slice text first (i + 1) = slice text first i ++ [c] := by
  obtain ⟨hlt, -⟩ := List.getElem?_eq_some_iff.1 hc
  rw [slice, slice, List.take_add_one, hc, Option.toList_some,
    List.drop_append_of_le_length (by rw [List.length_take]; omega)]

theorem slice_one {text : Text} {i : ℕ} {c : Char} (h : text[i]? = some c) :
    slice text i (i + 1) = [c] := by
  rw [slice_succ le_rfl h, slice_self, List.nil_append]

theorem slice_slice (text : Text) {i j k l : ℕ} (h : i + l ≤ j) :
    slice (slice text i j) k l = slice text (i + k) (i + l) := by
  rw [slice, slice, slice, List.take_drop, List.take_take, min_eq_left h, List.drop_drop]

theorem slice_reverse (text : Text) {first last : ℕ} (h : last ≤ text.length) :
    slice text.reverse (text.length - last) (text.length - first)
      = (slice text first last).reverse := by
  rw [slice, slice, List.reverse_drop, List.reverse_take, List.drop_take, List.length_take,
    min_eq_left h]
  congr 1
  omega

theorem slice_eq_nil_iff {text : Text} {first last : ℕ} (h : last ≤ text.length) :
    slice text first last = [] ↔ last ≤ first := by
  rw [← List.length_eq_zero_iff, length_slice h, Nat.sub_eq_zero_iff_le]

end FilterTemplate.Text
