import Mathlib
import FilterTemplate.Proofs.Evaluation
import FilterTemplate.Proofs.Slices

/-!
# Ranges and their ends

A range is what stands between the positions of its two ends, each of them moved into the text
(`substring_eq_between`), also where they lie outside of the text or out of order. So ranges with
the same ends give the same text. Seen from the other end of a text, positions change their sign and
the two ends of a range their places (`rangeBounds_mirror`). Moving a position into the text goes
with that (`clampPosition_mirror`), so a mirrored range gives the mirrored text.
-/

namespace FilterTemplate

/-- What stands from one position up to another one, with both of them moved into the text. -/
def Text.between (value : Text) (low high : ℤ) : Text :=
  Text.slice value (clampPosition value.length low - 1).toNat
    (clampPosition value.length high).toNat

/-- The same extent for a range that goes the other way. -/
def Extent.mirror : Extent → Extent
  | .toIndex index => .toIndex (-index)
  | .single => .single
  | .toLength length => .toLength length
  | .toEnd => .toEnd

namespace Text

variable {value : Text} {low high : ℤ}

/-- Ends that a text has are not moved. -/
theorem between_eq_slice {first last : ℕ} (hl : low = first + 1) (hh : high = last)
    (hf : first < value.length) (h1 : 1 ≤ last) (hn : last ≤ value.length) :
    between value low high = slice value first last := by
  have hlow : clampPosition value.length low = first + 1 := by
    unfold clampPosition
    omega
  have hhigh : clampPosition value.length high = last := by
    unfold clampPosition
    omega
  rw [between, hlow, hhigh, Int.toNat_natCast]
  congr 1
  omega

theorem between_eq_nil_iff (hv : value ≠ []) :
    between value low high = []
      ↔ clampPosition value.length high < clampPosition value.length low := by
  have hlen := List.length_pos_iff.2 hv
  have hl := clampPosition_mem (by omega : (1 : ℤ) ≤ value.length) low
  have hh := clampPosition_mem (by omega : (1 : ℤ) ≤ value.length) high
  rw [between, slice_eq_nil_iff (by omega)]
  omega

/-- Ends that are in order stay so in a text, and those that are not are put right if one of them is
moved to the other end of the text. -/
theorem between_ne_nil (hv : value ≠ []) (h : low ≤ high ∨ low ≤ 1 ∨ value.length ≤ high) :
    between value low high ≠ [] := by
  rw [Ne, between_eq_nil_iff hv]
  unfold clampPosition
  omega

/-- All positions in front of a text are its first one. -/
theorem between_of_le_one (hl : low ≤ 1) : between value low high = between value 1 high := by
  unfold between clampPosition
  rw [max_eq_right hl, max_self]

end Text

/-! ## The ends of a range -/

section Bounds

variable (length : ℤ)

theorem effectivePosition_natCast {n : ℕ} (hn : n ≠ 0) : effectivePosition n length = n :=
  if_pos (by omega)

theorem effectivePosition_neg {index : ℤ} (h : index ≠ 0) :
    effectivePosition (-index) length = length + 1 - effectivePosition index length := by
  unfold effectivePosition
  split_ifs <;> omega

theorem effectivePosition_neg_natCast {n : ℕ} (hn : n ≠ 0) :
    effectivePosition (-n) length = length + 1 - n := by
  rw [effectivePosition_neg length (Int.natCast_ne_zero.2 hn), effectivePosition_natCast length hn]

/-- The ends of a range that starts from the beginning. -/
theorem rangeBounds_natCast {n : ℕ} (hn : n ≠ 0) (extent : Extent) :
    rangeBounds n extent length = (↑n, match extent with
      | .single => n
      | .toIndex index => effectivePosition index length
      | .toLength count => n + count - 1
      | .toEnd => length) := by
  have hpos : ¬(n : ℤ) < 0 := by omega
  simp only [rangeBounds, effectivePosition_natCast length hn, if_neg hpos]
  cases extent <;> rfl

theorem rangeBounds_mirror {start : ℤ} {extent : Extent} (hs : start ≠ 0)
    (he : extent ≠ .toIndex 0) :
    rangeBounds (-start) extent.mirror length
      = (length + 1 - (rangeBounds start extent length).2,
        length + 1 - (rangeBounds start extent length).1) := by
  have hfirst := effectivePosition_neg length hs
  have hlast (index : ℤ) (h : extent = .toIndex index) :
      effectivePosition (-index) length = length + 1 - effectivePosition index length :=
    effectivePosition_neg length fun h0 => he (h0 ▸ h)
  rcases lt_or_gt_of_ne hs with hneg | hpos
  · have hback : ¬-start < 0 := by omega
    simp only [rangeBounds, Extent.mirror, hfirst, if_pos hneg, if_neg hback]
    cases extent with
    | toIndex index => simp only [hlast index rfl]
    | _ => ext <;> simp only [] <;> omega
  · have hback : -start < 0 := by omega
    simp only [rangeBounds, Extent.mirror, hfirst, if_neg hpos.not_gt, if_pos hback]
    cases extent with
    | toIndex index => simp only [hlast index rfl]
    | _ => ext <;> simp only [] <;> omega

/-- The ends of a range that starts from the end. -/
theorem rangeBounds_neg_natCast {n : ℕ} (hn : n ≠ 0) (extent : Extent) :
    rangeBounds (-n) extent length = (match extent with
      | .single => length + 1 - n
      | .toIndex index => effectivePosition index length
      | .toLength count => length + 2 - n - count
      | .toEnd => 1, length + 1 - n) := by
  have hneg : -(n : ℤ) < 0 := by omega
  simp only [rangeBounds, effectivePosition_neg_natCast length hn, if_pos hneg]
  rcases extent with _ | _ | count | _
  case toLength =>
    ext
    · simp only []
      omega
    · rfl
  all_goals rfl

theorem clampPosition_mirror {length : ℤ} (h : 1 ≤ length) (position : ℤ) :
    clampPosition length (length + 1 - position) = length + 1 - clampPosition length position := by
  unfold clampPosition
  omega

end Bounds

/-! ## Ranges as slices -/

/-- A range is what stands between its ends. -/
theorem substring_eq_between (start : ℤ) (extent : Extent) (value : Text) :
    substring start extent value
      = value.between (rangeBounds start extent value.length).1
        (rangeBounds start extent value.length).2 := by
  by_cases h : value = [] ∨
      (cutBounds start extent value.length).2 < (cutBounds start extent value.length).1
  · -- there is nothing between ends that are out of order, so the empty range is no exception
    refine (if_pos h).trans ?_
    rcases eq_or_ne value [] with rfl | hv
    · simp [Text.between, Text.slice]
    · exact ((Text.between_eq_nil_iff hv).2 (h.resolve_left hv)).symm
  · exact if_neg h

theorem Text.between_reverse (value : Text) (low high : ℤ) :
    Text.between value.reverse (value.length + 1 - high) (value.length + 1 - low)
      = (value.between low high).reverse := by
  rcases eq_or_ne value [] with rfl | hv
  · simp [between, slice]
  have hlen := List.length_pos_iff.2 hv
  have hn : (1 : ℤ) ≤ value.length := by omega
  have hl := clampPosition_mem hn low
  have hh := clampPosition_mem hn high
  rw [between, between, List.length_reverse, clampPosition_mirror hn, clampPosition_mirror hn,
    ← slice_reverse value (by omega)]
  congr 1 <;> omega

/-- Forward and backward ranges are mirror images. A range of which all positions change their sign
cuts the mirror image out of the mirrored text, wherever its ends are. -/
theorem substring_mirror {start : ℤ} {extent : Extent} (hs : start ≠ 0) (he : extent ≠ .toIndex 0)
    (value : Text) :
    substring (-start) extent.mirror value.reverse = (substring start extent value).reverse := by
  rw [substring_eq_between, substring_eq_between, List.length_reverse,
    rangeBounds_mirror value.length hs he, Text.between_reverse]

/-- An end behind the text, a range behind it that has no length at all, and ends out of order. -/
theorem substring_mirror_clamped :
    substring 2 (.toIndex 9) ['a', 'b', 'c'] = ['b', 'c']
      ∧ substring (-2) (.toIndex (-9)) ['c', 'b', 'a'] = ['c', 'b']
      ∧ substring 5 (.toLength 0) ['a', 'b', 'c'] = ['c']
      ∧ substring (-5) (.toLength 0) ['c', 'b', 'a'] = ['c']
      ∧ substring 9 (.toIndex 2) ['a', 'b', 'c'] = []
      ∧ substring (-9) (.toIndex (-2)) ['c', 'b', 'a'] = [] :=
  ⟨rfl, @substring_mirror 2 (.toIndex 9) (by decide) (by decide) ['a', 'b', 'c'],
    rfl, @substring_mirror 5 (.toLength 0) (by decide) (by decide) ['a', 'b', 'c'],
    rfl, @substring_mirror 9 (.toIndex 2) (by decide) (by decide) ['a', 'b', 'c']⟩

end FilterTemplate
