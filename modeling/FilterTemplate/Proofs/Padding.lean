import Mathlib
import FilterTemplate.Pad

/-!
# What padding adds

Padding puts a filling in front of a text or behind it, unless the mask would have to be repeated
beyond what an index can hold (`pad_eq`). The filling has exactly the characters that are missing
and repeats the mask, from its beginning on the left and back from its end on the right. What is
added on the right is the mirror image of what the mirrored mask adds on the left
(`reverse_filling`), so the two sides are mirror images as well. The limit is in the way exactly if
more than one copy of the mask is needed, and as many as are needed are longer than an index can
hold (`overlong?_eq`).
-/

namespace FilterTemplate

/-! ## Repeating a mask -/

/-- The copies of the mask are as many as are needed, and no more. -/
theorem copies_le_iff {mask : Text} (hm : mask ≠ []) {need n : ℕ} :
    copies mask need ≤ n ↔ need ≤ n * mask.length := by
  have hpos := List.length_pos_iff.2 hm
  rw [copies, Nat.div_le_iff_le_mul hpos]
  omega

theorem le_copies_mul {mask : Text} (hm : mask ≠ []) (need : ℕ) :
    need ≤ copies mask need * mask.length := (copies_le_iff hm).1 le_rfl

theorem length_repeatedMask (mask : Text) (need : ℕ) :
    (repeatedMask mask need).length = copies mask need * mask.length := by
  simp [repeatedMask, List.length_flatten]

/-- The mask is repeated often enough. -/
theorem le_length_repeatedMask {mask : Text} (hm : mask ≠ []) (need : ℕ) :
    need ≤ (repeatedMask mask need).length := by
  rw [length_repeatedMask]
  exact le_copies_mul hm need

theorem getElem?_flatten_replicate (mask : Text) : ∀ {n i : ℕ}, i < n * mask.length →
    (List.replicate n mask).flatten[i]? = mask[i % mask.length]?
  | 0, i, h => by simp at h
  | n + 1, i, h => by
    rw [Nat.succ_mul] at h
    rw [List.replicate_succ, List.flatten_cons, List.getElem?_append]
    split_ifs with hi
    · rw [Nat.mod_eq_of_lt hi]
    · rw [getElem?_flatten_replicate mask (by omega), ← Nat.mod_eq_sub_mod (by omega)]

theorem getElem?_repeatedMask {mask : Text} {need i : ℕ}
    (h : i < (repeatedMask mask need).length) :
    (repeatedMask mask need)[i]? = mask[i % mask.length]? := by
  rw [length_repeatedMask] at h
  exact getElem?_flatten_replicate mask h

theorem copies_reverse (mask : Text) (need : ℕ) : copies mask.reverse need = copies mask need := by
  rw [copies, copies, List.length_reverse]

theorem repeatedMask_reverse (mask : Text) (need : ℕ) :
    repeatedMask mask.reverse need = (repeatedMask mask need).reverse := by
  rw [repeatedMask, repeatedMask, List.reverse_flatten, List.map_replicate, List.reverse_replicate,
    copies_reverse]

/-! ## The limit -/

/-- Whether copies of the mask that have at least `need` characters fit into a text. The mask itself
always does. -/
def Repeats (mask : Text) (need : ℤ) : Prop :=
  need ≤ mask.length ∨ ∃ n : ℕ, need ≤ n * mask.length ∧ (n * mask.length : ℤ) ≤ maxIndex

theorem repeats_iff {mask : Text} (hm : mask ≠ []) (need : ℕ) : Repeats mask need
    ↔ copies mask need ≤ 1 ∨ copies mask need * mask.length ≤ maxIndex := by
  have hone : (need : ℤ) ≤ mask.length ↔ copies mask need ≤ 1 := by
    rw [copies_le_iff hm, Nat.one_mul, Nat.cast_le]
  refine or_congr hone ⟨?_, fun h => ⟨copies mask need, ?_, by exact_mod_cast h⟩⟩
  · rintro ⟨n, hn, hle⟩
    have hcopies : copies mask need ≤ n := (copies_le_iff hm).2 (by exact_mod_cast hn)
    exact (Nat.mul_le_mul_right _ hcopies).trans (by exact_mod_cast hle)
  · exact_mod_cast le_copies_mul hm need

/-- The limit is in the way where the copies of the mask do not fit, by their number if an index
cannot hold that, and by their length otherwise. -/
theorem overlong?_eq {mask : Text} (hm : mask ≠ []) (need : ℕ) :
    (Repeats mask need → overlong? mask need = none)
      ∧ (¬Repeats mask need → overlong? mask need
        = some (if maxIndex * mask.length < need then .count else .text)) := by
  have hpos := List.length_pos_iff.2 hm
  have hcount : maxIndex < copies mask need ↔ maxIndex * mask.length < need := by
    rw [← not_le, copies_le_iff hm, not_le]
  have hle : copies mask need ≤ copies mask need * mask.length := Nat.le_mul_of_pos_right _ hpos
  have hmax : 1 ≤ maxIndex := by decide
  rw [repeats_iff hm]
  constructor
  · intro h
    rw [overlong?, if_neg (by omega), if_neg (by omega)]
  · intro h
    by_cases hmany : maxIndex < copies mask need
    · rw [overlong?, if_pos hmany, if_pos (hcount.1 hmany)]
    · rw [overlong?, if_neg hmany, if_pos (by omega), if_neg (mt hcount.2 hmany)]

theorem overlong?_of_copies_le_one {mask : Text} {need : ℕ} (h : copies mask need ≤ 1) :
    overlong? mask need = none := by
  have : 1 ≤ maxIndex := by decide
  rw [overlong?, if_neg (by omega), if_neg (by omega)]

theorem overlong?_reverse (mask : Text) (need : ℕ) :
    overlong? mask.reverse need = overlong? mask need := by
  rw [overlong?, overlong?, copies_reverse, List.length_reverse]

/-! ## Fillings -/

/-- What is added on a side. -/
def filling (side : Side) (mask : Text) (need : ℕ) : Text :=
  match side with
  | .left => (repeatedMask mask need).take need
  | .right => (repeatedMask mask need).drop ((repeatedMask mask need).length - need)

theorem length_filling (side : Side) {mask : Text} (hm : mask ≠ []) (need : ℕ) :
    (filling side mask need).length = need := by
  have hle := le_length_repeatedMask hm need
  cases side
  · rw [filling, List.length_take, min_eq_left hle]
  · rw [filling, List.length_drop]
    omega

theorem filling_eq_nil (side : Side) {mask : Text} {need : ℕ} (h : need = 0 ∨ mask = []) :
    filling side mask need = [] := by
  rcases h with rfl | rfl
  · cases side <;> simp [filling]
  · cases side <;> simp [filling, repeatedMask]

theorem reverse_filling (mask : Text) (need : ℕ) :
    (filling .left mask.reverse need).reverse = filling .right mask need := by
  rw [filling, filling, repeatedMask_reverse, List.reverse_take, List.reverse_reverse,
    List.length_reverse]

theorem getElem?_filling_left {mask : Text} (hm : mask ≠ []) {need i : ℕ} (h : i < need) :
    (filling .left mask need)[i]? = mask[i % mask.length]? := by
  have hle := le_length_repeatedMask hm need
  rw [filling, List.getElem?_take_of_lt h, getElem?_repeatedMask (h.trans_le hle)]

/-- Counted back from the end of the filling, the mask starts over where it has been used up. -/
theorem getElem?_filling_right {mask : Text} (hm : mask ≠ []) {need j : ℕ} (h : j < need) :
    (filling .right mask need)[j]? = mask[(((j : ℤ) - need) % mask.length).toNat]? := by
  have hle := le_length_repeatedMask hm need
  rw [filling, List.getElem?_drop, getElem?_repeatedMask (by omega)]
  congr 1
  have hlen := length_repeatedMask mask need
  -- the filling ends where a copy of the mask ends, so an index may be moved by whole masks
  have hi : (((repeatedMask mask need).length - need + j : ℕ) : ℤ)
      = (j : ℤ) - need + copies mask need * mask.length := by
    rw [← Nat.cast_mul, ← hlen]
    omega
  rw [← Int.toNat_natCast (_ % _), Int.natCast_mod, hi, Int.add_mul_emod_self_right]

/-! ## Padding -/

section Pad

variable (side : Side) (mask : Text) (count : Option ℤ) (value : Text)

/-- A text with its filling. -/
def padded (side : Side) (mask : Text) (count : Option ℤ) (value : Text) : Text :=
  match side with
  | .left => filling .left mask (paddingNeed mask count value).toNat ++ value
  | .right => value ++ filling .right mask (paddingNeed mask count value).toNat

theorem padded_of_need_le {mask : Text} {count : Option ℤ} {value : Text}
    (h : paddingNeed mask count value ≤ 0 ∨ mask = []) (side : Side) :
    padded side mask count value = value := by
  have hfilling := filling_eq_nil side (h.imp_left Int.toNat_of_nonpos)
  cases side <;> simp [padded, hfilling]

theorem overlong?_of_need_le {mask : Text} {need : ℕ} (h : need = 0 ∨ mask = []) :
    overlong? mask need = none := by
  refine overlong?_of_copies_le_one ?_
  rcases h with rfl | rfl
  · rcases eq_or_ne mask [] with rfl | hm
    · simp [copies]
    · exact (copies_le_iff hm).2 (Nat.zero_le _)
  · simp [copies]

/-- Padding gives the text with its filling, if the mask can be repeated often enough for it. -/
theorem pad_eq : pad side mask count value
    = (overlong? mask (paddingNeed mask count value).toNat).elim
      (.ok (padded side mask count value)) .error := by
  by_cases h : (paddingNeed mask count value).toNat = 0 ∨ mask = []
  · have hstays := padded_of_need_le (h.imp_left Int.toNat_eq_zero.1) side
    rw [overlong?_of_need_le h, Option.elim_none, hstays]
    exact if_pos h
  · have hpad : pad side mask count value = _ := if_neg h
    rw [hpad]
    rcases overlong? mask (paddingNeed mask count value).toNat with _ | limit
    · cases side <;> rfl
    · rfl

theorem pad_of_overlong?_eq_none {mask : Text} {count : Option ℤ} {value : Text}
    (h : overlong? mask (paddingNeed mask count value).toNat = none) (side : Side) :
    pad side mask count value = .ok (padded side mask count value) := by
  rw [pad_eq, h, Option.elim_none]

theorem pad_of_need_le {mask : Text} {count : Option ℤ} {value : Text}
    (h : paddingNeed mask count value ≤ 0 ∨ mask = []) (side : Side) :
    pad side mask count value = .ok value := by
  rw [pad_of_overlong?_eq_none (overlong?_of_need_le (h.imp_left Int.toNat_of_nonpos)),
    padded_of_need_le h]

theorem length_padded {mask : Text} (hm : mask ≠ []) :
    (padded side mask count value).length
      = value.length + (paddingNeed mask count value).toNat := by
  cases side
  · rw [padded, List.length_append, length_filling .left hm, Nat.add_comm]
  · rw [padded, List.length_append, length_filling .right hm]

theorem getElem?_padded_left {mask : Text} {count : Option ℤ} {value : Text} (hm : mask ≠ [])
    {i : ℕ} (h : i < (paddingNeed mask count value).toNat) :
    (padded .left mask count value)[i]? = mask[i % mask.length]? := by
  rw [padded, List.getElem?_append_left (by rwa [length_filling .left hm]),
    getElem?_filling_left hm h]

theorem getElem?_padded_right {mask : Text} {count : Option ℤ} {value : Text} (hm : mask ≠ [])
    {j : ℕ} (h : j < (paddingNeed mask count value).toNat) :
    (padded .right mask count value)[value.length + j]?
      = mask[(((j : ℤ) - (paddingNeed mask count value).toNat) % mask.length).toNat]? := by
  rw [padded, List.getElem?_append_right (Nat.le_add_right _ _), Nat.add_sub_cancel_left,
    getElem?_filling_right hm h]

theorem paddingNeed_reverse :
    paddingNeed mask.reverse count value.reverse = paddingNeed mask count value := by
  simp only [paddingNeed, List.length_reverse]

/-- What is added on the right is what the mirrored mask adds to the left of the mirrored text. -/
theorem pad_right_eq_reverse :
    pad .right mask count value
      = (pad .left mask.reverse count value.reverse).map List.reverse := by
  have hpadded : padded .right mask count value
      = (padded .left mask.reverse count value.reverse).reverse := by
    rw [padded, padded, paddingNeed_reverse, List.reverse_append, List.reverse_reverse,
      reverse_filling]
  rw [pad_eq, pad_eq, paddingNeed_reverse, overlong?_reverse, hpadded]
  rcases overlong? mask (paddingNeed mask count value).toNat with _ | limit <;> rfl

/-- To the length of the mask a single copy of it is enough. -/
theorem overlong?_paddingNeed_none :
    overlong? mask (paddingNeed mask none value).toNat = none := by
  refine overlong?_of_copies_le_one ?_
  rcases eq_or_ne mask [] with rfl | hm
  · simp [copies]
  · refine (copies_le_iff hm).2 ?_
    simp only [paddingNeed, Option.getD_none]
    omega

/-- A text that has been padded to the length of the mask lacks nothing. -/
theorem exists_pad_none :
    ∃ filled, pad side mask none value = .ok filled ∧ pad side mask none filled = .ok filled := by
  refine ⟨_, pad_of_overlong?_eq_none (overlong?_paddingNeed_none mask value) side,
    pad_of_need_le ?_ side⟩
  rcases eq_or_ne mask [] with hm | hm
  · exact .inr hm
  · left
    have hlen := length_padded side none value hm
    simp only [paddingNeed, Option.getD_none] at hlen ⊢
    omega

/-- Padding fills up periodically, and its two sides are mirror images. A text that has been padded
to the length of the mask does not change if it is padded again. Where nothing is missing, or the
mask is empty, a text stays as it is. Otherwise it gets exactly the characters that are asked for:
on the left the mask is repeated from its beginning, on the right up to its end. The copies of the
mask have to fit into a text; where they do not, there is no result on either side. -/
theorem pad_periodic :
    pad .right mask count value
        = (pad .left mask.reverse count value.reverse).map List.reverse
    ∧ (∀ side, ∃ filled, pad side mask none value = .ok filled
      ∧ pad side mask none filled = .ok filled)
    ∧ let need : ℤ := count.getD (max 0 ((mask.length : ℤ) - value.length))
      (need ≤ 0 ∨ mask = [] → ∀ side, pad side mask count value = .ok value)
      ∧ (0 < need → mask ≠ [] →
        (¬Repeats mask need → ∀ side, pad side mask count value
          = .error (if maxIndex * mask.length < need then .count else .text))
        ∧ (Repeats mask need → ∃ left right,
          pad .left mask count value = .ok left ∧ pad .right mask count value = .ok right
          ∧ (left.length : ℤ) = value.length + need ∧ (right.length : ℤ) = value.length + need
          ∧ value <:+ left
          ∧ (∀ i : ℕ, i < need → left[i]? = mask[i % mask.length]?)
          ∧ value <+: right
          ∧ (∀ j : ℕ, j < need → right[value.length + j]?
              = mask[((j - need) % mask.length).toNat]?)
          ∧ (count = none → ∀ i, value.length ≤ i → i < mask.length → right[i]? = mask[i]?))) := by
  refine ⟨pad_right_eq_reverse mask count value, fun side => exists_pad_none side mask value, ?_⟩
  intro need
  have hneed : paddingNeed mask count value = need := rfl
  refine ⟨pad_of_need_le, fun hpos hm => ?_⟩
  have hnat : (need.toNat : ℤ) = need := Int.toNat_of_nonneg hpos.le
  obtain ⟨hfits, hlong⟩ := overlong?_eq hm need.toNat
  rw [hnat] at hfits hlong
  refine ⟨fun hr side => ?_, fun hr => ⟨padded .left mask count value,
    padded .right mask count value, pad_of_overlong?_eq_none (hfits hr) _,
    pad_of_overlong?_eq_none (hfits hr) _, ?_⟩⟩
  · rw [pad_eq, hneed, hlong hr, Option.elim_some]
    congr 1
    exact if_congr (by omega) rfl rfl
  have hlength (side : Side) :
      ((padded side mask count value).length : ℤ) = value.length + need := by
    rw [length_padded side count value hm, hneed, Nat.cast_add, hnat]
  have hright (j : ℕ) (hj : j < need) : (padded .right mask count value)[value.length + j]?
      = mask[((j - need) % mask.length).toNat]? := by
    rw [getElem?_padded_right hm (by omega), hneed, hnat]
  refine ⟨hlength .left, hlength .right, List.suffix_append _ _,
    fun i hi => getElem?_padded_left hm (by omega), List.prefix_append _ _, hright, ?_⟩
  rintro rfl i hvi him
  have hmissing : need = mask.length - value.length := by
    simp only [need, Option.getD_none] at hpos ⊢
    omega
  have hi := hright (i - value.length) (by omega)
  have hlast : ((i - value.length : ℕ) : ℤ) - need = i - mask.length := by omega
  rw [Nat.add_sub_cancel' hvi, hlast, Int.sub_emod_right,
    Int.emod_eq_of_lt (Int.natCast_nonneg i) (Int.ofNat_lt.2 him), Int.toNat_natCast] at hi
  exact hi

/-- A count that is no multiple of the mask's length, and a text that has a part of it already. -/
theorem pad_periodic_uneven :
    pad .left ['a', 'b', 'c'] (some 5) ['x'] = .ok ['a', 'b', 'c', 'a', 'b', 'x']
      ∧ pad .right ['a', 'b', 'c'] (some 5) ['x'] = .ok ['x', 'b', 'c', 'a', 'b', 'c']
      ∧ (∃ right, pad .right ['a', 'b', 'c'] (some 5) ['x'] = .ok right ∧ right[1]? = some 'b')
      ∧ pad .right ['a', 'b', 'c'] none ['x'] = .ok ['x', 'b', 'c']
      ∧ pad .right ['a', 'b', 'c'] none ['x', 'b', 'c'] = .ok ['x', 'b', 'c']
      ∧ pad .left ['a', 'b', 'c'] (some (-2)) ['x'] = .ok ['x'] := by
  obtain ⟨-, -, -, hfill⟩ := pad_periodic ['a', 'b', 'c'] (some 5) ['x']
  obtain ⟨-, hrepeats⟩ := hfill (by decide) (by decide)
  obtain ⟨left, right, hleft, hright, -, -, -, -, -, hchars, -⟩ :=
    hrepeats (.inr ⟨2, by decide, by decide⟩)
  obtain ⟨-, hagain, -⟩ := pad_periodic ['a', 'b', 'c'] none ['x']
  obtain ⟨filled, hfilled, hstays⟩ := hagain .right
  obtain rfl : ['x', 'b', 'c'] = filled := Except.ok.inj hfilled
  obtain ⟨-, -, hnone, -⟩ := pad_periodic ['a', 'b', 'c'] (some (-2)) ['x']
  exact ⟨rfl, rfl, ⟨right, hright, hchars 0 (by decide)⟩, rfl, hstays, hnone (.inl (by decide)) .left⟩

/-- A number of characters that no index can hold is asked for, and none of them comes. -/
theorem pad_beyond_index :
    pad .right ['x'] (some 99999999999999999999) ['a'] = .error .count
      ∧ ¬∃ right, pad .right ['x'] (some 99999999999999999999) ['a'] = .ok right
        ∧ (right.length : ℤ) = (['a'] : Text).length + 99999999999999999999 := by
  have hpad : pad .right ['x'] (some 99999999999999999999) ['a'] = .error .count := by decide
  refine ⟨hpad, ?_⟩
  rintro ⟨right, hright, -⟩
  rw [hpad] at hright
  cases hright

end Pad

end FilterTemplate
