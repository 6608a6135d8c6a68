import Mathlib
import FilterTemplate.Regex.Marks

/-!
# The marks of groups that open one after the other

Where an attempt fails, the marks that it set are not taken back one by one: outside of repetitions
the list is cut to the length that it had. That is enough as long as groups are numbered in the
order in which they open, because then what is set behind a place belongs to groups that were not
there before. A `Scope` tells what holds at a place of a pattern, and `Marks.Fit` what the marks are
like there. What an attempt leaves of the marks (`Scope.Kept`), cut or put back, fits again
(`Marks.Fit.restore`).
-/

namespace FilterTemplate.Regex

namespace Marks

/-- The place of a mark, if it is set. -/
def place? (marks : Marks) (index : ℕ) : Option Cursor := marks[index]?.join

theorem place?_eq_none {marks : Marks} {index : ℕ} (h : marks.length ≤ index) :
    marks.place? index = none := by
  rw [place?, List.getElem?_eq_none h]
  rfl

theorem length_put (spot : Cursor) : ∀ (index : ℕ) (marks : Marks),
    (marks.put spot index).length = max marks.length (index + 1)
  | 0, [] => rfl
  | 0, _ :: rest => by simp [put]
  | index + 1, [] => by simp [put, length_put spot index]
  | index + 1, _ :: rest => by simp [put, length_put spot index]

theorem place?_put (spot : Cursor) : ∀ (index other : ℕ) (marks : Marks),
    (marks.put spot index).place? other = if other = index then some spot else marks.place? other
  | 0, 0, [] => rfl
  | 0, other + 1, [] => by simp [put, place?]
  | 0, 0, _ :: rest => rfl
  | 0, other + 1, _ :: rest => by simp [put, place?]
  | index + 1, 0, [] => by simp [put, place?]
  | index + 1, other + 1, [] => by
    have ih := place?_put spot index other []
    simpa [put, place?] using ih
  | index + 1, 0, _ :: rest => by simp [put, place?]
  | index + 1, other + 1, _ :: rest => by
    have ih := place?_put spot index other rest
    simpa [put, place?] using ih

theorem place?_take (marks : Marks) (count index : ℕ) :
    Marks.place? (marks.take count) index = if index < count then marks.place? index else none := by
  rw [place?, List.getElem?_take]
  split_ifs <;> rfl

/-- Whether a group stops no earlier than it starts, if both are marked. The groups are counted from
zero on here. -/
def Straight (marks : Marks) (slot : ℕ) : Prop :=
  ∀ {start stop : Cursor}, marks.place? (2 * slot) = some start →
    marks.place? (2 * slot + 1) = some stop → start.pos ≤ stop.pos

theorem tangled_eq_false {marks : Marks} (h : ∀ slot, marks.Straight slot) :
    marks.tangled = false := by
  fun_induction tangled marks with
  | case1 start stop rest ih =>
    rw [Bool.or_eq_false_iff, decide_eq_false_iff_not, not_lt]
    exact ⟨h 0 rfl rfl, ih fun slot _ _ hs ht => h (slot + 1) hs ht⟩
  | case2 mark other rest _ ih => exact ih fun slot _ _ hs ht => h (slot + 1) hs ht
  | case3 => rfl

end Marks

/-! ## Scopes -/

/-- What holds at a place of a pattern. -/
structure Scope where
  /-- No place before this position is noted. -/
  floor : ℕ
  /-- Where the groups around the place were opened. -/
  opened : ℕ → Option Cursor
  /-- Inside of a repetition that gives iterations back, how many marks were there before it, and
  how many groups there are up to its end. -/
  repeated : Option (ℕ × ℕ)

namespace Scope

/-- How many marks an attempt does not touch. -/
def kept (scope : Scope) (marks : Marks) : ℕ := (scope.repeated.map Prod.fst).getD marks.length

/-- Whether the marks go no further than the groups that can have been opened. -/
def Bounds (scope : Scope) (count : ℕ) (marks : Marks) : Prop :=
  match scope.repeated with
  | none => marks.length ≤ 2 * count
  | some (kept, most) => kept ≤ marks.length ∧ marks.length ≤ 2 * most

/-- Whether an index is not the mark where an open group stops. -/
def IsSettled (scope : Scope) (index : ℕ) : Prop :=
  ∀ slot, scope.opened slot ≠ none → index ≠ 2 * slot + 1

/-- Whether the groups that open inside of the scope are those between two numbers. -/
structure Spans (scope : Scope) (low high : ℕ) : Prop where
  le : low ≤ high
  opened_lt : ∀ slot, scope.opened slot ≠ none → slot < low
  repeated : ∀ kept most, scope.repeated = some (kept, most) → kept ≤ 2 * low ∧ high ≤ most

/-- Whether the marks are left alone that an attempt does not touch. -/
structure Kept (scope : Scope) (marks left : Marks) : Prop where
  le : scope.kept marks ≤ left.length
  place?_eq : ∀ index < scope.kept marks, scope.IsSettled index →
    left.place? index = marks.place? index

end Scope

/-- Whether marks are in order at a place with so many groups before it. A group around the place
has not stopped yet, whatever is left of it from before. -/
structure Marks.Fit (scope : Scope) (count : ℕ) (marks : Marks) : Prop where
  bounds : scope.Bounds count marks
  opened : ∀ {slot start}, scope.opened slot = some start → marks.place? (2 * slot) = some start
  straight : ∀ {slot}, scope.opened slot = none → marks.Straight slot

variable {scope : Scope} {marks left : Marks} {count more low high : ℕ}

theorem Scope.kept_le (h : scope.Bounds count marks) : scope.kept marks ≤ marks.length := by
  unfold kept
  rcases hr : scope.repeated with _ | ⟨kept, most⟩
  · exact le_refl _
  · simp only [Bounds, hr] at h
    exact h.1

theorem Scope.kept_mono (h : marks.length ≤ left.length) : scope.kept marks ≤ scope.kept left := by
  unfold kept
  rcases scope.repeated with _ | ⟨kept, most⟩
  · exact h
  · exact le_refl _

theorem Scope.kept_le_of_kept (h : scope.Kept marks left) :
    scope.kept marks ≤ scope.kept left := by
  have hle := h.le
  unfold kept at hle ⊢
  rcases hr : scope.repeated with _ | ⟨kept, most⟩
  · rwa [hr] at hle
  · exact le_refl _

theorem Scope.Bounds.mono (h : scope.Bounds count marks) (hle : count ≤ more) :
    scope.Bounds more marks := by
  unfold Bounds at h ⊢
  rcases hr : scope.repeated with _ | ⟨kept, most⟩ <;> simp only [hr] at h ⊢
  · omega
  · exact h

theorem Marks.Fit.mono (h : marks.Fit scope count) (hle : count ≤ more) : marks.Fit scope more :=
  ⟨h.bounds.mono hle, h.opened, h.straight⟩

theorem Marks.Fit.kept_refl (h : marks.Fit scope count) : scope.Kept marks marks :=
  ⟨Scope.kept_le h.bounds, fun _ _ _ => rfl⟩

theorem Scope.Kept.trans {further : Marks} (h : scope.Kept marks left)
    (hf : scope.Kept left further) : scope.Kept marks further := by
  have hle := kept_le_of_kept h
  refine ⟨hle.trans hf.le, fun index hi hs => ?_⟩
  rw [hf.place?_eq index (hi.trans_le hle) hs, h.place?_eq index hi hs]

theorem Scope.isSettled_start (scope : Scope) (slot : ℕ) : scope.IsSettled (2 * slot) := by
  intro other _
  omega

theorem Scope.isSettled_stop {slot : ℕ} (h : scope.opened slot = none) :
    scope.IsSettled (2 * slot + 1) := by
  rintro other ho he
  obtain rfl : slot = other := by omega
  exact ho h

/-! ## Marks that are put back -/

/-- Marks that are the same but for those where open groups stop are as good. -/
theorem Marks.Fit.of_place?_eq (h : marks.Fit scope count) (hl : left.length = marks.length)
    (hp : ∀ index, scope.IsSettled index → left.place? index = marks.place? index) :
    left.Fit scope count ∧ scope.Kept marks left := by
  refine ⟨⟨?_, fun {slot start} ho => ?_, fun {slot} ho start stop hs ht => ?_⟩, ?_,
    fun index _ => hp index⟩
  · have hb := h.bounds
    unfold Scope.Bounds at hb ⊢
    rwa [hl]
  · rw [hp _ (scope.isSettled_start slot), h.opened ho]
  · rw [hp _ (scope.isSettled_start slot)] at hs
    rw [hp _ (Scope.isSettled_stop ho)] at ht
    exact h.straight ho hs ht
  · rw [hl]
    exact Scope.kept_le h.bounds

/-- What an attempt leaves is put in order when it is taken back. -/
theorem Marks.Fit.restore {inner : Scope} (ho : inner.opened = scope.opened)
    (h : marks.Fit inner count) (hk : scope.Kept marks left) :
    (Marks.restore scope.repeated.isSome marks left).Fit inner count
      ∧ inner.Kept marks (Marks.restore scope.repeated.isSome marks left) := by
  rcases hr : scope.repeated with _ | _
  · -- the list is as long as it was, and what was set anew is beyond its end
    have hkept : scope.kept marks = marks.length := by rw [Scope.kept, hr]; rfl
    have hlength : marks.length ≤ left.length := hkept ▸ hk.le
    refine h.of_place?_eq (by simpa [Marks.restore] using hlength) fun index hs => ?_
    simp only [Marks.restore, Option.isSome_none, Bool.false_eq_true, if_false, place?_take]
    split_ifs with hi
    · exact hk.place?_eq index (hkept ▸ hi) fun slot hslot => hs slot (ho ▸ hslot)
    · rw [place?_eq_none (not_lt.1 hi)]
  · exact ⟨h, h.kept_refl⟩

/-! ## Groups -/

/-- The scope inside of a group. -/
def Scope.enter (scope : Scope) (slot : ℕ) (spot : Cursor) : Scope :=
  { scope with opened := Function.update scope.opened slot (some spot) }

variable {spot : Cursor}

theorem Scope.opened_enter_self : (scope.enter low spot).opened low = some spot := by
  simp [enter]

theorem Scope.opened_enter_of_ne {slot : ℕ} (h : slot ≠ low) :
    (scope.enter low spot).opened slot = scope.opened slot := by
  simp [enter, h]

theorem Scope.IsSettled.of_enter {index : ℕ} (hn : scope.opened low = none)
    (h : (scope.enter low spot).IsSettled index) : scope.IsSettled index ∧ index ≠ 2 * low + 1 := by
  refine ⟨fun slot ho => h slot ?_, h low ?_⟩
  · rwa [opened_enter_of_ne]
    rintro rfl
    exact ho hn
  · rw [opened_enter_self]
    exact Option.some_ne_none spot

theorem Scope.Spans.enter (h : scope.Spans low high) (hlt : low < high) (spot : Cursor) :
    (scope.enter low spot).Spans (low + 1) high := by
  refine ⟨hlt, fun slot hs => ?_, fun kept most hr => ?_⟩
  · by_cases he : slot = low
    · omega
    · rw [Scope.opened_enter_of_ne he] at hs
      exact (h.opened_lt slot hs).trans (Nat.lt_succ_self low)
  · obtain ⟨hk, hm⟩ := h.repeated kept most hr
    exact ⟨by omega, hm⟩

/-- The marks that an attempt does not touch come before those of the groups that open in it. -/
theorem Scope.Spans.kept_le (h : scope.Spans low high) (hb : scope.Bounds low marks) :
    scope.kept marks ≤ 2 * low := by
  unfold kept
  rcases hr : scope.repeated with _ | ⟨kept, most⟩
  · simpa [Bounds, hr] using hb
  · exact (h.repeated kept most hr).1

theorem Scope.Spans.opened_eq_none (h : scope.Spans low high) {slot : ℕ} (hle : low ≤ slot) :
    scope.opened slot = none := by
  by_contra ho
  exact absurd (h.opened_lt slot ho) (not_lt.2 hle)

theorem Scope.Spans.mono (h : scope.Spans low high) {first last : ℕ} (hl : low ≤ first)
    (hm : first ≤ last) (hh : last ≤ high) : scope.Spans first last := by
  refine ⟨hm, fun slot hs => (h.opened_lt slot hs).trans_le hl, fun kept most hr => ?_⟩
  obtain ⟨hk, hmost⟩ := h.repeated kept most hr
  exact ⟨by omega, by omega⟩

theorem Scope.Bounds.put (h : scope.Bounds count marks) (hs : scope.Spans low count) {index : ℕ}
    (hi : index < 2 * count) : scope.Bounds count (marks.put spot index) := by
  unfold Bounds at h ⊢
  rcases hr : scope.repeated with _ | ⟨kept, most⟩ <;> simp only [hr, Marks.length_put] at h ⊢
  · omega
  · have := (hs.repeated kept most hr).2
    omega

/-- A group that opens is marked where it starts, and what comes in it finds the marks in order. -/
theorem Marks.Fit.enter (h : marks.Fit scope low) (hs : scope.Spans low high) (hlt : low < high)
    (spot : Cursor) : Marks.Fit (scope.enter low spot) (low + 1) (marks.put spot (2 * low)) := by
  have hnone := hs.opened_eq_none (le_refl low)
  refine ⟨?_, fun {slot start} ho => ?_, fun {slot} ho start stop hstart hstop => ?_⟩
  · exact (h.bounds.mono (Nat.le_succ low)).put (hs.mono (le_refl _) (Nat.le_succ _) hlt) (by omega)
  · by_cases he : slot = low
    · subst he
      rw [Scope.opened_enter_self] at ho
      rw [place?_put, if_pos rfl, ho]
    · rw [Scope.opened_enter_of_ne he] at ho
      rw [place?_put, if_neg (by omega), h.opened ho]
  · by_cases he : slot = low
    · rw [he, Scope.opened_enter_self] at ho
      cases ho
    · rw [Scope.opened_enter_of_ne he] at ho
      rw [place?_put, if_neg (by omega)] at hstart hstop
      exact h.straight ho hstart hstop

theorem Scope.Kept.put (h : scope.Kept marks left) {index : ℕ} (hle : scope.kept marks ≤ index)
    (spot : Cursor) : scope.Kept marks (left.put spot index) := by
  refine ⟨?_, fun other hi hs => ?_⟩
  · rw [Marks.length_put]
    exact h.le.trans (le_max_left _ _)
  · rw [Marks.place?_put, if_neg (by omega), h.place?_eq other hi hs]

theorem Scope.Kept.enter (h : scope.Kept marks left) (hn : scope.opened low = none)
    (spot : Cursor) : (scope.enter low spot).Kept marks left :=
  ⟨h.le, fun index hi hs => h.place?_eq index hi (hs.of_enter hn).1⟩

/-- Inside of a group its own end may be marked, which is not one of the marks from before it. -/
theorem Scope.Kept.of_enter (h : (scope.enter low spot).Kept marks left)
    (hle : scope.kept marks ≤ 2 * low) : scope.Kept marks left := by
  refine ⟨h.le, fun index hi hs => h.place?_eq index hi fun slot ho => ?_⟩
  by_cases he : slot = low
  · have hlt : index < 2 * low := hi.trans_le hle
    omega
  · rw [Scope.opened_enter_of_ne he] at ho
    exact hs slot ho

/-- A group that stops is marked there, no earlier than it starts. -/
theorem Marks.Fit.leave {stop : Cursor} (h : marks.Fit (scope.enter low spot) high)
    (hs : scope.Spans low high) (hlt : low < high) (hle : spot.pos ≤ stop.pos) :
    Marks.Fit scope high (marks.put stop (2 * low + 1)) := by
  refine ⟨?_, fun {slot start} ho => ?_, fun {slot} ho start other hstart hstop => ?_⟩
  · have hb : scope.Bounds high marks := h.bounds
    exact hb.put (hs.mono hs.le (le_refl _) (le_refl _)) (by omega)
  · have hne : slot ≠ low := (hs.opened_lt slot (by simp [ho])).ne
    rw [place?_put, if_neg (by omega), h.opened (by rw [Scope.opened_enter_of_ne hne, ho])]
  · rw [place?_put, if_neg (by omega)] at hstart
    by_cases he : slot = low
    · subst he
      rw [place?_put, if_pos rfl] at hstop
      rw [h.opened Scope.opened_enter_self] at hstart
      cases hstart
      cases hstop
      exact hle
    · rw [place?_put, if_neg (by omega)] at hstop
      exact h.straight (by rw [Scope.opened_enter_of_ne he, ho]) hstart hstop

/-- What comes behind a group may leave the place where it stops. -/
theorem Scope.Kept.of_leave {stop : Cursor} {further : Marks} (hn : scope.opened low = none)
    (h : scope.Kept (marks.put stop (2 * low + 1)) further) :
    (scope.enter low spot).Kept marks further := by
  have hlength : marks.length ≤ (marks.put stop (2 * low + 1)).length := by
    rw [Marks.length_put]
    exact le_max_left _ _
  have hle : scope.kept marks ≤ scope.kept (marks.put stop (2 * low + 1)) := kept_mono hlength
  refine ⟨hle.trans h.le, fun index hi hs => ?_⟩
  obtain ⟨hsettled, hne⟩ := hs.of_enter hn
  rw [h.place?_eq index (lt_of_lt_of_le hi hle) hsettled, Marks.place?_put, if_neg hne]

/-! ## Repetitions -/

/-- The scope inside of a repetition that gives iterations back. -/
def Scope.repeating (scope : Scope) (marks : Marks) (most : ℕ) : Scope :=
  { scope with repeated := scope.repeated.or (some (marks.length, most)) }

theorem Scope.isSome_repeating (scope : Scope) (marks : Marks) (most : ℕ) :
    (scope.repeating marks most).repeated.isSome = true := by
  simp [repeating]

theorem Scope.kept_repeating (scope : Scope) (marks : Marks) (most : ℕ) :
    (scope.repeating marks most).kept marks = scope.kept marks := by
  unfold kept repeating
  rcases scope.repeated with _ | _ <;> rfl

theorem Scope.Spans.repeating (h : scope.Spans low high) (hb : scope.Bounds low marks) :
    (scope.repeating marks high).Spans low high := by
  refine ⟨h.le, h.opened_lt, fun kept most hr => ?_⟩
  rcases hs : scope.repeated with _ | ⟨first, last⟩
  · obtain ⟨rfl, rfl⟩ : marks.length = kept ∧ high = most := by simpa [Scope.repeating, hs] using hr
    exact ⟨by simpa [Scope.Bounds, hs] using hb, le_refl _⟩
  · exact h.repeated kept most (by simpa [Scope.repeating, hs] using hr)

/-- Inside of a repetition, the marks of all of its groups may be there from the start. -/
theorem Marks.Fit.of_isSome (h : marks.Fit scope count) (hr : scope.repeated.isSome = true)
    (more : ℕ) : marks.Fit scope more := by
  refine ⟨?_, h.opened, h.straight⟩
  have hb := h.bounds
  unfold Scope.Bounds at hb ⊢
  obtain ⟨bounds, he⟩ := Option.isSome_iff_exists.1 hr
  simpa only [he] using hb

theorem Marks.Fit.repeating (h : marks.Fit scope low) (hle : low ≤ high) :
    marks.Fit (scope.repeating marks high) high := by
  refine ⟨?_, h.opened, h.straight⟩
  have hb := h.bounds
  unfold Scope.Bounds Scope.repeating at *
  rcases hr : scope.repeated with _ | ⟨kept, most⟩ <;> simp only [hr] at hb ⊢
  · exact ⟨le_refl _, by omega⟩
  · exact hb

theorem Marks.Fit.of_repeating (h : left.Fit (scope.repeating marks high) count) :
    left.Fit scope high := by
  refine ⟨?_, h.opened, h.straight⟩
  have hb := h.bounds
  unfold Scope.Bounds Scope.repeating at *
  rcases hr : scope.repeated with _ | ⟨kept, most⟩ <;> simp only [hr] at hb ⊢
  · exact hb.2
  · exact hb

theorem Scope.Kept.of_repeating {further : Marks}
    (h : (scope.repeating marks high).Kept marks further) : scope.Kept marks further := by
  have hk := scope.kept_repeating marks high
  exact ⟨hk ▸ h.le, fun index hi hs => h.place?_eq index (hk ▸ hi) hs⟩

/-- In a repetition less has to be kept than outside. -/
theorem Scope.Kept.repeating {further : Marks} (h : scope.Kept left further)
    (hb : (scope.repeating marks high).Bounds count left) :
    (scope.repeating marks high).Kept left further := by
  have hle : (scope.repeating marks high).kept left ≤ scope.kept left := by
    have hkept := kept_le hb
    unfold kept Scope.repeating at *
    rcases hr : scope.repeated with _ | ⟨kept, most⟩
    · simpa [hr] using hkept
    · exact le_refl _
  exact ⟨hle.trans h.le, fun index hi hs => h.place?_eq index (hi.trans_le hle) hs⟩

end FilterTemplate.Regex
