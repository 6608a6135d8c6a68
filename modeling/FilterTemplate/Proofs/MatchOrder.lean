import Mathlib
import FilterTemplate.Proofs.Except
import FilterTemplate.Proofs.Places
import FilterTemplate.Regex.Replacement

/-!
# Matches follow each other

The matches of a text are found one behind the other: the search for the next one starts where the
last one stopped, so each starts there or later (`Pattern.trails_matchesFrom`). What replaces them
stands between the gaps, and nothing of a gap is lost. So the text comes back if each match is
replaced by itself, provided that it stops no earlier than it starts (`Pattern.stitch_itself_iff`).
-/

namespace FilterTemplate.Regex

variable {text : Text}

/-! ## Between places -/

namespace Cursor

variable {first last : Cursor}

theorem Within.after_eq_drop (h : first.Within text) : first.after = text.drop first.pos := by
  rw [← h.text_eq, h.pos_eq, Cursor.text, ← List.length_reverse, List.drop_left]

theorem Within.length_after (h : first.Within text) :
    first.after.length = text.length - first.pos := by
  rw [h.after_eq_drop, List.length_drop]

theorem Within.pos_le (h : first.Within text) : first.pos ≤ text.length := by
  have hlength := congrArg List.length h.text_eq
  rw [Cursor.text, List.length_append, List.length_reverse, ← h.pos_eq] at hlength
  omega

/-- Behind a place come the characters up to a later one, and then what is behind that. -/
theorem Within.take_append_after (h : first.Within text) (hl : last.Within text)
    (hle : first.pos ≤ last.pos) :
    first.after.take (last.pos - first.pos) ++ last.after = first.after := by
  have hlast : last.after = first.after.drop (last.pos - first.pos) := by
    rw [h.after_eq_drop, hl.after_eq_drop, List.drop_drop, Nat.add_sub_cancel' hle]
  rw [hlast, List.take_append_drop]

end Cursor

/-! ## Matches -/

/-- Whether a match stops no earlier than it starts, and each of its groups so. -/
structure Match.Straight (m : Match) : Prop where
  forward : m.start.pos ≤ m.stop.pos
  shown : m.marks.tangled = false

/-- Whether a match starts at a place from `spot` on, and stops at a place of the text, where it is
not empty at `spot` itself if it has to advance. -/
structure Match.Behind (text : Text) (advance : Bool) (spot : Cursor) (m : Match) : Prop where
  start : m.start.Within text
  stop : m.stop.Within text
  le : spot.pos ≤ m.start.pos
  moves : advance = true → m.start.pos = spot.pos → m.stop.pos ≠ m.start.pos

/-- Whether each match starts where the one before it stops, or later. -/
def Trails (text : Text) : Bool → Cursor → List Match → Prop
  | _, _, [] => True
  | advance, spot, m :: rest => m.Behind text advance spot ∧ Trails text m.isEmpty m.stop rest

namespace Pattern

variable {p : Pattern} {m : Match} {spot : Cursor}

theorem behind_of_searchFrom {patience : ℕ} : ∀ {advance : Bool} {before after : Text}
    {pos room : ℕ}, Cursor.Within text ⟨before, after, pos⟩ →
      p.searchFrom patience advance before pos room after = some m →
        m.Behind text advance ⟨before, after, pos⟩ := by
  intro advance before after pos room hw h
  fun_induction searchFrom p patience advance before pos room after with
  | case1 advance before pos room after found m' hf =>
    obtain rfl := Option.some.inj h
    simp only [found] at hf
    split_ifs at hf
    obtain ⟨hstart, hstop, hmoves⟩ := within_of_matchAt hw hf
    exact ⟨hstart ▸ hw, hstop, by rw [hstart], fun ha _ => hstart ▸ hmoves ha⟩
  | case2 advance before pos room c after found hf ih =>
    obtain ⟨hstart, hstop, hle, -⟩ := ih (hw.next? rfl) h
    have hlt : pos < m.start.pos := hle
    exact ⟨hstart, hstop, hlt.le, fun _ he => absurd he hlt.ne'⟩
  | case3 advance before pos room after found hf hn => cases h

theorem behind_of_next? {length : ℕ} {advance : Bool} (hw : spot.Within text)
    (h : p.next? length advance spot = some m) : m.Behind text advance spot := by
  simp only [next?] at h
  split_ifs at h <;> exact behind_of_searchFrom hw h

theorem trails_matchesFrom {length : ℕ} : ∀ {fuel : ℕ} {advance : Bool} {spot : Cursor},
    spot.Within text → Trails text advance spot (p.matchesFrom length fuel advance spot)
  | 0, _, _, _ => trivial
  | fuel + 1, advance, spot, hw => by
    rw [matchesFrom]
    rcases hn : p.next? length advance spot with _ | found
    · trivial
    · have hb := behind_of_next? hw hn
      exact ⟨hb, trails_matchesFrom hb.stop⟩

/-- All matches are the first ones, and these are fewer than the ways on. -/
theorem firstMatches_of_allMatches? {found : List Match} (h : p.allMatches? text = some found) :
    p.firstMatches text = found ∧ found.length < waysOn text := by
  obtain ⟨hlt, hfound⟩ := Option.ite_none_right_eq_some.1 h
  obtain rfl := Option.some.inj hfound
  exact ⟨rfl, hlt⟩

theorem trails_replaced? {all : Bool} {found : List Match} (h : p.replaced? all text = some found) :
    Trails text false (.start text) found := by
  cases all with
  | false =>
    obtain rfl := Option.some.inj h
    rcases hs : p.search text with _ | m
    · trivial
    · exact ⟨behind_of_next? (Cursor.within_start text) hs, trivial⟩
  | true =>
    obtain ⟨rfl, -⟩ := firstMatches_of_allMatches? h
    exact trails_matchesFrom (Cursor.within_start text)

/-! ## Where matches come from -/

theorem exists_matchAt_of_searchFrom {patience : ℕ} : ∀ {advance : Bool} {before : Text}
    {pos room : ℕ} {after : Text}, p.searchFrom patience advance before pos room after = some m →
      ∃ advance start, p.matchAt patience advance start = some m := by
  intro advance before pos room after h
  fun_induction searchFrom p patience advance before pos room after with
  | case1 advance before pos room after found m' hf =>
    obtain rfl := Option.some.inj h
    simp only [found] at hf
    split_ifs at hf
    exact ⟨_, _, hf⟩
  | case2 advance before pos room c after found hf ih => exact ih h
  | case3 advance before pos room after found hf hn => cases h

theorem exists_matchAt_of_next? {length : ℕ} {advance : Bool}
    (h : p.next? length advance spot = some m) :
    ∃ patience advance start, p.matchAt patience advance start = some m := by
  simp only [next?] at h
  split_ifs at h <;> exact ⟨_, exists_matchAt_of_searchFrom h⟩

theorem exists_matchAt_of_matchesFrom {length : ℕ} : ∀ {fuel : ℕ} {advance : Bool} {spot : Cursor},
    m ∈ p.matchesFrom length fuel advance spot →
      ∃ patience advance start, p.matchAt patience advance start = some m
  | 0, _, _, h => by simp [matchesFrom] at h
  | fuel + 1, advance, spot, h => by
    rw [matchesFrom] at h
    rcases hn : p.next? length advance spot with _ | found <;> rw [hn] at h
    · simp at h
    · rcases List.mem_cons.1 h with rfl | h
      · exact exists_matchAt_of_next? hn
      · exact exists_matchAt_of_matchesFrom h

end Pattern

/-! ## How many matches there are -/

/-- Straight matches that follow each other are at most two for each place, an empty one and one
that is not. -/
theorem Trails.length_le : ∀ {found : List Match} {advance : Bool} {spot : Cursor},
    Trails text advance spot found → spot.Within text → (∀ m ∈ found, m.Straight) →
      found.length ≤ 2 * (text.length - spot.pos) + (if advance then 0 else 1)
  | [], _, _, _, _, _ => Nat.zero_le _
  | m :: rest, advance, spot, ⟨hm, ht⟩, hw, hs => by
    obtain ⟨hstraight, hrest⟩ := List.forall_mem_cons.1 hs
    have ih := length_le ht hm.stop hrest
    have hforward := hstraight.forward
    have hle := hm.le
    have hstop := hm.stop.pos_le
    rw [List.length_cons]
    rcases hforward.eq_or_lt with he | hlt
    · -- after an empty match the next one advances, and it stands elsewhere if this one had to
      have hempty : m.isEmpty = true := by
        rw [Match.isEmpty, he]
        exact beq_self_eq_true _
      rw [if_pos hempty] at ih
      have hmoves := hm.moves
      cases advance with
      | false => simp only [Bool.false_eq_true, if_false]; omega
      | true =>
        have hne : m.start.pos ≠ spot.pos := fun h => hmoves rfl h he.symm
        simp only [if_true]
        omega
    · have hlast : (if m.isEmpty then 0 else 1) ≤ 1 := by split_ifs <;> omega
      have hfirst : 0 ≤ if advance then 0 else 1 := Nat.zero_le _
      omega

namespace Pattern

variable {p : Pattern}

/-- Where the search for matches ends by itself, it needs no more fuel. -/
theorem matchesFrom_of_length_lt {length : ℕ} : ∀ {fuel more : ℕ} {advance : Bool} {spot : Cursor},
    (p.matchesFrom length fuel advance spot).length < fuel → fuel ≤ more →
      p.matchesFrom length more advance spot = p.matchesFrom length fuel advance spot
  | 0, _, _, _, h, _ => absurd h (Nat.not_lt_zero _)
  | fuel + 1, 0, _, _, _, hm => absurd hm (Nat.not_succ_le_zero fuel)
  | fuel + 1, more + 1, advance, spot, h, hm => by
    rw [matchesFrom] at h
    rw [matchesFrom, matchesFrom]
    rcases hn : p.next? length advance spot with _ | found
    · rfl
    · rw [hn] at h
      simp only [List.length_cons] at h ⊢
      rw [matchesFrom_of_length_lt (Nat.lt_of_succ_lt_succ h) (Nat.le_of_succ_le_succ hm)]

/-- Straight matches come to an end. -/
theorem allMatches?_of_straight (h : ∀ m ∈ p.firstMatches text, m.Straight) :
    p.allMatches? text = some (p.firstMatches text) := by
  have hw := Cursor.within_start text
  have htrails : Trails text false (.start text) (p.firstMatches text) := trails_matchesFrom hw
  have hlength := htrails.length_le hw h
  refine if_pos ?_
  simp only [Bool.false_eq_true, if_false] at hlength
  rw [waysOn]
  omega

/-! ## Matches replaced -/

theorem stitch_cons_eq_some {parts : List Part} {spot : Cursor} {m : Match} {rest : List Match}
    {result : Text} : stitch parts spot (m :: rest) = some result ↔
      ∃ shown others, Replacement.expand? m parts = some shown
        ∧ stitch parts m.stop rest = some others
        ∧ spot.after.take (m.start.pos - spot.pos) ++ shown ++ others = result := by
  rw [stitch]
  rcases he : Replacement.expand? m parts with _ | shown
  · simp
  · rcases ho : stitch parts m.stop rest with _ | others <;> simp

/-- Matches are replaced if each of them can be filled in. -/
theorem exists_stitch_iff {parts : List Part} : ∀ {spot : Cursor} {found : List Match},
    (∃ result, stitch parts spot found = some result)
      ↔ ∀ m ∈ found, ∃ shown, Replacement.expand? m parts = some shown
  | _, [] => by simp [stitch]
  | spot, m :: rest => by
    rw [List.forall_mem_cons, ← @exists_stitch_iff parts m.stop rest]
    constructor
    · rintro ⟨result, hr⟩
      obtain ⟨shown, others, hs, ho, -⟩ := stitch_cons_eq_some.1 hr
      exact ⟨⟨shown, hs⟩, others, ho⟩
    · rintro ⟨⟨shown, hs⟩, others, ho⟩
      exact ⟨_, stitch_cons_eq_some.2 ⟨shown, others, hs, ho, rfl⟩⟩

theorem shownText_eq_ok_iff {shown : Option Text} :
    shownText shown = .ok text ↔ shown = some text := by
  cases shown <;> simp [shownText]

/-- What is replaced has an end, and each match can be shown. -/
theorem replaceMatches_eq_ok_iff {all : Bool} {parts : List Part} {result : Text} :
    p.replaceMatches all parts text = .ok result ↔ ∃ found, p.replaced? all text = some found
      ∧ stitch parts (.start text) found = some result := by
  rw [replaceMatches]
  rcases p.replaced? all text with _ | found
  · rcases stitch parts (.start text) (p.firstMatches text) with _ | shown <;>
      simp [shownText, bind, Except.bind]
  · simp [shownText_eq_ok_iff]

end Pattern

/-! ## Each match replaced by itself -/

section

variable {m : Match} {advance : Bool} {spot : Cursor}

theorem Match.Behind.length_text (h : m.Behind text advance spot) :
    m.text.length = m.stop.pos - m.start.pos := by
  have hstop := h.stop.pos_le
  rw [Match.text, List.length_take, h.start.length_after]
  omega

/-- A match that stops no earlier than it starts stands between two parts of the text. -/
theorem Match.Behind.take_append_text_append (hw : spot.Within text)
    (h : m.Behind text advance spot) (hforward : m.start.pos ≤ m.stop.pos) :
    spot.after.take (m.start.pos - spot.pos) ++ m.text ++ m.stop.after = spot.after := by
  rw [List.append_assoc, Match.text, h.start.take_append_after h.stop hforward,
    hw.take_append_after h.start h.le]

end

namespace Pattern

theorem expand?_itself_eq_some {m : Match} {shown : Text} :
    Replacement.expand? m [.group 0] = some shown ↔ m.marks.tangled = false ∧ m.text = shown := by
  cases ht : m.marks.tangled <;>
    simp [Replacement.expand?, Replacement.expand, Replacement.asksForGroups, Match.group, ht]

/-- No character is lost where matches are replaced by themselves. -/
theorem length_le_of_stitch_itself : ∀ {found : List Match} {advance : Bool} {spot : Cursor}
    {result : Text}, spot.Within text → Trails text advance spot found →
      stitch [.group 0] spot found = some result → spot.after.length ≤ result.length
  | [], _, spot, result, _, _, h => by
    cases h
    exact le_refl _
  | m :: rest, _, spot, result, hw, ⟨hm, ht⟩, h => by
    obtain ⟨shown, others, he, ho, rfl⟩ := stitch_cons_eq_some.1 h
    obtain ⟨-, rfl⟩ := expand?_itself_eq_some.1 he
    have hle := length_le_of_stitch_itself hm.stop ht ho
    have hstart := hm.start.pos_le
    have hfirst := hm.le
    rw [hm.stop.length_after] at hle
    rw [hw.length_after, List.length_append, List.length_append, List.length_take, hm.length_text,
      hw.length_after]
    omega

/-- The text comes back exactly if all the matches are straight. -/
theorem stitch_itself_iff : ∀ {found : List Match} {advance : Bool} {spot : Cursor},
    spot.Within text → Trails text advance spot found →
      (stitch [.group 0] spot found = some spot.after ↔ ∀ m ∈ found, m.Straight)
  | [], _, _, _, _ => by simp [stitch]
  | m :: rest, _, spot, hw, ⟨hm, ht⟩ => by
    have ih := stitch_itself_iff hm.stop ht
    rw [stitch_cons_eq_some, List.forall_mem_cons]
    constructor
    · rintro ⟨shown, others, he, ho, hresult⟩
      obtain ⟨hshown, rfl⟩ := expand?_itself_eq_some.1 he
      have hlength := congrArg List.length hresult
      have hle := length_le_of_stitch_itself hm.stop ht ho
      have hstart := hm.start.pos_le
      have hfirst := hm.le
      rw [List.length_append, List.length_append, List.length_take, hm.length_text,
        hw.length_after] at hlength
      rw [hm.stop.length_after] at hle
      have hforward : m.start.pos ≤ m.stop.pos := by omega
      have hothers : others = m.stop.after :=
        List.append_cancel_left (hresult.trans (hm.take_append_text_append hw hforward).symm)
      exact ⟨⟨hforward, hshown⟩, ih.1 (by rw [ho, hothers])⟩
    · rintro ⟨hs, hrest⟩
      exact ⟨m.text, m.stop.after, expand?_itself_eq_some.2 ⟨hs.shown, rfl⟩, ih.2 hrest,
        hm.take_append_text_append hw hs.forward⟩

end Pattern

end FilterTemplate.Regex
