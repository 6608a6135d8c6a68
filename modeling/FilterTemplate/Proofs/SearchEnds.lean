import Mathlib
import FilterTemplate.Proofs.GroupNumbers
import FilterTemplate.Proofs.MatchOrder
import FilterTemplate.Proofs.OrderedRuns

/-!
# Where a search comes to an end

After each match the search for all matches goes on at a place, with a match that may be empty or
with one that may not, and each time that it goes on in the same way it finds the same. There are
only so many ways on (`waysOn`), so each that it ever takes is one of the first that it takes
(`Pattern.exists_onward_lt`). So a search that does not end among the first matches has no end
(`Pattern.allMatches?_eq_none_iff`), and it finds nothing but these matches for ever
(`Pattern.mem_firstMatches`). Where one of them cannot be filled in, it stops what replaces them,
and otherwise nothing does (`Pattern.replaceMatches_eq_endlessSearch_iff`). The matches of a pattern
that repeats nothing possessively that looks back or captures are straight, and so they come to an
end (`Pattern.exists_replaced?_of_compile`).
-/

namespace FilterTemplate.Regex

variable {text : Text}

theorem Cursor.Within.eq_between {spot : Cursor} (h : spot.Within text) :
    spot = .between (text.take spot.pos) (text.drop spot.pos) := by
  have hpos : spot.pos = spot.before.reverse.length := by rw [List.length_reverse, h.pos_eq]
  have htake : text.take spot.pos = spot.before.reverse := by
    rw [← h.text_eq, Cursor.text, hpos, List.take_left]
  rw [htake, ← h.after_eq_drop, Cursor.between, List.reverse_reverse, List.length_reverse,
    ← h.pos_eq]

namespace Pattern

variable {p : Pattern} {length : ℕ} {m : Match}

/-! ## Ways on -/

/-- How the search goes on after the next match: whether the one behind it may not be empty, and the
place from which it is looked for. -/
def goOn (p : Pattern) (length : ℕ) (way : Bool × Cursor) : Option (Bool × Cursor) :=
  (p.next? length way.1 way.2).map fun m => (m.isEmpty, m.stop)

/-- How the search goes on after a number of matches. -/
def onward (p : Pattern) (length : ℕ) (way : Bool × Cursor) : ℕ → Option (Bool × Cursor)
  | 0 => some way
  | count + 1 => (p.onward length way count).bind (p.goOn length)

theorem onward_zero (way : Bool × Cursor) : p.onward length way 0 = some way := rfl

theorem onward_add (way : Bool × Cursor) (first : ℕ) : ∀ further : ℕ,
    p.onward length way (first + further)
      = (p.onward length way first).bind fun between => p.onward length between further
  | 0 => by simp [onward]
  | further + 1 => by
    rw [← Nat.add_assoc, onward, onward_add way first further, Option.bind_assoc]
    rfl

theorem onward_succ (way : Bool × Cursor) (count : ℕ) :
    p.onward length way (count + 1)
      = (p.goOn length way).bind fun next => p.onward length next count := by
  rw [Nat.add_comm, onward_add, onward, onward, Option.bind_some]

/-- What comes later has something before it. -/
theorem exists_onward_of_le {way after : Bool × Cursor} {first count : ℕ} (hle : first ≤ count)
    (h : p.onward length way count = some after) :
    ∃ between, p.onward length way first = some between := by
  obtain ⟨further, rfl⟩ := Nat.exists_eq_add_of_le hle
  rw [onward_add] at h
  obtain ⟨between, hb, -⟩ := Option.bind_eq_some_iff.1 h
  exact ⟨between, hb⟩

theorem within_onward {way : Bool × Cursor} (hw : way.2.Within text) : ∀ {count : ℕ}
    {after : Bool × Cursor}, p.onward length way count = some after → after.2.Within text
  | 0, _, h => by
    obtain rfl := Option.some.inj h
    exact hw
  | count + 1, _, h => by
    obtain ⟨between, hb, hg⟩ := Option.bind_eq_some_iff.1 h
    obtain ⟨m, hm, rfl⟩ := Option.map_eq_some_iff.1 hg
    exact (behind_of_next? (within_onward hw hb) hm).stop

/-! ## The first ways on are all -/

/-- What a way on is known by: whether it has to advance, and the number of its place. -/
def wayKey (way : Bool × Cursor) : Bool × ℕ := (way.1, way.2.pos)

def wayKeys (text : Text) : Finset (Bool × ℕ) := Finset.univ ×ˢ Finset.range (text.length + 1)

theorem card_wayKeys (text : Text) : (wayKeys text).card = waysOn text := by
  rw [wayKeys, Finset.card_product, Finset.card_univ, Fintype.card_bool, Finset.card_range, waysOn]
  omega

theorem wayKey_mem {way : Bool × Cursor} (hw : way.2.Within text) : wayKey way ∈ wayKeys text := by
  rw [wayKeys, Finset.mem_product, Finset.mem_range]
  exact ⟨Finset.mem_univ _, Nat.lt_succ_of_le hw.pos_le⟩

theorem wayKey_inj {way other : Bool × Cursor} (hw : way.2.Within text)
    (ho : other.2.Within text) (h : wayKey way = wayKey other) : way = other := by
  obtain ⟨hadvance, hpos⟩ := Prod.mk.inj h
  refine Prod.ext hadvance ?_
  rw [hw.eq_between, ho.eq_between, hpos]

/-- A search that takes more ways on than there are takes one of them again. -/
theorem exists_onward_eq {way after : Bool × Cursor} (hw : way.2.Within text)
    (h : p.onward length way (waysOn text) = some after) :
    ∃ first second, first < second ∧ second ≤ waysOn text
      ∧ p.onward length way first = p.onward length way second := by
  have hreach (count : Fin (waysOn text + 1)) :
      ∃ between, p.onward length way count = some between ∧ between.2.Within text := by
    obtain ⟨between, hb⟩ := exists_onward_of_le (Nat.le_of_lt_succ count.isLt) h
    exact ⟨between, hb, within_onward hw hb⟩
  choose between hb hwithin using hreach
  have hcard : (wayKeys text).card < (Finset.univ : Finset (Fin (waysOn text + 1))).card := by
    rw [card_wayKeys, Finset.card_univ, Fintype.card_fin]
    exact Nat.lt_succ_self _
  obtain ⟨i, -, j, -, hne, he⟩ := Finset.exists_ne_map_eq_of_card_lt_of_maps_to hcard
    fun count _ => wayKey_mem (hwithin count)
  have hsame : p.onward length way i = p.onward length way j := by
    rw [hb, hb, wayKey_inj (hwithin i) (hwithin j) he]
  rcases Nat.lt_or_gt_of_ne (Fin.val_ne_of_ne hne) with hlt | hlt
  · exact ⟨i, j, hlt, Nat.le_of_lt_succ j.isLt, hsame⟩
  · exact ⟨j, i, hlt, Nat.le_of_lt_succ i.isLt, hsame.symm⟩

/-- However far a search goes, it goes on in a way that it has taken among the first. -/
theorem exists_onward_lt {way : Bool × Cursor} (hw : way.2.Within text) (count : ℕ) :
    ∀ {after : Bool × Cursor}, p.onward length way count = some after →
      ∃ early < waysOn text, p.onward length way early = some after := by
  induction count using Nat.strong_induction_on with
  | _ count ih =>
    intro after h
    rcases lt_or_ge count (waysOn text) with hlt | hge
    · exact ⟨count, hlt, h⟩
    · obtain ⟨between, hb⟩ := exists_onward_of_le hge h
      obtain ⟨first, second, hlt, hle, he⟩ := exists_onward_eq hw hb
      -- the stretch between the two equal ways is left out
      obtain ⟨further, rfl⟩ := Nat.exists_eq_add_of_le (hle.trans hge)
      refine ih (first + further) (by omega) ?_
      rwa [onward_add, he, ← onward_add]

/-! ## The matches on the way -/

theorem length_matchesFrom_le : ∀ (fuel : ℕ) (advance : Bool) (spot : Cursor),
    (p.matchesFrom length fuel advance spot).length ≤ fuel
  | 0, _, _ => le_refl _
  | fuel + 1, advance, spot => by
    rw [matchesFrom]
    rcases p.next? length advance spot with _ | m
    · exact Nat.zero_le _
    · exact Nat.succ_le_succ (length_matchesFrom_le fuel _ _)

/-- As many matches are found as are looked for exactly if the search goes on behind them. -/
theorem length_matchesFrom_eq_iff : ∀ {fuel : ℕ} {advance : Bool} {spot : Cursor},
    (p.matchesFrom length fuel advance spot).length = fuel
      ↔ ∃ after, p.onward length (advance, spot) fuel = some after
  | 0, _, _ => by simp [matchesFrom, onward]
  | fuel + 1, advance, spot => by
    rw [matchesFrom, onward_succ, goOn]
    rcases p.next? length advance spot with _ | m
    · simp
    · rw [List.length_cons, Nat.succ_inj, length_matchesFrom_eq_iff]
      rfl

theorem mem_matchesFrom_iff : ∀ {fuel : ℕ} {advance : Bool} {spot : Cursor},
    m ∈ p.matchesFrom length fuel advance spot
      ↔ ∃ count < fuel, ∃ way, p.onward length (advance, spot) count = some way
        ∧ p.next? length way.1 way.2 = some m
  | 0, _, _ => by simp [matchesFrom]
  | fuel + 1, advance, spot => by
    rw [matchesFrom, Nat.exists_lt_succ_left]
    simp only [onward_zero, onward_succ, goOn, Option.some.injEq, exists_eq_left']
    rcases p.next? length advance spot with _ | found
    · simp
    · rw [List.mem_cons, mem_matchesFrom_iff, Option.some.injEq, eq_comm]
      rfl

/-- No match is missed: the search finds nothing but its first matches, however far it goes. -/
theorem mem_firstMatches {fuel : ℕ} (h : m ∈ p.matchesFrom text.length fuel false (.start text)) :
    m ∈ p.firstMatches text := by
  obtain ⟨count, -, way, hway, hm⟩ := mem_matchesFrom_iff.1 h
  obtain ⟨early, hlt, hearly⟩ := exists_onward_lt (Cursor.within_start text) count hway
  exact mem_matchesFrom_iff.2 ⟨early, hlt, way, hearly, hm⟩

/-! ## The end of the search -/

/-- All matches are missing exactly if the search has no end: it finds as many as are looked for. -/
theorem allMatches?_eq_none_iff : p.allMatches? text = none
    ↔ ∀ fuel, (p.matchesFrom text.length fuel false (.start text)).length = fuel := by
  have hfirst : p.allMatches? text = none ↔ ¬(p.firstMatches text).length < waysOn text := by
    rw [allMatches?]
    exact ite_eq_right_iff.trans (by simp)
  rw [hfirst, not_lt]
  constructor
  · intro h fuel
    obtain ⟨last, hl⟩ := length_matchesFrom_eq_iff.1 ((length_matchesFrom_le _ _ _).antisymm h)
    refine length_matchesFrom_eq_iff.2 ?_
    induction fuel with
    | zero => exact ⟨_, rfl⟩
    | succ fuel ih =>
      -- the way after `fuel` matches is an early one, and behind each of these there is a match
      obtain ⟨way, hway⟩ := ih
      obtain ⟨early, hlt, hearly⟩ := exists_onward_lt (Cursor.within_start text) fuel hway
      obtain ⟨next, hn⟩ := exists_onward_of_le (Nat.succ_le_of_lt hlt) hl
      rw [onward, hearly] at hn
      exact ⟨next, by rw [onward, hway]; exact hn⟩
  · intro h
    exact (h (waysOn text)).ge

/-- All matches are what the search finds from some point on, however far it goes. -/
theorem allMatches?_eq_some_iff {found : List Match} : p.allMatches? text = some found
    ↔ ∃ least, ∀ fuel, least ≤ fuel →
      p.matchesFrom text.length fuel false (.start text) = found := by
  have hends {all : List Match} (h : p.allMatches? text = some all) {fuel : ℕ}
      (hf : waysOn text ≤ fuel) : p.matchesFrom text.length fuel false (.start text) = all := by
    obtain ⟨rfl, hlt⟩ := firstMatches_of_allMatches? h
    exact matchesFrom_of_length_lt hlt hf
  constructor
  · exact fun h => ⟨waysOn text, fun fuel hf => hends h hf⟩
  · rintro ⟨least, h⟩
    rcases ha : p.allMatches? text with _ | all
    · have hlength := allMatches?_eq_none_iff.1 ha (max least (found.length + 1))
      rw [h _ (le_max_left _ _)] at hlength
      omega
    · rw [← h _ (le_max_left least (waysOn text)), hends ha (le_max_right _ _)]

/-- To replace all matches has no result because of the search exactly if it has no end and each
match that it ever finds can be filled in. -/
theorem replaceMatches_eq_endlessSearch_iff {parts : List Part} :
    p.replaceMatches true parts text = .error .endlessSearch
      ↔ (∀ fuel, (p.matchesFrom text.length fuel false (.start text)).length = fuel)
        ∧ ∀ fuel, ∀ m ∈ p.matchesFrom text.length fuel false (.start text),
          ∃ shown, Replacement.expand? m parts = some shown := by
  have hfirst : (∀ fuel, ∀ m ∈ p.matchesFrom text.length fuel false (.start text),
      ∃ shown, Replacement.expand? m parts = some shown)
        ↔ ∃ result, stitch parts (.start text) (p.firstMatches text) = some result := by
    rw [exists_stitch_iff]
    exact ⟨fun h => h _, fun h fuel m hm => h m (mem_firstMatches hm)⟩
  rw [← allMatches?_eq_none_iff, hfirst, replaceMatches, replaced?, if_pos rfl]
  rcases p.allMatches? text with _ | found
  · rcases stitch parts (.start text) (p.firstMatches text) with _ | result <;>
      simp [shownText, bind, Except.bind]
  · simp only [reduceCtorEq, false_and, iff_false]
    rcases stitch parts (.start text) found with _ | result <;> simp [shownText]

/-! ## Tame patterns -/

/-- A match of a tame pattern is straight. -/
theorem straight_of_compile {source : Text} (hc : compile source = .ok p)
    (ht : p.node.isTame = true) {patience : ℕ} {advance : Bool} {start : Cursor}
    (hm : p.matchAt patience advance start = some m) : m.Straight := by
  obtain ⟨hforward, hshown⟩ := straight_of_matchAt ht (captures_of_compile hc) hm
  exact ⟨hforward, hshown⟩

/-- So the matches of a tame pattern come to an end. -/
theorem exists_replaced?_of_compile {source : Text} (hc : compile source = .ok p)
    (ht : p.node.isTame = true) (all : Bool) (text : Text) :
    ∃ found, p.replaced? all text = some found ∧ ∀ m ∈ found, m.Straight := by
  have hstraight : ∀ {m : Match}, (∃ patience advance start,
      p.matchAt patience advance start = some m) → m.Straight := by
    rintro m ⟨patience, advance, start, hm⟩
    exact straight_of_compile hc ht hm
  cases all with
  | false =>
    exact ⟨_, rfl, fun m hm => hstraight (exists_matchAt_of_next? (Option.mem_toList.1 hm))⟩
  | true =>
    have hfirst : ∀ m ∈ p.firstMatches text, m.Straight :=
      fun m hm => hstraight (exists_matchAt_of_matchesFrom hm)
    exact ⟨_, allMatches?_of_straight hfirst, hfirst⟩

end Pattern

end FilterTemplate.Regex
