import Mathlib
import FilterTemplate.Filter.Apply
import FilterTemplate.Proofs.LiteralPatterns
import FilterTemplate.Proofs.Occurrences

/-!
# The matches of a literal text

A pattern that stands for a text matches where the text occurs and nowhere else
(`Pattern.matchAt_of`). So its first match from a place on is the leftmost occurrence
(`Pattern.next?_of`), and with a literal replacement, replacing its matches is replacing the text
(`regexReplace_literal`).
-/

namespace FilterTemplate

namespace Regex

open Text

/-- The place between two parts of a text. -/
def Cursor.between (before after : Text) : Cursor := ⟨before.reverse, after, before.length⟩

theorem Cursor.next?_between (before after : Text) (c : Char) :
    (between before (c :: after)).next? = some (c, between (before ++ [c]) after) := by
  simp [between, next?]

/-! ## A match at a place -/

theorem CharTest.accepts_exact (c d : Char) :
    (CharTest.char .exact false c.toNat).accepts d = decide (c = d) := by
  have hiff : c.toNat = d.toNat ↔ c = d := ⟨fun h => Char.toNat_inj.1 h, congrArg Char.toNat⟩
  by_cases h : c = d
  · simp [accepts, Fold.alike, Fold.key, h]
  · simp [accepts, Fold.alike, Fold.key, h, eq_comm, hiff]

/-- A text is run as its first character and then the others. -/
theorem Node.run_literal_cons (c : Char) (rest : Text) (context : Context) (state : State)
    (follow : Follow) : (literal (c :: rest)).run context state follow
      = (one (.char .exact false c.toNat)).run context state fun reached =>
        (literal rest).run context reached follow := by
  cases rest <;> rfl

/-- A text is run through where it comes next, and nowhere else. -/
theorem Node.run_literal (context : Context) (follow : Follow) :
    ∀ (target before : Text) {after : Text} {state : State}, state.spot = .between before after →
      (literal target).run context state follow = (behind? target after).elim state.fail
        fun behind => follow (state.moveTo (.between (before ++ target) behind))
  | [], before, after, ⟨trace, spot⟩, h => by
    obtain rfl : spot = .between before after := h
    rw [List.append_nil]
    rfl
  | c :: target, before, after, state, h => by
    rw [run_literal_cons, run, h]
    rcases after with _ | ⟨d, after⟩
    · rfl
    · simp only [Cursor.next?_between, CharTest.accepts_exact, decide_eq_true_eq, behind?]
      split_ifs with hc
      · rw [run_literal context follow target (before ++ [c]) (by rw [← hc]; rfl),
          List.append_assoc, List.singleton_append]
        rfl
      · rfl

namespace Pattern

variable {p : Pattern} {target : Text}

theorem matchAt_of (h : p.IsOf target) (hn : target ≠ []) (patience : ℕ) (advance : Bool)
    (before after : Text) : p.matchAt patience advance (.between before after)
      = (behind? target after).map fun behind =>
        ⟨.between before after, .between (before ++ target) behind, []⟩ := by
  have hpos : 0 < target.length := List.length_pos_iff.2 hn
  rw [matchAt, h.node, Node.run_literal _ _ target before rfl]
  rcases behind? target after with _ | behind
  · rfl
  · have hstays : (advance && (Cursor.between (before ++ target) behind).pos
        == (Cursor.between before after).pos) = false := by
      rw [Bool.and_eq_false_iff, beq_eq_false_iff_ne]
      right
      simp only [Cursor.between, List.length_append]
      omega
    simp only [Option.elim_some, State.moveTo, hstays, Bool.false_eq_true, if_false]
    rfl

/-! ## The leftmost match -/

section Search

variable {patience pos room : ℕ} {advance : Bool} {before after : Text}

theorem searchFrom_of_matchAt {found : Match} (hs : p.canStart after = true)
    (hm : p.matchAt patience advance ⟨before, after, pos⟩ = some found) :
    p.searchFrom patience advance before pos room after = some found := by
  rw [searchFrom.eq_def]
  simp only [hs, if_true, hm]

theorem searchFrom_nil (hm : p.matchAt patience advance ⟨before, [], pos⟩ = none) :
    p.searchFrom patience advance before pos room [] = none := by
  have hfound : (if p.canStart [] then p.matchAt patience advance ⟨before, [], pos⟩ else none)
      = none := by rw [hm, ite_self]
  rw [searchFrom.eq_def]
  simp only [hfound]

/-- Without a match at a place, the search goes on at the next one. -/
theorem searchFrom_cons {c : Char}
    (hm : p.matchAt patience advance ⟨before, c :: after, pos⟩ = none) :
    p.searchFrom patience advance before pos (room + 1) (c :: after)
      = p.searchFrom patience false (c :: before) (pos + 1) room after := by
  have hfound : (if p.canStart (c :: after)
      then p.matchAt patience advance ⟨before, c :: after, pos⟩ else none) = none := by
    rw [hm, ite_self]
  rw [searchFrom.eq_def]
  simp only [hfound]

end Search

/-- The match that takes the target between the two texts, behind what stands before. -/
def occurrence (target before : Text) (parts : Text × Text) : Match :=
  ⟨.between (before ++ parts.1) (target ++ parts.2),
    .between (before ++ parts.1 ++ target) parts.2, []⟩

theorem searchFrom_of (h : p.IsOf target) (hn : target ≠ []) (patience : ℕ) :
    ∀ (before : Text) {after : Text} {room : ℕ} (advance : Bool), after.length ≤ room →
      p.searchFrom patience advance before.reverse before.length room after
        = (parted? target after).map (occurrence target before)
  | before, after, room, advance, hroom => by
    have hmatch := matchAt_of h hn patience advance before after
    rcases hb : behind? target after with _ | behind <;> rw [hb] at hmatch
    · rcases after with _ | ⟨c, after⟩
      · rw [parted?_nil hn]
        exact searchFrom_nil hmatch
      · obtain ⟨room, rfl⟩ : ∃ n, room = n + 1 := Nat.exists_eq_add_one.2 (Nat.zero_lt_of_lt hroom)
        have ih := searchFrom_of h hn patience (before ++ [c]) false (Nat.le_of_succ_le_succ hroom)
        rw [List.reverse_concat, List.length_append, List.length_singleton] at ih
        rw [searchFrom_cons hmatch, ih, parted?_cons hb, Option.map_map]
        refine congrArg (fun further => (parted? target after).map further) (funext fun parts => ?_)
        simp [occurrence]
    · have hstart : p.canStart after = true := by rw [canStart, h.lead]
      rw [parted?_of_behind? hb, searchFrom_of_matchAt hstart hmatch, Option.map_some, occurrence,
        List.append_nil, eq_append_of_behind? hb]

theorem next?_of (h : p.IsOf target) (hn : target ≠ []) (advance : Bool) (before after : Text) :
    p.next? (before.length + after.length) advance (.between before after)
      = (parted? target after).map (occurrence target before) := by
  have hleft : before.length + after.length - before.length = after.length :=
    Nat.add_sub_cancel_left _ _
  have hroom : (if p.lead = .unknown then after.length - (p.least - 1) else after.length)
      = after.length := by rw [h.lead, if_neg (by decide)]
  simp only [next?, Cursor.between, hleft, hroom]
  split_ifs with hless
  · -- a text that is too short for the target does not hold it
    rcases hp : parted? target after with _ | ⟨front, behind⟩
    · rfl
    · have hlength := congrArg List.length (eq_append_of_parted? hp)
      have hle := h.least_le
      simp only [List.length_append] at hlength
      omega
  · exact searchFrom_of h hn _ before advance (le_refl _)

/-! ## The matches replaced -/

variable (replacement : Text)

/-- With a match in front, what stands before the match stays. -/
theorem stitch_occurrence (target before front behind : Text) (others : List Match) :
    stitch (replacement.map .char) (.between before (front ++ target ++ behind))
        (occurrence target before (front, behind) :: others)
      = (stitch (replacement.map .char) (.between (before ++ front ++ target) behind) others).map
        fun rest => front ++ replacement ++ rest := by
  have htake : (front ++ target ++ behind).take ((before ++ front).length - before.length)
      = front := by
    rw [List.length_append, Nat.add_sub_cancel_left, List.append_assoc, List.take_left]
  rw [stitch, Replacement.expand?_literal]
  change (stitch _ _ others).bind (fun rest => some (_ ++ replacement ++ rest)) = _
  rw [Option.map_eq_bind]
  simp only [occurrence, Cursor.between, htake]
  rfl

theorem stitch_search (h : p.IsOf target) (hn : target ≠ []) (value : Text) :
    stitch (replacement.map .char) (.start value) (p.search value).toList
      = some (replace target replacement false value) := by
  have hsearch : p.search value = (parted? target value).map (occurrence target []) := by
    have hnext := next?_of h hn false [] value
    rwa [List.length_nil, Nat.zero_add] at hnext
  rw [hsearch]
  rcases hp : parted? target value with _ | ⟨front, behind⟩
  · rw [replace_of_parted?_eq_none hn replacement hp]
    rfl
  · rw [replace_of_parted? hn replacement hp, eq_append_of_parted? hp]
    exact stitch_occurrence replacement target [] front behind []

theorem lengths_of_parted? (hn : target ≠ []) (before : Text) {after front behind : Text}
    (hp : parted? target after = some (front, behind)) :
    before.length + after.length = (before ++ front ++ target).length + behind.length
      ∧ behind.length < after.length := by
  obtain rfl := eq_append_of_parted? hp
  have hpos := List.length_pos_iff.2 hn
  simp only [List.length_append]
  omega

/-- The first of the matches that follow each other is the leftmost occurrence, and the others stand
behind it. -/
theorem matchesFrom_of (h : p.IsOf target) (hn : target ≠ []) (fuel : ℕ) (advance : Bool)
    (before after : Text) :
    p.matchesFrom (before.length + after.length) (fuel + 1) advance (.between before after)
      = (parted? target after).elim [] fun parts =>
        occurrence target before parts :: p.matchesFrom (before.length + after.length) fuel
          (occurrence target before parts).isEmpty (.between (before ++ parts.1 ++ target) parts.2) :=
    by
  rw [matchesFrom, next?_of h hn]
  rcases parted? target after with _ | parts <;> rfl

/-- The matches that follow each other are the occurrences that follow each other. -/
theorem stitch_matchesFrom (h : p.IsOf target) (hn : target ≠ []) :
    ∀ (fuel : ℕ) (advance : Bool) (before : Text) {after : Text}, after.length < fuel →
      stitch (replacement.map .char) (.between before after)
          (p.matchesFrom (before.length + after.length) fuel advance (.between before after))
        = some (replace target replacement true after)
  | fuel + 1, advance, before, after, hfuel => by
    rw [matchesFrom_of h hn]
    rcases hp : parted? target after with _ | ⟨front, behind⟩
    · rw [replace_of_parted?_eq_none hn replacement hp]
      rfl
    · obtain ⟨hlength, hless⟩ := lengths_of_parted? hn before hp
      have ih := stitch_matchesFrom h hn fuel (occurrence target before (front, behind)).isEmpty
        (before ++ front ++ target) (show behind.length < fuel by omega)
      rw [replace_of_parted? hn replacement hp, Option.elim_some, hlength]
      obtain rfl := eq_append_of_parted? hp
      rw [stitch_occurrence, ih]
      rfl

/-- Each match takes a character at least, so there is an end to them. -/
theorem length_matchesFrom_of (h : p.IsOf target) (hn : target ≠ []) :
    ∀ (fuel : ℕ) (advance : Bool) (before after : Text),
      (p.matchesFrom (before.length + after.length) fuel advance
        (.between before after)).length ≤ after.length
  | 0, _, _, _ => Nat.zero_le _
  | fuel + 1, advance, before, after => by
    rw [matchesFrom_of h hn]
    rcases hp : parted? target after with _ | ⟨front, behind⟩
    · exact Nat.zero_le _
    · obtain ⟨hlength, hless⟩ := lengths_of_parted? hn before hp
      have ih := length_matchesFrom_of h hn fuel (occurrence target before (front, behind)).isEmpty
        (before ++ front ++ target) behind
      rw [Option.elim_some, List.length_cons, hlength]
      exact (Nat.succ_le_succ ih).trans hless

theorem replaceMatches_of (h : p.IsOf target) (hn : target ≠ []) (all : Bool) (value : Text) :
    p.replaceMatches all (replacement.map .char) value
      = .ok (replace target replacement all value) := by
  cases all with
  | false =>
    have hfirst := stitch_search replacement h hn value
    rw [replaceMatches, replaced?, if_neg Bool.false_ne_true]
    simp only [hfirst, shownText]
  | true =>
    have hle := length_matchesFrom_of h hn (waysOn value) false [] value
    have hmatches := stitch_matchesFrom replacement h hn (waysOn value) false []
      (show value.length < waysOn value by rw [waysOn]; omega)
    rw [List.length_nil, Nat.zero_add] at hle hmatches
    have hall : p.allMatches? value = some (p.firstMatches value) :=
      if_pos (hle.trans_lt (by rw [waysOn]; omega))
    rw [replaceMatches, replaced?, if_pos rfl, hall]
    exact congrArg shownText hmatches

end Pattern

end Regex

/-! ## Literal and other patterns -/

/-- To replace the matches of a text without special characters is to replace the text, if the
replacement has no backslash. Without an occurrence the value stays. Otherwise the replacement
stands in the place of the leftmost one, and what is behind it stays, or is treated in the same
way. -/
theorem regexReplace_literal {target replacement : Text} (hn : target ≠ [])
    (hl : Regex.IsLiteral target) (hr : '\\' ∉ replacement) :
    ∃ pattern, Regex.Pattern.compile target = .ok pattern
      ∧ ∀ value all,
        (∀ special, (Filter.regexReplace pattern replacement all).apply special value
          = (Filter.replace target replacement all).apply special value)
        ∧ (∀ special, (Filter.replace target replacement all).apply special value
          = .ok (replace target replacement all value))
        ∧ (¬target <:+: value → replace target replacement all value = value)
        ∧ (target <:+: value → ∃ before behind, value = before ++ target ++ behind
          ∧ (∀ other rest, value = other ++ target ++ rest → before.length ≤ other.length)
          ∧ replace target replacement false value = before ++ replacement ++ behind
          ∧ replace target replacement true value
            = before ++ replacement ++ replace target replacement true behind) := by
  obtain ⟨pattern, hc, hp⟩ := Regex.Pattern.compile_literal hn hl
  refine ⟨pattern, hc, fun value all => ⟨fun special => ?_, fun special => rfl, fun h => ?_,
    fun h => ?_⟩⟩
  · simp only [Filter.apply, Regex.Replacement.read_literal pattern hr,
      Regex.Pattern.replaceMatches_of replacement hp hn]
    rfl
  · exact replace_of_parted?_eq_none hn replacement (Text.parted?_eq_none_iff.2 h) all
  · rcases hparted : Text.parted? target value with _ | ⟨before, behind⟩
    · exact absurd h (Text.parted?_eq_none_iff.1 hparted)
    · refine ⟨before, behind, Text.eq_append_of_parted? hparted,
        fun other rest => Text.length_le_of_parted? hparted, ?_, ?_⟩
      · exact replace_of_parted? hn replacement hparted false
      · exact replace_of_parted? hn replacement hparted true

/-- A target that overlaps with itself, and a replacement that the target occurs in. -/
theorem regexReplace_literal_overlapping :
    let target : Text := ['a', 'b', 'a']
    let replacement : Text := ['a', 'b', 'a', 'b']
    let value : Text := ['c', 'a', 'b', 'a', 'b', 'a']
    ∃ pattern, Regex.Pattern.compile target = .ok pattern
      ∧ (∀ special, (Filter.regexReplace pattern replacement true).apply special value
        = .ok ['c', 'a', 'b', 'a', 'b', 'b', 'a'])
      ∧ (∃ before behind, value = before ++ target ++ behind
        ∧ replace target replacement true value
          = before ++ replacement ++ replace target replacement true behind)
      ∧ replace target replacement true ['b', 'a', 'b'] = ['b', 'a', 'b'] := by
  intro target replacement value
  obtain ⟨pattern, hc, hp⟩ :=
    @regexReplace_literal target replacement (by decide) (by decide) (by decide)
  obtain ⟨hsame, -, -, hinside⟩ := hp value true
  obtain ⟨before, behind, hvalue, -, -, hall⟩ := hinside ⟨['c'], ['b', 'a'], rfl⟩
  obtain ⟨-, -, houtside, -⟩ := hp ['b', 'a', 'b'] true
  exact ⟨pattern, hc, hsame, ⟨before, behind, hvalue, hall⟩, houtside (by decide)⟩

end FilterTemplate
