import Mathlib
import FilterTemplate.Proofs.Evaluation

/-!
# Filters with one pattern

A filter that shows the match of a pattern and the filters that replace its first match or all of
its matches look for them in the same way. So the match that is shown is the one that is replaced
first, and the texts around it are those that stay (`Filter.exists_split_of_search`). Matches that
are replaced by themselves give the value back (`Filter.apply_itself_iff`). Both hold exactly where
matches are straight, and so for every pattern that repeats nothing possessively that looks back or
captures (`Pattern.exists_replaced?_of_compile`). To replace all matches there has to be an end to
them.
-/

namespace FilterTemplate

namespace Regex

namespace Replacement

open Reader

/-- The replacement that puts each match in its own place. -/
def itself : Text := ['\\', 'g', '<', '0', '>']

theorem bracketedGroup_whole (reading : Reading) :
    bracketedGroup { reading with rest := ['<', '0', '>'] }
      = .ok ([.group 0], { reading with rest := [] }) := by
  have hname : Token.takeUntil '>' groupName ['0', '>'] = .ok (['0'], []) := by decide +kernel
  have htokens : takeUntil '>' groupName { reading with rest := ['0', '>'] }
      = .ok (['0'], { reading with rest := [] }) := by
    rw [takeUntil, tokens_eq, hname]
    rfl
  rw [bracketedGroup]
  refine (bind_of_ok (show accept '<' _ = .ok (true, _) from rfl) _).trans ?_
  exact (bind_of_ok htokens _).trans rfl

theorem read_itself (p : Pattern) : read p itself = .ok [.group 0] := by
  let reading : Reading := { rest := [], groups := List.replicate p.groups none, names := p.names }
  have hparts : parts (itself.length + 1) { reading with rest := itself }
      = .ok ([.group 0], reading) := by
    rw [parts, bind_of_ok (show next _ = .ok (some (.escaped 'g'), _) from rfl)]
    exact bind_of_ok (bracketedGroup_whole reading) _
  rw [read]
  change Except.bind (parts (itself.length + 1) _) _ = _
  rw [hparts]
  rfl

end Replacement

namespace Pattern

variable {p : Pattern} {text : Text} {m : Match}

/-! ## The first match and all matches -/

theorem replaced?_of_search_eq_none (h : p.search text = none) (all : Bool) :
    p.replaced? all text = some [] := by
  cases all with
  | false => rw [replaced?, h]; rfl
  | true =>
    have hfirst : p.firstMatches text = [] := by
      unfold search at h
      rw [firstMatches, waysOn, matchesFrom, h]
    rw [replaced?, if_pos rfl, allMatches?, hfirst]
    exact if_pos (Nat.succ_pos _)

theorem exists_firstMatches (h : p.search text = some m) :
    ∃ rest, p.firstMatches text = m :: rest := by
  unfold search at h
  rw [firstMatches, waysOn, matchesFrom, h]
  exact ⟨_, rfl⟩

theorem replaceMatches_of_search_eq_none (h : p.search text = none) (all : Bool)
    (parts : List Part) : p.replaceMatches all parts text = .ok text :=
  replaceMatches_eq_ok_iff.2 ⟨[], replaced?_of_search_eq_none h all, rfl⟩

/-- A literal replacement can always be filled in. -/
theorem exists_stitch_literal (replacement : Text) (spot : Cursor) (found : List Match) :
    ∃ result, stitch (replacement.map .char) spot found = some result :=
  exists_stitch_iff.2 fun m _ => ⟨_, Replacement.expand?_literal m replacement⟩

/-- The text in front of the first match stays, and the replacement comes behind it. If only that
match is replaced, the text behind it stays as well. If all matches are, there has to be an end to
them. -/
theorem replaceMatches_literal_of_search (h : p.search text = some m) (replacement : Text) :
    p.replaceMatches false (replacement.map .char) text
        = .ok (text.take m.start.pos ++ replacement ++ m.stop.after)
      ∧ ((∃ found, p.allMatches? text = some found) →
        ∃ rest, p.replaceMatches true (replacement.map .char) text
          = .ok (text.take m.start.pos ++ replacement ++ rest))
      ∧ (p.allMatches? text = none →
        p.replaceMatches true (replacement.map .char) text = .error .endlessSearch) := by
  have hexpand := Replacement.expand?_literal m replacement
  refine ⟨?_, ?_, fun hall => ?_⟩
  · refine replaceMatches_eq_ok_iff.2 ⟨[m], by rw [replaced?, h]; rfl, ?_⟩
    exact stitch_cons_eq_some.2 ⟨_, _, hexpand, rfl, rfl⟩
  · rintro ⟨found, hfound⟩
    obtain ⟨others, hothers⟩ := exists_firstMatches h
    obtain ⟨rfl, -⟩ := firstMatches_of_allMatches? hfound
    obtain ⟨rest, hrest⟩ := exists_stitch_literal replacement m.stop others
    refine ⟨rest, replaceMatches_eq_ok_iff.2 ⟨_, hfound, ?_⟩⟩
    rw [hothers]
    exact stitch_cons_eq_some.2 ⟨_, _, hexpand, hrest, rfl⟩
  · obtain ⟨shown, hs⟩ := exists_stitch_literal replacement (.start text) (p.firstMatches text)
    rw [replaceMatches, replaced?, if_pos rfl, hall]
    simp only [hs, shownText, bind, Except.bind]

/-- What is between the matches and the matches themselves make up the text, if all of them are
straight, and otherwise not. -/
theorem replaceMatches_itself_iff (p : Pattern) (all : Bool) (text : Text) :
    p.replaceMatches all [.group 0] text = .ok text
      ↔ ∃ found, p.replaced? all text = some found ∧ ∀ m ∈ found, m.Straight := by
  rw [replaceMatches_eq_ok_iff]
  refine exists_congr fun found => and_congr_right fun hfound => ?_
  exact stitch_itself_iff (Cursor.within_start text) (trails_replaced? hfound)

end Pattern

end Regex

open Regex

section Filters

variable {p : Pattern} {value : Text} (special : SpecialCases)

/-- Without a match in a value there is none to show, and the value stays. -/
theorem Filter.apply_of_search_eq_none (h : p.search value = none) :
    (Filter.regexMatch p).apply special value = .ok []
      ∧ ∀ replacement parts all, Replacement.read p replacement = .ok parts →
        (Filter.regexReplace p replacement all).apply special value = .ok value := by
  constructor
  · simp only [Filter.apply, h]
  · intro replacement parts all hr
    rw [apply_regexReplace special hr, Pattern.replaceMatches_of_search_eq_none h,
      Except.mapError_ok_eq]

/-- The match that is shown is the one that is replaced first. -/
theorem Filter.exists_split_of_search {m : Match} (h : p.search value = some m)
    (hs : m.Straight) : ∃ before found behind, value = before ++ found ++ behind
      ∧ (Filter.regexMatch p).apply special value = .ok found
      ∧ ∀ replacement, '\\' ∉ replacement →
        (Filter.regexReplace p replacement false).apply special value
            = .ok (before ++ replacement ++ behind)
          ∧ ((∃ matched, p.allMatches? value = some matched) →
            ∃ rest, (Filter.regexReplace p replacement true).apply special value
              = .ok (before ++ replacement ++ rest))
          ∧ (p.allMatches? value = none →
            (Filter.regexReplace p replacement true).apply special value
              = .error (.noText .endlessSearch)) := by
  have hw := Cursor.within_start value
  refine ⟨value.take m.start.pos, m.text, m.stop.after, ?_, ?_, fun replacement hb => ?_⟩
  · exact ((Pattern.behind_of_next? hw h).take_append_text_append hw hs.forward).symm
  · rw [apply_regexMatch special h, Except.mapError_eq_ok_iff, Pattern.shownText_eq_ok_iff,
      Match.shown?, hs.shown, if_neg Bool.false_ne_true]
  · obtain ⟨hfirst, hall, hendless⟩ := Pattern.replaceMatches_literal_of_search h replacement
    have hr := Replacement.read_literal p hb
    rw [apply_regexReplace special hr, apply_regexReplace special hr, hfirst]
    refine ⟨rfl, fun hsome => ?_, fun hnone => ?_⟩
    · obtain ⟨rest, hrest⟩ := hall hsome
      exact ⟨rest, by rw [hrest, Except.mapError_ok_eq]⟩
    · rw [hendless hnone, Except.mapError_error_eq]

/-- Only a straight match can be shown and then replaced where it stands. -/
theorem Filter.straight_of_split {m : Match} {before found behind : Text}
    (h : p.search value = some m) (hv : value = before ++ found ++ behind)
    (hm : (Filter.regexMatch p).apply special value = .ok found)
    (hr : (Filter.regexReplace p [] false).apply special value = .ok (before ++ behind)) :
    m.Straight := by
  rw [apply_regexMatch special h, Except.mapError_eq_ok_iff, Pattern.shownText_eq_ok_iff,
    Match.shown?] at hm
  split_ifs at hm with ht
  obtain rfl := Option.some.inj hm
  obtain ⟨hfirst, -⟩ := Pattern.replaceMatches_literal_of_search h []
  rw [apply_regexReplace special (Replacement.read_literal p List.not_mem_nil), hfirst,
    Except.mapError_ok_eq, Except.ok.injEq] at hr
  have hb := Pattern.behind_of_next? (Cursor.within_start value) h
  have hstart := hb.start.pos_le
  have hstop := hb.stop.pos_le
  have hlength := congrArg List.length hr
  have htext := congrArg List.length hv
  simp only [List.length_append, List.length_take, List.length_nil, hb.stop.length_after]
    at hlength
  rw [List.length_append, List.length_append, hb.length_text] at htext
  exact ⟨by omega, Bool.eq_false_iff.2 ht⟩

theorem Filter.apply_itself_iff (p : Pattern) (all : Bool) (value : Text) :
    (Filter.regexReplace p Replacement.itself all).apply special value = .ok value
      ↔ ∃ found, p.replaced? all value = some found ∧ ∀ m ∈ found, m.Straight := by
  rw [apply_regexReplace special (Replacement.read_itself p), Except.mapError_eq_ok_iff,
    Pattern.replaceMatches_itself_iff]

end Filters

/-- The filters of a pattern agree about its matches. Without a match nothing is shown and nothing
changes. If the first match is straight, and only then, the value splits around what is shown, and
each replacement without a backslash comes in its place, also where all matches are replaced, if
there is an end to them; otherwise there is no result. If the matches that are replaced come to an
end and are straight, and only then, the value comes back where they are replaced by themselves. All
matches are what the search finds from some point on, and there are such if what it finds is
straight. So it is, unless something that looks back or captures is repeated possessively. -/
theorem regex_filters_agree {source : Text} {p : Pattern} (hc : Pattern.compile source = .ok p)
    (special : SpecialCases) (value : Text) :
    (p.search value = none → (Filter.regexMatch p).apply special value = .ok []
      ∧ ∀ replacement parts all, Replacement.read p replacement = .ok parts →
        (Filter.regexReplace p replacement all).apply special value = .ok value)
    ∧ (∀ m, p.search value = some m → (m.Straight ↔
      ∃ before found behind, value = before ++ found ++ behind
        ∧ (Filter.regexMatch p).apply special value = .ok found
        ∧ ∀ replacement, '\\' ∉ replacement →
          (Filter.regexReplace p replacement false).apply special value
              = .ok (before ++ replacement ++ behind)
            ∧ ((∃ matched, p.allMatches? value = some matched) →
              ∃ rest, (Filter.regexReplace p replacement true).apply special value
                = .ok (before ++ replacement ++ rest))
            ∧ (p.allMatches? value = none →
              (Filter.regexReplace p replacement true).apply special value
                = .error (.noText .endlessSearch))))
    ∧ (∀ all, (Filter.regexReplace p Replacement.itself all).apply special value = .ok value
      ↔ ∃ found, p.replaced? all value = some found ∧ ∀ m ∈ found, m.Straight)
    ∧ (∀ found, p.allMatches? value = some found ↔ ∃ least, ∀ fuel, least ≤ fuel →
      p.matchesFrom value.length fuel false (.start value) = found)
    ∧ ((∀ fuel, ∀ m ∈ p.matchesFrom value.length fuel false (.start value), m.Straight) →
      ∃ found, p.allMatches? value = some found)
    ∧ (p.node.isTame = true → ∀ all,
      ∃ found, p.replaced? all value = some found ∧ ∀ m ∈ found, m.Straight) := by
  refine ⟨fun h => Filter.apply_of_search_eq_none special h, fun m h => ⟨fun hs => ?_, ?_⟩,
    fun all => Filter.apply_itself_iff special p all value,
    fun found => Pattern.allMatches?_eq_some_iff,
    fun hs => ⟨_, Pattern.allMatches?_of_straight (hs _)⟩,
    fun ht all => Pattern.exists_replaced?_of_compile hc ht all value⟩
  · exact Filter.exists_split_of_search special h hs
  · rintro ⟨before, found, behind, hv, hm, hr⟩
    have hempty := (hr [] List.not_mem_nil).1
    rw [List.append_nil] at hempty
    exact Filter.straight_of_split special h hv hm hempty

/-- Matches that stand side by side, some of them empty and some found by looking back, and a text
without any. -/
theorem regex_filters_agree_adjacent :
    let source : Text := ['(', '?', '<', '=', 'a', ')', 'b', '*', '|', 'a']
    let value : Text := ['a', 'b', 'b', 'a']
    let other : Text := ['c', 'b']
    ∃ p, Pattern.compile source = .ok p
      ∧ (∀ special, (Filter.regexMatch p).apply special other = .ok []
        ∧ (Filter.regexReplace p ['-'] true).apply special other = .ok other)
      ∧ (p.allMatches? value).map (List.map Match.text) = some [['a'], ['b', 'b'], ['a'], []]
      ∧ ∀ special, (∃ before found behind, value = before ++ found ++ behind
          ∧ (Filter.regexMatch p).apply special value = .ok found
          ∧ (Filter.regexReplace p ['-'] false).apply special value
            = .ok (before ++ ['-'] ++ behind))
        ∧ ∀ all, (Filter.regexReplace p Replacement.itself all).apply special value
          = .ok value := by
  intro source value other
  let p : Pattern :=
    { source
      groups := 0
      names := []
      node := .alt (.seq (.behind true 1 (.one (.char .exact false 97)))
          (.many .greedy 0 none (.char .exact false 98)))
        (.alt (.one (.char .exact false 97)) .never)
      least := 0
      lead := .unknown }
  have hc : Pattern.compile source = .ok p := by decide +kernel
  have hnone : p.search other = none := Option.isNone_iff_eq_none.1 (by decide +kernel)
  have ht : p.node.isTame = true := rfl
  have hv : (p.allMatches? value).map (List.map Match.text)
      = some [['a'], ['b', 'b'], ['a'], []] := by decide +kernel
  have hsome : (p.search value).isSome := by decide +kernel
  obtain ⟨m, hm⟩ := Option.isSome_iff_exists.1 hsome
  refine ⟨p, hc, fun special => ?_, hv, fun special => ?_⟩
  · obtain ⟨hwithout, -⟩ := regex_filters_agree hc special other
    obtain ⟨hshown, hstays⟩ := hwithout hnone
    exact ⟨hshown, hstays _ _ true (Replacement.read_literal p (by decide))⟩
  · obtain ⟨-, hsplit, hitself, -, -, hstraight⟩ := regex_filters_agree hc special value
    obtain ⟨found, hfound, hs⟩ := hstraight ht false
    have hfirst : m.Straight := by
      refine hs m ?_
      obtain rfl := Option.some.inj hfound
      exact Option.mem_toList.2 hm
    obtain ⟨before, found, behind, hv, hshown, hr⟩ := (hsplit m hm).1 hfirst
    exact ⟨⟨before, found, behind, hv, hshown, (hr ['-'] (by decide)).1⟩,
      fun all => (hitself all).2 (hstraight ht all)⟩

/-- Matches that go back: behind an `x` an iteration is tried in vain, and it looks back. Such a
match takes no text, and a search that comes to it again and again has no end. -/
theorem regex_filters_disagree :
    let source : Text := ['x', '(', '?', ':', '(', '?', '<', '!', 'b', 'b', ')', 'c', ')', '*', '+']
    let value : Text := ['a', 'x']
    let endless : Text := ['x', 'a', 'x']
    ∃ p, Pattern.compile source = .ok p ∧ ∀ special,
      (Filter.regexMatch p).apply special value = .ok []
        ∧ (Filter.regexReplace p ['-'] false).apply special value = .ok ['a', '-', 'a', 'x']
        ∧ (Filter.regexReplace p Replacement.itself false).apply special value
          = .ok ['a', 'a', 'x']
        ∧ (¬∃ before found behind, value = before ++ found ++ behind
          ∧ (Filter.regexMatch p).apply special value = .ok found
          ∧ (Filter.regexReplace p ['-'] false).apply special value
            = .ok (before ++ ['-'] ++ behind))
        ∧ (Filter.regexMatch p).apply special endless = .ok ['x']
        ∧ (Filter.regexReplace p ['-'] false).apply special endless = .ok ['-', 'a', 'x']
        ∧ (Filter.regexReplace p ['-'] true).apply special endless
          = .error (.noText .endlessSearch) := by
  intro source value endless
  let p : Pattern :=
    { source
      groups := 0
      names := []
      node := .seq (.one (.char .exact false 120)) (.loop .possessive 0 none
        (.seq (.behind false 2 (.seq (.one (.char .exact false 98)) (.one (.char .exact false 98))))
          (.one (.char .exact false 99))))
      least := 1
      lead := .literal }
  have hc : Pattern.compile source = .ok p := by decide +kernel
  have hdash (all : Bool) (value : Text) (special : SpecialCases) :
      (Filter.regexReplace p ['-'] all).apply special value
        = (p.replaceMatches all [.char '-'] value).mapError .noText :=
    Filter.apply_regexReplace special (Replacement.read_literal p (by decide)) all value
  have hfirst : p.replaceMatches false [.char '-'] value = .ok ['a', '-', 'a', 'x'] := by
    decide +kernel
  have hself : p.replaceMatches false [.group 0] value = .ok ['a', 'a', 'x'] := by decide +kernel
  have hempty : (p.search value).bind Match.shown? = some [] := by decide +kernel
  have hshown : (p.search endless).bind Match.shown? = some ['x'] := by decide +kernel
  have hforward : p.replaceMatches false [.char '-'] endless = .ok ['-', 'a', 'x'] := by
    decide +kernel
  have hendless : p.replaceMatches true [.char '-'] endless = .error .endlessSearch := by
    decide +kernel
  obtain ⟨m, hm, ht⟩ := Option.bind_eq_some_iff.1 hempty
  obtain ⟨n, hn, hx⟩ := Option.bind_eq_some_iff.1 hshown
  refine ⟨p, hc, fun special => ⟨?_, ?_, ?_, ?_, ?_, ?_, ?_⟩⟩
  · rw [Filter.apply_regexMatch special hm, ht, shownText, Except.mapError_ok_eq]
  · rw [hdash, hfirst, Except.mapError_ok_eq]
  · rw [Filter.apply_regexReplace special (Replacement.read_itself p), hself,
      Except.mapError_ok_eq]
  · rintro ⟨before, found, behind, hv, hf, hr⟩
    rw [Filter.apply_regexMatch special hm, ht, shownText, Except.mapError_ok_eq,
      Except.ok.injEq] at hf
    rw [hdash, hfirst, Except.mapError_ok_eq, Except.ok.injEq] at hr
    have hvalue := congrArg List.length hv
    have hlength := congrArg List.length hr
    simp only [← hf, List.length_append, List.length_cons, List.length_nil, value]
      at hvalue hlength
    omega
  · rw [Filter.apply_regexMatch special hn, hx, shownText, Except.mapError_ok_eq]
  · rw [hdash, hforward, Except.mapError_ok_eq]
  · rw [hdash, hendless, Except.mapError_error_eq]

end FilterTemplate
