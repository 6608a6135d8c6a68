import Mathlib
import FilterTemplate.Proofs.Segments
import FilterTemplate.Proofs.Shift
import FilterTemplate.Proofs.Tokens
import FilterTemplate.Template.Run

/-!
# Templates one behind the other

Reading does not look across the border of two texts, once the first one is a template. Its lexemes
are followed by those of the second text, and only a literal at the end of the first and one at the
start of the second are put together (`tokens_append`). So the second text gives the segments, or
the failure, that it gives alone, further on (`compile_append_eq`).
-/

namespace FilterTemplate

/-- One list behind the other, where the last part of the first and the first part of the second
are put together if they can be. -/
def joinWith {α : Type} (merge : α → α → Option α) : List α → List α → List α
  | [], others => others
  | [last], first :: others =>
    match merge last first with
    | some both => both :: others
    | none => last :: first :: others
  | part :: parts, others => part :: joinWith merge parts others

/-- Two literals as one. -/
def Token.merge : Located Token → Located Token → Option (Located Token)
  | ⟨.literal text, start, _⟩, ⟨.literal more, _, stop⟩ =>
    some ⟨.literal (text ++ more), start, stop⟩
  | _, _ => none

/-- Two literals as one. -/
def Segment.merge : Located Segment → Located Segment → Option (Located Segment)
  | ⟨.literal text, start, _⟩, ⟨.literal more, _, stop⟩ =>
    some ⟨.literal (text ++ more), start, stop⟩
  | _, _ => none

/-- A template behind another one. Its spans are moved, and two literals that meet become one. -/
def Template.append (first second : Template) : Template :=
  ⟨first.source ++ second.source,
    joinWith Segment.merge first.segments
      (second.segments.map (Segment.moved first.source.length))⟩

section Join

variable {α : Type} {merge : α → α → Option α}

theorem joinWith_cons_cons (part next : α) (parts others : List α) :
    joinWith merge (part :: next :: parts) others
      = part :: joinWith merge (next :: parts) others := by
  rw [joinWith]
  simp

/-- A part that is never put together with the one behind it stays as it is. -/
theorem joinWith_cons_of_none {part : α} (h : ∀ next, merge part next = none)
    (parts others : List α) : joinWith merge (part :: parts) others
      = part :: joinWith merge parts others := by
  rcases parts with _ | ⟨next, parts⟩
  · rcases others with _ | ⟨first, others⟩
    · rfl
    · simp [joinWith, h]
  · exact joinWith_cons_cons part next parts others

end Join

namespace Delimiters

variable (d : Delimiters)

/-! ## Tokens -/

theorem tokens_add (n : ℕ) : ∀ (i : ℕ) (found : List Lexeme),
    d.tokens (i + n) found = (d.tokens i found).map (Located.shift n)
  | _, [] => rfl
  | i, .chain body :: rest => by
    have ih := tokens_add n (i + (d.write (.chain body)).length) rest
    rw [tokens_chain, tokens_chain, Nat.add_right_comm, ih]
    rfl
  | i, .char c :: rest => by
    have ih := tokens_add n (i + (d.write (.char c)).length) rest
    rw [Nat.add_right_comm] at ih
    rcases ht : d.tokens (i + (d.write (.char c)).length) rest with
      _ | ⟨⟨text | body, start, stop⟩, others⟩
    · rw [ht] at ih
      rw [d.tokens_char_of_apart ih (by simp), d.tokens_char_of_apart ht (by simp)]
      simp [Located.shift, Nat.add_right_comm]
    · rw [ht] at ih
      rw [d.tokens_char_of_literal ih, d.tokens_char_of_literal ht]
      rfl
    · rw [ht] at ih
      rw [d.tokens_char_of_apart ih (by simp [Located.shift, Token.isLiteral]),
        d.tokens_char_of_apart ht (by simp [Token.isLiteral])]
      simp [Located.shift, Nat.add_right_comm]

/-- A character in front of two lists of tokens that are joined goes into the first one. -/
theorem tokens_char_of_join {i : ℕ} {c : Char} {rest behind : List Lexeme}
    {others : List (Located Token)}
    (h : d.tokens (i + (d.write (.char c)).length) (rest ++ behind)
      = joinWith Token.merge (d.tokens (i + (d.write (.char c)).length) rest) others) :
    d.tokens i (.char c :: (rest ++ behind))
      = joinWith Token.merge (d.tokens i (.char c :: rest)) others := by
  rcases ht : d.tokens (i + (d.write (.char c)).length) rest with
    _ | ⟨⟨text | body, start, stop⟩, parts⟩
  · rw [ht, joinWith] at h
    rw [d.tokens_char_of_apart ht (by simp)]
    rcases others with _ | ⟨⟨text | body, start, stop⟩, others⟩
    · exact d.tokens_char_of_apart h (by simp [joinWith])
    · exact d.tokens_char_of_literal h
    · exact d.tokens_char_of_apart h (by simp [Token.isLiteral])
  · rw [ht] at h
    rw [d.tokens_char_of_literal ht]
    rcases parts with _ | ⟨next, parts⟩
    · rcases others with _ | ⟨⟨more | body, first, last⟩, others⟩
      · exact d.tokens_char_of_literal h
      · exact d.tokens_char_of_literal h
      · exact d.tokens_char_of_literal h
    · rw [joinWith_cons_cons] at h ⊢
      exact d.tokens_char_of_literal h
  · rw [ht, joinWith_cons_of_none (by simp [Token.merge])] at h
    have ha : ∀ parts : List (Located Token), ∀ token ∈ (⟨.chain body, start, stop⟩ :: parts).head?,
        token.value.isLiteral = false := by simp [Token.isLiteral]
    rw [d.tokens_char_of_apart ht (ha _), d.tokens_char_of_apart h (ha _), joinWith_cons_cons,
      joinWith_cons_of_none (by simp [Token.merge])]

theorem tokens_append (behind : List Lexeme) : ∀ (i : ℕ) (found : List Lexeme),
    d.tokens i (found ++ behind)
      = joinWith Token.merge (d.tokens i found)
        (d.tokens (i + (d.written found).length) behind)
  | _, [] => rfl
  | i, .chain body :: rest => by
    have ih := tokens_append behind (i + (d.write (.chain body)).length) rest
    rw [List.cons_append, tokens_chain, tokens_chain, ih, written_cons, List.length_append,
      ← Nat.add_assoc, joinWith_cons_of_none (by simp [Token.merge])]
  | i, .char c :: rest => by
    have ih := tokens_append behind (i + (d.write (.char c)).length) rest
    rw [written_cons, List.length_append, ← Nat.add_assoc]
    exact d.tokens_char_of_join ih

/-- Behind a text that is split, another one is split as if it stood alone. -/
theorem split_append {first : Text} {located : List (Located Token)}
    (h : d.split first = .ok located) (second : Text) :
    d.split (first ++ second)
      = ((d.split second).mapError (Fault.shift first.length)).map fun others =>
        joinWith Token.merge located (others.map (Located.shift first.length)) := by
  obtain ⟨found, hf, rfl⟩ := Except.map_eq_ok_iff.1 h
  obtain ⟨hw, -⟩ := d.lexemes_eq_ok_iff.1 hf
  have ht := d.tokens_add first.length 0
  rw [Nat.zero_add] at ht
  simp only [split]
  rw [d.lexemes_append hf, d.lexemes_add first.length second 0]
  rcases d.lexemes second 0 with fault | behind
  · rfl
  · simp [tokens_append, hw, ht]

/-! ## Segments -/

/-- Tokens that are joined spell segments that are joined. -/
theorem readTokens_joinWith (others : List (Located Token)) :
    ∀ {tokens : List (Located Token)} {segments : List (Located Segment)},
      d.readTokens tokens = .ok segments →
      d.readTokens (joinWith Token.merge tokens others)
        = (d.readTokens others).map (joinWith Segment.merge segments)
  | [], segments, h => by
    simp only [readTokens, Except.ok.injEq] at h
    subst h
    rcases ho : d.readTokens others with failure | more <;> simp [joinWith, ho]
  | ⟨.chain body, start, stop⟩ :: rest, segments, h => by
    obtain ⟨segment, more, hs, hm, rfl⟩ := d.readTokens_cons_eq_ok h
    have ih := readTokens_joinWith others hm
    obtain ⟨filters, -, hf⟩ := Except.map_eq_ok_iff.1 hs
    have hj : ∀ behind, joinWith Segment.merge (segment :: more) behind
        = segment :: joinWith Segment.merge more behind :=
      joinWith_cons_of_none (fun _ => hf ▸ by simp [Segment.merge]) more
    rw [joinWith_cons_of_none (by simp [Token.merge]), d.readTokens_cons hs, ih,
      Except.map_map_eq]
    simp only [← hj]
  | [⟨.literal text, start, stop⟩], segments, h => by
    have hl : d.readToken ⟨.literal text, start, stop⟩ = .ok ⟨.literal text, start, stop⟩ := rfl
    rw [d.readTokens_cons hl, readTokens, Except.map_ok_eq, Except.ok.injEq] at h
    subst h
    rcases others with _ | ⟨⟨more | body, first, last⟩, others⟩
    · rfl
    · have hm : d.readToken ⟨.literal more, first, last⟩ = .ok ⟨.literal more, first, last⟩ := rfl
      have hb : d.readToken ⟨.literal (text ++ more), start, last⟩
        = .ok ⟨.literal (text ++ more), start, last⟩ := rfl
      rw [d.readTokens_cons hm, Except.map_map_eq]
      exact d.readTokens_cons hb others
    · have hj : ∀ segments, d.readTokens (⟨.chain body, first, last⟩ :: others) = .ok segments →
          joinWith Segment.merge [⟨.literal text, start, stop⟩] segments
            = ⟨.literal text, start, stop⟩ :: segments := by
        intro segments h
        obtain ⟨segment, more, hs, -, rfl⟩ := d.readTokens_cons_eq_ok h
        obtain ⟨filters, -, rfl⟩ := Except.map_eq_ok_iff.1 hs
        rfl
      have ht := d.readTokens_cons hl (⟨.chain body, first, last⟩ :: others)
      rcases ho : d.readTokens (⟨.chain body, first, last⟩ :: others) with failure | segments
      · rw [ho] at ht
        exact ht
      · rw [ho, Except.map_ok_eq, ← hj segments ho] at ht
        exact ht
  | ⟨.literal text, start, stop⟩ :: next :: rest, segments, h => by
    obtain ⟨segment, more, hs, hm, rfl⟩ := d.readTokens_cons_eq_ok h
    have ih := readTokens_joinWith others hm
    obtain ⟨second, more, -, -, rfl⟩ := d.readTokens_cons_eq_ok hm
    rw [joinWith_cons_cons, d.readTokens_cons hs, ih, Except.map_map_eq]
    simp only [← joinWith_cons_cons]

/-- A template behind another one is compiled as if it stood alone. -/
theorem compile_append_eq {text : Text} {first : Template} (h : d.compile text = .ok first)
    (behind : Text) :
    d.compile (text ++ behind)
      = ((d.compile behind).mapError (Failure.shift text.length)).map first.append := by
  obtain ⟨rfl, tokens, ht, hs⟩ := d.compile_eq_ok_iff.1 h
  simp only [compile, d.split_append ht]
  rcases d.split behind with fault | others
  · rfl
  · simp only [Except.mapError_ok_eq, Except.map_ok_eq]
    rw [d.readTokens_joinWith _ hs, d.readTokens_shift]
    rcases d.readTokens others with failure | more <;> rfl

end Delimiters

/-! ## Applying templates -/

theorem Chain.run_map_shift (special : SpecialCases) (n : ℕ) : ∀ (filters : Chain) (value : Text),
    Chain.run special (filters.map (Located.shift n)) value = Chain.run special filters value
  | [], _ => rfl
  | filter :: rest, value => by
    simp only [List.map_cons, Chain.run, Located.shift]
    rcases filter.value.apply special value with error | result
    · rfl
    · exact run_map_shift special n rest result

theorem Segment.run_moved (special : SpecialCases) (n : ℕ) (segment : Located Segment)
    (value : Text) : (Segment.moved n segment).value.run special value
      = segment.value.run special value := by
  rcases segment with ⟨text | filters, start, stop⟩
  · rfl
  · exact Chain.run_map_shift special n filters value

theorem runSegments_map_moved (special : SpecialCases) (n : ℕ) (value : Text) :
    ∀ segments : List (Located Segment),
      runSegments special (segments.map (Segment.moved n)) value
        = runSegments special segments value
  | [] => rfl
  | segment :: rest => by
    simp only [List.map_cons, runSegments, Segment.run_moved, runSegments_map_moved _ n value rest]

theorem runSegments_cons (special : SpecialCases) (value : Text) (segment : Located Segment)
    (rest : List (Located Segment)) : runSegments special (segment :: rest) value
      = (segment.value.run special value).bind fun text =>
        (runSegments special rest value).map (text ++ ·) := by
  rw [runSegments]
  rcases segment.value.run special value with error | text
  · rfl
  · rcases runSegments special rest value with error | behind <;> rfl

theorem runSegments_literal (special : SpecialCases) (value text : Text) (start stop : ℕ)
    (rest : List (Located Segment)) :
    runSegments special (⟨.literal text, start, stop⟩ :: rest) value
      = (runSegments special rest value).map (text ++ ·) := by
  rw [runSegments_cons]
  rfl

theorem runSegments_joinWith (special : SpecialCases) (value : Text)
    (others : List (Located Segment)) : ∀ segments : List (Located Segment),
    runSegments special (joinWith Segment.merge segments others) value
      = (runSegments special segments value).bind fun text =>
        (runSegments special others value).map (text ++ ·)
  | [] => by
    rcases ho : runSegments special others value with error | behind <;>
      simp [joinWith, runSegments, Except.bind, ho]
  | [⟨.chain filters, start, stop⟩] => by
    rw [joinWith_cons_of_none (by simp [Segment.merge]), joinWith, runSegments_cons,
      runSegments_cons]
    rcases Segment.run special (.chain filters) value with error | text
    · rfl
    · simp [runSegments, Except.bind]
  | [⟨.literal text, start, stop⟩] => by
    have hl : runSegments special [⟨.literal text, start, stop⟩] value = .ok text := by
      rw [runSegments_literal, runSegments, Except.map_ok_eq, List.append_nil]
    rw [hl]
    rcases others with _ | ⟨⟨more | filters, first, last⟩, others⟩
    · simp [joinWith, hl, runSegments, Except.bind]
    · simp only [joinWith, Segment.merge, runSegments_literal, Except.bind, Except.map_map_eq,
        List.append_assoc]
    · exact runSegments_literal special value text start stop _
  | segment :: next :: rest => by
    have ih := runSegments_joinWith special value others (next :: rest)
    have hc := runSegments_cons special value segment (next :: rest)
    rw [joinWith_cons_cons, runSegments_cons, ih, hc]
    rcases segment.value.run special value with error | text
    · rfl
    · rcases runSegments special (next :: rest) value with error | behind
      · rfl
      · rcases runSegments special others value with error | more <;> simp [Except.bind]

/-- A template behind another one gives its text behind that of the other one. -/
theorem Template.run_append (special : SpecialCases) (first second : Template) (value : Text) :
    (first.append second).run special value
      = (first.run special value).bind fun text =>
        (second.run special value).map (text ++ ·) := by
  simp only [Template.run, Template.append, runSegments_joinWith, runSegments_map_moved]

theorem flatMap_filters_joinWith (others : List (Located Segment)) :
    ∀ segments : List (Located Segment),
      (joinWith Segment.merge segments others).flatMap (·.value.filters)
        = segments.flatMap (·.value.filters) ++ others.flatMap (·.value.filters)
  | [] => rfl
  | [⟨.chain filters, start, stop⟩] => by
    rw [joinWith_cons_of_none (by simp [Segment.merge])]
    simp [joinWith]
  | [⟨.literal text, start, stop⟩] => by
    rcases others with _ | ⟨⟨more | filters, first, last⟩, others⟩ <;>
      simp [joinWith, Segment.merge, Segment.filters]
  | segment :: next :: rest => by
    have ih := flatMap_filters_joinWith others (next :: rest)
    rw [joinWith_cons_cons, List.flatMap_cons, List.flatMap_cons, ih, List.append_assoc]

theorem Segment.filters_moved (n : ℕ) (segment : Located Segment) :
    (Segment.moved n segment).value.filters = segment.value.filters.map (Located.shift n) := by
  rcases segment with ⟨text | filters, start, stop⟩ <;> rfl

theorem Template.filterCount_append (first second : Template) :
    (first.append second).filterCount = first.filterCount + second.filterCount := by
  simp only [Template.filterCount, Template.append, flatMap_filters_joinWith, List.length_append,
    List.flatMap_map, Segment.filters_moved, List.length_flatMap, List.length_map]

/-- Behind a text that is a template, another text is compiled as if it stood alone. A template
gives its segments further on, where two literals that meet become one; so the filters are counted
together, and what the two templates make of a value stands one behind the other. A fault is the
same further on, and a refusal is the same. -/
theorem Delimiters.compile_append (d : Delimiters) {text : Text} {first : Template}
    (h : d.compile text = .ok first) (behind : Text) :
    (∀ second, d.compile behind = .ok second →
      ∃ both, d.compile (text ++ behind) = .ok both
        ∧ both.segments = joinWith Segment.merge first.segments
          (second.segments.map (Segment.moved text.length))
        ∧ both.filterCount = first.filterCount + second.filterCount
        ∧ ∀ special value, both.run special value = do
            let before ← first.run special value
            let after ← second.run special value
            .ok (before ++ after))
    ∧ (∀ fault, d.compile behind = .error (.fault fault) →
        d.compile (text ++ behind) = .error (.fault { fault with
          start := fault.start + text.length, stop := fault.stop + text.length }))
    ∧ ∀ refusal, d.compile behind = .error (.refused refusal) →
        d.compile (text ++ behind) = .error (.refused refusal) := by
  have ha := d.compile_append_eq h behind
  refine ⟨fun second hs => ?_, fun fault hf => ?_, fun refusal hr => ?_⟩
  · rw [hs] at ha
    refine ⟨first.append second, ha, ?_, first.filterCount_append second, fun special value => ?_⟩
    · rw [Template.append, (d.compile_eq_ok_iff.1 h).1]
    · rw [Template.run_append]
      rcases first.run special value with error | before
      · rfl
      · rcases second.run special value with error | after <;> rfl
  · rw [ha, hf]
    rfl
  · rw [ha, hr]
    rfl

/-- Two delimiters that are doubled meet at the border; an unknown filter is found further on, and
flags that contradict each other are refused. -/
theorem Delimiters.compile_append_doubled :
    let text : Text := ['a', '\x7b', '\x7b']
    (∃ both, (default : Delimiters).compile (text ++ ['\x7d', '\x7d', '\x7b', 't', '\x7d']) = .ok both
      ∧ both.segments = [⟨.literal ['a', '\x7b', '\x7d'], 0, 5⟩, ⟨.chain [⟨.trim, 6, 7⟩], 5, 8⟩]
      ∧ both.filterCount = 1)
    ∧ (default : Delimiters).compile (text ++ ['\x7b', 'x', '\x7d'])
      = .error (.fault ⟨.unknownFilter 'x', ['x'], 4, 5⟩)
    ∧ (default : Delimiters).compile
        (text ++ ['\x7b', '=', '(', '?', 'a', ')', '(', '?', 'u', ')', '\x7d'])
      = .error (.refused .contradictoryFlags) := by
  intro text
  have ht : (default : Delimiters).compile text
      = .ok ⟨text, [⟨.literal ['a', '\x7b'], 0, 3⟩]⟩ := by
    rfl
  have hs : (default : Delimiters).compile ['\x7d', '\x7d', '\x7b', 't', '\x7d']
      = .ok ⟨['\x7d', '\x7d', '\x7b', 't', '\x7d'],
        [⟨.literal ['\x7d'], 0, 2⟩, ⟨.chain [⟨.trim, 3, 4⟩], 2, 5⟩]⟩ := by
    rfl
  have hf : (default : Delimiters).compile ['\x7b', 'x', '\x7d']
      = .error (.fault ⟨.unknownFilter 'x', ['x'], 1, 2⟩) := by
    rfl
  have hr : (default : Delimiters).compile
      ['\x7b', '=', '(', '?', 'a', ')', '(', '?', 'u', ')', '\x7d']
      = .error (.refused .contradictoryFlags) := by
    rfl
  obtain ⟨both, hb, hsegments, hcount, -⟩ := (compile_append default ht _).1 _ hs
  exact ⟨⟨both, hb, hsegments, hcount⟩, (compile_append default ht _).2.1 _ hf,
    (compile_append default ht _).2.2 _ hr⟩

end FilterTemplate
