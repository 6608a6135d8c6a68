import Mathlib
import FilterTemplate.Proofs.FilterTexts
import FilterTemplate.Proofs.Misreading
import FilterTemplate.Report

/-!
# Why a template cannot be read

A fault of the template's structure comes before all others, and shows one character of the source
(`structural_of_split`). Otherwise the first filter's text that cannot be read is reported, whatever
stands behind it, and its own characters decide how (`Piece.decidedBy_of_read`): as an unknown
filter if its symbol is none, as what a number, a pattern or a replacement is refused for, or as
malformed.
-/

namespace FilterTemplate

/-- The kinds of failures that are told apart. -/
inductive Failure.Kind
  | unknownFilter | malformed | refused
  deriving DecidableEq, Repr

def Failure.kind : Failure → Kind
  | .fault found =>
    match found.cause with
    | .unknownFilter _ => .unknownFilter
    | _ => .malformed
  | .refused _ => .refused

theorem Failure.kind_of_ofArguments {cause : Cause} (h : cause.ofArguments) (fragment : Text)
    (start stop : ℕ) : (Failure.fault ⟨cause, fragment, start, stop⟩).kind = .malformed := by
  cases cause <;> first | rfl | cases h

/-! ## Faults of the structure -/

/-- Whether the fault is one of a template's structure, at one character of the text. -/
structure Fault.Structural (text : Text) (fault : Fault) : Prop where
  cause : fault.cause = .danglingEscape ∨ fault.cause = .nestedChain
    ∨ ∃ delimiter, fault.cause = .unmatched delimiter
  char : ∃ c, text[fault.start]? = some c ∧ fault.fragment = [c]
  stop : fault.stop = fault.start + 1

theorem Fault.Structural.kind {text : Text} {fault : Fault} (h : fault.Structural text) :
    (Failure.fault fault).kind = .malformed := by
  rcases h.cause with hc | hc | ⟨delimiter, hc⟩ <;> simp [Failure.kind, hc]

theorem Text.drop_eq_cons {text rest : Text} {c : Char} {i : ℕ} (h : text.drop i = c :: rest) :
    text[i]? = some c ∧ text.drop (i + 1) = rest := by
  constructor
  · rw [← List.head?_drop, h, List.head?_cons]
  · rw [← List.tail_drop, h, List.tail_cons]

namespace Delimiters

variable (d : Delimiters)

mutual

theorem structural_of_lexemes {whole : Text} {fault : Fault} : ∀ {text : Text} {i : ℕ},
    whole.drop i = text → d.lexemes text i = .error fault → fault.Structural whole
  | [], i, _, h => by simp [lexemes] at h
  | [c], i, hw, h => by
    obtain ⟨hc, hrest⟩ := Text.drop_eq_cons hw
    by_cases hb : d.bounds c
    · rw [d.lexemes_bound_end hb] at h
      obtain rfl := Except.error.inj h
      by_cases ho : c = d.opening
      · rw [if_pos ho]
        exact ⟨.inr (.inr ⟨_, rfl⟩), ⟨c, hc, by rw [ho]; rfl⟩, rfl⟩
      · rw [if_neg ho]
        exact ⟨.inr (.inr ⟨_, rfl⟩), ⟨c, hc, by rw [d.eq_closing_of_bounds hb ho]; rfl⟩, rfl⟩
    · rw [Bool.not_eq_true] at hb
      rw [d.lexemes_plain hb, Except.map_eq_error_iff] at h
      exact structural_of_lexemes hrest h
  | c :: next :: behind, i, hw, h => by
    obtain ⟨hc, hrest⟩ := Text.drop_eq_cons hw
    by_cases hb : d.bounds c
    · by_cases hn : next = c
      · subst hn
        obtain ⟨-, hbehind⟩ := Text.drop_eq_cons hrest
        rw [d.lexemes_doubled hb, Except.map_eq_error_iff] at h
        exact structural_of_lexemes hbehind h
      · by_cases ho : c = d.opening
        · subst ho
          rw [d.lexemes_opening hn, Except.map_eq_error_iff] at h
          exact structural_of_chainLexemes hc hrest h
        · obtain rfl := d.eq_closing_of_bounds hb ho
          rw [d.lexemes_closing hn] at h
          obtain rfl := Except.error.inj h
          exact ⟨.inr (.inr ⟨_, rfl⟩), ⟨_, hc, rfl⟩, rfl⟩
    · rw [Bool.not_eq_true] at hb
      rw [d.lexemes_plain hb, Except.map_eq_error_iff] at h
      exact structural_of_lexemes hrest h

theorem structural_of_chainLexemes {whole : Text} {fault : Fault} {opened : ℕ}
    (ho : whole[opened]? = some d.opening) : ∀ {text : Text} {i : ℕ},
    whole.drop i = text → d.chainLexemes opened text i = .error fault → fault.Structural whole
  | [], i, _, h => by
    rw [chainLexemes.eq_def] at h
    obtain rfl := Except.error.inj h
    exact ⟨.inr (.inr ⟨_, rfl⟩), ⟨_, ho, rfl⟩, rfl⟩
  | c :: rest, i, hw, h => by
    obtain ⟨hc, hrest⟩ := Text.drop_eq_cons hw
    by_cases he : c = d.escape
    · subst he
      rcases rest with _ | ⟨next, behind⟩
      · rw [chainLexemes_escape_end] at h
        obtain rfl := Except.error.inj h
        exact ⟨.inl rfl, ⟨_, hc, rfl⟩, rfl⟩
      · obtain ⟨-, hbehind⟩ := Text.drop_eq_cons hrest
        rw [chainLexemes_escape, Except.map_eq_error_iff] at h
        exact structural_of_chainLexemes ho hbehind h
    · by_cases hcl : c = d.closing
      · subst hcl
        rw [chainLexemes_closing, Except.map_eq_error_iff] at h
        exact structural_of_lexemes hrest h
      · by_cases hop : c = d.opening
        · subst hop
          rw [chainLexemes_opening] at h
          obtain rfl := Except.error.inj h
          exact ⟨.inr (.inl rfl), ⟨_, hc, rfl⟩, rfl⟩
        · rw [d.chainLexemes_plain _ he (d.bounds_eq_false.2 ⟨hop, hcl⟩),
            Except.map_eq_error_iff] at h
          exact structural_of_chainLexemes ho hrest h

end

theorem structural_of_split {text : Text} {fault : Fault} (h : d.split text = .error fault) :
    fault.Structural text :=
  d.structural_of_lexemes (List.drop_zero) (Except.map_eq_error_iff.1 h)

end Delimiters

/-! ## Failures of a filter's text -/

theorem Piece.read_eq_error_iff {piece : Piece} {failure : Failure} :
    piece.read = .error failure
      ↔ ∃ misreading, Filter.read piece.text = .error misreading
        ∧ piece.failure misreading = failure := by
  unfold read
  rcases Filter.read piece.text with misreading | filter <;> simp

/-- How the characters of a filter's text decide the kind of its failure. -/
structure Failure.DecidedBy (text : Text) (failure : Failure) : Prop where
  unknownFilter : failure.kind = .unknownFilter ↔ ∃ symbol ∈ text.head?, symbol ∉ Filter.symbols
  refused : failure.kind = .refused →
    ∃ refusal, failure = .refused refusal ∧ Filter.Refuses text refusal
  passed_on : ∀ cause refusal, Filter.RegexFails text cause → cause.refusal? = some refusal →
    failure = .refused refusal ∧ refusal.message = cause.message
  malformed : (∀ symbol ∈ text.head?, symbol ∈ Filter.symbols) →
    (∀ refusal, ¬Filter.Refuses text refusal) → failure.kind = .malformed

/-- A filter is unknown exactly if its text has a symbol, but none of those that there are. -/
theorem Piece.kind_eq_unknownFilter_iff {piece : Piece} {misreading : Misreading}
    (h : Filter.read piece.text = .error misreading) :
    (piece.failure misreading).kind = .unknownFilter
      ↔ ∃ symbol ∈ piece.text.head?, symbol ∉ Filter.symbols := by
  rcases Filter.read_error h with ⟨ht, rfl⟩ | ⟨symbol, rest, ht, hs, rfl⟩
    | ⟨⟨symbol, rest, ht, hs⟩, hm⟩
  · simp [ht, Piece.failure, Piece.fault, Failure.kind]
  · simp [ht, hs, Piece.failure, Piece.fault, Failure.kind]
  · have hk : (piece.failure misreading).kind ≠ .unknownFilter := by
      rcases misreading with ⟨cause, first, last⟩ | refusal
      · rw [Piece.failure, Piece.fault, Failure.kind_of_ofArguments hm.1]
        decide
      · simp [Piece.failure, Failure.kind]
    simpa [ht, hs] using hk

theorem Piece.refuses_of_kind {piece : Piece} {misreading : Misreading}
    (h : Filter.read piece.text = .error misreading)
    (hk : (piece.failure misreading).kind = .refused) :
    ∃ refusal, misreading = .refused refusal ∧ Filter.Refuses piece.text refusal := by
  rcases Filter.read_error h with ⟨-, rfl⟩ | ⟨symbol, rest, -, -, rfl⟩ | ⟨-, hm⟩
  · simp [Piece.failure, Piece.fault, Failure.kind] at hk
  · simp [Piece.failure, Piece.fault, Failure.kind] at hk
  · rcases misreading with ⟨cause, first, last⟩ | refusal
    · rw [Piece.failure, Piece.fault, Failure.kind_of_ofArguments hm.1] at hk
      cases hk
    · exact ⟨refusal, rfl, hm⟩

theorem Piece.decidedBy_of_read {piece : Piece} {failure : Failure}
    (h : piece.read = .error failure) : failure.DecidedBy piece.text := by
  obtain ⟨misreading, hm, rfl⟩ := Piece.read_eq_error_iff.1 h
  have hunknown := Piece.kind_eq_unknownFilter_iff hm
  refine ⟨hunknown, fun hk => ?_, fun cause refusal hf hr => ?_, fun hs hr => ?_⟩
  · obtain ⟨refusal, rfl, hr⟩ := Piece.refuses_of_kind hm hk
    exact ⟨refusal, rfl, hr⟩
  · rw [Filter.read_of_regexFails hf hr] at hm
    obtain rfl := Except.error.inj hm
    exact ⟨rfl, Regex.Failure.message_of_refusal? hr⟩
  · rcases hk : (piece.failure misreading).kind with _ | _ | _
    · obtain ⟨symbol, ht, hn⟩ := hunknown.1 hk
      exact absurd (hs symbol ht) hn
    · rfl
    · obtain ⟨refusal, -, hrefuses⟩ := Piece.refuses_of_kind hm hk
      exact absurd hrefuses (hr refusal)

namespace Delimiters

variable (d : Delimiters)

/-- A fault of the structure is reported whatever the filters are. Otherwise a template is compiled
if all its filters' texts can be read, and fails as the first of them in the source that cannot: its
characters decide how, and nothing behind it matters that can be split. A fault is reported with its
fragment and its span. -/
theorem compile_failure (text : Text) :
    (∀ fault, d.split text = .error fault →
      d.compile text = .error (.fault fault) ∧ (Failure.fault fault).kind = .malformed)
    ∧ (∀ tokens, d.split text = .ok tokens →
        (tokens.flatMap d.filterTexts).Pairwise (fun piece next => piece.stop < next.start)
        ∧ ((∃ template, d.compile text = .ok template)
          ↔ ∀ piece ∈ tokens.flatMap d.filterTexts, ∃ filter, piece.read = .ok filter)
        ∧ (∀ failure, d.compile text = .error failure
          ↔ ∃ piece, FailsFirst (tokens.flatMap d.filterTexts) piece failure)
        ∧ ∀ piece failure, FailsFirst (tokens.flatMap d.filterTexts) piece failure →
          failure.DecidedBy piece.text
          ∧ piece = d.rawPiece (Text.slice text piece.start piece.stop) piece.start
          ∧ ∃ token ∈ tokens, token.start < piece.start ∧ piece.stop < token.stop
            ∧ ∀ ending behind,
              (ending = d.separator ∨ ending = d.closing ∧ token.start + 1 < piece.stop) →
              (∃ others, d.split (text.take piece.stop ++ ending :: behind) = .ok others) →
              d.compile (text.take piece.stop ++ ending :: behind) = .error failure)
    ∧ ∀ fault, d.compile text = .error (.fault fault) →
        Report.ofFault fault = ⟨fault.cause.message, some fault.fragment, some fault.start,
          some fault.stop⟩ := by
  refine ⟨fun fault h => ?_, fun tokens h => ?_, fun fault h => rfl⟩
  · exact ⟨by simp only [compile, h], (d.structural_of_split h).kind⟩
  refine ⟨d.pairwise_filterTexts h, d.exists_compile_iff h, fun failure => d.compile_eq_error_iff h,
    fun piece failure hf => ?_⟩
  obtain ⟨before, behind, hp, hb, he⟩ := hf
  obtain ⟨site, rfl, rfl, rfl, rfl⟩ := d.exists_site h hp
  refine ⟨Piece.decidedBy_of_read he, site.piece_eq, site.token, site.token_mem, site.lt_start,
    site.stop_lt, ?_⟩
  rintro ending behind hending ⟨others, hs⟩
  rw [site.take_eq] at hs ⊢
  exact site.compile_front hb he hending hs

/-- An unknown filter is reported, whatever is wrong behind it; but first that a chain is not
closed. -/
theorem compile_failure_unknown :
    let failure : Failure := .fault ⟨.unknownFilter 'x', ['x'], 3, 4⟩
    (default : Delimiters).compile ['\x7b', 't', '|', 'x', '|', '<', '\x7d'] = .error failure
      ∧ failure.kind = .unknownFilter
      ∧ (default : Delimiters).compile ['\x7b', 't', '|', 'x', '\x7d', '\x7b', '\x7d']
        = .error failure
      ∧ (default : Delimiters).compile ['\x7b', 'x']
        = .error (.fault ⟨.unmatched '\x7b', ['\x7b'], 0, 1⟩) := by
  intro failure
  have hs : (default : Delimiters).split ['\x7b', 't', '|', 'x', '|', '<', '\x7d']
      = .ok [⟨.chain ['t', '|', 'x', '|', '<'], 0, 7⟩] := by
    rfl
  have hf : FailsFirst
      ([⟨.chain ['t', '|', 'x', '|', '<'], 0, 7⟩].flatMap (default : Delimiters).filterTexts)
      ⟨[('x', 3)], 3, 4⟩ failure := by
    refine ⟨[⟨[('t', 1)], 1, 2⟩], [⟨[('<', 5)], 5, 6⟩], rfl, ?_, rfl⟩
    simpa using ⟨_, rfl⟩
  obtain ⟨-, -, hc, hfirst⟩ := (compile_failure default _).2.1 _ hs
  obtain ⟨hd, -, token, ht, -, -, hfront⟩ := hfirst _ _ hf
  obtain rfl := List.mem_singleton.1 ht
  refine ⟨(hc failure).2 ⟨_, hf⟩, hd.unknownFilter.2 ⟨'x', rfl, by decide⟩, ?_, ?_⟩
  · exact hfront '\x7d' ['\x7b', '\x7d'] (.inr ⟨rfl, by decide⟩) ⟨_, rfl⟩
  · exact ((compile_failure default _).1 _ rfl).1

end Delimiters

end FilterTemplate
