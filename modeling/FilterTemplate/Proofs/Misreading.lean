import Mathlib
import FilterTemplate.Proofs.Spelling

/-!
# What readers find wrong

The text of a filter is empty, or its symbol is not known, or its reader finds something wrong with
its arguments (`read_error`). A reader names characters that the text has, or the place behind all
of them (`Misreading.Meets`), and refuses only a run of digits that is too long, or what patterns
and replacements are refused for, which it passes on (`RegexFails`).
-/

namespace FilterTemplate

/-- Whether the cause is about the arguments of a filter, of which the symbol is known. -/
def Cause.ofArguments : Cause → Bool
  | .danglingEscape | .nestedChain | .unmatched _ | .emptyFilter | .unknownFilter _ => false
  | _ => true

/-- What a failure of a pattern or a replacement is refused for, if that is not malformed. -/
def Regex.Failure.refusal? : Regex.Failure → Option Refusal
  | .malformed _ => none
  | .repetitionTooLarge => some .repetitionTooLarge
  | .numeralTooLong numeral => some (.numeralTooLong numeral)
  | .contradictoryFlags => some .contradictoryFlags

theorem Regex.Failure.message_of_refusal? {failure : Regex.Failure} {refusal : Refusal}
    (h : failure.refusal? = some refusal) : refusal.message = failure.message := by
  rcases failure with error | _ | numeral | _ <;>
    simp only [refusal?, reduceCtorEq, Option.some.injEq] at h <;> subst h <;> rfl

/-- Whether the digits stand in the text with no other digit next to them. -/
def Numeral.RunIn (digits text : Text) : Prop :=
  ∃ before behind, text = before ++ digits ++ behind ∧ (∀ c ∈ digits, isDigit c)
    ∧ (∀ c ∈ before.getLast?, isDigit c = false) ∧ ∀ c ∈ behind.head?, isDigit c = false

/-- Whether what is refused is a run of digits in the text that is too long. -/
def LongRun (text : Text) (refusal : Refusal) : Prop :=
  ∃ digits, Numeral.RunIn digits text ∧ Numeral.maxDigits < digits.length
    ∧ refusal = .numeralTooLong ⟨digits.length⟩

/-- Whether a slip is about arguments and names characters of a text of the given length, or the
place behind it; and whether a refusal is one of those that the condition allows. -/
def Misreading.Meets (length : ℕ) (refused : Refusal → Prop) : Misreading → Prop
  | .slip cause first last =>
    cause.ofArguments ∧ (first < last ∧ last ≤ length ∨ first = length ∧ last = length)
  | .refused refusal => refused refusal

theorem Misreading.meets_slip {cause : Cause} {first length : ℕ} {refused : Refusal → Prop}
    (hc : cause.ofArguments) (h : first < length) :
    (Misreading.slip cause first length).Meets length refused := ⟨hc, .inl ⟨h, le_rfl⟩⟩

theorem Misreading.Meets.mono {length : ℕ} {refused allowed : Refusal → Prop}
    (h : ∀ refusal, refused refusal → allowed refusal) :
    ∀ {misreading : Misreading}, misreading.Meets length refused → misreading.Meets length allowed
  | .slip _ _ _, hm => hm
  | .refused _, hm => h _ hm

theorem Substitutes.length_lt {target replacement body : Text}
    (h : Substitutes target replacement body) : target.length < body.length := by
  rcases h with ⟨replacement, -⟩ | - <;> simp

namespace Filter

/-- The symbols of all filters. -/
def symbols : List Char :=
  ['#', 't', 'v', '^', 'i', 'I', 'd', 'f', 'b', 'e', 'E', '<', '>', 'r', 'R', '?', '=', 's', 'S']

/-- The symbols of the filters that have numbers. -/
def numberSymbols : List Char := ['#', '<', '>']

/-- Whether the pattern or the replacement that a text has cannot be read. -/
inductive RegexFails : Text → Regex.Failure → Prop
  | regexMatch {source : Text} {failure : Regex.Failure} : source ≠ [] →
    Regex.Pattern.compile source = .error failure → RegexFails ('=' :: source) failure
  | pattern {symbol : Char} {all : Bool} {source replacement body : Text}
    {failure : Regex.Failure} : (symbol, all) ∈ regexReplaceSymbols → source ≠ [] →
    Substitutes source replacement body → Regex.Pattern.compile source = .error failure →
    RegexFails (symbol :: body) failure
  | replacement {symbol : Char} {all : Bool} {pattern : Regex.Pattern} {replacement body : Text}
    {failure : Regex.Failure} : (symbol, all) ∈ regexReplaceSymbols → pattern.Compiled →
    Substitutes pattern.source replacement body →
    Regex.Replacement.read pattern replacement = .error failure →
    RegexFails (symbol :: body) failure

/-- Whether what is refused is what the pattern or the replacement of a text is refused for. -/
def RegexRefuses (text : Text) (refusal : Refusal) : Prop :=
  ∃ failure, RegexFails text failure ∧ failure.refusal? = some refusal

/-- Whether a text can be refused so. -/
def Refuses (text : Text) (refusal : Refusal) : Prop :=
  (∃ symbol ∈ text.head?, symbol ∈ numberSymbols) ∧ LongRun text refusal
    ∨ ∃ failure, RegexFails text failure ∧ failure.refusal? = some refusal

/-! ## Numbers -/

theorem readNumeral_error {digits : Text} {misreading : Misreading}
    (h : readNumeral digits = .error misreading) :
    Numeral.maxDigits < digits.length
      ∧ misreading = .refused (.numeralTooLong ⟨digits.length⟩) := by
  unfold readNumeral Numeral.read at h
  split_ifs at h with hl
  · simp only [Except.error.injEq] at h
    exact ⟨hl, h.symm⟩

/-- Only a number that is zero or has too many digits is none. -/
theorem readQuantity_error {quantity : Quantity} {digits : Text} {first : ℕ}
    {misreading : Misreading} (h : readQuantity quantity digits first = .error misreading) :
    misreading = .slip (.zero quantity) first (first + digits.length)
      ∨ Numeral.maxDigits < digits.length
        ∧ misreading = .refused (.numeralTooLong ⟨digits.length⟩) := by
  rcases Except.bind_eq_error_iff.1 h with hn | ⟨n, -, h⟩
  · exact .inr (readNumeral_error hn)
  · split_ifs at h
    exact .inl (Except.error.inj h).symm

/-- The same, of digits that stand in a text from `first` on, with no other digit next to them. -/
theorem readQuantity_meets {quantity : Quantity} {text digits : Text} {first : ℕ}
    {misreading : Misreading} (h : readQuantity quantity digits first = .error misreading)
    (hd : ∀ c ∈ digits, Numeral.isDigit c) (hn : digits ≠ []) {before behind : Text}
    (ht : text = before ++ digits ++ behind) (hf : first = before.length)
    (hl : ∀ c ∈ before.getLast?, Numeral.isDigit c = false)
    (hr : ∀ c ∈ behind.head?, Numeral.isDigit c = false) :
    misreading.Meets text.length (LongRun text) := by
  have hpos := List.length_pos_iff.2 hn
  rcases readQuantity_error h with rfl | ⟨hlong, rfl⟩
  · refine ⟨rfl, .inl ⟨by omega, ?_⟩⟩
    rw [ht, hf, List.length_append, List.length_append]
    omega
  · exact ⟨digits, ⟨before, behind, ht, hd, hl, hr⟩, hlong, rfl⟩

/-- The same, of digits that stand behind a sign at the end of a text. -/
theorem readQuantity_meets_end {quantity : Quantity} {text front digits : Text} {sign : Char}
    {first : ℕ} {misreading : Misreading}
    (h : readQuantity quantity digits first = .error misreading)
    (hd : ∀ c ∈ digits, Numeral.isDigit c) (hn : digits ≠ [])
    (ht : text = front ++ sign :: digits) (hf : first = front.length + 1)
    (hs : Numeral.isDigit sign = false) : misreading.Meets text.length (LongRun text) := by
  have hend : text = (front ++ [sign]) ++ digits ++ [] := by simp [ht]
  refine readQuantity_meets h hd hn hend (by simp [hf]) (fun c hc => ?_) (by simp)
  rw [List.getLast?_concat, Option.mem_some_iff] at hc
  exact hc ▸ hs

/-! ## Ranges -/

/-- In front of the first digits of a range stands its symbol, or its symbol and a sign. -/
theorem exists_before_signed (negative : Bool) (digits behind : Text) :
    ∃ before : Text, (if negative then 2 else 1) = before.length
      ∧ '#' :: (signed negative digits ++ behind) = before ++ digits ++ behind
      ∧ ∀ c ∈ before.getLast?, Numeral.isDigit c = false := by
  rcases negative with _ | _
  · exact ⟨['#'], rfl, rfl, fun c hc => Option.some.inj hc ▸ rfl⟩
  · exact ⟨['#', '-'], rfl, rfl, fun c hc => Option.some.inj hc ▸ rfl⟩

theorem readSubstring_error {rest : Text} {misreading : Misreading}
    (h : readSubstring rest = .error misreading) :
    misreading.Meets ('#' :: rest).length (LongRun ('#' :: rest)) := by
  simp only [readSubstring] at h
  rcases hform : rangeForm? rest with _ | ⟨negative, digits, stop⟩ <;> rw [hform] at h
  · obtain rfl := Except.error.inj h
    exact ⟨rfl, .inl ⟨Nat.succ_pos _, le_rfl⟩⟩
  obtain ⟨hn, hd, behind, hrest, hb⟩ := rangeForm?_eq_some_iff.1 hform
  simp only at hn hd hrest hb h
  rw [← List.length_cons (a := '#')] at h
  obtain ⟨before, hfirst, ht, hl⟩ := exists_before_signed negative digits behind
  rw [hfirst] at h
  rw [← hrest] at ht
  clear hform hrest
  generalize '#' :: rest = text at *
  have hhead : ∀ c ∈ behind.head?, Numeral.isDigit c = false := by
    rcases hb with ⟨rfl, -⟩ | ⟨stop, -, hstop⟩
    · simp
    · exact isDigit_head_of_stopForm? hstop
  rcases Except.bind_eq_error_iff.1 h with hq | ⟨n, -, h⟩
  · exact readQuantity_meets hq hd hn ht rfl hl hhead
  rcases hb with ⟨rfl, rfl⟩ | ⟨⟨ofLength, minus, more⟩, rfl, hstop⟩
  · cases h
  obtain ⟨hm, rfl⟩ := stopForm?_eq_some_iff.1 hstop
  have hlen := congrArg List.length ht
  simp only [List.length_append, List.length_cons] at hlen
  -- of the eight forms, one is complete, and the others have a number or lack one
  rcases ofLength with _ | _ <;> rcases minus with _ | _ <;> rcases more with _ | ⟨c, more⟩ <;>
    simp only [reduceCtorEq] at h
  · rcases Except.bind_eq_error_iff.1 h with hq | ⟨m, -, h⟩
    · exact readQuantity_meets_end hq hm (by simp) ht (by simp) rfl
    · cases h
  · obtain rfl := Except.error.inj h
    exact Misreading.meets_slip rfl (by simp [signed] at hlen; omega)
  · rcases Except.bind_eq_error_iff.1 h with hq | ⟨m, -, h⟩
    · have hsign : text = before ++ digits ++ ['-'] ++ '-' :: c :: more := by simp [ht, signed]
      exact readQuantity_meets_end hq hm (by simp) hsign (by simp [Nat.add_assoc]) rfl
    · cases h
  · obtain rfl := Except.error.inj h
    exact Misreading.meets_slip rfl (by omega)
  · rcases Except.bind_eq_error_iff.1 h with hq | ⟨m, -, h⟩
    · exact readQuantity_meets_end hq hm (by simp) ht (by simp) rfl
    · cases h
  all_goals
    obtain rfl := Except.error.inj h
    exact Misreading.meets_slip rfl (by simp [signed] at hlen; omega)

/-! ## Padding -/

/-- Whether what is refused are the digits in front of the text. -/
def LongCount (text : Text) (refusal : Refusal) : Prop :=
  Numeral.maxDigits < (Numeral.span text).1.length
    ∧ refusal = .numeralTooLong ⟨(Numeral.span text).1.length⟩

theorem LongCount.longRun {symbol : Char} {rest : Text} {refusal : Refusal}
    (hs : Numeral.isDigit symbol = false) (h : LongCount rest refusal) :
    LongRun (symbol :: rest) refusal := by
  obtain ⟨hlong, rfl⟩ := h
  rcases hspan : Numeral.span rest with ⟨digits, behind⟩
  rw [hspan] at hlong
  obtain ⟨hr, hd, hhead⟩ := Numeral.span_eq_iff.1 hspan
  have hrun : Numeral.RunIn digits (symbol :: rest) :=
    ⟨[symbol], behind, by rw [hr]; rfl, hd, fun c hc => Option.some.inj hc ▸ hs, hhead⟩
  exact ⟨digits, hrun, hlong, rfl⟩

/-- Of the digits in a text, only those of the count can be too many. -/
theorem readPad_error {symbol : Char} {side : Side} {rest : Text} {misreading : Misreading}
    (h : readPad symbol side rest = .error misreading) :
    misreading.Meets (symbol :: rest).length (LongCount rest) := by
  rcases hspan : Numeral.span rest with ⟨digits, behind⟩
  obtain ⟨hr, -, -⟩ := Numeral.span_eq_iff.1 hspan
  have hlen : rest.length = digits.length + behind.length := by rw [hr, List.length_append]
  simp only [readPad, hspan] at h
  rw [← List.length_cons (a := symbol)] at h
  split_ifs at h with hsymbol hm hdigits
  · obtain rfl := Except.error.inj h
    exact Misreading.meets_slip rfl (Nat.succ_pos _)
  · obtain rfl := Except.error.inj h
    rcases rest with _ | ⟨c, rest⟩
    · exact ⟨rfl, .inr ⟨rfl, rfl⟩⟩
    · exact Misreading.meets_slip rfl (by simp)
  · have hpos := List.length_pos_iff.2 hdigits
    rcases Except.bind_eq_error_iff.1 h with hn | ⟨n, -, h⟩
    · obtain ⟨hlong, rfl⟩ := readNumeral_error hn
      rw [Misreading.Meets, LongCount, hspan]
      exact ⟨hlong, rfl⟩
    · split_ifs at h with hz
      · obtain rfl := Except.error.inj h
        refine ⟨rfl, .inl ⟨by omega, ?_⟩⟩
        rw [List.length_cons]
        omega
      · rcases behind with _ | ⟨delimiter, mask⟩
        · obtain rfl := Except.error.inj h
          refine ⟨rfl, .inr ⟨?_, rfl⟩⟩
          rw [List.length_cons, hlen, List.length_nil]
          omega
        · simp only at h
          split_ifs at h with hm
          obtain rfl := Except.error.inj h
          refine Misreading.meets_slip rfl ?_
          rw [List.length_cons, hlen, List.length_cons]
          omega

/-! ## Substitutions -/

theorem readSubstitution_error {symbol : Char} {rest : Text} {misreading : Misreading}
    {refused : Refusal → Prop} (h : readSubstitution symbol rest = .error misreading) :
    misreading.Meets (symbol :: rest).length refused := by
  rcases rest with _ | ⟨delimiter, body⟩
  · obtain rfl := Except.error.inj h
    exact ⟨rfl, .inr ⟨rfl, rfl⟩⟩
  · simp only [readSubstitution] at h
    split at h
    · obtain rfl := Except.error.inj h
      exact Misreading.meets_slip rfl (by simp)
    · cases h

theorem readReplace_error {symbol : Char} {all : Bool} {rest : Text} {misreading : Misreading}
    {refused : Refusal → Prop} (h : readReplace symbol all rest = .error misreading) :
    misreading.Meets (symbol :: rest).length refused := by
  rcases Except.bind_eq_error_iff.1 h with hs | ⟨⟨target, replacement⟩, -, h⟩
  · exact readSubstitution_error hs
  · cases h

/-! ## Patterns -/

/-- A failure of characters that the text has is a slip at them, or is passed on. -/
theorem meets_misread {cause : Regex.Error → Cause} {first last length : ℕ}
    {failure : Regex.Failure} {refused : Refusal → Prop} (hc : ∀ error, (cause error).ofArguments)
    (hs : first < last ∧ last ≤ length ∨ first = length ∧ last = length)
    (hr : ∀ refusal, failure.refusal? = some refusal → refused refusal) :
    (misread cause first last failure).Meets length refused := by
  rcases failure with error | _ | numeral | _
  · exact ⟨hc error, hs⟩
  · exact hr _ rfl
  · exact hr _ rfl
  · exact hr _ rfl

theorem misread_of_refusal? {cause : Regex.Error → Cause} {first last : ℕ}
    {failure : Regex.Failure} {refusal : Refusal} (h : failure.refusal? = some refusal) :
    misread cause first last failure = .refused refusal := by
  rcases failure with error | _ | numeral | _ <;>
    simp only [Regex.Failure.refusal?, reduceCtorEq, Option.some.injEq] at h <;> subst h <;> rfl

theorem readPattern_error {source : Text} {first : ℕ} {misreading : Misreading} :
    readPattern source first = .error misreading
      ↔ ∃ failure, Regex.Pattern.compile source = .error failure
        ∧ misread .badPattern first (first + source.length) failure = misreading :=
  Except.mapError_eq_error_iff

theorem readRegexMatch_error {rest : Text} {misreading : Misreading}
    (h : readRegexMatch rest = .error misreading) :
    misreading.Meets ('=' :: rest).length (RegexRefuses ('=' :: rest)) := by
  unfold readRegexMatch at h
  split_ifs at h with hr
  · obtain rfl := Except.error.inj h
    exact ⟨rfl, .inr ⟨by rw [hr]; rfl, by rw [hr]; rfl⟩⟩
  · obtain ⟨failure, hf, rfl⟩ := readPattern_error.1 (Except.map_eq_error_iff.1 h)
    have hpos := List.length_pos_iff.2 hr
    refine meets_misread (fun _ => rfl) (.inl ⟨by omega, ?_⟩) fun refusal hs => ?_
    · rw [List.length_cons, Nat.add_comm]
    · exact ⟨failure, .regexMatch hr hf, hs⟩

theorem readRegexReplace_error {symbol : Char} {all : Bool} {rest : Text} {misreading : Misreading}
    (ha : (symbol, all) ∈ regexReplaceSymbols)
    (h : readRegexReplace symbol all rest = .error misreading) :
    misreading.Meets (symbol :: rest).length (RegexRefuses (symbol :: rest)) := by
  rcases Except.bind_eq_error_iff.1 h with hs | ⟨⟨source, replacement⟩, hs, h⟩
  · exact readSubstitution_error hs
  obtain ⟨hn, hs⟩ := readSubstitution_eq_ok_iff.1 hs
  rcases Except.bind_eq_error_iff.1 h with hp | ⟨pattern, hp, h⟩
  · obtain ⟨failure, hf, rfl⟩ := readPattern_error.1 hp
    have hpos := List.length_pos_iff.2 hn
    have hlen := hs.length_lt
    refine meets_misread (fun _ => rfl) (.inl ⟨by omega, ?_⟩) fun refusal hr => ?_
    · rw [List.length_cons]
      omega
    · exact ⟨failure, .pattern ha hn hs hf, hr⟩
  have hc := readPattern_eq_ok_iff.1 hp
  obtain rfl := Regex.Pattern.source_of_compile hc
  rcases Except.bind_eq_error_iff.1 h with hr | ⟨parts, -, h⟩
  · obtain ⟨failure, hf, rfl⟩ := Except.mapError_eq_error_iff.1 hr
    refine meets_misread (fun _ => rfl) ?_ fun refusal hr => ?_
    · rw [List.length_cons]
      omega
    · exact ⟨failure, .replacement ha ⟨hn, hc⟩ hs hf, hr⟩
  · cases h

/-- What a pattern or a replacement is refused for is passed on. -/
theorem read_of_regexFails {text : Text} {failure : Regex.Failure} {refusal : Refusal}
    (h : RegexFails text failure) (hr : failure.refusal? = some refusal) :
    read text = .error (.refused refusal) := by
  cases h with
  | @regexMatch source failure hn hf =>
    have hp : readPattern source 1 = .error (.refused refusal) :=
      readPattern_error.2 ⟨failure, hf, misread_of_refusal? hr⟩
    exact (if_neg hn).trans (Except.map_eq_error_iff.2 hp)
  | @pattern symbol all source replacement body failure ha hn hs hf =>
    have hread : readRegexReplace symbol all body = .error (.refused refusal) := by
      refine Except.bind_eq_error_iff.2 (.inr ⟨_, readSubstitution_eq_ok_iff.2 ⟨hn, hs⟩, ?_⟩)
      refine Except.bind_eq_error_iff.2 (.inl ?_)
      exact readPattern_error.2 ⟨failure, hf, misread_of_refusal? hr⟩
    exact (read_of_regexReplaceSymbols ha body).trans hread
  | @replacement symbol all pattern replacement body failure ha hc hs hf =>
    have hread : readRegexReplace symbol all body = .error (.refused refusal) := by
      refine Except.bind_eq_error_iff.2 (.inr ⟨_, readSubstitution_eq_ok_iff.2 ⟨hc.1, hs⟩, ?_⟩)
      refine Except.bind_eq_error_iff.2 (.inr ⟨_, readPattern_eq_ok_iff.2 hc.2, ?_⟩)
      refine Except.bind_eq_error_iff.2 (.inl ?_)
      exact Except.mapError_eq_error_iff.2 ⟨failure, hf, misread_of_refusal? hr⟩
    exact (read_of_regexReplaceSymbols ha body).trans hread

/-! ## All filters -/

theorem readFixed_error {symbol : Char} {filter : Filter} {rest : Text} {misreading : Misreading}
    {refused : Refusal → Prop} (h : readFixed symbol filter rest = .error misreading) :
    misreading.Meets (symbol :: rest).length refused := by
  unfold readFixed at h
  split_ifs at h with hr
  obtain rfl := Except.error.inj h
  have hpos := List.length_pos_iff.2 hr
  exact Misreading.meets_slip rfl (by rw [List.length_cons]; omega)

/-- A text that spells no filter is empty, has a symbol that is not known, or has something wrong
with its arguments. -/
theorem read_error {text : Text} {misreading : Misreading} (h : read text = .error misreading) :
    text = [] ∧ misreading = .slip .emptyFilter 0 0
    ∨ (∃ symbol rest, text = symbol :: rest ∧ symbol ∉ symbols
      ∧ misreading = .slip (.unknownFilter symbol) 0 1)
    ∨ (∃ symbol rest, text = symbol :: rest ∧ symbol ∈ symbols)
      ∧ misreading.Meets text.length (Refuses text) := by
  rcases text with _ | ⟨symbol, rest⟩
  · exact .inl ⟨rfl, (Except.error.inj h).symm⟩
  by_cases hs : symbol ∈ symbols
  · refine .inr (.inr ⟨⟨symbol, rest, rfl, hs⟩, ?_⟩)
    have long : ∀ symbol ∈ numberSymbols, ∀ refusal, LongRun (symbol :: rest) refusal →
        Refuses (symbol :: rest) refusal := fun symbol hn refusal hl => .inl ⟨⟨symbol, rfl, hn⟩, hl⟩
    simp only [read] at h
    -- one case for each symbol, in the order of `read`
    split at h
    case h_1 => exact (readSubstring_error h).mono (long _ (by simp [numberSymbols]))
    case h_12 =>
      exact (readPad_error h).mono fun refusal hl =>
        long _ (by simp [numberSymbols]) refusal (hl.longRun rfl)
    case h_13 =>
      exact (readPad_error h).mono fun refusal hl =>
        long _ (by simp [numberSymbols]) refusal (hl.longRun rfl)
    case h_14 => exact readReplace_error h
    case h_15 => exact readReplace_error h
    case h_16 => cases h
    case h_17 => exact (readRegexMatch_error h).mono fun _ => .inr
    case h_18 =>
      exact (readRegexReplace_error (by simp [regexReplaceSymbols]) h).mono fun _ => .inr
    case h_19 =>
      exact (readRegexReplace_error (by simp [regexReplaceSymbols]) h).mono fun _ => .inr
    case h_20 => simp_all [symbols]
    all_goals exact readFixed_error h
  · refine .inr (.inl ⟨symbol, rest, rfl, hs, ?_⟩)
    simp only [read] at h
    split at h
    case h_20 => exact (Except.error.inj h).symm
    all_goals simp [symbols] at hs

end Filter

end FilterTemplate
