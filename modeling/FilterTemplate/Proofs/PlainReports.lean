import Mathlib
import FilterTemplate.Proofs.MarkerLines

/-!
# Reports without their colours

A style sequence is the escape character with a bracket, parameters and a letter. Deleting them from
a report in colour gives the report without colour (`unstyled_highlight`, `Report.unstyled_format`):
the source is cut around its span, and what is red or bold comes back between the cuts. A source or
a message with escape characters of its own could have sequences that stand in the plain report too,
so there must be none.
-/

namespace FilterTemplate

namespace Style

/-- Whether a character can stand between the bracket of a style sequence and its letter. -/
def isParameter (c : Char) : Bool := c.isDigit || c = ';' || c = '?'

/-- How many characters the style sequence has that a text starts with; none if it starts with no
sequence. -/
def sequenceLength : Text → ℕ
  | '\x1b' :: '[' :: rest =>
    match rest.dropWhile isParameter with
    | final :: _ => if final.isAlpha then (rest.takeWhile isParameter).length + 3 else 0
    | [] => 0
  | _ => 0

/-- The text without its style sequences, where as many characters as are left of one come
first. -/
def unstyledBehind : ℕ → Text → Text
  | _, [] => []
  | left + 1, _ :: rest => unstyledBehind left rest
  | 0, c :: rest =>
    match sequenceLength (c :: rest) with
    | left + 1 => unstyledBehind left rest
    | 0 => c :: unstyledBehind 0 rest

/-- The text without its style sequences. -/
def unstyled (text : Text) : Text := unstyledBehind 0 text

@[simp] theorem unstyled_nil : unstyled [] = [] := rfl

theorem unstyledBehind_eq : ∀ (left : ℕ) (text : Text),
    unstyledBehind left text = unstyled (text.drop left)
  | 0, _ => rfl
  | left + 1, [] => rfl
  | left + 1, _ :: rest => by
    rw [unstyledBehind, unstyledBehind_eq left rest, List.drop_succ_cons]

/-- A style sequence is deleted, and what stands behind it is looked at on its own. -/
theorem unstyled_of_sequenceLength {text : Text} (h : sequenceLength text ≠ 0) :
    unstyled text = unstyled (text.drop (sequenceLength text)) := by
  rcases text with _ | ⟨c, rest⟩
  · simp
  · obtain ⟨left, hl⟩ := Nat.exists_eq_succ_of_ne_zero h
    rw [hl, List.drop_succ_cons, ← unstyledBehind_eq, unstyled, unstyledBehind, hl]

theorem sequenceLength_cons_of_ne {c : Char} (h : c ≠ escapeCharacter) (rest : Text) :
    sequenceLength (c :: rest) = 0 := by
  unfold sequenceLength
  split
  · rename_i heq
    exact absurd (List.cons.inj heq).1 h
  · rfl

/-- Text without escape characters stays. -/
theorem unstyled_append_of_not_mem (rest : Text) : ∀ {text : Text}, escapeCharacter ∉ text →
    unstyled (text ++ rest) = text ++ unstyled rest
  | [], _ => rfl
  | c :: text, h => by
    rw [List.mem_cons, not_or] at h
    have hc := sequenceLength_cons_of_ne (Ne.symm h.1) (text ++ rest)
    have ih : unstyledBehind 0 (text ++ rest) = text ++ unstyled rest :=
      unstyled_append_of_not_mem rest h.2
    rw [List.cons_append, unstyled, unstyledBehind, hc, List.cons_append, ← ih]

theorem sequenceLength_select_append {code : Text} (h : code.all isParameter) (rest : Text) :
    sequenceLength (select code ++ rest) = (select code).length := by
  have hcode := List.all_eq_true.1 h
  have hm : ¬ isParameter 'm' := by decide
  have hs : select code ++ rest = '\x1b' :: '[' :: (code ++ 'm' :: rest) := by
    simp [select, escapeCharacter]
  rw [hs, sequenceLength, List.dropWhile_append_of_pos hcode, List.takeWhile_append_of_pos hcode,
    List.dropWhile_cons_of_neg hm, List.takeWhile_cons_of_neg hm]
  simp [select, Char.isAlpha, Char.isLower]

/-- What selects a style is deleted. -/
theorem unstyled_select_append (code : Text) (h : code.all isParameter) (rest : Text) :
    unstyled (select code ++ rest) = unstyled rest := by
  have hl := sequenceLength_select_append h rest
  have hne : sequenceLength (select code ++ rest) ≠ 0 := by
    rw [hl]
    simp [select]
  rw [unstyled_of_sequenceLength hne, hl, List.drop_left]

-- Without its letter, what starts like a sequence is text.
example : unstyled (select ['1', ';', '3'] ++ ['a', '\x1b', '[', '1'])
    = ['a', '\x1b', '[', '1'] := by
  decide

theorem unstyled_reset_append (rest : Text) : unstyled (reset ++ rest) = unstyled rest :=
  unstyled_select_append ['0'] (by decide) rest

theorem unstyled_red_append {text : Text} (h : escapeCharacter ∉ text) (rest : Text) :
    unstyled (red text ++ rest) = text ++ unstyled rest := by
  rw [red, List.append_assoc, List.append_assoc, unstyled_select_append ['3', '1'] (by decide),
    unstyled_append_of_not_mem _ h, unstyled_reset_append]

theorem unstyled_redBold_append {text : Text} (h : escapeCharacter ∉ text) (rest : Text) :
    unstyled (redBold text ++ rest) = text ++ unstyled rest := by
  rw [redBold, List.append_assoc, List.append_assoc, List.append_assoc,
    unstyled_select_append ['3', '1'] (by decide), unstyled_select_append ['1'] (by decide),
    unstyled_append_of_not_mem _ h, unstyled_reset_append]

theorem unstyled_red {text : Text} (h : escapeCharacter ∉ text) : unstyled (red text) = text := by
  simpa using unstyled_red_append h []

theorem unstyled_redBold {text : Text} (h : escapeCharacter ∉ text) :
    unstyled (redBold text) = text := by
  simpa using unstyled_redBold_append h []

theorem mem_select (code : Text) : escapeCharacter ∈ select code := List.mem_cons_self

theorem mem_red (text : Text) : escapeCharacter ∈ red text :=
  List.mem_append_left _ (List.mem_append_left _ (mem_select _))

theorem mem_redBold (text : Text) : escapeCharacter ∈ redBold text := by
  rw [redBold, List.append_assoc, List.append_assoc]
  exact List.mem_append_left _ (mem_select _)

end Style

open Style

/-! ## Reports -/

/-- A span in colour is the span without it; an empty one has no colour. -/
theorem unstyled_span_append {span : Text} (h : escapeCharacter ∉ span) (rest : Text) :
    unstyled ((if !span.isEmpty then redBold span else span) ++ rest) = span ++ unstyled rest := by
  split_ifs
  · exact unstyled_redBold_append h rest
  · exact unstyled_append_of_not_mem rest h

/-- The source and the marks come back from the cuts around the span, wherever those are. -/
theorem unstyled_highlight {source : Text} (h : escapeCharacter ∉ source) (start stop : ℤ) :
    unstyled (highlight source start stop true) = highlight source start stop false := by
  rcases hc : clampSpan source.length start stop with ⟨first, last⟩
  have htake : escapeCharacter ∉ source.take first := fun hm => h (List.mem_of_mem_take hm)
  have hspan : escapeCharacter ∉ Text.slice source first last :=
    fun hm => h (List.mem_of_mem_take (List.mem_of_mem_drop hm))
  have hdrop : escapeCharacter ∉ source.drop last := fun hm => h (List.mem_of_mem_drop hm)
  have hline : escapeCharacter ∉ ['\n'] := by decide
  have hblanks : escapeCharacter ∉ List.replicate first ' ' := by simp [escapeCharacter]
  have hmarks : escapeCharacter
      ∉ List.replicate (max 1 (Text.slice source first last).length) '^' := by
    simp [escapeCharacter]
  simp only [highlight, hc, Bool.true_and, Bool.false_and, Bool.false_eq_true, if_true, if_false,
    List.append_assoc]
  rw [unstyled_append_of_not_mem _ htake, unstyled_span_append hspan,
    unstyled_append_of_not_mem _ hdrop, unstyled_append_of_not_mem _ hline,
    unstyled_append_of_not_mem _ hblanks, unstyled_redBold hmarks]

theorem mem_highlight (source : Text) (start stop : ℤ) :
    escapeCharacter ∈ highlight source start stop true := by
  unfold highlight
  exact List.mem_append_right _ (mem_redBold _)

namespace Report

theorem unstyled_format {report : Report} (hr : escapeCharacter ∉ report.message) {source : Text}
    (hs : escapeCharacter ∉ source) :
    unstyled (report.format source true) = report.format source false := by
  have hlines : escapeCharacter ∉ ['\n', '\n'] := by decide
  unfold format
  rcases report.start with _ | start
  · exact unstyled_red hr
  · simp only [if_true, Bool.false_eq_true, if_false, List.append_assoc]
    rw [unstyled_red_append hr, unstyled_append_of_not_mem _ hlines, unstyled_highlight hs]

theorem mem_format (report : Report) (source : Text) :
    escapeCharacter ∈ report.format source true := by
  unfold format
  rcases report.start with _ | start
  · exact mem_red _
  · simp only [if_true, List.append_assoc]
    exact List.mem_append_left _ (mem_red _)

end Report

/-- The number between two bounds that is nearest to the given one. -/
def clamp (low high i : ℤ) : ℤ := max low (min i high)

/-- Without colour, the source is shown as it is, and in the line below it marks under the span as
far as that lies in the source, at least one. In colour, it is the same with style sequences in it,
and so is the whole report, with or without a position. -/
theorem unstyled_report (source : Text) (start stop : ℤ) :
    (∃ blanks marks : ℕ, blanks = clamp 0 source.length start
      ∧ marks = max 1 (clamp blanks source.length stop - blanks)
      ∧ highlight source start stop false
        = source ++ '\n' :: (List.replicate blanks ' ' ++ List.replicate marks '^'))
    ∧ escapeCharacter ∈ highlight source start stop true
    ∧ (escapeCharacter ∉ source →
        unstyled (highlight source start stop true) = highlight source start stop false)
    ∧ ∀ report : Report, escapeCharacter ∈ report.format source true
      ∧ (escapeCharacter ∉ source → escapeCharacter ∉ report.message →
        unstyled (report.format source true) = report.format source false) := by
  refine ⟨?_, mem_highlight source start stop, fun h => unstyled_highlight h start stop,
    fun report => ⟨report.mem_format source, fun hs hr => Report.unstyled_format hr hs⟩⟩
  have hplain := highlight_plain source start stop
  rcases hc : clampSpan source.length start stop with ⟨first, last⟩
  simp only [hc] at hplain
  simp only [clampSpan, Prod.mk.injEq] at hc
  refine ⟨first, max 1 (last - first), ?_, ?_, by simp [hplain]⟩ <;>
  · simp only [clamp]
    omega

/-- Between positions in the wrong order there is one mark, behind as much of the source as there is
in front of the first of them; a position behind the source is its end; and where the position is
not known, the end does not matter. -/
theorem unstyled_report_reversed :
    let source : Text := ['a', '\x7b', 'x', '\x7d']
    let report (start stop : Option ℤ) := Report.about ['N', 'o'] none start stop
    escapeCharacter ∉ source ∧ escapeCharacter ∉ ['N', 'o']
      ∧ unstyled (highlight source 2 (-1) true) = source ++ ['\n', ' ', ' ', '^']
      ∧ unstyled ((report (some 9) none).format source true)
        = ['N', 'o', '\n', '\n'] ++ source ++ ['\n', ' ', ' ', ' ', ' ', '^']
      ∧ unstyled ((report none (some 3)).format source true) = ['N', 'o'] := by
  intro source report
  have hs : escapeCharacter ∉ source := by decide
  have hm : escapeCharacter ∉ ['N', 'o'] := by decide
  obtain ⟨-, -, hspan, hreport⟩ := unstyled_report source 2 (-1)
  exact ⟨hs, hm, hspan hs, (hreport (report (some 9) none)).2 hs hm,
    (hreport (report none (some 3))).2 hs hm⟩

end FilterTemplate
