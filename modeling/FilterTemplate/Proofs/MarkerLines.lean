import Mathlib
import FilterTemplate.Proofs.FaultSpans

/-!
# The line of marks under a fault

The last line of a report has one blank for every character of the source in front of the fault, and
then the marks (`highlight_eq_marks`). So the first mark stands under the character that the fault
starts with if the source shows that character in its first line. Line breaks in front of it count
like any other character, and so do the lines that they end: the marks then stand too far to the
right, by all of the source up to the last line break in front of the fault.
-/

namespace FilterTemplate

namespace Text

/-- What stands behind the last line break of a text; the whole text if it has none. -/
def lastLine (text : Text) : Text := text.rtakeWhile (· ≠ '\n')

/-- The lines in front of the last one, each with the line break that ends it. -/
def earlierLines (text : Text) : Text := text.rdropWhile (· ≠ '\n')

/-- How many characters stand in front of a position in its own line. -/
def column (text : Text) (i : ℕ) : ℕ := (lastLine (text.take i)).length

theorem lastLine_append (before : Text) {line : Text} (h : '\n' ∉ line) :
    lastLine (before ++ '\n' :: line) = line := by
  have hline : ∀ c ∈ line.reverse, (c ≠ '\n' : Bool) := by
    intro c hc
    rw [decide_eq_true_eq]
    rintro rfl
    exact h (List.mem_reverse.1 hc)
  rw [lastLine, List.rtakeWhile, List.reverse_append, List.reverse_cons, List.append_assoc,
    List.takeWhile_append_of_pos hline, List.singleton_append, List.takeWhile_cons_of_neg (by simp),
    List.append_nil, List.reverse_reverse]

theorem earlierLines_append_lastLine (text : Text) : earlierLines text ++ lastLine text = text :=
  List.rdropWhile_append_rtakeWhile

theorem earlierLines_eq_nil_iff {text : Text} : earlierLines text = [] ↔ '\n' ∉ text := by
  rw [earlierLines, List.rdropWhile_eq_nil_iff]
  refine ⟨fun h hm => by simpa using h _ hm, fun h c hc => ?_⟩
  rw [decide_eq_true_eq]
  rintro rfl
  exact h hc

/-- A position is as far from the start of the text as the lines in front of its own one are long,
and its column. -/
theorem length_earlierLines_add_column {text : Text} {i : ℕ} (h : i ≤ text.length) :
    (earlierLines (text.take i)).length + column text i = i := by
  rw [column, ← List.length_append, earlierLines_append_lastLine, List.length_take_of_le h]

end Text

/-! ## The marks -/

/-- The marks for a span, behind one blank for each character in front of it. -/
def marks (start stop : ℕ) : Text :=
  List.replicate start ' ' ++ List.replicate (max 1 (stop - start)) '^'

theorem not_mem_marks (start stop : ℕ) : '\n' ∉ marks start stop := by
  simp [marks]

/-- The first mark stands behind as many characters as the fault does. -/
theorem idxOf_marks (start stop : ℕ) : (marks start stop).idxOf '^' = start := by
  obtain ⟨n, hn⟩ : ∃ n, max 1 (stop - start) = n + 1 := ⟨max 1 (stop - start) - 1, by omega⟩
  rw [marks, List.idxOf_append_of_notMem (by simp), List.length_replicate, hn,
    List.replicate_succ, List.idxOf_cons_self, Nat.add_zero]

theorem highlight_eq_marks {source : Text} {start stop : ℕ} (hs : start ≤ stop)
    (hl : stop ≤ source.length) :
    highlight source start stop false = source ++ '\n' :: marks start stop := by
  rw [highlight_of_le hs hl, marks]
  simp

namespace Delimiters

variable (d : Delimiters)

/-- A fault starts at a character of the source and stops in it. -/
theorem bounds_of_compile {text : Text} {fault : Fault}
    (h : d.compile text = .error (.fault fault)) :
    fault.start ≤ fault.stop ∧ fault.stop ≤ text.length ∧ fault.start < text.length := by
  rcases hs : d.split text with found | tokens
  · obtain rfl : found = fault := by simpa [compile, hs] using h
    have hf := d.structural_of_split hs
    have hlt := hf.slice_eq.1
    have hstop := hf.stop
    omega
  · obtain ⟨piece, before, behind, hp, -, he⟩ := (d.compile_eq_error_iff hs).1 h
    obtain ⟨site, rfl, rfl, rfl, rfl⟩ := d.exists_site hs hp
    obtain ⟨⟨cause, first, last⟩ | refusal, hm, hf⟩ := Piece.read_eq_error_iff.1 he
    · obtain rfl := Failure.fault.inj hf
      have hindex := (Filter.slip_of_read hm).1
      have hmono : site.piece.positionOf first ≤ site.piece.positionOf last :=
        site.ordered.positionOf_mono (by omega)
      have hfirst := site.ordered.positionOf_mem first
      have hlast := site.ordered.positionOf_mem last
      have hlt := site.stop_lt_length
      exact ⟨hmono, hlast.2.trans hlt.le, hfirst.2.trans_lt hlt⟩
    · cases hf

/-- Under a template that cannot be read stand blanks and then as many marks as the fault has
characters, at least one. The first mark is further to the right than the character that the fault
starts with by the length of the lines in front of that character's line, so it stands under it
exactly if there are none. -/
theorem compile_fault_marks {text : Text} {fault : Fault}
    (h : d.compile text = .error (.fault fault)) :
    fault.start < text.length
    ∧ Text.lastLine (highlight text fault.start fault.stop false)
      = List.replicate fault.start ' ' ++ List.replicate (max 1 (fault.stop - fault.start)) '^'
    ∧ Text.lastLine ((Report.ofFault fault).format text false)
      = Text.lastLine (highlight text fault.start fault.stop false)
    ∧ (Text.lastLine (highlight text fault.start fault.stop false)).idxOf '^'
      = (Text.earlierLines (text.take fault.start)).length + Text.column text fault.start
    ∧ ((Text.lastLine (highlight text fault.start fault.stop false)).idxOf '^'
        = Text.column text fault.start ↔ '\n' ∉ text.take fault.start) := by
  obtain ⟨hs, hl, hlt⟩ := d.bounds_of_compile h
  have hmarks := highlight_eq_marks hs hl
  have hlast : Text.lastLine (highlight text fault.start fault.stop false)
      = marks fault.start fault.stop := by
    rw [hmarks, Text.lastLine_append _ (not_mem_marks _ _)]
  have hcolumn := Text.length_earlierLines_add_column hlt.le
  have hformat : (Report.ofFault fault).format text false
      = (fault.cause.message ++ ['\n', '\n'] ++ text) ++ '\n' :: marks fault.start fault.stop := by
    rw [List.append_assoc, ← hmarks]
    rfl
  rw [hlast, idxOf_marks, hformat, Text.lastLine_append _ (not_mem_marks _ _)]
  refine ⟨hlt, rfl, rfl, hcolumn.symm, ?_⟩
  rw [← Text.earlierLines_eq_nil_iff, ← List.length_eq_zero_iff]
  omega

/-- A chain that is not closed in the second line, and one in front of a line break. -/
theorem compile_fault_marks_lines :
    let second : Text := ['a', 'b', '\n', 'c', '\x7b', 't']
    let first : Text := ['a', '\x7b', 'x', '\x7d', '\n']
    Text.lastLine (highlight second 4 5 false) = [' ', ' ', ' ', ' ', '^']
      ∧ Text.column second 4 = 1
      ∧ (Text.lastLine (highlight second 4 5 false)).idxOf '^' = 3 + 1
      ∧ (Text.lastLine (highlight first 2 3 false)).idxOf '^' = Text.column first 2 := by
  intro second first
  have hs : (default : Delimiters).compile second
      = .error (.fault ⟨.unmatched '\x7b', ['\x7b'], 4, 5⟩) := by
    rfl
  have hf : (default : Delimiters).compile first
      = .error (.fault ⟨.unknownFilter 'x', ['x'], 2, 3⟩) := by
    rfl
  obtain ⟨-, hmarks, -, hindex, -⟩ := compile_fault_marks default hs
  obtain ⟨-, -, -, -, haligned⟩ := compile_fault_marks default hf
  exact ⟨hmarks, by decide, hindex, haligned.2 (by decide)⟩

/-- What closes no chain in the second line is marked one character to the right of it. -/
theorem compile_fault_marks_misplaced :
    let text : Text := ['\n', '\x7d']
    ∃ fault, (default : Delimiters).compile text = .error (.fault fault)
      ∧ text[fault.start]? = some '\x7d'
      ∧ (Text.lastLine (highlight text fault.start fault.stop false)).idxOf '^'
        ≠ Text.column text fault.start :=
  ⟨⟨.unmatched '\x7d', ['\x7d'], 1, 2⟩, rfl, rfl, by decide⟩

end Delimiters

end FilterTemplate
