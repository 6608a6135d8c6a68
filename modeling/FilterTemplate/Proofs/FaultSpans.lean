import Mathlib
import FilterTemplate.Proofs.Failures
import FilterTemplate.Proofs.Positions
import FilterTemplate.Proofs.Slices

/-!
# Where a fault is shown

A fault of the structure is one character of the source. Any other lies in the text of the filter
that it is about: it starts where the first of the characters that are named stands
(`Piece.getElem?_of_slice_ne_nil`), or at the end of the text if none are
(`Piece.positionOf_of_slice_eq_nil`).
-/

namespace FilterTemplate

/-! ## Spans in the source -/

theorem clampSpan_of_le {length start stop : ℕ} (hs : start ≤ stop) (hl : stop ≤ length) :
    clampSpan length start stop = (start, stop) := by
  simp only [clampSpan, Int.toNat_natCast, Prod.mk.injEq]
  omega

theorem clampSpan_le (length : ℕ) (start stop : ℤ) :
    (clampSpan length start stop).1 ≤ (clampSpan length start stop).2
      ∧ (clampSpan length start stop).2 ≤ length := by
  simp only [clampSpan]
  omega

/-- Under the source there are blanks up to the span, as far as it lies in the source, and marks
below it. -/
theorem highlight_plain (source : Text) (start stop : ℤ) :
    let span := clampSpan source.length start stop
    highlight source start stop false
      = source ++ ['\n'] ++ List.replicate span.1 ' '
        ++ List.replicate (max 1 (span.2 - span.1)) '^' := by
  intro span
  obtain ⟨hs, hl⟩ := clampSpan_le source.length start stop
  simp only [highlight, Text.length_slice hl]
  simp [Text.take_slice_drop source hs, span]

/-- Under a source that has the span, the marks start below where it starts. -/
theorem highlight_of_le {source : Text} {start stop : ℕ} (hs : start ≤ stop)
    (hl : stop ≤ source.length) :
    highlight source start stop false
      = source ++ ['\n'] ++ List.replicate start ' '
        ++ List.replicate (max 1 (stop - start)) '^' := by
  simpa only [clampSpan_of_le hs hl] using highlight_plain source start stop

theorem Fault.Structural.slice_eq {text : Text} {fault : Fault} (h : fault.Structural text) :
    fault.start < text.length ∧ fault.fragment = Text.slice text fault.start fault.stop := by
  obtain ⟨c, hc, hf⟩ := h.char
  obtain ⟨hlt, hc⟩ := List.getElem?_eq_some_iff.1 hc
  refine ⟨hlt, ?_⟩
  rw [hf, h.stop, Text.slice, List.drop_take, Nat.add_sub_cancel_left,
    List.drop_eq_getElem_cons hlt, hc]
  rfl

/-! ## The span of a slip -/

/-- A slip is at characters that the text has, or behind them. -/
theorem Filter.slip_of_read {text : Text} {cause : Cause} {first last : ℕ}
    (h : read text = .error (.slip cause first last)) :
    (first < last ∧ last ≤ text.length ∨ first = text.length ∧ last = text.length)
      ∧ (cause = .emptyFilter ↔ text = []) := by
  rcases read_error h with ⟨rfl, hs⟩ | ⟨symbol, rest, rfl, -, hs⟩ | ⟨⟨symbol, rest, rfl, -⟩, hc, hm⟩
  · obtain ⟨rfl, rfl, rfl⟩ := Misreading.slip.inj hs
    exact ⟨.inr ⟨rfl, rfl⟩, by simp⟩
  · obtain ⟨rfl, rfl, rfl⟩ := Misreading.slip.inj hs
    exact ⟨.inl ⟨Nat.zero_lt_one, by simp⟩, by simp⟩
  · refine ⟨hm, ⟨?_, by simp⟩⟩
    rintro rfl
    cases hc

namespace Piece

variable {piece : Piece}

theorem slice_text (first last : ℕ) :
    Text.slice piece.text first last = ((piece.chars.take last).drop first).map (·.1) := by
  rw [Text.slice, text, List.map_drop, List.map_take]

theorem length_text : piece.text.length = piece.chars.length := by rw [text, List.length_map]

/-- A fault at characters starts where the first of them stands. -/
theorem getElem?_of_slice_ne_nil {first last : ℕ} (h : Text.slice piece.text first last ≠ []) :
    ∃ c, piece.chars[first]? = some (c, piece.positionOf first)
      ∧ (Text.slice piece.text first last).head? = some c := by
  rw [slice_text] at h ⊢
  rcases hd : (piece.chars.take last).drop first with _ | ⟨⟨c, i⟩, behind⟩
  · rw [hd] at h
    exact absurd rfl h
  · have hc : (piece.chars.take last)[first]? = some (c, i) := by
      rw [← List.head?_drop, hd, List.head?_cons]
    have hlt : first < last := by
      by_contra hn
      rw [List.getElem?_take, if_neg hn] at hc
      cases hc
    rw [List.getElem?_take_of_lt hlt] at hc
    exact ⟨c, by rw [positionOf_of_getElem? hc, hc], rfl⟩

theorem positionOf_of_slice_eq_nil {first last : ℕ}
    (h : first < last ∧ last ≤ piece.text.length
      ∨ first = piece.text.length ∧ last = piece.text.length)
    (hn : Text.slice piece.text first last = []) :
    piece.positionOf first = piece.stop ∧ piece.positionOf last = piece.stop := by
  rcases h with ⟨hlt, hle⟩ | ⟨rfl, rfl⟩
  · have hlen := congrArg List.length hn
    rw [Text.slice, List.length_drop, List.length_take, List.length_nil] at hlen
    omega
  · have hp := positionOf_of_le piece.length_text.ge
    exact ⟨hp, hp⟩

theorem fragment_infix (cause : Cause) (first last : ℕ) :
    (piece.fault cause first last).fragment <:+: piece.text := by
  simp only [fault]
  split_ifs
  · exact List.infix_rfl
  · exact (List.drop_suffix _ _).isInfix.trans (List.take_prefix _ _).isInfix

theorem fragment_eq_nil_iff (cause : Cause) (first last : ℕ) :
    (piece.fault cause first last).fragment = [] ↔ piece.text = [] := by
  simp only [fault]
  split_ifs with hs
  · rfl
  · refine ⟨fun h => absurd h hs, fun h => ?_⟩
    rw [h, Text.slice, List.take_nil, List.drop_nil]

end Piece

namespace Delimiters

variable (d : Delimiters)

theorem resolve_ne_nil : ∀ {raw : Text} (i : ℕ), d.isRaw raw → raw ≠ [] → d.resolve raw i ≠ []
  | [], _, _, h => absurd rfl h
  | c :: raw, i, hr, _ => by
    by_cases he : c = d.escape
    · subst he
      rcases raw with _ | ⟨next, behind⟩
      · simp at hr
      · rw [resolve_escape, escaped]
        split_ifs <;> simp
    · rw [d.resolve_plain he]
      simp

namespace Site

variable {d} (site : d.Site)

theorem chars_eq : site.piece.chars = (site.raw.zipIdx site.piece.start).filter
    fun x => x.2 ∉ d.guards site.raw site.piece.start :=
  d.resolve_eq_filter site.isRaw_raw

theorem ordered : site.piece.Ordered := d.ordered_rawPiece site.isRaw_raw _

/-- Every character of a filter's text stands in the source at its position. -/
theorem getElem?_of_mem_chars {c : Char} {i : ℕ} (h : (c, i) ∈ site.piece.chars) :
    (d.writeTokens site.tokens)[i]? = some c := by
  obtain ⟨ending, behind, hw⟩ := site.exists_text_eq
  rw [hw]
  exact d.getElem?_of_mem_resolve site.isRaw_raw (ending :: behind) h

/-- A filter's text without characters takes no place. -/
theorem start_eq_stop (h : site.piece.text = []) : site.piece.start = site.piece.stop := by
  have hr : site.raw = [] := by
    by_contra hn
    exact d.resolve_ne_nil site.lead.length site.isRaw_raw hn (List.map_eq_nil_iff.1 h)
  rw [site.stop_eq, hr]
  rfl

end Site

/-- A fault lies in the source, which is shown as it is, with marks that start below one of its
characters. One of the structure is one character there. Any other lies in the first filter's text
that cannot be read, and shows a part of it from the character at its start on; where the reader
names no characters, it shows the whole text and stands at its end. Only the fault of a filter
without text shows nothing. -/
theorem compile_fault_span {text : Text} {fault : Fault}
    (h : d.compile text = .error (.fault fault)) :
    fault.start ≤ fault.stop ∧ fault.stop ≤ text.length ∧ fault.start < text.length
    ∧ clampSpan text.length fault.start fault.stop = (fault.start, fault.stop)
    ∧ highlight text fault.start fault.stop false
      = text ++ ['\n'] ++ List.replicate fault.start ' '
        ++ List.replicate (max 1 (fault.stop - fault.start)) '^'
    ∧ (∀ found, d.split text = .error found →
        fault.stop = fault.start + 1
        ∧ fault.fragment = Text.slice text fault.start fault.stop)
    ∧ ∀ tokens, d.split text = .ok tokens →
        ∃ piece, FailsFirst (tokens.flatMap d.filterTexts) piece (.fault fault)
          ∧ (∃ token ∈ tokens, token.start < piece.start ∧ piece.stop < token.stop)
          ∧ piece.start ≤ fault.start ∧ fault.stop ≤ piece.stop
          ∧ fault.fragment <:+: piece.text
          ∧ (fault.fragment = [] ↔ fault.cause = .emptyFilter)
          ∧ (fault.cause = .emptyFilter → fault.start = piece.start ∧ fault.stop = piece.start)
          ∧ ∃ first last, Filter.read piece.text = .error (.slip fault.cause first last)
            ∧ (Text.slice piece.text first last ≠ [] →
              fault.fragment = Text.slice piece.text first last
              ∧ ∃ c, fault.fragment.head? = some c ∧ piece.chars[first]? = some (c, fault.start)
                ∧ text[fault.start]? = some c)
            ∧ (Text.slice piece.text first last = [] →
              fault.fragment = piece.text ∧ fault.start = piece.stop
              ∧ fault.stop = piece.stop) := by
  rcases hs : d.split text with found | tokens
  · obtain rfl : found = fault := by simpa [compile, hs] using h
    have hf := d.structural_of_split hs
    obtain ⟨hlt, hslice⟩ := hf.slice_eq
    have hstop := hf.stop
    refine ⟨by omega, by omega, hlt, clampSpan_of_le (by omega) (by omega),
      highlight_of_le (by omega) (by omega), fun _ _ => ?_, ?_⟩
    · exact ⟨hstop, hslice⟩
    · rintro tokens ⟨⟩
  · obtain ⟨piece, before, behind, hp, hb, he⟩ := (d.compile_eq_error_iff hs).1 h
    obtain ⟨site, rfl, rfl, rfl, rfl⟩ := d.exists_site hs hp
    obtain ⟨⟨cause, first, last⟩ | refusal, hm, hf⟩ := Piece.read_eq_error_iff.1 he
    · obtain rfl := Failure.fault.inj hf
      obtain ⟨hindex, hempty⟩ := Filter.slip_of_read hm
      have hmono : site.piece.positionOf first ≤ site.piece.positionOf last :=
        site.ordered.positionOf_mono (by omega)
      have hfirst := site.ordered.positionOf_mem first
      have hlast := site.ordered.positionOf_mem last
      have hlt := site.stop_lt_length
      refine ⟨hmono, hlast.2.trans hlt.le, hfirst.2.trans_lt hlt,
        clampSpan_of_le hmono (hlast.2.trans hlt.le),
        highlight_of_le hmono (hlast.2.trans hlt.le), fun _ h => (by cases h), ?_⟩
      rintro _ ⟨⟩
      refine ⟨site.piece, ⟨_, _, hp, hb, he⟩, ⟨site.token, site.token_mem, site.lt_start,
        site.stop_lt⟩, hfirst.1, hlast.2, Piece.fragment_infix cause first last, ?_, ?_, first,
        last, hm, ?_, ?_⟩
      · rw [Piece.fragment_eq_nil_iff]
        exact hempty.symm
      · intro hc
        have hstart := site.start_eq_stop (hempty.1 hc)
        simp only [Piece.fault]
        omega
      · intro hne
        obtain ⟨c, hc, hhead⟩ := Piece.getElem?_of_slice_ne_nil hne
        have hfragment : (site.piece.fault cause first last).fragment
            = Text.slice site.piece.text first last := if_neg hne
        rw [hfragment]
        exact ⟨rfl, c, hhead, hc, site.getElem?_of_mem_chars (List.mem_of_getElem? hc)⟩
      · intro hnil
        exact ⟨if_pos hnil, Piece.positionOf_of_slice_eq_nil hindex hnil⟩
    · cases hf

/-- Behind a count without a delimiter there is nothing to show, so the whole text is shown and the
fault stands at its end; what closes no chain is shown where it stands. -/
theorem compile_fault_span_missing :
    let fault : Fault := ⟨.missingCountDelimiter, ['<', '2'], 5, 5⟩
    (default : Delimiters).compile ['\x7b', 't', '|', '<', '2', '\x7d'] = .error (.fault fault)
      ∧ highlight ['\x7b', 't', '|', '<', '2', '\x7d'] 5 5 false
        = ['\x7b', 't', '|', '<', '2', '\x7d', '\n', ' ', ' ', ' ', ' ', ' ', '^']
      ∧ (∃ piece : Piece, 5 ≤ piece.stop ∧ fault.fragment <:+: piece.text
        ∧ piece.read = .error (.fault fault))
      ∧ ∃ other, (default : Delimiters).compile ['a', '\x7d'] = .error (.fault other)
        ∧ other.fragment = Text.slice ['a', '\x7d'] other.start other.stop := by
  intro fault
  have hs : (default : Delimiters).split ['\x7b', 't', '|', '<', '2', '\x7d']
      = .ok [⟨.chain ['t', '|', '<', '2'], 0, 6⟩] := by
    rfl
  have hf : (default : Delimiters).compile ['\x7b', 't', '|', '<', '2', '\x7d']
      = .error (.fault fault) := by
    rfl
  have hu : (default : Delimiters).compile ['a', '\x7d']
      = .error (.fault ⟨.unmatched '\x7d', ['\x7d'], 1, 2⟩) := by
    rfl
  obtain ⟨-, -, -, -, hmarks, -, hsplit⟩ := compile_fault_span default hf
  obtain ⟨piece, ⟨before, behind, -, -, hread⟩, -, -, hstop, hinfix, -⟩ := hsplit _ hs
  obtain ⟨-, -, -, -, -, hstructure, -⟩ := compile_fault_span default hu
  exact ⟨hf, hmarks, ⟨piece, hstop, hinfix, hread⟩, _, hu, (hstructure _ rfl).2⟩

end Delimiters

end FilterTemplate
