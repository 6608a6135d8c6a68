import Mathlib
import FilterTemplate.Proofs.Replacement

/-!
# Patterns without special characters

A text in which no character has a meaning of its own stands for itself: it is read as the sequence
of its characters (`parse_literal`), and comes to a pattern that compares with them one after the
other (`Pattern.compile_literal`). In the same way a replacement without a backslash is put in as it
is (`Replacement.read_literal`).
-/

namespace FilterTemplate.Regex

open Reader

/-- The characters with a meaning of their own in a pattern. -/
def specialCharacters : List Char :=
  ['.', '^', '$', '*', '+', '?', '\x7b', '\x7d', '[', ']', '\\', '|', '(', ')']

/-- Whether no character of the text has a meaning of its own. -/
def IsLiteral (text : Text) : Prop := ∀ c ∈ text, c ∉ specialCharacters

instance (text : Text) : Decidable (IsLiteral text) :=
  List.decidableBAll (· ∉ specialCharacters) text

theorem IsLiteral.tail {c : Char} {text : Text} (h : IsLiteral (c :: text)) : IsLiteral text :=
  fun x hx => h x (List.mem_cons_of_mem c hx)

theorem IsLiteral.not_mem {text : Text} (h : IsLiteral text) {c : Char}
    (hc : c ∈ specialCharacters) : c ∉ text := fun hm => h c hm hc

/-! ## Reading what has no backslash -/

theorem Token.first?_cons {c : Char} (hc : c ≠ '\\') (rest : Text) :
    first? (c :: rest) = some (.plain c) := by
  rcases rest with _ | ⟨d, rest⟩
  · rfl
  · rw [first?, if_neg hc]

theorem Token.place_of_not_mem {text : Text} (h : '\\' ∉ text) : place text = .ok text := by
  rw [place, if_neg]
  rintro rfl
  exact h List.mem_cons_self

theorem Token.next_cons {c : Char} {rest : Text} (h : '\\' ∉ c :: rest) :
    next (c :: rest) = .ok (some (.plain c), rest) := by
  obtain ⟨hc, hr⟩ : '\\' ≠ c ∧ '\\' ∉ rest := by
    rwa [List.mem_cons, not_or] at h
  have hbehind : behindFirst (c :: rest) = rest := by
    rcases rest with _ | ⟨d, rest⟩
    · rfl
    · rw [behindFirst, if_neg hc.symm]
  rw [next, advance, hbehind, place_of_not_mem hr, first?_cons hc.symm]
  rfl

namespace Reader

variable {α β : Type} {reading after : Reading} {a : α}

/-- A reader that gives a result hands it on. -/
theorem bind_of_ok {reader : Reader α} (h : reader reading = .ok (a, after))
    (further : α → Reader β) : (reader >>= further) reading = further a after := by
  change Except.bind (reader reading) _ = _
  rw [h]
  rfl

theorem get_eq : (get : Reader Reading) reading = .ok (reading, reading) := rfl

theorem peek_eq : peek reading = .ok (Token.first? reading.rest, reading) := rfl

theorem next_of_cons {c : Char} {rest : Text} (h : '\\' ∉ c :: rest) :
    next { reading with rest := c :: rest } = .ok (some (.plain c), { reading with rest }) := by
  rw [next, tokens_eq, Token.next_cons h]
  rfl

theorem next_of_nil :
    next { reading with rest := [] } = .ok (none, { reading with rest := [] }) := by
  rw [next, tokens_eq]
  rfl

end Reader

/-! ## The expression -/

/-- The items that a literal text is read as. -/
def charItems (text : Text) : List Expr := text.map fun c => .char false c.toNat

theorem spliced_charItems (text : Text) : Expr.spliced (charItems text) = charItems text := by
  induction text with
  | nil => rfl
  | cons c text ih => exact congrArg (.char false c.toNat :: ·) ih

/-- A character without a meaning of its own is an item of the sequence. -/
theorem sequence_char {place : Place} (hp : place.verbose = false) {c : Char} {rest : Text}
    (hl : IsLiteral (c :: rest)) (fuel : ℕ) (items : List Expr) (reading : Reading) :
    sequence (fuel + 1) place items { reading with rest := c :: rest }
      = sequence fuel place (.char false c.toNat :: items) { reading with rest } := by
  have hc : c ∉ specialCharacters := hl c List.mem_cons_self
  have hb : '\\' ∉ c :: rest := hl.not_mem (by decide)
  have hne : c ≠ '\\' := fun he => hb (he ▸ List.mem_cons_self)
  simp only [specialCharacters, List.mem_cons, List.not_mem_nil, or_false, not_or] at hc
  rw [sequence, bind_of_ok peek_eq, Token.first?_cons hne]
  simpa [hc, hp] using bind_of_ok (next_of_cons hb) _

/-- A sequence takes in a literal text character by character. -/
theorem sequence_literal {place : Place} (hp : place.verbose = false) (reading : Reading) :
    ∀ {text : Text} (before : Text) {fuel : ℕ}, text.length < fuel → IsLiteral text →
      sequence fuel place (charItems before).reverse { reading with rest := text }
        = .ok (charItems (before ++ text), { reading with rest := [] })
  | [], before, fuel + 1, _, _ => by
    rw [sequence, bind_of_ok peek_eq, List.append_nil, List.reverse_reverse, spliced_charItems]
    rfl
  | c :: text, before, fuel + 1, hf, hl => by
    have hitems : .char false c.toNat :: (charItems before).reverse
        = (charItems (before ++ [c])).reverse := by
      simp [charItems]
    rw [sequence_char hp hl, hitems,
      sequence_literal hp reading (before ++ [c]) (Nat.lt_of_succ_lt_succ hf) hl.tail,
      List.append_assoc]
    rfl

theorem topAlternatives_literal {text : Text} (hl : IsLiteral text) (fuel : ℕ) :
    topAlternatives (fuel + 1) [] { rest := text }
      = .ok (.ofItems (charItems text), { rest := [] }) := by
  have hs : sequence (fuelFor text) ⟨false, true⟩ [] { rest := text }
      = .ok (charItems text, { rest := [] }) :=
    sequence_literal rfl { rest := text } [] (by rw [fuelFor]; omega) hl
  have ha : accept '|' { rest := [] } = .ok (false, { rest := [] }) := rfl
  rw [topAlternatives, bind_of_ok get_eq]
  exact (bind_of_ok get_eq _).trans ((bind_of_ok hs _).trans (bind_of_ok ha _))

/-- A text without special characters is read as the sequence of its characters. -/
theorem parse_literal {text : Text} (hl : IsLiteral text) :
    parse text = .ok (.ofItems (charItems text), { rest := [] }) := by
  rw [parse, Token.place_of_not_mem (hl.not_mem (by decide))]
  change wholePattern { rest := text } = _
  rw [wholePattern]
  exact (bind_of_ok get_eq _).trans (bind_of_ok (topAlternatives_literal hl (text.length + 1)) _)

/-! ## The pattern -/

/-- The comparison with one character after the other. -/
def Node.literal : Text → Node
  | [] => .empty
  | [c] => .one (.char .exact false c.toNat)
  | c :: rest => .seq (.one (.char .exact false c.toNat)) (literal rest)

theorem Expr.resolve_seq {flags : Flags} {first rest : Expr} {node other : Node}
    (hf : first.resolve flags = .ok node) (hr : rest.resolve flags = .ok other) :
    (Expr.seq first rest).resolve flags = .ok (.seq node other) := by
  rw [resolve, hf, hr]
  rfl

theorem resolve_charItems : ∀ text : Text,
    (Expr.ofItems (charItems text)).resolve .none = .ok (Node.literal text)
  | [] => rfl
  | [_] => rfl
  | _ :: d :: text => Expr.resolve_seq rfl (resolve_charItems (d :: text))

/-- A literal text takes a character at least, and no more than it has. -/
theorem width_charItems : ∀ {text : Text}, text ≠ [] →
    0 < (Expr.ofItems (charItems text)).width.least
      ∧ (Expr.ofItems (charItems text)).width.least ≤ text.length
  | [_], _ => ⟨Nat.one_pos, le_refl 1⟩
  | c :: d :: text, _ => by
    obtain ⟨hpos, hle⟩ := width_charItems (List.cons_ne_nil d text)
    have hwidth : (Expr.ofItems (charItems (c :: d :: text))).width.least
        = min (1 + (Expr.ofItems (charItems (d :: text))).width.least) (Width.limit - 1) := rfl
    simp only [List.length_cons] at hle ⊢
    simp only [Width.limit] at hwidth
    omega

theorem startsLiteral_charItems : ∀ {text : Text}, text ≠ [] →
    (Expr.ofItems (charItems text)).startsLiteral? .none = some true
  | [_], _ => rfl
  | _ :: _ :: _, _ => rfl

/-- Whether a pattern stands for a text. -/
structure Pattern.IsOf (p : Pattern) (target : Text) : Prop where
  node : p.node = .literal target
  lead : p.lead = .literal
  least_le : p.least ≤ target.length

theorem Pattern.compile_of_parse {source : Text} {expr : Expr} {reading : Reading} {node : Node}
    (hp : parse source = .ok (expr, reading)) (hr : expr.resolve reading.flags = .ok node) :
    compile source = .ok {
      source, node
      groups := reading.groups.length
      names := reading.names
      least := expr.width.least
      lead := expr.lead reading.flags } := by
  simp only [compile, hp, bind, Except.bind, hr]
  rfl

/-- A text without special characters is a pattern that stands for it. -/
theorem Pattern.compile_literal {target : Text} (hn : target ≠ []) (hl : IsLiteral target) :
    ∃ p, compile target = .ok p ∧ p.IsOf target := by
  obtain ⟨hpos, hle⟩ := width_charItems hn
  refine ⟨_, compile_of_parse (parse_literal hl) (resolve_charItems target), rfl, ?_, hle⟩
  change Expr.lead .none _ = _
  rw [Expr.lead, if_neg hpos.ne', if_pos (startsLiteral_charItems hn)]

/-! ## The replacement -/

namespace Replacement

theorem parts_literal (reading : Reading) : ∀ {text : Text} {fuel : ℕ}, text.length < fuel →
    '\\' ∉ text → parts fuel { reading with rest := text }
      = .ok (text.map .char, { reading with rest := [] })
  | [], fuel + 1, _, _ => by
    rw [parts, bind_of_ok next_of_nil]
    rfl
  | c :: text, fuel + 1, hf, hb => by
    have ih := parts_literal reading (Nat.lt_of_succ_lt_succ hf)
      fun hm => hb (List.mem_cons_of_mem c hm)
    rw [parts, bind_of_ok (next_of_cons hb)]
    exact bind_of_ok ih _

/-- A replacement without a backslash stands for its characters. -/
theorem read_literal (p : Pattern) {text : Text} (hb : '\\' ∉ text) :
    read p text = .ok (text.map .char) := by
  have hparts := parts_literal
    { rest := text, groups := List.replicate p.groups none, names := p.names }
    (Nat.lt_succ_self _) hb
  rw [read, Token.place_of_not_mem hb]
  change Except.bind (parts (text.length + 1) _) _ = _
  rw [hparts]
  rfl

theorem expand?_literal (m : Match) (text : Text) : expand? m (text.map .char) = some text := by
  have hasks : asksForGroups (text.map .char) = false := by
    simp [asksForGroups]
  have hexpand : expand m (text.map .char) = text := by
    simp [expand, List.flatMap_map]
  rw [expand?, hasks, hexpand]
  rfl

end Replacement

end FilterTemplate.Regex
