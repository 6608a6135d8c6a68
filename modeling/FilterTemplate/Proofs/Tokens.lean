import Mathlib
import FilterTemplate.Proofs.Lexemes
import FilterTemplate.Proofs.Slices

/-!
# Tokens and how they are written

Tokens are canonical if no literal is empty, no two literals are neighbours and every chain's text
can stand inside of a chain. Splitting a text and writing tokens are inverse to each other
(`split_eq_ok_iff`): `split` accepts exactly the texts that are written for canonical tokens, gives
these, and places each of them where it was written (`slice_place`).

Between lexemes and tokens there is no choice either. The characters of a literal that does not
stand in front of another one make up one token (`tokens_literal_append`), and a literal that
`tokens` starts has taken in the one behind it, so there is none left to be its neighbour
(`exists_place_eq_tokens`).
-/

namespace FilterTemplate

namespace Token

/-- The lexemes that a token is made of. -/
def lexemes : Token → List Lexeme
  | .literal text => text.map .char
  | .chain body => [.chain body]

def isLiteral : Token → Bool
  | .literal _ => true
  | .chain _ => false

end Token

/-- Whether the spans of the parts follow each other without a gap from `i` up to `n`. -/
def Tiles {α : Type} : ℕ → List (Located α) → ℕ → Prop
  | i, [], n => i = n
  | i, part :: rest, n => part.start = i ∧ i ≤ part.stop ∧ Tiles part.stop rest n

namespace Delimiters

variable (d : Delimiters)

/-- How a token is written: a literal with its delimiters doubled, a chain between delimiters. -/
def writeToken : Token → Text
  | .literal text => text.flatMap fun c => if d.bounds c then [c, c] else [c]
  | .chain body => d.opening :: body ++ [d.closing]

def writeTokens (tokens : List Token) : Text := tokens.flatMap d.writeToken

/-- Tokens as a text is split into them. -/
structure Canonical (tokens : List Token) : Prop where
  nonempty : .literal [] ∉ tokens
  apart : tokens.IsChain fun a b => ¬(a.isLiteral ∧ b.isLiteral)
  bodies : ∀ body, .chain body ∈ tokens → d.isBody body

/-- The tokens with their spans, if they are written one behind the other from position `i` on. -/
def place : ℕ → List Token → List (Located Token)
  | _, [] => []
  | i, token :: rest =>
    let stop := i + (d.writeToken token).length
    ⟨token, i, stop⟩ :: place stop rest

/-! ## Where tokens stand -/

theorem map_value_place : ∀ (i : ℕ) (tokens : List Token),
    (d.place i tokens).map (·.value) = tokens
  | _, [] => rfl
  | i, token :: rest => by
    simp only [place, List.map_cons, map_value_place _ rest]

theorem tiles_place : ∀ (i : ℕ) (tokens : List Token),
    Tiles i (d.place i tokens) (i + (d.writeTokens tokens).length)
  | i, [] => by simp [place, Tiles, writeTokens]
  | i, token :: rest => by
    have ih := tiles_place (i + (d.writeToken token).length) rest
    simp only [place, Tiles, writeTokens, List.flatMap_cons, List.length_append, true_and]
    refine ⟨by omega, ?_⟩
    rw [← Nat.add_assoc]
    exact ih

/-- Each token stands where it was written. -/
theorem slice_place : ∀ (before : Text) (tokens : List Token),
    ∀ token ∈ d.place before.length tokens,
      Text.slice (before ++ d.writeTokens tokens) token.start token.stop
        = d.writeToken token.value
  | _, [], token, h => by simp [place] at h
  | before, first :: rest, token, h => by
    simp only [place, List.mem_cons] at h
    have hw : before ++ d.writeTokens (first :: rest)
        = (before ++ d.writeToken first) ++ d.writeTokens rest := by
      simp [writeTokens]
    rcases h with rfl | h
    · rw [hw]
      exact Text.slice_middle before (d.writeToken first) (d.writeTokens rest)
    · rw [← List.length_append] at h
      rw [hw]
      exact slice_place (before ++ d.writeToken first) rest token h

/-! ## Lexemes to tokens -/

theorem written_lexemes (token : Token) : d.written token.lexemes = d.writeToken token := by
  rcases token with text | body
  · simp only [Token.lexemes, written, writeToken, List.flatMap_map]
    rfl
  · simp [Token.lexemes, written, writeToken, write]

theorem written_flatMap_lexemes (tokens : List Token) :
    d.written (tokens.flatMap Token.lexemes) = d.writeTokens tokens := by
  simp only [written, writeTokens, List.flatMap_assoc]
  exact List.flatMap_congr fun token _ => d.written_lexemes token

theorem tokens_chain (i : ℕ) (body : Text) (rest : List Lexeme) :
    d.tokens i (.chain body :: rest)
      = ⟨.chain body, i, i + (d.write (.chain body)).length⟩
        :: d.tokens (i + (d.write (.chain body)).length) rest := by
  rw [tokens]

theorem tokens_char_of_literal {i : ℕ} {c : Char} {rest : List Lexeme} {text : Text}
    {start stop : ℕ} {others : List (Located Token)}
    (h : d.tokens (i + (d.write (.char c)).length) rest = ⟨.literal text, start, stop⟩ :: others) :
    d.tokens i (.char c :: rest) = ⟨.literal (c :: text), i, stop⟩ :: others := by
  rw [tokens.eq_def]
  simp only [h]

theorem tokens_char_of_apart {i : ℕ} {c : Char} {rest : List Lexeme}
    {others : List (Located Token)}
    (h : d.tokens (i + (d.write (.char c)).length) rest = others)
    (ha : ∀ token ∈ others.head?, token.value.isLiteral = false) :
    d.tokens i (.char c :: rest)
      = ⟨.literal [c], i, i + (d.write (.char c)).length⟩ :: others := by
  rw [tokens.eq_def]
  simp only [h]
  rcases others with _ | ⟨⟨text | body, start, stop⟩, others⟩
  · rfl
  · simp [Token.isLiteral] at ha
  · rfl

theorem writeToken_cons (c : Char) (text : Text) :
    d.writeToken (.literal (c :: text)) = d.write (.char c) ++ d.writeToken (.literal text) := rfl

theorem writeToken_singleton (c : Char) :
    d.writeToken (.literal [c]) = d.write (.char c) := by
  simp [writeToken, write]

/-- The characters of a literal make up one token, unless another literal comes behind them. -/
theorem tokens_literal_append {rest : List Lexeme} {others : List (Located Token)}
    (ha : ∀ token ∈ others.head?, token.value.isLiteral = false) :
    ∀ (i : ℕ) (text : Text), text ≠ [] →
      d.tokens (i + (d.writeToken (.literal text)).length) rest = others →
      d.tokens i (text.map .char ++ rest)
        = ⟨.literal text, i, i + (d.writeToken (.literal text)).length⟩ :: others
  | _, [], h, _ => absurd rfl h
  | i, [c], _, h => by
    rw [writeToken_singleton] at h ⊢
    exact d.tokens_char_of_apart h ha
  | i, c :: next :: text, _, h => by
    rw [writeToken_cons, List.length_append, ← Nat.add_assoc] at h ⊢
    exact d.tokens_char_of_literal
      (tokens_literal_append ha (i + (d.write (.char c)).length) (next :: text) (by simp) h)

theorem tokens_flatMap_lexemes : ∀ (i : ℕ) (tokens : List Token),
    .literal [] ∉ tokens → tokens.IsChain (fun a b => ¬(a.isLiteral ∧ b.isLiteral)) →
      d.tokens i (tokens.flatMap Token.lexemes) = d.place i tokens
  | _, [], _, _ => rfl
  | i, .chain body :: rest, hn, ha => by
    have ih := tokens_flatMap_lexemes (i + (d.writeToken (.chain body)).length) rest
      (fun h => hn (List.mem_cons_of_mem _ h)) ha.tail
    rw [List.flatMap_cons, place, ← ih]
    exact d.tokens_chain i body _
  | i, .literal text :: rest, hn, ha => by
    have ih := tokens_flatMap_lexemes (i + (d.writeToken (.literal text)).length) rest
      (fun h => hn (List.mem_cons_of_mem _ h)) ha.tail
    have hne : text ≠ [] := by
      rintro rfl
      exact hn List.mem_cons_self
    refine d.tokens_literal_append ?_ i text hne ih
    rcases rest with _ | ⟨next, rest⟩
    · simp [place]
    · have := ha.rel_head? (y := next) rfl
      simpa [place, Token.isLiteral] using this

theorem exists_place_eq_tokens : ∀ (i : ℕ) (found : List Lexeme), ∃ tokens : List Token,
    d.tokens i found = d.place i tokens ∧ tokens.flatMap Token.lexemes = found
      ∧ .literal [] ∉ tokens ∧ tokens.IsChain fun a b => ¬(a.isLiteral ∧ b.isLiteral)
  | i, [] => ⟨[], rfl, rfl, by simp, .nil⟩
  | i, .chain body :: rest => by
    obtain ⟨tokens, ht, rfl, hn, ha⟩ :=
      exists_place_eq_tokens (i + (d.write (.chain body)).length) rest
    refine ⟨.chain body :: tokens, ?_, rfl, by simpa using hn, ?_⟩
    · rw [tokens_chain, ht]
      rfl
    · exact ha.cons fun _ _ => by simp [Token.isLiteral]
  | i, .char c :: rest => by
    obtain ⟨tokens, ht, rfl, hn, ha⟩ :=
      exists_place_eq_tokens (i + (d.write (.char c)).length) rest
    rcases tokens with _ | ⟨text | body, others⟩
    · refine ⟨[.literal [c]], ?_, rfl, by simp, .singleton _⟩
      rw [d.tokens_char_of_apart ht (by simp [place])]
      simp only [place, writeToken_singleton]
    · refine ⟨.literal (c :: text) :: others, ?_, rfl, ?_, ?_⟩
      · rw [place] at ht
        rw [d.tokens_char_of_literal ht, place, writeToken_cons, List.length_append, Nat.add_assoc]
      · simp only [List.mem_cons, not_or] at hn ⊢
        exact ⟨by simp, hn.2⟩
      · exact ha.tail.cons fun next h => by simpa [Token.isLiteral] using ha.rel_head? h
    · refine ⟨.literal [c] :: .chain body :: others, ?_, rfl, by simpa using hn, ?_⟩
      · rw [d.tokens_char_of_apart ht (by simp [place, Token.isLiteral])]
        simp only [place, writeToken_singleton]
      · exact ha.cons (by simp [Token.isLiteral])

/-! ## Splitting -/

theorem proper_lexemes {tokens : List Token} (h : d.Canonical tokens) :
    ∀ lexeme ∈ tokens.flatMap Token.lexemes, d.Proper lexeme := by
  intro lexeme hl
  obtain ⟨token, ht, hl⟩ := List.mem_flatMap.1 hl
  rcases token with text | body
  · obtain ⟨c, -, rfl⟩ := List.mem_map.1 hl
    trivial
  · rw [Token.lexemes, List.mem_singleton] at hl
    exact hl ▸ h.bodies body ht

/-- What is written for canonical tokens is split into them again. -/
theorem split_writeTokens {tokens : List Token} (h : d.Canonical tokens) :
    d.split (d.writeTokens tokens) = .ok (d.place 0 tokens) := by
  have hl : d.lexemes (d.writeTokens tokens) 0 = .ok (tokens.flatMap Token.lexemes) :=
    d.lexemes_eq_ok_iff.2 ⟨d.written_flatMap_lexemes tokens, d.proper_lexemes h⟩
  rw [split, hl, Except.map_ok_eq, d.tokens_flatMap_lexemes 0 tokens h.nonempty h.apart]

theorem exists_canonical_of_split {text : Text} {located : List (Located Token)}
    (h : d.split text = .ok located) :
    ∃ tokens, d.Canonical tokens ∧ d.writeTokens tokens = text ∧ located = d.place 0 tokens := by
  obtain ⟨found, hf, rfl⟩ := Except.map_eq_ok_iff.1 h
  obtain ⟨hw, hp⟩ := d.lexemes_eq_ok_iff.1 hf
  obtain ⟨tokens, ht, rfl, hn, ha⟩ := d.exists_place_eq_tokens 0 found
  refine ⟨tokens, ⟨hn, ha, fun body hb => ?_⟩, ?_, ht⟩
  · exact hp (.chain body) (List.mem_flatMap.2 ⟨_, hb, by simp [Token.lexemes]⟩)
  · rw [← hw, written_flatMap_lexemes]

/-- A text is split into tokens exactly if it is written for them and they are canonical. -/
theorem split_eq_ok_iff {text : Text} {located : List (Located Token)} :
    d.split text = .ok located
      ↔ ∃ tokens, d.Canonical tokens ∧ d.writeTokens tokens = text ∧ located = d.place 0 tokens := by
  refine ⟨d.exists_canonical_of_split, ?_⟩
  rintro ⟨tokens, h, rfl, rfl⟩
  exact d.split_writeTokens h

theorem writeTokens_injective {tokens others : List Token} (h : d.Canonical tokens)
    (h' : d.Canonical others) (he : d.writeTokens tokens = d.writeTokens others) :
    tokens = others := by
  have hs := d.split_writeTokens h
  rw [he, d.split_writeTokens h', Except.ok.injEq] at hs
  rw [← d.map_value_place 0 tokens, ← hs, map_value_place]

/-- Splitting texts and writing canonical tokens are inverse to each other: the tokens of a text
that is split are canonical, cover it without gaps and are written, each at its own span, as the
text has it; canonical tokens are what their text is split into; so exactly the texts that are
written for canonical tokens are split, and none is written for two lists of tokens. -/
theorem split_writeTokens_bijective :
    (∀ (text : Text) (located : List (Located Token)), d.split text = .ok located →
      Tiles 0 located text.length ∧ d.Canonical (located.map (·.value))
        ∧ d.writeTokens (located.map (·.value)) = text
        ∧ ∀ token ∈ located,
          Text.slice text token.start token.stop = d.writeToken token.value)
    ∧ (∀ tokens : List Token, d.Canonical tokens → ∃ located : List (Located Token),
        d.split (d.writeTokens tokens) = .ok located ∧ located.map (·.value) = tokens)
    ∧ (∀ text : Text, (∃ located, d.split text = .ok located)
        ↔ ∃ tokens, d.Canonical tokens ∧ d.writeTokens tokens = text)
    ∧ ∀ tokens others : List Token, d.Canonical tokens → d.Canonical others →
        d.writeTokens tokens = d.writeTokens others → tokens = others := by
  refine ⟨fun text located h => ?_, fun tokens h => ?_, fun text => ⟨?_, ?_⟩,
    fun _ _ h h' he => d.writeTokens_injective h h' he⟩
  · obtain ⟨tokens, hc, rfl, rfl⟩ := d.exists_canonical_of_split h
    rw [map_value_place]
    refine ⟨?_, hc, rfl, d.slice_place [] tokens⟩
    simpa using d.tiles_place 0 tokens
  · exact ⟨_, d.split_writeTokens h, d.map_value_place 0 tokens⟩
  · rintro ⟨located, h⟩
    obtain ⟨tokens, hc, hw, -⟩ := d.exists_canonical_of_split h
    exact ⟨tokens, hc, hw⟩
  · rintro ⟨tokens, hc, rfl⟩
    exact ⟨_, d.split_writeTokens hc⟩

/-- Doubled delimiters on both sides of a chain: what closes the chain comes first. -/
theorem split_writeTokens_bijective_doubled :
    let text : Text := ['a', '\x7b', '\x7b', '\x7b', 't', '\x7d', '\x7d', '\x7d']
    let tokens : List Token := [.literal ['a', '\x7b'], .chain ['t'], .literal ['\x7d']]
    (default : Delimiters).Canonical tokens ∧ (default : Delimiters).writeTokens tokens = text
      ∧ (∃ located : List (Located Token), (default : Delimiters).split text = .ok located
        ∧ located.map (·.value) = tokens ∧ Tiles 0 located 8)
      ∧ ∀ others, (default : Delimiters).Canonical others →
        (default : Delimiters).writeTokens others = text → others = tokens := by
  intro text tokens
  have hs : (default : Delimiters).split text
      = .ok [⟨.literal ['a', '\x7b'], 0, 3⟩, ⟨.chain ['t'], 3, 6⟩, ⟨.literal ['\x7d'], 6, 8⟩] := by
    rfl
  obtain ⟨split_ok, write_ok, -, unique⟩ := split_writeTokens_bijective default
  obtain ⟨ht, hc, hw, -⟩ := split_ok _ _ hs
  obtain ⟨located, hl, hv⟩ := write_ok tokens hc
  rw [show (default : Delimiters).writeTokens tokens = text from hw, hs, Except.ok.injEq] at hl
  refine ⟨hc, hw, ⟨located, hl ▸ hs, hv, hl ▸ ht⟩, fun others ho he => ?_⟩
  exact unique others tokens ho hc (he.trans hw.symm)

end Delimiters

end FilterTemplate
