import Mathlib
import FilterTemplate.Proofs.FilterTexts

/-!
# Chains one behind the other

A separator between two chains' texts puts their filters one behind the other: the second text is
read as if it stood alone, further on (`readChain_separator`), and its filters work on what those of
the first one make of a value (`Chain.run_append`).
-/

namespace FilterTemplate

theorem Chain.run_append (special : SpecialCases) (others : Chain) : ∀ (filters : Chain)
    (value : Text), Chain.run special (filters ++ others) value
      = (Chain.run special filters value).bind (Chain.run special others)
  | [], _ => rfl
  | filter :: rest, value => by
    rw [List.cons_append, run, run]
    rcases filter.value.apply special value with error | result
    · rfl
    · exact run_append special others rest result

/-- A template that is one chain gives what the chain makes of a value. -/
theorem Template.run_chain (special : SpecialCases) (source : Text) (filters : Chain)
    (start stop : ℕ) (value : Text) :
    Template.run special ⟨source, [⟨.chain filters, start, stop⟩]⟩ value
      = Chain.run special filters value := by
  rw [Template.run, runSegments_cons, Segment.run]
  rcases Chain.run special filters value with error | text
  · rfl
  · simp [Except.bind, runSegments]

namespace Delimiters

variable (d : Delimiters)

theorem compile_chain {body : Text} (h : d.isBody body) :
    d.compile (d.opening :: body ++ [d.closing])
      = (d.readChain body 1).map fun filters =>
        ⟨d.opening :: body ++ [d.closing], [⟨.chain filters, 0, body.length + 2⟩]⟩ := by
  have hc : d.Canonical [.chain body] := ⟨by simp, .singleton _, by simpa using h⟩
  have hs := d.split_writeTokens hc
  have hw : d.writeTokens [.chain body] = d.opening :: body ++ [d.closing] := by
    simp [writeTokens, writeToken]
  have hp : d.place 0 [.chain body] = [⟨.chain body, 0, body.length + 2⟩] := by
    simp [place, writeToken]
  rw [hw, hp] at hs
  simp only [compile, hs, readTokens, readToken]
  rcases d.readChain body 1 with failure | filters <;> rfl

/-- A separator is seen behind any chain's text, and what stands behind it is read as if it stood
alone. -/
theorem readChain_separator {first second : Text} (hf : d.isBody first) (hs : d.isBody second)
    (hfn : first ≠ []) (hsn : second ≠ []) (i : ℕ) :
    d.readChain (first ++ d.separator :: second) i
      = (d.readChain first i).bind fun filters =>
        (d.readChain second (i + (first.length + 1))).map (filters ++ ·) := by
  obtain ⟨raw, rest, hr, rfl⟩ := d.exists_raws (d.isPaired_of_isBody hf)
  obtain ⟨raw', rest', hr', rfl⟩ := d.exists_raws (d.isPaired_of_isBody hs)
  have hj : d.joinRaw (raw :: rest) ++ d.separator :: d.joinRaw (raw' :: rest')
      = d.joinRaw ((raw :: rest) ++ raw' :: rest') := by
    rw [joinRaw_append, separated_eq_joinRaw, List.append_assoc, List.singleton_append]
  have hall : ∀ r ∈ (raw :: rest) ++ raw' :: rest', d.isRaw r :=
    List.forall_mem_append.2 ⟨hr, hr'⟩
  have hn : d.joinRaw ((raw :: rest) ++ raw' :: rest') ≠ [] := by
    rw [← hj]
    simp
  rw [hj, d.readChain_joinRaw hall hn, d.readChain_joinRaw hr hfn, d.readChain_joinRaw hr' hsn,
    placePieces_append, readPieces_append, separated_eq_joinRaw, List.length_append,
    List.length_singleton]

/-- A separator composes chains: with one between two chains' texts a template is compiled exactly
if each of them is alone, its one chain has the filters of the first and behind them those of the
second, further on, and it makes of a value what the second makes of what the first makes of it. -/
theorem compile_separator {first second : Text} (hf : d.isBody first) (hs : d.isBody second)
    (hfn : first ≠ []) (hsn : second ≠ []) :
    ((∃ both, d.compile (d.opening :: (first ++ d.separator :: second) ++ [d.closing]) = .ok both)
      ↔ (∃ template, d.compile (d.opening :: first ++ [d.closing]) = .ok template)
        ∧ ∃ template, d.compile (d.opening :: second ++ [d.closing]) = .ok template)
    ∧ ∀ before behind, d.compile (d.opening :: first ++ [d.closing]) = .ok before →
        d.compile (d.opening :: second ++ [d.closing]) = .ok behind →
        ∃ both filters others,
          d.compile (d.opening :: (first ++ d.separator :: second) ++ [d.closing]) = .ok both
          ∧ before.segments = [⟨.chain filters, 0, first.length + 2⟩]
          ∧ behind.segments = [⟨.chain others, 0, second.length + 2⟩]
          ∧ both.segments = [⟨.chain (filters ++ others.map (Located.shift (first.length + 1))), 0,
            first.length + 1 + second.length + 2⟩]
          ∧ ∀ special value,
            both.run special value = before.run special value >>= behind.run special := by
  have hb : d.isBody (first ++ d.separator :: second) := by
    rw [d.isBody_append _ (d.isPaired_of_isBody hf), isBody_separator, hf, hs]
    rfl
  have hsecond := d.readChain_add (first.length + 1) second 1
  have hlen : (first ++ d.separator :: second).length = first.length + 1 + second.length := by
    rw [List.length_append, List.length_cons]
    omega
  rw [d.compile_chain hb, d.compile_chain hf, d.compile_chain hs, hlen,
    d.readChain_separator hf hs hfn hsn, hsecond]
  rcases d.readChain first 1 with failure | filters
  · simp [Except.bind]
  rcases d.readChain second 1 with failure | others
  · simp [Except.bind]
  refine ⟨by simp [Except.bind], ?_⟩
  rintro _ _ ⟨⟩ ⟨⟩
  refine ⟨_, filters, others, rfl, rfl, rfl, rfl, fun special value => ?_⟩
  rw [Template.run_chain, Template.run_chain, Chain.run_append]
  rcases Chain.run special filters value with error | result
  · rfl
  · change Chain.run special (others.map _) result = Template.run special _ result
    rw [Template.run_chain, Chain.run_map_shift]

/-- The separators of a substitution are protected, so they part no filters; the one behind it
does. -/
theorem compile_separator_protected :
    ∃ both, (default : Delimiters).compile
        ['\x7b', 'r', '\\', '|', 'a', '\\', '|', 'b', '|', '^', '\x7d'] = .ok both
      ∧ both.segments = [⟨.chain [⟨.replace ['a'] ['b'] false, 1, 8⟩, ⟨.uppercase, 9, 10⟩], 0, 11⟩]
      ∧ ∀ special, both.run special ['a', 'a'] = .ok ['B', 'A'] := by
  have ha : (default : Delimiters).isBody ['r', '\\', '|', 'a', '\\', '|', 'b'] := by
    rfl
  have hc : (default : Delimiters).isBody ['^'] := by
    rfl
  have hf : (default : Delimiters).compile
      ['\x7b', 'r', '\\', '|', 'a', '\\', '|', 'b', '\x7d']
      = .ok ⟨['\x7b', 'r', '\\', '|', 'a', '\\', '|', 'b', '\x7d'],
        [⟨.chain [⟨.replace ['a'] ['b'] false, 1, 8⟩], 0, 9⟩]⟩ := by
    rfl
  have hs : (default : Delimiters).compile ['\x7b', '^', '\x7d']
      = .ok ⟨['\x7b', '^', '\x7d'], [⟨.chain [⟨.uppercase, 1, 2⟩], 0, 3⟩]⟩ := by
    rfl
  obtain ⟨both, filters, others, hb, hfirst, hsecond, hboth, hrun⟩ :=
    (compile_separator default ha hc (by simp) (by simp)).2 _ _ hf hs
  simp only [List.cons.injEq, Located.mk.injEq, Segment.chain.injEq, and_true] at hfirst hsecond
  obtain ⟨rfl, -⟩ := hfirst
  obtain ⟨rfl, -⟩ := hsecond
  exact ⟨both, hb, hboth, fun special => (hrun special _).trans (by rfl)⟩

end Delimiters

end FilterTemplate
