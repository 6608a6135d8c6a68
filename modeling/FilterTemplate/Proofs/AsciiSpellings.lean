import Mathlib
import FilterTemplate.Filter.Apply
import FilterTemplate.Proofs.Transliteration

/-!
# What transliteration keeps, and what it leaves

Transliteration goes character by character, and looks at the table of special cases only for what
is not ASCII. So it leaves an ASCII text as it is and loses no ASCII character of any other one
(`removeNonAscii_sublist_transliterate`), whatever the table holds. What it leaves besides comes out
of the table or out of the ASCII characters of a decomposition; if the table spells in ASCII
(`SpecialCases.SpellsAscii`), nothing else is left (`allAscii_transliterate`).
-/

namespace FilterTemplate

/-- Whether all characters of the text are ASCII. -/
def AllAscii (text : Text) : Prop := ∀ c ∈ text, Text.isAscii c

instance (text : Text) : Decidable (AllAscii text) := List.decidableBAll _ text

theorem AllAscii.append {v w : Text} (hv : AllAscii v) (hw : AllAscii w) : AllAscii (v ++ w) :=
  List.forall_mem_append.2 ⟨hv, hw⟩

/-- Whether the table spells every character that it knows in ASCII. -/
def SpecialCases.SpellsAscii (special : SpecialCases) : Prop :=
  ∀ c spelling, special.lookup c = some spelling → AllAscii spelling

theorem SpecialCases.spellsAscii_of_mem {special : SpecialCases}
    (h : ∀ entry ∈ special, AllAscii entry.2) : special.SpellsAscii := by
  intro c spelling hl
  obtain ⟨before, behind, he, -⟩ := List.lookup_eq_some_iff.1 hl
  exact h (c, spelling) (he ▸ by simp)

theorem SpecialCases.spellsAscii_standard : SpecialCases.standard.SpellsAscii :=
  spellsAscii_of_mem (by decide +kernel)

variable {special : SpecialCases}

/-! ## ASCII is kept -/

theorem transliterate_of_allAscii (special : SpecialCases) {v : Text} (h : AllAscii v) :
    transliterate special v = v := by
  rw [transliterate, List.flatMap_congr fun c hc => toAscii_of_ascii special (h c hc),
    List.flatMap_singleton']

theorem removeNonAscii_of_allAscii {v : Text} (h : AllAscii v) : removeNonAscii v = v :=
  List.filter_eq_self.2 h

theorem filter_sublist_toAscii (special : SpecialCases) (c : Char) :
    ([c].filter Text.isAscii).Sublist (toAscii special c) := by
  by_cases hc : Text.isAscii c
  · rw [toAscii_of_ascii special hc]
    exact List.filter_sublist
  · rw [List.filter_cons_of_neg hc, List.filter_nil]
    exact List.nil_sublist _

theorem removeNonAscii_sublist_transliterate (special : SpecialCases) : ∀ v : Text,
    (removeNonAscii v).Sublist (transliterate special v)
  | [] => List.Sublist.slnil
  | c :: v => by
    have ih := removeNonAscii_sublist_transliterate special v
    have hc : removeNonAscii (c :: v) = [c].filter Text.isAscii ++ removeNonAscii v :=
      List.filter_append [c] v
    rw [hc, transliterate_cons]
    exact (filter_sublist_toAscii special c).append ih

/-! ## Nothing else is left -/

theorem allAscii_toAscii (h : special.SpellsAscii) (c : Char) : AllAscii (toAscii special c) := by
  by_cases hc : Text.isAscii c
  · rw [toAscii_of_ascii special hc]
    exact List.forall_mem_singleton.2 hc
  · rcases hl : special.lookup c with _ | spelling
    · rw [toAscii_of_lookup hc hl]
      exact fun x hx => (List.mem_filter.1 hx).2
    · rw [toAscii, if_neg hc, hl]
      exact h c spelling hl

theorem allAscii_transliterate (h : special.SpellsAscii) : ∀ v : Text,
    AllAscii (transliterate special v)
  | [] => by simp [transliterate, AllAscii]
  | c :: v => by
    rw [transliterate_cons]
    exact (allAscii_toAscii h c).append (allAscii_transliterate h v)

/-- Transliteration takes a text apart at any place, leaves ASCII as it is and keeps all of it in
its order, whatever the table of special cases. With a table that spells in ASCII, as the standard
one does, it leaves nothing else, so neither to do it again nor to remove what is not ASCII behind
it changes anything. -/
theorem transliterate_ascii (special : SpecialCases) :
    (∀ v, Filter.transliterate.apply special v = .ok (transliterate special v)
      ∧ Filter.removeNonAscii.apply special v = .ok (removeNonAscii v))
    ∧ (∀ u v, transliterate special (u ++ v) = transliterate special u ++ transliterate special v)
    ∧ (∀ v, AllAscii v → transliterate special v = v)
    ∧ (∀ v, (removeNonAscii v).Sublist (transliterate special v))
    ∧ SpecialCases.standard.SpellsAscii
    ∧ (special.SpellsAscii → ∀ v, AllAscii (transliterate special v)
      ∧ transliterate special (transliterate special v) = transliterate special v
      ∧ removeNonAscii (transliterate special v) = transliterate special v) := by
  refine ⟨fun v => ⟨rfl, rfl⟩, transliterate_append special,
    fun v => transliterate_of_allAscii special, removeNonAscii_sublist_transliterate special,
    SpecialCases.spellsAscii_standard, fun h v => ?_⟩
  have ha : AllAscii (transliterate special v) := allAscii_transliterate h v
  exact ⟨ha, transliterate_of_allAscii special ha, removeNonAscii_of_allAscii ha⟩

/-- A table with an entry for an ASCII character, and one that spells beyond ASCII. -/
theorem transliterate_ascii_injected :
    let special : SpecialCases := [('a', ['x']), ('日', ['R', 'i']), ('ß', ['s', 's'])]
    let beyond : SpecialCases := [('ß', ['ẞ'])]
    transliterate special ['a', 'b'] = ['a', 'b']
      ∧ special.SpellsAscii
      ∧ transliterate special ['日', 'a', 'é', 'ß', '½'] = ['R', 'i', 'a', 'e', 's', 's']
      ∧ transliterate special ['R', 'i', 'a', 'e', 's', 's'] = ['R', 'i', 'a', 'e', 's', 's']
      ∧ (removeNonAscii ['b', 'ß']).Sublist (transliterate beyond ['b', 'ß'])
      ∧ ¬AllAscii (transliterate beyond ['b', 'ß']) := by
  intro special beyond
  have hs : special.SpellsAscii := SpecialCases.spellsAscii_of_mem (by decide)
  have hv : transliterate special ['日', 'a', 'é', 'ß', '½'] = ['R', 'i', 'a', 'e', 's', 's'] := by
    decide +kernel
  obtain ⟨-, -, hkeeps, -, -, hleaves⟩ := transliterate_ascii special
  obtain ⟨-, hagain, -⟩ := hleaves hs ['日', 'a', 'é', 'ß', '½']
  rw [hv] at hagain
  exact ⟨hkeeps _ (by decide), hs, hv, hagain, (transliterate_ascii beyond).2.2.2.1 _, by decide⟩

end FilterTemplate
