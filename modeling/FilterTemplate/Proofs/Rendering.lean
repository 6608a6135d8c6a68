import Mathlib
import FilterTemplate.Proofs.Composition
import FilterTemplate.Proofs.Printing

/-!
# From a template's text to its result

What a filter's text makes of a value (`Filter.Gives`) is what the text of a template with this
filter makes of it (`Delimiters.Renders`), whatever the delimiters are: the filters of a chain work
one after the other (`renders_writeBody`), and templates one behind the other give their results one
behind the other (`Renders.append`).
-/

namespace FilterTemplate

namespace Filter

/-- Whether a filter's text is read, and its filter makes the result of a value. -/
def Gives (text value result : Text) : Prop :=
  ∃ filter, read text = .ok filter ∧ ∀ special, filter.apply special value = .ok result

/-- The same for the texts of filters that work one after the other. -/
inductive GivesAll : List Text → Text → Text → Prop
  | nil (value : Text) : GivesAll [] value value
  | cons {text value between result : Text} {rest : List Text} : Gives text value between →
    GivesAll rest between result → GivesAll (text :: rest) value result

theorem Gives.givesAll {text value result : Text} (h : Gives text value result) :
    GivesAll [text] value result := .cons h (.nil result)

theorem GivesAll.exists_spells {texts : List Text} {value result : Text}
    (h : GivesAll texts value result) : ∃ filters, List.Forall₂ Spells filters texts
      ∧ ∀ special, filters.foldlM (fun value filter => filter.apply special value) value
        = .ok result := by
  induction h with
  | nil value => exact ⟨[], .nil, fun _ => rfl⟩
  | cons hg _ ih =>
    obtain ⟨filter, hr, ha⟩ := hg
    obtain ⟨filters, hs, hf⟩ := ih
    refine ⟨filter :: filters, .cons (spells_of_read hr) hs, fun special => ?_⟩
    rw [List.foldlM_cons, ha special]
    exact hf special

end Filter

/-- A chain applies its filters one after the other, and their places do not matter. -/
theorem Chain.run_eq_foldlM (special : SpecialCases) : ∀ (filters : Chain) (value : Text),
    Chain.run special filters value
      = (filters.map (·.value)).foldlM (fun value filter => filter.apply special value) value
  | [], _ => rfl
  | filter :: rest, value => by
    rw [run, List.map_cons, List.foldlM_cons]
    exact congrArg _ (funext fun result => run_eq_foldlM special rest result)

namespace Delimiters

variable (d : Delimiters)

/-- Whether a text is a template, and the template makes the result of a value. -/
def Renders (text value result : Text) : Prop :=
  ∃ template, d.compile text = .ok template ∧ ∀ special, template.run special value = .ok result

variable {d}

theorem Renders.append {text more value first second : Text} (h : d.Renders text value first)
    (h' : d.Renders more value second) : d.Renders (text ++ more) value (first ++ second) := by
  obtain ⟨template, hc, hr⟩ := h
  obtain ⟨other, hc', hr'⟩ := h'
  refine ⟨template.append other, ?_, fun special => ?_⟩
  · rw [d.compile_append_eq hc, hc']
    rfl
  · rw [Template.run_append, hr special, hr' special]
    rfl

variable (d)

/-- The filters that are written inside of a chain work one after the other. -/
theorem renders_writeBody {texts : List Text} {value result : Text}
    (h : Filter.GivesAll texts value result) :
    d.Renders (d.opening :: d.writeBody texts ++ [d.closing]) value result := by
  obtain ⟨filters, hs, hf⟩ := h.exists_spells
  obtain ⟨chain, hc, rfl⟩ := d.exists_readChain hs 1
  have hcompile := d.compile_chain (d.isBody_writeBody texts)
  rw [hc, Except.map_ok_eq] at hcompile
  refine ⟨_, hcompile, fun special => ?_⟩
  rw [Template.run_chain, Chain.run_eq_foldlM, hf special]

/-- A text without delimiters needs no protection. -/
theorem protect_of_forall : ∀ {text : Text}, (∀ c ∈ text, d.has c = false) → d.protect text = text
  | [], _ => rfl
  | c :: text, h => by
    rw [d.protect_cons_of_not_has (h c List.mem_cons_self),
      protect_of_forall fun x hx => h x (List.mem_cons_of_mem _ hx)]

/-- Filters that are spelled without delimiters are written as they are. -/
theorem renders_joinRaw {texts : List Text} {value result : Text}
    (h : Filter.GivesAll texts value result) (hd : ∀ text ∈ texts, ∀ c ∈ text, d.has c = false) :
    d.Renders (d.opening :: d.joinRaw texts ++ [d.closing]) value result := by
  have hw := d.renders_writeBody h
  have hm : texts.map d.protect = texts :=
    (List.map_congr_left fun text ht => d.protect_of_forall (hd text ht)).trans (List.map_id texts)
  rwa [writeBody, hm] at hw

end Delimiters

end FilterTemplate
