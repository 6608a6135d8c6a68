import Mathlib
import FilterTemplate.Replace

/-!
# The leftmost occurrence of a text

A value is parted at the leftmost occurrence of a target (`Text.parted?`), and this is all that the
replacement of the target depends on: without an occurrence the value stays, and with one the
replacement stands in its place, followed by what is behind it, in which the target may be replaced
again (`replace_of_parted?`).
-/

namespace FilterTemplate

namespace Text

theorem behind?_append : ∀ start behind, behind? start (start ++ behind) = some behind
  | [], _ => rfl
  | s :: start, behind => by
    rw [List.cons_append, behind?, if_pos rfl, behind?_append start behind]

theorem eq_append_of_behind? : ∀ {start text behind : Text}, behind? start text = some behind →
    text = start ++ behind
  | [], _, _, h => Option.some.inj h
  | _ :: _, [], _, h => by cases h
  | s :: start, c :: text, behind, h => by
    rw [behind?] at h
    split_ifs at h with hc
    rw [hc, List.cons_append, eq_append_of_behind? h]

/-- What stands before and behind the leftmost occurrence of the target, if there is one. -/
def parted? (target : Text) : Text → Option (Text × Text)
  | [] => (behind? target []).map fun behind => ([], behind)
  | c :: rest =>
    match behind? target (c :: rest) with
    | some behind => some ([], behind)
    | none => (parted? target rest).map fun (before, behind) => (c :: before, behind)

variable {target text before behind : Text}

theorem parted?_nil (hn : target ≠ []) : parted? target [] = none := by
  obtain ⟨s, start, rfl⟩ := List.exists_cons_of_ne_nil hn
  rfl

theorem parted?_of_behind? (h : behind? target text = some behind) :
    parted? target text = some ([], behind) := by
  cases text <;> rw [parted?, h]
  rfl

theorem parted?_cons {c : Char} (h : behind? target (c :: text) = none) :
    parted? target (c :: text)
      = (parted? target text).map fun (before, behind) => (c :: before, behind) := by
  rw [parted?, h]

/-- An occurrence stands at the start of the text, or behind its first character. -/
theorem parted?_cons_cases {c : Char} (h : parted? target (c :: text) = some (before, behind)) :
    before = [] ∧ behind? target (c :: text) = some behind
      ∨ ∃ front, before = c :: front ∧ behind? target (c :: text) = none
        ∧ parted? target text = some (front, behind) := by
  rcases hb : behind? target (c :: text) with _ | rest
  · rw [parted?_cons hb] at h
    obtain ⟨⟨front, rest⟩, hp, he⟩ := Option.map_eq_some_iff.1 h
    obtain ⟨rfl, rfl⟩ := Prod.mk.inj he
    exact .inr ⟨front, rfl, rfl, hp⟩
  · rw [parted?_of_behind? hb] at h
    obtain ⟨rfl, rfl⟩ := Prod.mk.inj (Option.some.inj h)
    exact .inl ⟨rfl, rfl⟩

theorem parted?_cons_eq_none {c : Char} (h : parted? target (c :: text) = none) :
    behind? target (c :: text) = none ∧ parted? target text = none := by
  rcases hb : behind? target (c :: text) with _ | rest
  · rw [parted?_cons hb, Option.map_eq_none_iff] at h
    exact ⟨rfl, h⟩
  · rw [parted?_of_behind? hb] at h
    cases h

theorem eq_append_of_parted? : ∀ {text before behind : Text},
    parted? target text = some (before, behind) → text = before ++ target ++ behind
  | [], before, behind, h => by
    obtain ⟨rest, hb, he⟩ := Option.map_eq_some_iff.1 h
    obtain ⟨rfl, rfl⟩ := Prod.mk.inj he
    exact eq_append_of_behind? hb
  | c :: text, before, behind, h => by
    rcases parted?_cons_cases h with ⟨rfl, hb⟩ | ⟨front, rfl, -, hp⟩
    · exact eq_append_of_behind? hb
    · rw [eq_append_of_parted? hp]
      rfl

/-- No occurrence starts further left than the one that parts the text. -/
theorem exists_parted? (target behind : Text) : ∀ before, ∃ front rest,
    parted? target (before ++ target ++ behind) = some (front, rest) ∧ front.length ≤ before.length
  | [] => ⟨[], behind, parted?_of_behind? (behind?_append target behind), le_refl 0⟩
  | c :: before => by
    obtain ⟨front, rest, hp, hle⟩ := exists_parted? target behind before
    rcases hb : behind? target (c :: (before ++ target ++ behind)) with _ | other
    · refine ⟨c :: front, rest, ?_, Nat.succ_le_succ hle⟩
      rw [List.cons_append, List.cons_append, parted?_cons hb, hp]
      rfl
    · exact ⟨[], other, parted?_of_behind? hb, Nat.zero_le _⟩

theorem length_le_of_parted? (h : parted? target text = some (before, behind)) {other rest : Text}
    (ho : text = other ++ target ++ rest) : before.length ≤ other.length := by
  obtain ⟨front, _, hp, hle⟩ := exists_parted? target rest other
  rw [← ho, h] at hp
  obtain ⟨rfl, -⟩ := Prod.mk.inj (Option.some.inj hp)
  exact hle

theorem parted?_eq_none_iff : parted? target text = none ↔ ¬target <:+: text := by
  constructor
  · rintro h ⟨before, behind, rfl⟩
    obtain ⟨front, rest, hp, -⟩ := exists_parted? target behind before
    rw [h] at hp
    cases hp
  · intro h
    rcases hp : parted? target text with _ | ⟨before, behind⟩
    · rfl
    · exact absurd ⟨before, behind, (eq_append_of_parted? hp).symm⟩ h

end Text

open Text

variable {target value before behind : Text}

/-! ## The first occurrence replaced -/

theorem replaceFirst_of_parted? (replacement : Text) : ∀ {value before behind : Text},
    parted? target value = some (before, behind) →
      replaceFirst target replacement value = before ++ replacement ++ behind
  | [], before, behind, h => by
    obtain ⟨rfl, rfl, rfl⟩ : before = [] ∧ target = [] ∧ behind = [] := by
      simpa using eq_append_of_parted? h
    simp [replaceFirst]
  | c :: value, before, behind, h => by
    rcases parted?_cons_cases h with ⟨rfl, hb⟩ | ⟨front, rfl, hb, hp⟩
    · rw [replaceFirst, hb]
      rfl
    · rw [replaceFirst, hb, replaceFirst_of_parted? replacement hp]
      rfl

theorem replaceFirst_of_parted?_eq_none (replacement : Text) : ∀ {value : Text},
    parted? target value = none → replaceFirst target replacement value = value
  | [], h => by
    have hn : target ≠ [] := by
      rintro rfl
      cases h
    rw [replaceFirst, if_neg hn]
  | c :: value, h => by
    obtain ⟨hb, hp⟩ := parted?_cons_eq_none h
    rw [replaceFirst, hb, replaceFirst_of_parted?_eq_none replacement hp]

/-! ## All occurrences replaced -/

/-- What is covered is left out. -/
theorem replaceBehind_eq_drop (target replacement : Text) : ∀ (covered : ℕ) (value : Text),
    replaceBehind target replacement covered value
      = replaceBehind target replacement 0 (value.drop covered)
  | 0, _ => rfl
  | _ + 1, [] => rfl
  | covered + 1, _ :: value => replaceBehind_eq_drop target replacement covered value

theorem replaceBehind_of_parted? (hn : target ≠ []) (replacement : Text) :
    ∀ {value before behind : Text}, parted? target value = some (before, behind) →
      replaceBehind target replacement 0 value
        = before ++ replacement ++ replaceBehind target replacement 0 behind
  | [], before, behind, h => by
    rw [parted?_nil hn] at h
    cases h
  | c :: value, before, behind, h => by
    rcases parted?_cons_cases h with ⟨rfl, hb⟩ | ⟨front, rfl, hb, hp⟩
    · -- the character in front is part of the occurrence, so one less of what follows is covered
      have hdrop : value.drop (target.length - 1) = behind := by
        have hd : (c :: value).drop target.length = behind := by
          rw [eq_append_of_behind? hb, List.drop_left]
        obtain ⟨s, start, rfl⟩ := List.exists_cons_of_ne_nil hn
        exact hd
      rw [replaceBehind, hb, replaceBehind_eq_drop, hdrop]
      rfl
    · rw [replaceBehind, hb, replaceBehind_of_parted? hn replacement hp]
      rfl

theorem replaceBehind_of_parted?_eq_none (replacement : Text) : ∀ {value : Text},
    parted? target value = none → replaceBehind target replacement 0 value = value
  | [], _ => rfl
  | c :: value, h => by
    obtain ⟨hb, hp⟩ := parted?_cons_eq_none h
    rw [replaceBehind, hb, replaceBehind_of_parted?_eq_none replacement hp]

theorem replace_of_parted? (hn : target ≠ []) (replacement : Text)
    (h : parted? target value = some (before, behind)) (all : Bool) :
    replace target replacement all value = before ++ replacement
      ++ if all then replace target replacement true behind else behind := by
  cases all with
  | false => exact replaceFirst_of_parted? replacement h
  | true =>
    simp only [replace, replaceAll, if_pos, if_neg hn]
    exact replaceBehind_of_parted? hn replacement h

theorem replace_of_parted?_eq_none (hn : target ≠ []) (replacement : Text)
    (h : parted? target value = none) (all : Bool) :
    replace target replacement all value = value := by
  cases all with
  | false => exact replaceFirst_of_parted?_eq_none replacement h
  | true =>
    simp only [replace, replaceAll, if_pos, if_neg hn]
    exact replaceBehind_of_parted?_eq_none replacement h

end FilterTemplate
