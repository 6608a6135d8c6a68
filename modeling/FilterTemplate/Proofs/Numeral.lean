import Mathlib
import FilterTemplate.Text.Numeral

/-!
# Numerals and their numbers

The digits that `write` gives are read as the number again, and a number that has been read from
digits has no more digits than those, so it is short enough to be read once more (`Fits`). What is
read as a number are its digits, and zeros in front of them (`Denotes`).
-/

namespace FilterTemplate.Numeral

/-- Whether the number has no more digits than are read. -/
def Fits (n : ℕ) : Prop := (write n).length ≤ maxDigits

/-- Whether the digits are those of the number, behind zeros or not. -/
def Denotes (n : ℕ) (digits : Text) : Prop := ∃ zeros, digits = List.replicate zeros '0' ++ write n

theorem isDigit_iff {c : Char} : isDigit c = true ↔ 48 ≤ c.toNat ∧ c.toNat ≤ 57 := by
  simp only [isDigit, Bool.and_eq_true, decide_eq_true_eq]
  rfl

theorem digitValue_lt {c : Char} (h : isDigit c) : digitValue c < 10 := by
  have := isDigit_iff.1 h
  simp only [digitValue]
  have : '0'.toNat = 48 := rfl
  omega

theorem value_concat (digits : Text) (c : Char) :
    value (digits ++ [c]) = 10 * value digits + digitValue c := by
  simp [value]

theorem value_lt (digits : Text) (h : ∀ c ∈ digits, isDigit c) :
    value digits < 10 ^ digits.length := by
  induction digits using List.reverseRecOn with
  | nil => simp [value]
  | append_singleton digits c ih =>
    have ih := ih fun x hx => h x (List.mem_append_left _ hx)
    have hc := digitValue_lt (h c (by simp))
    rw [value_concat, List.length_append, List.length_singleton, Nat.pow_succ]
    omega

theorem isDigit_of_mem_write {n : ℕ} {c : Char} (h : c ∈ write n) : isDigit c := by
  have hc := Nat.isDigit_of_mem_toDigits (by decide) (by decide) h
  simpa [isDigit, Char.isDigit, Char.le_def] using hc

@[simp] theorem value_write (n : ℕ) : value (write n) = n := Nat.ofDigitChars_ten_toDigits

theorem fits_iff {n : ℕ} : Fits n ↔ n < 10 ^ maxDigits :=
  Nat.length_toDigits_le_iff (by decide) (by decide)

theorem read_write {n : ℕ} (h : Fits n) : read (write n) = .ok n := by
  unfold Fits at h
  rw [read, if_neg (by omega), value_write]

/-- A number has no more digits than it was read from. -/
theorem fits_of_read {digits : Text} {n : ℕ} (hd : ∀ c ∈ digits, isDigit c)
    (h : read digits = .ok n) : Fits n := by
  unfold read at h
  split_ifs at h with hl
  simp only [Except.ok.injEq] at h
  subst h
  exact fits_iff.2 ((value_lt digits hd).trans_le (Nat.pow_le_pow_right (by decide) (by omega)))

/-- The leading digits are all digits up to the first other character. -/
theorem span_eq_iff {text digits rest : Text} :
    span text = (digits, rest)
      ↔ text = digits ++ rest ∧ (∀ c ∈ digits, isDigit c) ∧ ∀ c ∈ rest.head?, isDigit c = false := by
  constructor
  · intro h
    obtain ⟨rfl, rfl⟩ := Prod.mk.inj h
    refine ⟨List.takeWhile_append_dropWhile.symm, fun c hc => List.mem_takeWhile_imp hc,
      fun c hc => ?_⟩
    have hn := List.head?_dropWhile_not isDigit text
    rw [Option.mem_def.1 hc] at hn
    exact hn
  · rintro ⟨rfl, hd, hr⟩
    have hnil : rest.takeWhile isDigit = [] ∧ rest.dropWhile isDigit = rest := by
      rcases rest with _ | ⟨c, rest⟩
      · simp
      · simp [hr c rfl]
    rw [span, List.takeWhile_append_of_pos hd, List.dropWhile_append_of_pos hd, hnil.1, hnil.2,
      List.append_nil]

/-! ## Zeros in front -/

theorem digitChar_digitValue {c : Char} (h : isDigit c) : Nat.digitChar (digitValue c) = c := by
  have hc := isDigit_iff.1 h
  have hv : digitValue c = c.toNat - 48 := rfl
  refine Char.toNat_inj.1 ?_
  rw [Nat.toNat_digitChar_of_lt_ten (digitValue_lt h), hv]
  omega

/-- A digit behind the digits of a number gives those of ten times as much and the digit. -/
theorem write_concat {n : ℕ} {c : Char} (hn : n ≠ 0) (h : isDigit c) :
    write (10 * n + digitValue c) = write n ++ [c] := by
  have hp := Nat.toDigits_append_toDigits (by decide) (Nat.pos_of_ne_zero hn) (digitValue_lt h)
  rw [Nat.toDigits_of_lt_base (digitValue_lt h), digitChar_digitValue h] at hp
  exact hp.symm

theorem value_zeros (zeros : ℕ) (digits : Text) :
    value (List.replicate zeros '0' ++ digits) = value digits := by
  induction zeros with
  | zero => rfl
  | succ zeros ih =>
    rw [List.replicate_succ, List.cons_append, ← ih]
    rfl

theorem Denotes.value_eq {n : ℕ} {digits : Text} (h : Denotes n digits) : value digits = n := by
  obtain ⟨zeros, rfl⟩ := h
  rw [value_zeros, value_write]

theorem Denotes.isDigit {n : ℕ} {digits : Text} (h : Denotes n digits) :
    ∀ c ∈ digits, Numeral.isDigit c := by
  obtain ⟨zeros, rfl⟩ := h
  intro c hc
  rcases List.mem_append.1 hc with hz | hw
  · rw [List.eq_of_mem_replicate hz]
    rfl
  · exact isDigit_of_mem_write hw

/-- Digits are those of their number, behind the zeros in front of them. -/
theorem denotes_value {digits : Text} (hd : ∀ c ∈ digits, isDigit c) (hn : digits ≠ []) :
    Denotes (value digits) digits := by
  induction digits using List.reverseRecOn with
  | nil => exact absurd rfl hn
  | append_singleton front c ih =>
    have hc : isDigit c := hd c (by simp)
    have hsingle : write (digitValue c) = [c] := by
      rw [write, Nat.toDigits_of_lt_base (digitValue_lt hc), digitChar_digitValue hc]
    rw [value_concat]
    rcases eq_or_ne front [] with rfl | hf
    · exact ⟨0, by simp [value, hsingle]⟩
    obtain ⟨zeros, hz⟩ := ih (fun x hx => hd x (List.mem_append_left _ hx)) hf
    rcases eq_or_ne (value front) 0 with h0 | h0
    · refine ⟨zeros + 1, ?_⟩
      rw [h0, Nat.mul_zero, Nat.zero_add, hsingle, hz, h0, List.replicate_succ']
      rfl
    · refine ⟨zeros, ?_⟩
      rw [write_concat h0 hc, ← List.append_assoc, ← hz]

end FilterTemplate.Numeral
