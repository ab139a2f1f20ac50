import SchemaModel.Decimal.Digits

/-!
# `SchemaModel.Proofs.Decimal.Numerals` — the digits of a number

A numeral is a row of digits that names its number, without zeros in front. Padding puts zeros in
front, which change neither.

## Contents
- `isDigit_of_mem_numeral`, `numeral_ne_nil`, `head?_numeral`: what a numeral looks like.
- `valueOf_numeral`: it names its number.
- `isDigit_of_mem_padded`, `length_padded`, `valueOf_padded`: the same of padded numerals.
-/

namespace SchemaModel.Decimal

variable {n width : Nat} {c : Char}

theorem isDigit_iff : isDigit c = true ↔ 48 ≤ c.toNat ∧ c.toNat ≤ 57 := by
  unfold isDigit
  rw [Bool.and_eq_true, decide_eq_true_eq, decide_eq_true_eq]
  exact Iff.rfl

theorem isDigit_of_mem_numeral (h : c ∈ numeral n) : isDigit c = true :=
  Nat.isDigit_of_mem_toDigits (by decide) (by decide) h

theorem numeral_ne_nil (n : Nat) : numeral n ≠ [] := Nat.toDigits_ne_nil

/-- Only the numeral of zero starts with a zero. -/
theorem head?_numeral (h : 0 < n) : (numeral n).head? ≠ some '0' := by
  induction n using Nat.strongRecOn with
  | ind n ih =>
      unfold numeral at ih ⊢
      rw [Nat.toDigits_eq_if (by decide)]
      split
      · rename_i hlt
        intro hhead
        exact absurd (Nat.digitChar_eq_zero.1 (Option.some.inj hhead)) (Nat.ne_of_gt h)
      · rename_i hge
        rw [List.head?_append]
        intro hhead
        rcases Option.or_eq_some_iff.1 hhead with hhead | ⟨hnone, _⟩
        · exact ih (n / 10) (by omega) (by omega) hhead
        · exact Nat.toDigits_ne_nil (List.head?_eq_none_iff.1 hnone)

theorem digitValue_of_isDigit (h : isDigit c = true) : digitValue c = c.toNat - '0'.toNat :=
  if_pos h

/-- The value of a row of digits, with what stands before it. -/
theorem foldl_digits {ds : List Char} (h : ∀ c ∈ ds, isDigit c = true) (start : Nat) :
    ds.foldl (fun n c => n * 10 + digitValue c) start = Nat.ofDigitChars 10 ds start := by
  induction ds generalizing start with
  | nil => rfl
  | cons c ds ih =>
      rw [List.foldl_cons, Nat.ofDigitChars_cons, ih fun d hd => h d (List.mem_cons_of_mem c hd),
        digitValue_of_isDigit (h c List.mem_cons_self), Nat.mul_comm start 10]

theorem valueOf_numeral (n : Nat) : valueOf 10 (numeral n) = n := by
  unfold valueOf
  rw [foldl_digits fun c hc => isDigit_of_mem_numeral hc]
  exact Nat.ofDigitChars_ten_toDigits

theorem isDigit_of_mem_padded (h : c ∈ padded width n) : isDigit c = true := by
  rcases List.mem_append.1 h with h | h
  · rw [List.eq_of_mem_replicate h]
    rfl
  · exact isDigit_of_mem_numeral h

/-- A number of few digits is padded to the width. -/
theorem length_padded (hwidth : 0 < width) (h : n < Nat.pow 10 width) :
    (padded width n).length = width := by
  have hlength : (numeral n).length ≤ width :=
    (Nat.length_toDigits_le_iff (by decide) hwidth).2 h
  unfold padded
  rw [List.length_append, List.length_replicate]
  omega

theorem padded_eq_cons (width n : Nat) :
    ∃ d ds, padded width n = d :: ds ∧ isDigit d = true := by
  have hne : padded width n ≠ [] := List.append_ne_nil_of_right_ne_nil _ (numeral_ne_nil n)
  obtain ⟨d, ds, hds⟩ := List.exists_cons_of_ne_nil hne
  exact ⟨d, ds, hds, isDigit_of_mem_padded (hds ▸ List.mem_cons_self)⟩

theorem isEmpty_padded (width n : Nat) : (padded width n).isEmpty = false := by
  obtain ⟨d, ds, hds, _⟩ := padded_eq_cons width n
  rw [hds]
  rfl

theorem valueOf_padded (width n : Nat) : valueOf 10 (padded width n) = n := by
  unfold valueOf
  rw [foldl_digits fun c hc => isDigit_of_mem_padded hc]
  unfold padded
  rw [Nat.ofDigitChars_append, Nat.ofDigitChars_replicate_zero, Nat.mul_zero]
  exact Nat.ofDigitChars_ten_toDigits

end SchemaModel.Decimal
