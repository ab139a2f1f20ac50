import SchemaModel.Text.Case

/-!
# `SchemaModel.Proofs.Text.Letters` — the letters and digits of ASCII

Names are mostly made of ASCII letters and digits. For those the character classes and the case
mappings come down to arithmetic on code points.

## Contents
- **Letters.** What the classes and mappings say about ASCII letters and digits. `isWordChar`: the
  small letters and digits.
- **Both cases of a letter.** `asciiLower_congr` proves by enumeration what looks through letter
  case.
- **Texts of ASCII characters.** Lower-casing goes character by character.
-/

namespace SchemaModel

open Text

/-! ## Letters -/

theorem isAsciiLower_iff {c : Char} : isAsciiLower c = true ↔ 97 ≤ c.toNat ∧ c.toNat ≤ 122 := by
  unfold isAsciiLower
  rw [Bool.and_eq_true, decide_eq_true_eq, decide_eq_true_eq]
  exact Iff.rfl

theorem isAsciiUpper_iff {c : Char} : isAsciiUpper c = true ↔ 65 ≤ c.toNat ∧ c.toNat ≤ 90 := by
  unfold isAsciiUpper
  rw [Bool.and_eq_true, decide_eq_true_eq, decide_eq_true_eq]
  exact Iff.rfl

theorem isAsciiDigit_iff {c : Char} : isAsciiDigit c = true ↔ 48 ≤ c.toNat ∧ c.toNat ≤ 57 := by
  unfold isAsciiDigit
  rw [Bool.and_eq_true, decide_eq_true_eq, decide_eq_true_eq]
  exact Iff.rfl

theorem isAscii_iff {c : Char} : isAscii c = true ↔ c.toNat < 128 := by
  unfold isAscii
  rw [decide_eq_true_eq]

theorem toNat_ofNat {n : Nat} (h : n < 128) : (Char.ofNat n).toNat = n := by
  have hvalid : n.isValidChar := Or.inl (by omega)
  unfold Char.ofNat
  rw [dif_pos hvalid]
  rfl

/-- The small letters and digits, of which words are made. -/
def isWordChar (c : Char) : Bool := isAsciiLower c || isAsciiDigit c

theorem isWordChar_iff {c : Char} :
    isWordChar c = true ↔ (97 ≤ c.toNat ∧ c.toNat ≤ 122) ∨ (48 ≤ c.toNat ∧ c.toNat ≤ 57) := by
  unfold isWordChar
  rw [Bool.or_eq_true, isAsciiLower_iff, isAsciiDigit_iff]

section WordChars

variable {c : Char}

theorem isWordChar.isAscii (h : isWordChar c = true) : isAscii c = true := by
  rw [isWordChar_iff] at h
  rw [isAscii_iff]
  omega

theorem isWordChar.isUpper (h : isWordChar c = true) : isUpper c = false := by
  unfold Text.isUpper
  rw [if_pos (isWordChar.isAscii h), Bool.eq_false_iff]
  intro hupper
  rw [isWordChar_iff] at h
  rw [isAsciiUpper_iff] at hupper
  omega

theorem isWordChar.asciiLower (h : isWordChar c = true) : asciiLower c = c := by
  unfold Text.asciiLower
  rw [if_neg]
  intro hupper
  rw [isWordChar_iff] at h
  rw [isAsciiUpper_iff] at hupper
  omega

/-- A capital starts a word after any of these characters. -/
theorem isWordChar.endsWord (h : isWordChar c = true) :
    (isLower c || isAsciiDigit c) = true := by
  unfold isLower
  rw [if_pos (isWordChar.isAscii h)]
  exact h

theorem isAsciiLower.isWordChar (h : isAsciiLower c = true) : isWordChar c = true := by
  unfold SchemaModel.isWordChar
  rw [h, Bool.true_or]

theorem toNat_asciiUpper (h : isAsciiLower c = true) : (asciiUpper c).toNat = c.toNat - 32 := by
  unfold asciiUpper
  rw [if_pos h]
  rw [isAsciiLower_iff] at h
  exact toNat_ofNat (by omega)

theorem isAsciiUpper_asciiUpper (h : isAsciiLower c = true) :
    isAsciiUpper (asciiUpper c) = true := by
  have hvalue := toNat_asciiUpper h
  rw [isAsciiLower_iff] at h
  rw [isAsciiUpper_iff]
  omega

theorem isAsciiUpper.isAscii (h : isAsciiUpper c = true) : isAscii c = true := by
  rw [isAsciiUpper_iff] at h
  rw [isAscii_iff]
  omega

theorem isAsciiUpper.asciiUpper (h : isAsciiUpper c = true) : asciiUpper c = c := by
  unfold Text.asciiUpper
  rw [if_neg]
  intro hlower
  rw [isAsciiUpper_iff] at h
  rw [isAsciiLower_iff] at hlower
  omega

theorem isUpper_asciiUpper (h : isAsciiLower c = true) : isUpper (asciiUpper c) = true := by
  have hupper := isAsciiUpper_asciiUpper h
  unfold isUpper
  rw [if_pos (isAsciiUpper.isAscii hupper)]
  exact hupper

theorem asciiLower_asciiUpper (h : isAsciiLower c = true) : asciiLower (asciiUpper c) = c := by
  have hvalue := toNat_asciiUpper h
  have hupper := isAsciiUpper_asciiUpper h
  rw [isAsciiLower_iff] at h
  unfold asciiLower
  rw [if_pos hupper, hvalue]
  have hback : c.toNat - 32 + 32 = c.toNat := by omega
  rw [hback, Char.ofNat_toNat]

end WordChars

/-! ## Both cases of a letter -/

namespace Text

/-- What is the same for both cases of the 26 letters looks through letter case. -/
theorem asciiLower_congr {α : Type} {f : Char → α}
    (h : ∀ n ∈ List.range' 65 26, f (Char.ofNat (n + 32)) = f (Char.ofNat n)) (c : Char) :
    f (asciiLower c) = f c := by
  unfold asciiLower
  split
  · rename_i hupper
    have hrange : 65 ≤ c.toNat ∧ c.toNat ≤ 90 := by
      unfold isAsciiUpper at hupper
      rw [Bool.and_eq_true, decide_eq_true_iff, decide_eq_true_iff] at hupper
      exact hupper
    have hletter := h c.toNat (by rw [List.mem_range'_1]; omega)
    rw [Char.ofNat_toNat] at hletter
    exact hletter
  · rfl

theorem asciiLower_asciiLower (c : Char) : asciiLower (asciiLower c) = asciiLower c :=
  asciiLower_congr (by decide +kernel) c

theorem isAscii_asciiLower (c : Char) : isAscii (asciiLower c) = isAscii c :=
  asciiLower_congr (by decide +kernel) c

theorem asciiLower_eq_underscore (c : Char) : (asciiLower c == '_') = (c == '_') :=
  asciiLower_congr (f := (· == '_')) (by decide +kernel) c

/-- Of two characters that are the same letter, one is small unless they are the same. -/
theorem asciiLower_eq_cases {c d : Char} (h : asciiLower c = asciiLower d) :
    c = d ∨ asciiLower c = c ∨ asciiLower d = d := by
  by_cases hc : isAsciiUpper c = true
  · by_cases hd : isAsciiUpper d = true
    · refine Or.inl (Char.toNat_inj.1 ?_)
      unfold asciiLower at h
      rw [if_pos hc, if_pos hd] at h
      rw [isAsciiUpper_iff] at hc hd
      have hvalue := congrArg Char.toNat h
      rw [toNat_ofNat (by omega), toNat_ofNat (by omega)] at hvalue
      omega
    · exact Or.inr (Or.inr (if_neg hd))
  · exact Or.inr (Or.inl (if_neg hc))

/-- A capital is lower-cased to the letter it is the capital of. -/
theorem asciiLower_asciiUpper_eq (c : Char) : asciiLower (asciiUpper c) = asciiLower c := by
  by_cases h : isAsciiLower c = true
  · rw [asciiLower_asciiUpper h, isWordChar.asciiLower (isAsciiLower.isWordChar h)]
  · rw [asciiUpper, if_neg h]

end Text

/-! ## Texts of ASCII characters -/

theorem lowerChars_of_ascii {before cs : List Char} (h : ∀ c ∈ cs, isAscii c = true) :
    lowerChars before cs = cs.map asciiLower := by
  induction cs generalizing before with
  | nil => rfl
  | cons c rest ih =>
      have hc := h c List.mem_cons_self
      have hsigma : (c == '\u03a3') = false := by
        rw [Bool.eq_false_iff]
        intro heq
        rw [beq_iff_eq.1 heq] at hc
        cases hc
      unfold lowerChars
      dsimp only
      rw [hsigma, ih fun d hd => h d (List.mem_cons_of_mem c hd)]
      unfold lowerChar
      rw [if_pos hc]
      rfl

theorem map_asciiLower_of_word {cs : List Char} (h : ∀ c ∈ cs, isWordChar c = true) :
    cs.map asciiLower = cs := by
  rw [List.map_congr_left fun c hc => isWordChar.asciiLower (h c hc)]
  exact List.map_id' cs

theorem lowercase_ofList {cs : List Char} (h : ∀ c ∈ cs, isAscii c = true) :
    lowercase (String.ofList cs) = String.ofList (cs.map asciiLower) := by
  unfold lowercase
  rw [String.toList_ofList, lowerChars_of_ascii h]

end SchemaModel
