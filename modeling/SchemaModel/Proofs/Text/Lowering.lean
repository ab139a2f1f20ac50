import SchemaModel.Proofs.Text.LetterCase
import SchemaModel.Proofs.Text.Pieces

/-!
# `SchemaModel.Proofs.Text.Lowering` — texts in lower case, stretch by stretch

The lower-case form of a sigma depends on the letters around it, so a text cannot be lower-cased in
any two parts. It can at a character that is no letter and is not looked through: what stands on one
side of it does not matter on the other.

## Contents
- `isBoundary`, `lowerChars_boundary`: a text is lower-cased on both sides of such a character apart.
- `isMark`: blanks, parentheses and double quotes. No other character has one in its lower-case form
  (`mem_of_mem_lowerChars`), and what neither begins nor ends with a blank stays so
  (`unpadded_lowerChars`).
-/

namespace SchemaModel.Text

/-! ## Boundaries -/

/-- An ASCII character that is no letter and is not looked through in search for one. -/
def isBoundary (c : Char) : Bool := isAscii c && !isCased c && !isCaseIgnorable c

section Boundary

variable {d : Char} (h : isBoundary d = true)

include h

theorem isBoundary.isAscii : isAscii d = true := by
  unfold isBoundary at h
  simp only [Bool.and_eq_true] at h
  exact h.1.1

theorem isBoundary.isCased : isCased d = false := by
  unfold isBoundary at h
  simp only [Bool.and_eq_true, Bool.not_eq_true'] at h
  exact h.1.2

theorem isBoundary.isCaseIgnorable : isCaseIgnorable d = false := by
  unfold isBoundary at h
  simp only [Bool.and_eq_true, Bool.not_eq_true'] at h
  exact h.2

theorem isBoundary.lowerChar : lowerChar d = [d] := by
  have hascii := isBoundary.isAscii h
  have hcased := isBoundary.isCased h
  have hupper : isAsciiUpper d = false := by
    unfold Text.isCased isUpper at hcased
    rw [if_pos hascii] at hcased
    simp only [Bool.or_eq_false_iff] at hcased
    exact hcased.1.2
  unfold Text.lowerChar asciiLower
  rw [if_pos hascii, hupper]
  rfl

/-- The search for a neighbouring letter ends at a boundary as at the end of the text. -/
theorem meetsCased_boundary (cs ds : List Char) :
    meetsCased (cs ++ d :: ds) = meetsCased cs := by
  have hstop : (d :: ds).dropWhile Text.isCaseIgnorable = d :: ds :=
    List.dropWhile_cons_of_neg (by rw [isBoundary.isCaseIgnorable h]; exact Bool.false_ne_true)
  unfold meetsCased
  rw [List.dropWhile_append, hstop]
  cases cs.dropWhile Text.isCaseIgnorable with
  | nil => exact isBoundary.isCased h
  | cons c rest => rfl

/-- What stands before a boundary does not matter behind it. -/
theorem lowerChars_behind (before far cs : List Char) :
    lowerChars (before ++ d :: far) cs = lowerChars before cs := by
  induction cs generalizing before with
  | nil => rfl
  | cons c rest ih =>
      have hnext := ih (c :: before)
      rw [List.cons_append] at hnext
      rw [lowerChars, lowerChars, meetsCased_boundary h, hnext]

/-- Both sides of a boundary are lower-cased apart. -/
theorem lowerChars_boundary (before cs ds : List Char) :
    lowerChars before (cs ++ d :: ds) = lowerChars before cs ++ d :: lowerChars [] ds := by
  induction cs generalizing before with
  | nil =>
      have hsigma : (d == '\u03a3') = false := by
        rw [beq_eq_false_iff_ne]
        rintro rfl
        exact absurd (isBoundary.isAscii h) (by decide)
      have hbehind : lowerChars (d :: before) ds = lowerChars [] ds :=
        lowerChars_behind h [] before ds
      simp only [List.nil_append, lowerChars, hsigma, Bool.false_eq_true, if_false,
        isBoundary.lowerChar h, hbehind, List.singleton_append]
  | cons c rest ih =>
      rw [List.cons_append, lowerChars, lowerChars, meetsCased_boundary h, ih]
      simp only [List.append_assoc]

end Boundary

theorem lowerChars_append {ds : List Char} (h : ∀ d ∈ ds.head?, isBoundary d = true)
    (before cs : List Char) :
    lowerChars before (cs ++ ds) = lowerChars before cs ++ lowerChars [] ds := by
  cases ds with
  | nil => rw [List.append_nil, lowerChars, List.append_nil]
  | cons d ds =>
      have hd := h d rfl
      have hfirst := lowerChars_boundary hd [] [] ds
      rw [List.nil_append, lowerChars, List.nil_append] at hfirst
      rw [lowerChars_boundary hd, hfirst]

theorem lowerChars_boundaries {front : List Char} (h : ∀ d ∈ front, isBoundary d = true)
    (cs : List Char) : lowerChars [] (front ++ cs) = front ++ lowerChars [] cs := by
  induction front with
  | nil => rfl
  | cons d front ih =>
      have hfirst := lowerChars_boundary (h d List.mem_cons_self) [] [] (front ++ cs)
      rw [List.nil_append, lowerChars, List.nil_append,
        ih fun e he => h e (List.mem_cons_of_mem d he)] at hfirst
      exact hfirst

theorem lowerChars_append_boundaries {ds : List Char} (h : ∀ d ∈ ds, isBoundary d = true)
    (before cs : List Char) : lowerChars before (cs ++ ds) = lowerChars before cs ++ ds := by
  have halone := lowerChars_boundaries h []
  rw [lowerChars, List.append_nil] at halone
  rw [lowerChars_append fun d hd => h d (List.mem_of_mem_head? hd), halone]

theorem head?_lowerChars {ds : List Char} (h : ∀ d ∈ ds.head?, isBoundary d = true) :
    (lowerChars [] ds).head? = ds.head? := by
  cases ds with
  | nil => rfl
  | cons d ds =>
      have hfront : ∀ e ∈ [d], isBoundary e = true := by
        intro e he
        rw [List.mem_singleton.1 he]
        exact h d rfl
      rw [← List.singleton_append, lowerChars_boundaries hfront]
      rfl

/-! ## Marks -/

/-- Blanks, parentheses and double quotes. -/
def isMark (c : Char) : Bool := isBlank c || ['(', ')', '"'].contains c

theorem isMark_of_isBlank {c : Char} (h : isBlank c = true) : isMark c = true := by
  unfold isMark
  rw [h, Bool.true_or]

/-- Where the marks are among the code points. -/
theorem isMark_bounds {c : Char} (h : isMark c = true) :
    (9 ≤ c.toNat ∧ c.toNat ≤ 41) ∨ ∃ run ∈ blankRuns, run.1 ≤ c.toNat ∧ c.toNat ≤ run.2 := by
  unfold isMark isBlank at h
  rcases Bool.or_eq_true_iff.1 h with hblank | hlisted
  · split at hblank
    · simp only [Bool.or_eq_true, beq_iff_eq, Bool.and_eq_true, decide_eq_true_eq] at hblank
      refine Or.inl ?_
      rcases hblank with rfl | ⟨hfirst, hlast⟩
      · decide
      · have hfirst' : 9 ≤ c.toNat := hfirst
        have hlast' : c.toNat ≤ 13 := hlast
        omega
    · obtain ⟨run, hrun, hinside⟩ := List.any_eq_true.1 hblank
      rw [Bool.and_eq_true, decide_eq_true_eq, decide_eq_true_eq] at hinside
      exact Or.inr ⟨run, hrun, hinside⟩
  · rw [List.contains_iff_mem] at hlisted
    simp only [List.mem_cons, List.not_mem_nil, or_false] at hlisted
    refine Or.inl ?_
    rcases hlisted with rfl | rfl | rfl <;> decide

theorem blankRuns_above : ∀ run ∈ blankRuns, 127 < run.1 := by decide

theorem toNat_ofNat_cases (n : Nat) : (Char.ofNat n).toNat = n ∨ (Char.ofNat n).toNat = 0 := by
  unfold Char.ofNat
  by_cases hvalid : n.isValidChar
  · rw [dif_pos hvalid]
    exact Or.inl rfl
  · rw [dif_neg hvalid]
    exact Or.inr rfl

/-- No letter beyond ASCII turns into a mark: its run is moved to a place without marks. -/
theorem isMark_shifted {c : Char} {shift : Int}
    (h : shiftOf? toLowerRuns c.toNat = some shift) : isMark (shifted c shift) = false := by
  -- A run is moved as a whole, so its ends say where it comes to lie.
  have hruns : ∀ run ∈ toLowerRuns, 41 < run.1 + run.2.2.2 ∧
      ∀ blank ∈ blankRuns, run.2.1 + run.2.2.2 < blank.1 ∨ blank.2 < run.1 + run.2.2.2 := by
    decide +kernel
  obtain ⟨⟨first, last, step, move⟩, hrun, rfl⟩ := Option.map_eq_some_iff.1 h
  obtain ⟨habove, hapart⟩ := hruns _ (List.mem_of_find?_eq_some hrun)
  have hinside := List.find?_some hrun
  simp only [Bool.and_eq_true, decide_eq_true_eq] at hinside habove hapart
  rw [Bool.eq_false_iff]
  intro hmark
  have hbounds := isMark_bounds hmark
  have hvalue := toNat_ofNat_cases (c.toNat + move).toNat
  unfold shifted at hbounds
  dsimp only at hbounds
  rcases hbounds with hsmall | ⟨blank, hblank, hin⟩
  · omega
  · have hpositive := blankRuns_above blank hblank
    have hblanks := hapart blank hblank
    omega

theorem isMark_asciiLower (c : Char) : isMark (asciiLower c) = isMark c :=
  asciiLower_congr (by decide +kernel) c

theorem asciiLower_of_isMark {c : Char} (h : isMark c = true) : asciiLower c = c := by
  unfold asciiLower
  rw [if_neg]
  intro hupper
  rw [isAsciiUpper_iff] at hupper
  rcases isMark_bounds h with hsmall | ⟨run, hrun, hinside⟩
  · omega
  · have habove := blankRuns_above run hrun
    omega

/-- A mark is in lower case what it is, and no other character turns into one. -/
theorem eq_of_mem_lowerChar {c d : Char} (h : d ∈ lowerChar c) (hmark : isMark d = true) :
    d = c := by
  unfold lowerChar at h
  by_cases hascii : isAscii c = true
  · rw [if_pos hascii, List.mem_singleton] at h
    rw [h, isMark_asciiLower] at hmark
    rw [h, asciiLower_of_isMark hmark]
  · rw [if_neg hascii] at h
    by_cases hdotted : (c == '\u0130') = true
    · rw [if_pos hdotted] at h
      rcases List.mem_pair.1 h with rfl | rfl
      · exact absurd hmark (by decide)
      · exact absurd hmark (by decide)
    · rw [if_neg hdotted] at h
      cases hshift : shiftOf? toLowerRuns c.toNat with
      | none =>
          rw [hshift] at h
          exact List.mem_singleton.1 h
      | some shift =>
          rw [hshift] at h
          rw [List.mem_singleton.1 h, isMark_shifted hshift] at hmark
          cases hmark

theorem lowerChar_ne_nil (c : Char) : lowerChar c ≠ [] := by
  unfold lowerChar
  repeat' split
  all_goals exact List.cons_ne_nil _ _

/-- Each character of a text has a part of the lower-case form, with no mark that it is not. -/
theorem lowerChars_cons (before rest : List Char) (c : Char) :
    ∃ mapped, mapped ≠ [] ∧ (∀ d ∈ mapped, isMark d = true → d = c) ∧
      lowerChars before (c :: rest) = mapped ++ lowerChars (c :: before) rest := by
  rw [lowerChars]
  refine ⟨_, ?_, ?_, rfl⟩
  · repeat' split
    all_goals first | exact List.cons_ne_nil _ _ | exact lowerChar_ne_nil c
  · intro d hd hmark
    split at hd
    · split at hd
      · rw [List.mem_singleton.1 hd] at hmark
        exact absurd hmark (by decide)
      · rw [List.mem_singleton.1 hd] at hmark
        exact absurd hmark (by decide)
    · exact eq_of_mem_lowerChar hd hmark

/-- The marks of a text in lower case are marks of the text. -/
theorem mem_of_mem_lowerChars {before cs : List Char} {d : Char} (h : d ∈ lowerChars before cs)
    (hmark : isMark d = true) : d ∈ cs := by
  induction cs generalizing before with
  | nil => cases h
  | cons c rest ih =>
      obtain ⟨mapped, _, hmapped, heq⟩ := lowerChars_cons before rest c
      rw [heq, List.mem_append] at h
      rcases h with h | h
      · rw [hmapped d h hmark]
        exact List.mem_cons_self
      · exact List.mem_cons_of_mem c (ih h)

theorem notMem_lowerChars {before cs : List Char} {d : Char} (h : d ∉ cs)
    (hmark : isMark d = true) : d ∉ lowerChars before cs :=
  fun hin => h (mem_of_mem_lowerChars hin hmark)

/-! ## Ends of texts -/

theorem endsSolid_lowerChars {before cs : List Char} (h : EndsSolid cs) :
    EndsSolid (lowerChars before cs) := by
  obtain ⟨rest, c, rfl, hc⟩ := h
  induction rest generalizing before with
  | nil =>
      obtain ⟨mapped, hne, hmapped, heq⟩ := lowerChars_cons before [] c
      obtain ⟨front, d, hd⟩ := List.eq_nil_or_concat' mapped |>.resolve_left hne
      refine ⟨front, d, ?_, ?_⟩
      · rw [List.nil_append, heq, hd, lowerChars, List.append_nil]
      · rw [Bool.eq_false_iff]
        intro hblank
        have hdc := hmapped d (by simp [hd]) (isMark_of_isBlank hblank)
        rw [hdc, hc] at hblank
        cases hblank
  | cons e rest ih =>
      obtain ⟨mapped, _, _, heq⟩ := lowerChars_cons before (rest ++ [c]) e
      obtain ⟨front, d, hd, hsolid⟩ := @ih (e :: before)
      exact ⟨mapped ++ front, d, by rw [List.cons_append, heq, hd, List.append_assoc], hsolid⟩

theorem unpadded_lowerChars {before cs : List Char} (h : Unpadded cs) :
    Unpadded (lowerChars before cs) := by
  refine ⟨?_, endsSolid_lowerChars h.last⟩
  obtain ⟨c, rest, rfl, hc⟩ := h.first
  obtain ⟨mapped, hne, hmapped, heq⟩ := lowerChars_cons before rest c
  obtain ⟨d, more, rfl⟩ := List.exists_cons_of_ne_nil hne
  refine ⟨d, more ++ lowerChars (c :: before) rest, heq, ?_⟩
  rw [Bool.eq_false_iff]
  intro hblank
  have hdc := hmapped d List.mem_cons_self (isMark_of_isBlank hblank)
  rw [hdc, hc] at hblank
  cases hblank

end SchemaModel.Text
