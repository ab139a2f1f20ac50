import SchemaModel.Text.Cut
import Mathlib.Data.List.TakeWhile

/-!
# `SchemaModel.Proofs.Text.Pieces` — texts in pieces

A scan that cuts a text at separators puts every other character in front of the piece that follows.
What stands before a separator can so be taken off as a whole.

## Contents
- `onto`: characters in front of the first piece.
- `pieces_eq_splitOn`: the stretches between occurrences of a character.
- `breakAt?_append`, `after?_append`, `before?_append`: what stands around a character that is
  searched for, behind a given text and in front of one.
- `EndsSolid`, `Unpadded`: the text ends with a character that is no blank, or neither begins nor
  ends with one. `trim_blanks`, `trim_padded`: blanks around a text are trimmed away.
-/

namespace SchemaModel.Text

/-! ## Pieces -/

/-- The characters in front of the first piece. -/
def onto (front : List Char) : List (List Char) → List (List Char)
  | [] => [front]
  | piece :: more => (front ++ piece) :: more

@[simp] theorem onto_cons (front piece : List Char) (more : List (List Char)) :
    onto front (piece :: more) = (front ++ piece) :: more := rfl

/-- One character goes in front of the first piece. -/
theorem onto_singleton (c : Char) (pieces : List (List Char)) :
    onto [c] pieces =
      match pieces with
      | [] => [[c]]
      | piece :: more => (c :: piece) :: more := by
  cases pieces <;> rfl

theorem onto_ne_nil (front : List Char) (pieces : List (List Char)) : onto front pieces ≠ [] := by
  cases pieces <;> exact List.cons_ne_nil _ _

theorem onto_nil {pieces : List (List Char)} (h : pieces ≠ []) : onto [] pieces = pieces := by
  cases pieces with
  | nil => exact absurd rfl h
  | cons piece more => rfl

@[simp] theorem onto_onto (front front' : List Char) (pieces : List (List Char)) :
    onto front (onto front' pieces) = onto (front ++ front') pieces := by
  cases pieces with
  | nil => rfl
  | cons piece more => simp only [onto_cons, List.append_assoc]

@[simp] theorem flatten_onto (front : List Char) (pieces : List (List Char)) :
    (onto front pieces).flatten = front ++ pieces.flatten := by
  cases pieces with
  | nil => rfl
  | cons piece more => simp only [onto_cons, List.flatten_cons, List.append_assoc]

/-- The stretches between separators are those of the library's own splitting. -/
theorem pieces_eq_splitOnP (sep : Char → Bool) (cs : List Char) :
    pieces sep cs = cs.splitOnP sep := by
  induction cs with
  | nil => rfl
  | cons c rest ih =>
      obtain ⟨piece, more, hmore⟩ := List.exists_cons_of_ne_nil (pieces_ne_nil sep rest)
      rw [List.splitOnP_cons_eq_if_modifyHead, ← ih, pieces, hmore]
      rfl

theorem pieces_eq_splitOn (sep : Char) (cs : List Char) :
    pieces (· == sep) cs = cs.splitOn sep := pieces_eq_splitOnP _ cs

/-- A piece has characters of the text in it, and no separator. -/
theorem mem_of_mem_pieces {sep : Char → Bool} {cs piece : List Char} {c : Char}
    (hpiece : piece ∈ pieces sep cs) (hc : c ∈ piece) : c ∈ cs ∧ sep c = false := by
  induction cs generalizing piece with
  | nil =>
      rw [pieces, List.mem_singleton] at hpiece
      subst hpiece
      cases hc
  | cons d rest ih =>
      have hrest : ∀ {q : List Char}, q ∈ pieces sep rest → c ∈ q → c ∈ d :: rest ∧ sep c = false :=
        fun hq hcq => ⟨List.mem_cons_of_mem d (ih hq hcq).1, (ih hq hcq).2⟩
      obtain ⟨first, more, hmore⟩ := List.exists_cons_of_ne_nil (pieces_ne_nil sep rest)
      rw [pieces, hmore] at hpiece
      rw [hmore] at hrest
      split at hpiece
      · rcases List.mem_cons.1 hpiece with rfl | hpiece
        · cases hc
        · exact hrest hpiece hc
      · rename_i hsep
        rcases List.mem_cons.1 hpiece with rfl | hpiece
        · rcases List.mem_cons.1 hc with rfl | hc
          · exact ⟨List.mem_cons_self, Bool.eq_false_iff.2 hsep⟩
          · exact hrest List.mem_cons_self hc
        · exact hrest (List.mem_cons_of_mem first hpiece) hc

/-! ## Searching -/

section Searching

variable {p : Char → Bool}

theorem breakAt?_eq_none {cs : List Char} (h : ∀ c ∈ cs, p c = false) : breakAt? p cs = none := by
  induction cs with
  | nil => rfl
  | cons c rest ih =>
      rw [breakAt?, h c List.mem_cons_self, ih fun d hd => h d (List.mem_cons_of_mem c hd)]
      rfl

theorem breakAt?_append {front : List Char} {c : Char} (hfront : ∀ d ∈ front, p d = false)
    (hc : p c = true) (rest : List Char) :
    breakAt? p (front ++ c :: rest) = some (front, c, rest) := by
  induction front with
  | nil => rw [List.nil_append, breakAt?, if_pos hc]
  | cons d front ih =>
      rw [List.cons_append, breakAt?, hfront d List.mem_cons_self,
        ih fun e he => hfront e (List.mem_cons_of_mem d he)]
      rfl

/-- A text is cut where it is cut with more text behind it that has nowhere to be cut. -/
theorem breakAt?_append_back {back : List Char} (hback : ∀ d ∈ back, p d = false)
    (cs : List Char) :
    breakAt? p (cs ++ back) =
      (breakAt? p cs).map fun (front, c, rest) => (front, c, rest ++ back) := by
  induction cs with
  | nil => rw [List.nil_append, breakAt?_eq_none hback, breakAt?, Option.map_none]
  | cons d cs ih =>
      rw [List.cons_append, breakAt?, breakAt?, ih]
      split
      · rfl
      · cases breakAt? p cs <;> rfl

theorem eq_append_of_breakAt? {cs front rest : List Char} {c : Char}
    (h : breakAt? p cs = some (front, c, rest)) : cs = front ++ c :: rest := by
  induction cs generalizing front with
  | nil => cases h
  | cons d cs ih =>
      rw [breakAt?] at h
      split at h
      · cases h
        rfl
      · obtain ⟨⟨before, e, after⟩, hcut, heq⟩ := Option.map_eq_some_iff.1 h
        cases heq
        rw [ih hcut, List.cons_append]

end Searching

theorem after?_append (front cs : List Char) : after? front (front ++ cs) = some cs := by
  induction front with
  | nil => rfl
  | cons c front ih => rw [List.cons_append, after?, if_pos (beq_self_eq_true c), ih]

theorem eq_append_of_after? {front cs rest : List Char} (h : after? front cs = some rest) :
    cs = front ++ rest := by
  fun_induction after? front cs with
  | case1 => exact Option.some.inj h
  | case2 => cases h
  | case3 p front c cs hc ih => rw [beq_iff_eq.1 hc, ih h, List.cons_append]
  | case4 => cases h

theorem after?_eq_none {front cs : List Char} (h : ¬ front <+: cs) : after? front cs = none := by
  cases hrest : after? front cs with
  | none => rfl
  | some rest => exact absurd ⟨rest, (eq_append_of_after? hrest).symm⟩ h

theorem before?_append (cs back : List Char) : before? back (cs ++ back) = some cs := by
  rw [before?, List.reverse_append, after?_append, Option.map_some, List.reverse_reverse]

/-! ## Trimming -/

section Trimming

variable {cs back front : List Char}

/-- The text ends with a character that is no blank. -/
def EndsSolid (cs : List Char) : Prop := ∃ rest c, cs = rest ++ [c] ∧ isBlank c = false

theorem EndsSolid.append (h : EndsSolid cs) (front : List Char) : EndsSolid (front ++ cs) := by
  obtain ⟨rest, c, rfl, hc⟩ := h
  exact ⟨front ++ rest, c, (List.append_assoc front rest [c]).symm, hc⟩

theorem EndsSolid.of_append (h : EndsSolid (front ++ cs)) (hne : cs ≠ []) : EndsSolid cs := by
  obtain ⟨rest, c, heq, hc⟩ := h
  have hlast := List.getLast?_eq_some_iff.2 ⟨rest, heq⟩
  rw [List.getLast?_append, List.getLast?_eq_some_getLast hne, Option.some_or,
    ← List.getLast?_eq_some_getLast hne] at hlast
  obtain ⟨more, hmore⟩ := List.getLast?_eq_some_iff.1 hlast
  exact ⟨more, c, hmore, hc⟩

theorem trimRight_begins (cs : List Char) : trimRight cs <+: cs := by
  have hsuffix := List.dropWhile_suffix (l := cs.reverse) isBlank
  unfold trimRight dropEndWhile
  rwa [← List.reverse_suffix, List.reverse_reverse]

theorem mem_head?_of_trimRight {c : Char} (h : c ∈ (trimRight cs).head?) : c ∈ cs.head? := by
  obtain ⟨more, hmore⟩ := trimRight_begins cs
  rw [← hmore, List.head?_append, Option.mem_def.1 h]
  rfl

/-- Only what follows the last solid character is trimmed behind. -/
theorem trimRight_append (h : EndsSolid cs) (back : List Char) :
    trimRight (cs ++ back) = cs ++ trimRight back := by
  obtain ⟨rest, c, rfl, hc⟩ := h
  have hstop : (rest ++ [c]).reverse.dropWhile isBlank = (rest ++ [c]).reverse := by
    rw [List.reverse_concat]
    exact List.dropWhile_cons_of_neg (Bool.eq_false_iff.1 hc)
  unfold trimRight dropEndWhile
  rw [List.reverse_append, List.dropWhile_append, hstop]
  cases hback : back.reverse.dropWhile isBlank with
  | nil => simp
  | cons d more => simp

theorem trimRight_solid (h : EndsSolid cs) : trimRight cs = cs := by
  have hnil : trimRight [] = [] := rfl
  have happend := trimRight_append h []
  rwa [hnil, List.append_nil] at happend

theorem trimLeft_append (h : EndsSolid cs) (back : List Char) :
    trimLeft (cs ++ back) = trimLeft cs ++ back := by
  obtain ⟨rest, c, rfl, hc⟩ := h
  have hsolid : ((rest ++ [c]).dropWhile isBlank).isEmpty = false := by
    rw [Bool.eq_false_iff]
    intro hempty
    have hall := List.dropWhile_eq_nil_iff.1 (List.isEmpty_iff.1 hempty)
    rw [hall c (by simp)] at hc
    cases hc
  unfold trimLeft
  rw [List.dropWhile_append, hsolid]
  rfl

theorem solid_trimLeft (h : EndsSolid cs) : EndsSolid (trimLeft cs) := by
  obtain ⟨rest, c, rfl, hc⟩ := h
  unfold trimLeft
  rw [List.dropWhile_append]
  split
  · rw [List.dropWhile_cons_of_neg (Bool.eq_false_iff.1 hc)]
    exact ⟨[], c, rfl, hc⟩
  · exact ⟨_, c, rfl, hc⟩

theorem trim_solid (h : EndsSolid cs) : trim cs = trimLeft cs := trimRight_solid (solid_trimLeft h)

theorem trimRight_append_blanks (hback : ∀ c ∈ back, isBlank c = true) (cs : List Char) :
    trimRight (cs ++ back) = trimRight cs := by
  unfold trimRight dropEndWhile
  rw [List.reverse_append,
    List.dropWhile_append_of_pos fun c hc => hback c (List.mem_reverse.1 hc)]

/-- Blanks around a text are trimmed away. -/
theorem trim_blanks (hfront : ∀ c ∈ front, isBlank c = true)
    (hback : ∀ c ∈ back, isBlank c = true) (cs : List Char) :
    trim (front ++ (cs ++ back)) = trim cs := by
  have hafter : back.dropWhile isBlank = [] := List.dropWhile_eq_nil_iff.2 hback
  have hleft : trimLeft (front ++ (cs ++ back)) = trimLeft cs ++ back ∨
      trimLeft (front ++ (cs ++ back)) = [] ∧ trimLeft cs = [] := by
    unfold trimLeft
    rw [List.dropWhile_append_of_pos hfront, List.dropWhile_append, hafter]
    cases cs.dropWhile isBlank with
    | nil => exact Or.inr ⟨rfl, rfl⟩
    | cons c rest => exact Or.inl rfl
  unfold trim
  rcases hleft with hleft | ⟨hleft, hnone⟩
  · rw [hleft, trimRight_append_blanks hback]
  · rw [hleft, hnone]

/-- The text neither begins nor ends with a blank, and it is not empty. -/
structure Unpadded (cs : List Char) : Prop where
  first : ∃ c rest, cs = c :: rest ∧ isBlank c = false
  last : ∃ rest c, cs = rest ++ [c] ∧ isBlank c = false

theorem trimLeft_unpadded (h : Unpadded cs) (back : List Char) :
    trimLeft (cs ++ back) = cs ++ back := by
  obtain ⟨c, rest, rfl, hc⟩ := h.first
  exact List.dropWhile_cons_of_neg (Bool.eq_false_iff.1 hc)

theorem trim_unpadded (h : Unpadded cs) : trim cs = cs := by
  have hleft := trimLeft_unpadded h []
  rw [List.append_nil] at hleft
  rw [trim_solid h.last, hleft]

/-- Behind a solid end, only blanks at the very end are trimmed. -/
theorem trim_unpadded_append (h : Unpadded cs) (back : List Char) :
    trim (cs ++ back) = cs ++ trimRight back := by
  rw [trim, trimLeft_unpadded h, trimRight_append h.last]

theorem trim_solid_append (h : EndsSolid cs) (hback : EndsSolid back) :
    trim (cs ++ back) = trim cs ++ back := by
  rw [trim_solid (hback.append cs), trimLeft_append h, trim_solid h]

theorem trim_sublist (cs : List Char) : (trim cs).Sublist cs :=
  (trimRight_begins (trimLeft cs)).sublist.trans (List.dropWhile_sublist isBlank)

theorem trim_padded (hfront : ∀ c ∈ front, isBlank c = true)
    (hback : ∀ c ∈ back, isBlank c = true) (h : Unpadded cs) :
    trim (front ++ (cs ++ back)) = cs := by
  rw [trim_blanks hfront hback, trim_unpadded h]

theorem trim_cons_blank {c : Char} (h : isBlank c = true) (cs : List Char) :
    trim (c :: cs) = trim cs := by
  rw [trim, trimLeft, List.dropWhile_cons_of_pos h]
  rfl

theorem solid_trimRight (cs : List Char) : trimRight cs = [] ∨ EndsSolid (trimRight cs) := by
  have hlast := List.head?_dropWhile_not isBlank cs.reverse
  unfold trimRight dropEndWhile
  cases hkept : cs.reverse.dropWhile isBlank with
  | nil => exact Or.inl rfl
  | cons c rest =>
      rw [hkept] at hlast
      exact Or.inr ⟨rest.reverse, c, List.reverse_cons, hlast⟩

/-- A text that trimming leaves alone neither begins nor ends with a blank. -/
theorem unpadded_of_trim (hne : cs ≠ []) (h : trim cs = cs) : Unpadded cs := by
  have hlast : EndsSolid cs := by
    have hends := solid_trimRight (trimLeft cs)
    unfold trim at h
    rw [h] at hends
    exact hends.resolve_left hne
  refine ⟨?_, hlast⟩
  have hfirst := List.head?_dropWhile_not isBlank cs
  rw [trim_solid hlast] at h
  unfold trimLeft at h
  rw [h] at hfirst
  obtain ⟨c, rest, rfl⟩ := List.exists_cons_of_ne_nil hne
  exact ⟨c, rest, rfl, hfirst⟩

end Trimming

end SchemaModel.Text
