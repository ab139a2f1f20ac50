import SchemaModel.Json.Reader
import SchemaModel.Json.Writer
import SchemaModel.Proofs.Decimal.Numerals
import Mathlib.Data.List.TakeDrop
import Mathlib.Tactic.SplitIfs

/-!
# `SchemaModel.Proofs.Json.Lexemes` — strings and numbers are read as written

## Contents
- **Strings.** `Text.piece` is the piece that an escaped character is read as. `pieces?_escape`
  reads one character back and `read?_quoted` a whole string, whatever stands behind its quote.
- **Numbers.** `Number.Whole`: an integer of at most 64 bits. `read?_render` reads the spelling of
  one, provided that what stands behind does not go on with it, and `number?_literal` its value.
-/

namespace SchemaModel.Json

/-! ## Strings -/

namespace Text

/-- The piece that a character inside quotes is read as: control characters without a letter of
their own are written as units. -/
def piece (c : Char) : Piece :=
  if c.toNat < 0x20 ∧ c ∉ ['\x08', '\x0c', '\n', '\r', '\t'] then .unit c.toNat else .char c

theorem hexDigits_value {n : Nat} (h : n < 0x20) :
    [ '0', '0', hexDigit (n / 16), hexDigit n].all Decimal.isHexDigit = true ∧
      Decimal.valueOf 16 ['0', '0', hexDigit (n / 16), hexDigit n] = n := by
  revert n
  decide

/-- A character that needs no escape is read as itself. -/
theorem pieces?_plain {c : Char} (hquote : c ≠ '"') (hslash : c ≠ '\\') (hprint : ¬c.toNat < 0x20)
    (rest : List Char) :
    pieces? (c :: rest) = (pieces? rest).map fun (ps, tail) => (.char c :: ps, tail) := by
  have hescapes : (decide (c.toNat < 0x20) || c == '\\') = false := by
    rw [decide_eq_false hprint, Bool.false_or, beq_eq_false_iff_ne]
    exact hslash
  rw [pieces?, hescapes]
  · rfl
  · exact hquote
  · exact fun _ _ _ _ _ h _ => hslash h
  · exact fun _ _ h _ => hslash h

theorem pieces?_unit {a b c d : Char} (h : [a, b, c, d].all Decimal.isHexDigit = true)
    (rest : List Char) :
    pieces? ('\\' :: 'u' :: a :: b :: c :: d :: rest) =
      (pieces? rest).map fun (ps, tail) =>
        (.unit (Decimal.valueOf 16 [a, b, c, d]) :: ps, tail) := by
  rw [pieces?, if_pos h]

/-- A character inside quotes is read as one piece. -/
theorem pieces?_escape (c : Char) (rest : List Char) :
    pieces? (escape c ++ rest) = (pieces? rest).map fun (ps, tail) => (piece c :: ps, tail) := by
  unfold escape
  -- The characters with a letter of their own are closed terms; the other two cases are not.
  split_ifs with h1 h2 h3 h4 h5 h6 h7 hcontrol
  iterate 7 · cases beq_iff_eq.1 ‹_›; rfl
  · have hpiece : piece c = .unit c.toNat := by
      unfold piece
      rw [if_pos ⟨hcontrol, by simp_all⟩]
    obtain ⟨hdigits, hvalue⟩ := hexDigits_value hcontrol
    have hread := pieces?_unit hdigits rest
    rw [hvalue] at hread
    rw [hpiece]
    exact hread
  · have hpiece : piece c = .char c := if_neg fun h => hcontrol h.1
    rw [hpiece]
    exact pieces?_plain (fun h => h1 (beq_iff_eq.2 h)) (fun h => h2 (beq_iff_eq.2 h)) hcontrol rest

theorem pieces?_quoted (cs rest : List Char) :
    pieces? (cs.flatMap escape ++ '"' :: rest) = some (cs.map piece, rest) := by
  induction cs with
  | nil => rfl
  | cons c cs ih =>
      rw [List.flatMap_cons, List.append_assoc, pieces?_escape, ih]
      rfl

/-- A unit that is no half of a pair stands for a character. -/
theorem joined?_unit {n : Nat} (h : n < 0xD800) (ps : List Piece) :
    joined? (.unit n :: ps) = (joined? ps).map (Char.ofNat n :: ·) := by
  have hhigh : ∀ last, ¬(decide (0xD800 ≤ n) && decide (n < last)) = true := by
    intro last
    rw [decide_eq_false (by omega), Bool.false_and]
    exact Bool.false_ne_true
  match ps with
  | [] => exact if_neg (hhigh _)
  | .char c :: ps =>
      calc joined? (.unit n :: .char c :: ps)
          = (joined? ps).map (Char.ofNat n :: c :: ·) := if_neg (hhigh _)
        _ = (joined? (.char c :: ps)).map (Char.ofNat n :: ·) := by
            rw [joined?, Option.map_map]
            rfl
  | .unit m :: ps =>
      have hlow : ¬(decide (0xDC00 ≤ n) && decide (n < 0xE000)) = true := by
        rw [decide_eq_false (by omega), Bool.false_and]
        exact Bool.false_ne_true
      exact (if_neg (hhigh _)).trans (if_neg hlow)

theorem joined?_piece (c : Char) (ps : List Piece) :
    joined? (piece c :: ps) = (joined? ps).map (c :: ·) := by
  unfold piece
  split_ifs with hcontrol
  · rw [joined?_unit (by omega), Char.ofNat_toNat]
  · rw [joined?]

theorem joined?_pieces (cs : List Char) : joined? (cs.map piece) = some cs := by
  induction cs with
  | nil => rfl
  | cons c cs ih =>
      rw [List.map_cons, joined?_piece, ih]
      rfl

/-- A text in quotes is read as it was written. -/
theorem read?_quoted (s : String) (rest : List Char) :
    read? (s.toList.flatMap escape ++ '"' :: rest) = some (.text s, rest) := by
  rw [read?, pieces?_quoted]
  simp only [Option.map_some, joined?_pieces, String.ofList_toList]

end Text

/-! ## Numbers -/

/-- An integer of at most 64 bits. -/
def Number.Whole : Number → Prop
  | .int n => -(Nat.pow 2 63 : Int) ≤ n ∧ n < (Nat.pow 2 64 : Int)
  | .double _ => False

namespace Literal

/-- What stands behind a number does not go on with it. -/
def Ends (rest : List Char) : Prop :=
  ∀ c ∈ rest.head?, Decimal.isDigit c = false ∧ c ∉ ['.', 'e', 'E']

/-- The literal that spells an integer. -/
def ofInt (n : Int) : Literal := ⟨decide (n < 0), Decimal.numeral n.natAbs, [], none⟩

theorem digits_append {ds rest : List Char} (hds : ∀ c ∈ ds, Decimal.isDigit c = true)
    (hrest : ∀ c ∈ rest.head?, Decimal.isDigit c = false) : digits (ds ++ rest) = (ds, rest) := by
  unfold digits
  rw [List.span_eq_takeWhile_dropWhile, List.takeWhile_append_of_pos hds,
    List.dropWhile_append_of_pos hds]
  cases rest with
  | nil => simp
  | cons c rest =>
      have hc := hrest c rfl
      simp [hc]

theorem fraction?_of_ends {rest : List Char} (h : Ends rest) :
    fraction? rest = some ([], rest) := by
  unfold fraction?
  split
  · exact absurd List.mem_cons_self (h '.' rfl).2
  · rfl

theorem exponent?_of_ends {rest : List Char} (h : Ends rest) :
    exponent? rest = some (none, rest) := by
  cases rest with
  | nil => rfl
  | cons c rest =>
      have hc : ¬(c == 'e' || c == 'E') = true := by
        have hne := (h c rfl).2
        simp_all
      exact if_neg hc

/-- A number in front of the text whose sign has been read. -/
def unsigned? (negative : Bool) (cs : List Char) : Option (Literal × List Char) := do
  let (whole, cs) := digits cs
  if whole.isEmpty || (1 < whole.length && whole.head? == some '0') then none
  else
    let (fraction, cs) ← fraction? cs
    let (exponent, cs) ← exponent? cs
    return (⟨negative, whole, fraction, exponent⟩, cs)

theorem read?_minus (cs : List Char) : read? ('-' :: cs) = unsigned? true cs := rfl

theorem read?_of_head {cs : List Char} (h : cs.head? ≠ some '-') :
    read? cs = unsigned? false cs := by
  have hsign : ∀ rest, cs ≠ '-' :: rest := fun rest hcs => h (hcs ▸ rfl)
  unfold read?
  split
  rename_i hread
  split at hread
  · exact absurd rfl (hsign _)
  · cases hread
    rfl

/-- A numeral is read when what stands behind ends it. -/
theorem unsigned?_numeral (negative : Bool) (n : Nat) {rest : List Char} (h : Ends rest) :
    unsigned? negative (Decimal.numeral n ++ rest) =
      some (⟨negative, Decimal.numeral n, [], none⟩, rest) := by
  have hdigits : digits (Decimal.numeral n ++ rest) = (Decimal.numeral n, rest) :=
    digits_append (fun _ => Decimal.isDigit_of_mem_numeral) fun c hc => (h c hc).1
  have hstart : ((Decimal.numeral n).isEmpty || (decide (1 < (Decimal.numeral n).length) &&
      (Decimal.numeral n).head? == some '0')) = false := by
    rw [Bool.or_eq_false_iff, List.isEmpty_eq_false_iff]
    refine ⟨Decimal.numeral_ne_nil n, ?_⟩
    rcases Nat.eq_zero_or_pos n with rfl | hpos
    · rfl
    · rw [Bool.and_eq_false_iff]
      exact Or.inr (beq_eq_false_iff_ne.2 (Decimal.head?_numeral hpos))
  unfold unsigned?
  rw [hdigits]
  simp only [hstart, Bool.false_eq_true, if_false, fraction?_of_ends h, Option.bind_eq_bind,
    Option.bind_some, exponent?_of_ends h]
  rfl

/-- The spelling of an integer is read as its literal. -/
theorem read?_signedNumeral (n : Int) {rest : List Char} (h : Ends rest) :
    read? (Decimal.signedNumeral n ++ rest) = some (ofInt n, rest) := by
  unfold Decimal.signedNumeral ofInt
  split_ifs with hn
  · rw [List.cons_append, read?_minus, unsigned?_numeral true _ h, decide_eq_true hn]
  · have hhead : (Decimal.numeral n.natAbs ++ rest).head? ≠ some '-' := by
      rw [List.head?_append, List.head?_eq_some_head (Decimal.numeral_ne_nil _)]
      intro hminus
      have hdigit :=
        Decimal.isDigit_of_mem_numeral (List.head_mem (Decimal.numeral_ne_nil n.natAbs))
      rw [Option.some.inj hminus] at hdigit
      cases hdigit
    rw [read?_of_head hhead, unsigned?_numeral false _ h, decide_eq_false hn]

/-- The value of digits is at least that of those before them. -/
theorem le_foldl_digits (ds : List Char) (start : Nat) :
    start ≤ ds.foldl (fun n c => n * 10 + Decimal.digitValue c) start := by
  induction ds generalizing start with
  | nil => exact Nat.le_refl start
  | cons d ds ih => exact Nat.le_trans (by omega) (ih (start * 10 + Decimal.digitValue d))

/-- Digits are taken up as long as what they name fits. -/
theorem absorb_of_lt {ds : List Char} {start : Nat}
    (h : ds.foldl (fun n c => n * 10 + Decimal.digitValue c) start < Nat.pow 2 64) :
    absorb start ds = (ds.foldl (fun n c => n * 10 + Decimal.digitValue c) start, []) := by
  induction ds generalizing start with
  | nil => rfl
  | cons d ds ih =>
      have hnext : start * 10 + Decimal.digitValue d < Nat.pow 2 64 :=
        Nat.lt_of_le_of_lt (le_foldl_digits ds _) h
      rw [absorb, if_pos hnext]
      exact ih h

/-- The literal of an integer of at most 64 bits has it as its value. -/
theorem number?_ofInt {n : Int} (h : Number.Whole (.int n)) :
    (ofInt n).number? = some (.int n) := by
  obtain ⟨(hlow : -9223372036854775808 ≤ n), (hhigh : n < 18446744073709551616)⟩ := h
  have hvalue : absorb 0 (Decimal.numeral n.natAbs) = (n.natAbs, []) := by
    have hnumeral := Decimal.valueOf_numeral n.natAbs
    unfold Decimal.valueOf at hnumeral
    have hfits : n.natAbs < 18446744073709551616 := by omega
    rw [absorb_of_lt (hnumeral.symm ▸ hfits), hnumeral]
  unfold number? ofInt
  simp only [hvalue, List.isEmpty_nil, Option.isNone_none, Bool.and_true, if_true]
  by_cases hn : n < 0
  · have hbounds : (decide (0 < n.natAbs) && decide (n.natAbs ≤ Nat.pow 2 63)) = true := by
      rw [Bool.and_eq_true, decide_eq_true_eq, decide_eq_true_eq]
      exact ⟨by omega, show n.natAbs ≤ 9223372036854775808 by omega⟩
    rw [decide_eq_true hn, hbounds]
    have hneg : -(n.natAbs : Int) = n := by omega
    simp only [Bool.not_true, Bool.false_eq_true, if_false, if_true, hneg]
  · have hpos : (n.natAbs : Int) = n := by omega
    rw [decide_eq_false hn]
    simp only [Bool.not_false, if_true, hpos]

end Literal

end SchemaModel.Json
