import SchemaModel.Time.Rfc3339
import SchemaModel.Proofs.Decimal.Numerals
import Mathlib.Tactic.SplitIfs

/-!
# `SchemaModel.Proofs.Time.Rfc3339` — times are read as written

The text of an instant has four digits for the year from 0 to 9999; outside of these years it has a
sign. Every other part has two digits, and the fraction of a second three, six or nine, or none.

## Contents
- `number?_padded`: digits are read as the number that they were padded from.
- `fraction?_fractionText`: so is the fraction of a second.
- `read?_write`: the instant is read back, a leap second among them.
-/

namespace SchemaModel.Time

open Decimal

variable {rest : List Char}

/-! ## Digits -/

theorem isBlank_of_isDigit {c : Char} (h : isDigit c = true) : Text.isBlank c = false := by
  rw [isDigit_iff] at h
  have hascii : Text.isAscii c = true := decide_eq_true (by omega)
  have hspace : c ≠ ' ' := by
    rintro rfl
    exact absurd h.1 (by decide)
  have hcontrol : ¬c ≤ '\x0d' := fun hle => absurd (Nat.le_trans h.1 hle) (by decide)
  unfold Text.isBlank
  rw [if_pos hascii, beq_eq_false_iff_ne.2 hspace, decide_eq_false hcontrol, Bool.and_false]
  rfl

theorem trimLeft_digit {c : Char} (h : isDigit c = true) (cs : List Char) :
    Text.trimLeft (c :: cs) = c :: cs :=
  List.dropWhile_cons_of_neg (Bool.eq_false_iff.1 (isBlank_of_isDigit h))

theorem trimLeft_padded (width n : Nat) :
    Text.trimLeft (padded width n ++ rest) = padded width n ++ rest := by
  obtain ⟨d, ds, hds, hd⟩ := padded_eq_cons width n
  rw [hds]
  exact trimLeft_digit hd _

/-- Digits are taken up to the width, or up to a character that is none. -/
theorem digits_append {ds : List Char} {width : Nat} (hds : ∀ c ∈ ds, isDigit c = true)
    (hlength : ds.length ≤ width)
    (hend : ds.length = width ∨ ∀ c ∈ rest.head?, isDigit c = false) :
    digits width (ds ++ rest) = (ds, rest) := by
  induction ds generalizing width with
  | nil =>
      cases width with
      | zero => rfl
      | succ width =>
          have hstop := hend.resolve_left (by simp)
          cases rest with
          | nil => rfl
          | cons c rest => exact if_neg (Bool.eq_false_iff.1 (hstop c rfl))
  | cons d ds ih =>
      cases width with
      | zero => cases hlength
      | succ width =>
          have hread := ih (fun c hc => hds c (List.mem_cons_of_mem d hc))
            (Nat.le_of_succ_le_succ hlength) (hend.imp_left Nat.succ.inj)
          rw [List.cons_append, digits, if_pos (hds d List.mem_cons_self), hread]

theorem number?_padded {width n : Nat} (hwidth : 0 < width) (h : n < Nat.pow 10 width) :
    number? width (padded width n ++ rest) = some (n, rest) := by
  have hlength := length_padded hwidth h
  have hread : digits width (padded width n ++ rest) = (padded width n, rest) :=
    digits_append (fun _ => isDigit_of_mem_padded) (Nat.le_of_eq hlength) (Or.inl hlength)
  unfold number?
  simp only [hread, isEmpty_padded, Bool.false_eq_true, if_false, valueOf_padded]

theorem spacedNumber?_padded {n : Nat} (h : n < 100) :
    spacedNumber? 2 (padded 2 n ++ rest) = some (n, rest) := by
  unfold spacedNumber?
  rw [trimLeft_padded, number?_padded (by decide) h]

theorem year?_padded {n : Nat} (h : n < 10000) :
    year? (padded 4 n ++ rest) = some ((n : Int), rest) := by
  obtain ⟨d, ds, hds, hd⟩ := padded_eq_cons 4 n
  have hread : number? 4 (padded 4 n ++ rest) = some (n, rest) := number?_padded (by decide) h
  unfold year?
  rw [trimLeft_padded]
  rw [hds] at hread ⊢
  split
  case h_1 heq =>
    rw [(List.cons.inj heq).1] at hd
    cases hd
  case h_2 heq =>
    rw [(List.cons.inj heq).1] at hd
    cases hd
  case h_3 =>
    rw [hread]
    rfl

/-! ## Parts of a time -/

theorem literal?_self {mark : Char} (h : Text.isBlank mark = false) :
    literal? mark (mark :: rest) = some rest := by
  have htrim : Text.trimLeft (mark :: rest) = mark :: rest :=
    List.dropWhile_cons_of_neg (Bool.eq_false_iff.1 h)
  unfold literal?
  rw [htrim]
  exact if_pos (beq_self_eq_true mark)

/-- A fraction of some digits counts as many of the last places as it has digits less than nine. -/
theorem fraction?_padded {width n : Nat} (hwidth : 0 < width) (hnine : width ≤ 9)
    (h : n < Nat.pow 10 width) :
    fraction? ('.' :: padded width n ++ ['Z']) = some (n * Nat.pow 10 (9 - width), ['Z']) := by
  have hlength := length_padded hwidth h
  have hread : digits 9 (padded width n ++ ['Z']) = (padded width n, ['Z']) :=
    digits_append (fun _ => isDigit_of_mem_padded) (by omega) (Or.inr fun c hc => by
      cases hc
      rfl)
  rw [List.cons_append, fraction?]
  simp only [hread, isEmpty_padded, Bool.false_eq_true, if_false, valueOf_padded, hlength]
  rfl

/-- The fraction of a second is read up to the letter behind it. -/
theorem fraction?_fractionText {nano : Nat} (h : nano < 1000000000) :
    fraction? (fractionText nano ++ ['Z']) = some (nano, ['Z']) := by
  unfold fractionText
  split_ifs with hzero hmilli hmicro
  · rw [beq_iff_eq.1 hzero]
    rfl
  · have hback : nano / 1000000 * Nat.pow 10 (9 - 3) = nano :=
      Nat.div_mul_cancel (Nat.dvd_of_mod_eq_zero (beq_iff_eq.1 hmilli))
    rw [fraction?_padded (by decide) (by decide) (show nano / 1000000 < 1000 by omega), hback]
  · have hback : nano / 1000 * Nat.pow 10 (9 - 6) = nano :=
      Nat.div_mul_cancel (Nat.dvd_of_mod_eq_zero (beq_iff_eq.1 hmicro))
    rw [fraction?_padded (by decide) (by decide) (show nano / 1000 < 1000000 by omega), hback]
  · have hback : nano * Nat.pow 10 (9 - 9) = nano := Nat.mul_one nano
    rw [fraction?_padded (by decide) (by decide) h, hback]

/-! ## Instants -/

/-- The parts of an instant lie within their bounds. -/
theorem Instant.bounds (t : Instant) :
    t.month < 100 ∧ t.day < 100 ∧ t.hour < 24 ∧ t.minute < 60 ∧ t.second < 60 ∧
      (t.nano < 1000000000 ∨ t.second = 59 ∧ t.nano < 2000000000) := by
  have hdate := t.exists_date
  have htime := t.exists_time
  have hdays : daysInMonth t.year t.month ≤ 31 := by
    unfold daysInMonth
    split_ifs <;> decide
  simp only [isDate, isTimeOfDay, Bool.and_eq_true, Bool.or_eq_true, decide_eq_true_eq,
    beq_iff_eq] at hdate htime
  omega

/-- A reading goes on with what its first part reads. -/
theorem bind_of_eq_some {α β : Type} {x : Option α} {f : α → Option β} {a : α} {b : Option β}
    (hx : x = some a) (hf : f a = b) : x.bind f = b := by
  rw [hx]
  exact hf

/-- The parts of a time in UTC, written one after the other, are read as they were written. The
sixtieth second is the last one of its minute, and lasts a second longer. -/
theorem readChars?_parts {year month day hour minute second nano : Nat} (hyear : year < 10000)
    (hmonth : month < 100) (hday : day < 100) (hhour : hour < 100) (hminute : minute < 100)
    (hsecond : second < 100) (hnano : nano < 1000000000) :
    readChars? (padded 4 year ++ '-' :: padded 2 month ++ '-' :: padded 2 day ++ 'T' ::
        padded 2 hour ++ ':' :: padded 2 minute ++ ':' :: padded 2 second ++ fractionText nano ++
        ['Z']) =
      if second = 60 then Instant.make? year month day hour minute 59 (nano + 1000000000)
      else Instant.make? year month day hour minute second nano := by
  have hdash : Text.isBlank '-' = false := rfl
  have hcolon : Text.isBlank ':' = false := rfl
  have hzone : offset? (Text.trimLeft ['Z']) = some (0, []) := rfl
  have hshift : (fun instant : Instant => instant.shifted? (-0)) = some := rfl
  simp only [List.append_assoc, List.cons_append]
  refine bind_of_eq_some (year?_padded hyear) <|
    bind_of_eq_some (literal?_self hdash) <|
    bind_of_eq_some (spacedNumber?_padded hmonth) <|
    bind_of_eq_some (literal?_self hdash) <|
    bind_of_eq_some (spacedNumber?_padded hday) <|
    bind_of_eq_some (spacedNumber?_padded hhour) <|
    bind_of_eq_some (literal?_self hcolon) <|
    bind_of_eq_some (spacedNumber?_padded hminute) <|
    bind_of_eq_some (literal?_self hcolon) <|
    bind_of_eq_some (spacedNumber?_padded hsecond) <|
    bind_of_eq_some (fraction?_fractionText hnano) <|
    bind_of_eq_some hzone <| (if_neg (by decide)).trans ?_
  simp only [hshift, Option.bind_eq_bind, Option.bind_fun_some, beq_iff_eq]

/-- An instant of the years 0 to 9999 is read as it was written. -/
theorem read?_write {t : Instant} (hfirst : 0 ≤ t.year) (hlast : t.year ≤ 9999) :
    read? (write t) = some t := by
  obtain ⟨hmonth, hday, hhour, hminute, hsecond, hnano⟩ := t.bounds
  have hyear : yearText t.year = padded 4 t.year.natAbs := if_pos (by
    rw [Bool.and_eq_true, decide_eq_true_eq, decide_eq_true_eq]
    exact ⟨hfirst, hlast⟩)
  have hvalue : (t.year.natAbs : Int) = t.year := Int.natAbs_of_nonneg hfirst
  unfold read? write writeChars
  rw [String.toList_ofList, hyear]
  by_cases hleap : t.nano < 1000000000
  · simp only [if_pos hleap, Nat.zero_mul, Nat.sub_zero, Nat.add_zero]
    rw [readChars?_parts (by omega) hmonth hday (by omega) (by omega) (by omega) hleap,
      if_neg (by omega), hvalue]
    exact t.make?_self
  · obtain ⟨hsecond, hnano⟩ := hnano.resolve_left hleap
    have hlonger : t.nano - 1000000000 + 1000000000 = t.nano := by omega
    simp only [if_neg hleap, Nat.one_mul, hsecond]
    rw [readChars?_parts (by omega) hmonth hday (by omega) (by omega) (by omega) (by omega),
      if_pos rfl, hvalue, hlonger, ← hsecond]
    exact t.make?_self

end SchemaModel.Time
