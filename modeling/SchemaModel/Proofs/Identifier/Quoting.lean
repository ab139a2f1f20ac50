import SchemaModel.Engine
import Mathlib.Tactic.SplitIfs

/-!
# `SchemaModel.Proofs.Identifier.Quoting` — what quoted names say

Quoting checks a name and writes it between marks, where the closing mark is doubled. A reader that
follows the marks gets the name back, whatever stands behind it, so different names have different
quoted forms.

## Contents
- `Refused`: the check refuses a name; it accepts those that are `Valid`. `quote_eq_ok`,
  `qualify_eq_ok`: quoting succeeds with the delimited form exactly when it refuses none.
- `unwrap?`: the reader. `unwrap?_double`: it takes a doubled text up to the closing mark that
  stands alone. `eq_double_of_unwrap?`: what it takes was such a text.
- `double_append_inj`: a doubled text and what stands behind its closing mark are determined.
- `delimited_append_inj`: so are a schema and a name, by their delimited forms joined by a point.
-/

namespace SchemaModel.Identifier

variable {marks : Marks} {schema name : String}

/-! ## Success -/

/-- The check refuses the name. -/
def Refused (name : String) : Prop := ∃ e, check name = .error e

theorem not_refused : ¬Refused name ↔ check name = .ok () := by
  unfold Refused
  rw [Outcome.isError_iff, Classical.not_not]
  exact ⟨fun ⟨_, h⟩ => h, fun h => ⟨(), h⟩⟩

/-- A name that can be quoted: it is not empty, has no NUL and takes at most 128 bytes. -/
def Valid (name : String) : Prop :=
  name ≠ "" ∧ '\x00' ∉ name.toList ∧ name.utf8ByteSize ≤ 128

instance (name : String) : Decidable (Valid name) := inferInstanceAs (Decidable (_ ∧ _))

theorem not_refused_iff : ¬Refused name ↔ Valid name := by
  rw [not_refused]
  unfold check Valid
  split_ifs with hempty hnul hlong
  · exact iff_of_false nofun fun h => h.1 (beq_iff_eq.1 hempty)
  · exact iff_of_false nofun fun h => h.2.1 (List.contains_iff_mem.1 hnul)
  · exact iff_of_false nofun fun h => Nat.not_lt.2 h.2.2 hlong
  · exact iff_of_true rfl ⟨fun h => hempty (beq_iff_eq.2 h),
      fun h => hnul (List.contains_iff_mem.2 h), Nat.not_lt.1 hlong⟩

theorem quote_eq_ok {quoted : String} :
    quote marks name = .ok quoted ↔ ¬Refused name ∧ quoted = wrap marks name := by
  unfold quote
  rw [Outcome.bind_eq_ok, not_refused]
  constructor
  · rintro ⟨_, hcheck, h⟩
    exact ⟨hcheck, (Except.ok.inj h).symm⟩
  · rintro ⟨hcheck, rfl⟩
    exact ⟨(), hcheck, rfl⟩

/-- A schema and a name between marks, joined by a point. -/
def delimited (marks : Marks) (schema name : String) : String :=
  wrap marks schema ++ "." ++ wrap marks name

theorem qualify_eq_ok {quoted : String} :
    qualify marks schema name = .ok quoted ↔
      (¬Refused schema ∧ ¬Refused name) ∧ quoted = delimited marks schema name := by
  unfold qualify
  rw [Outcome.bind_eq_ok]
  constructor
  · rintro ⟨_, hs, h⟩
    obtain ⟨_, hn, h⟩ := Outcome.bind_eq_ok.1 h
    obtain ⟨hschema, rfl⟩ := quote_eq_ok.1 hs
    obtain ⟨hname, rfl⟩ := quote_eq_ok.1 hn
    exact ⟨⟨hschema, hname⟩, (Except.ok.inj h).symm⟩
  · rintro ⟨⟨hschema, hname⟩, rfl⟩
    exact ⟨_, quote_eq_ok.2 ⟨hschema, rfl⟩,
      Outcome.bind_eq_ok.2 ⟨_, quote_eq_ok.2 ⟨hname, rfl⟩, rfl⟩⟩

/-! ## Reading back -/

theorem double_cons_self (mark : Char) (cs : List Char) :
    Text.double mark (mark :: cs) = mark :: mark :: Text.double mark cs :=
  if_pos (beq_self_eq_true mark)

theorem double_cons_of_ne {mark c : Char} (h : c ≠ mark) (cs : List Char) :
    Text.double mark (c :: cs) = c :: Text.double mark cs :=
  if_neg fun hc => h (beq_iff_eq.1 hc)

theorem double_of_not_mem {mark : Char} {cs : List Char} (h : mark ∉ cs) :
    Text.double mark cs = cs := by
  induction cs with
  | nil => rfl
  | cons c cs ih =>
      rw [List.mem_cons, not_or] at h
      rw [double_cons_of_ne (Ne.symm h.1), ih h.2]

/-- The name before the closing mark that stands alone, and what stands behind it; two closing marks
are one that belongs to the name. The text starts behind the opening mark. -/
def unwrap? (mark : Char) : List Char → Option (List Char × List Char)
  | [] => none
  | c :: rest =>
    if c = mark then
      match rest with
      | [] => some ([], [])
      | d :: behind =>
        if d = mark then (unwrap? mark behind).map fun (name, tail) => (mark :: name, tail)
        else some ([], d :: behind)
    else (unwrap? mark rest).map fun (name, tail) => (c :: name, tail)

section Unwrap

variable {mark : Char} {tail : List Char}

theorem unwrap?_cons_of_ne {c : Char} (h : c ≠ mark) (rest : List Char) :
    unwrap? mark (c :: rest) =
      (unwrap? mark rest).map fun (name, tail) => (c :: name, tail) := by
  cases rest <;> exact if_neg h

theorem unwrap?_twice (rest : List Char) :
    unwrap? mark (mark :: mark :: rest) =
      (unwrap? mark rest).map fun (name, tail) => (mark :: name, tail) :=
  (if_pos rfl).trans (if_pos rfl)

/-- A closing mark ends the name when no second one follows. -/
theorem unwrap?_closing (h : tail.head? ≠ some mark) :
    unwrap? mark (mark :: tail) = some ([], tail) := by
  cases tail with
  | nil => exact if_pos rfl
  | cons d behind => exact (if_pos rfl).trans (if_neg fun hd => h (congrArg some hd))

/-- A doubled text is read back up to its closing mark. -/
theorem unwrap?_double (h : tail.head? ≠ some mark) (cs : List Char) :
    unwrap? mark (Text.double mark cs ++ mark :: tail) = some (cs, tail) := by
  induction cs with
  | nil => exact unwrap?_closing h
  | cons c cs ih =>
      by_cases hc : c = mark
      · rw [hc, double_cons_self, List.cons_append, List.cons_append, unwrap?_twice, ih]
        rfl
      · rw [double_cons_of_ne hc, List.cons_append, unwrap?_cons_of_ne hc, ih]
        rfl

/-- What is read was written as a doubled text with a closing mark that stands alone. -/
theorem eq_double_of_unwrap? {text name : List Char} (h : unwrap? mark text = some (name, tail)) :
    text = Text.double mark name ++ mark :: tail ∧ tail.head? ≠ some mark := by
  fun_induction unwrap? mark text generalizing name with
  | case1 => cases h
  | case2 =>
      cases h
      exact ⟨rfl, nofun⟩
  | case3 behind ih =>
      obtain ⟨_, hread, heq⟩ := Option.map_eq_some_iff.1 h
      cases heq
      obtain ⟨rfl, hlone⟩ := ih hread
      exact ⟨by rw [double_cons_self]; rfl, hlone⟩
  | case4 d behind hd =>
      cases h
      exact ⟨rfl, fun hsome => hd (Option.some.inj hsome)⟩
  | case5 c rest hc ih =>
      obtain ⟨_, hread, heq⟩ := Option.map_eq_some_iff.1 h
      cases heq
      obtain ⟨rfl, hlone⟩ := ih hread
      exact ⟨by rw [double_cons_of_ne hc]; rfl, hlone⟩

/-- A text between marks ends where the closing mark stands alone. -/
theorem double_append_inj {a b tail' : List Char}
    (h : Text.double mark a ++ mark :: tail = Text.double mark b ++ mark :: tail')
    (htail : tail.head? ≠ some mark) (htail' : tail'.head? ≠ some mark) : a = b ∧ tail = tail' := by
  have hread := unwrap?_double htail a
  rw [h, unwrap?_double htail' b] at hread
  exact Prod.mk.inj (Option.some.inj hread).symm

end Unwrap

theorem toList_wrap (name : String) :
    (wrap marks name).toList =
      marks.opening :: Text.double marks.closing name.toList ++ [marks.closing] :=
  String.toList_ofList

/-- The point between a schema and a name is no mark of an engine. -/
theorem point_ne_closing {engine : Engine} : engine.marks.closing ≠ '.' := by
  cases engine <;> decide

theorem toList_delimited :
    (delimited marks schema name).toList =
      marks.opening :: (Text.double marks.closing schema.toList ++ marks.closing :: '.' ::
        marks.opening :: (Text.double marks.closing name.toList ++ [marks.closing])) := by
  simp [delimited, toList_wrap]

/-- The delimited form of a name determines the name and what stands behind it. -/
theorem wrap_append_inj {name' : String} {rest rest' : List Char}
    (h : (wrap marks name).toList ++ rest = (wrap marks name').toList ++ rest')
    (hrest : rest.head? ≠ some marks.closing) (hrest' : rest'.head? ≠ some marks.closing) :
    name = name' ∧ rest = rest' := by
  rw [toList_wrap, toList_wrap, List.append_assoc, List.append_assoc] at h
  obtain ⟨hname, hr⟩ := double_append_inj (List.cons.inj h).2 hrest hrest'
  exact ⟨String.toList_inj.1 hname, hr⟩

/-- Delimited forms joined by a point determine the schema, the name and what stands behind. -/
theorem delimited_append_inj {schema' name' : String} {rest rest' : List Char}
    (hpoint : marks.closing ≠ '.')
    (h : (delimited marks schema name).toList ++ rest =
      (delimited marks schema' name').toList ++ rest')
    (hrest : rest.head? ≠ some marks.closing) (hrest' : rest'.head? ≠ some marks.closing) :
    schema = schema' ∧ name = name' ∧ rest = rest' := by
  unfold delimited at h
  simp only [String.toList_append, List.append_assoc] at h
  have hhead : ∀ cs : List Char, (".".toList ++ cs).head? ≠ some marks.closing := by
    intro cs hcs
    exact hpoint (Option.some.inj hcs).symm
  obtain ⟨hschema, hnames⟩ := wrap_append_inj h (hhead _) (hhead _)
  obtain ⟨hname, hr⟩ := wrap_append_inj (List.append_cancel_left hnames) hrest hrest'
  exact ⟨hschema, hname, hr⟩

end SchemaModel.Identifier
