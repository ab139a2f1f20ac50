import SchemaModel.Proofs.Identifier.Quoting
import SchemaModel.Proofs.Text.Pieces
import Mathlib.Data.List.Basic

/-!
# `SchemaModel.Proofs.Identifier.Splitting` — a qualified name taken apart

Splitting drops every mark that it meets, also a closing mark that stands twice for one of the name.
Between double quotes nothing else is lost. A closing bracket that stands twice ends the brackets
there, and what follows is read as if it stood outside. So a schema and a name come back from their
qualified form exactly when neither has a mark of the engine in it.

## Contents
- **Scanning.** `parts_cons`: what a scan does with one character.
- `parts_doubleQuotes`, `parts_brackets`: a name between marks is one piece.
- `count_flatten_parts`, `unbracketed_of_count`: a scan that keeps every double quote was never
  inside of them, and so it dropped every bracket.
- `splitQualified_qualify`: when splitting undoes qualification. `marks_lost` has a name for each
  engine that does not come back.
-/

namespace SchemaModel.Identifier

open Text

variable {schema name text : String}

/-! ## Scanning -/

/-- Where a scan begins, and where it stands between two names. -/
def Scan.outside : Scan := ⟨false, false⟩

theorem parts_cons (scan : Scan) (c : Char) (rest : List Char) :
    parts scan (c :: rest) =
      if c == '"' && !scan.inBrackets then parts { scan with inQuotes := !scan.inQuotes } rest
      else if c == '[' && !scan.inQuotes then parts { scan with inBrackets := true } rest
      else if c == ']' && !scan.inQuotes then parts { scan with inBrackets := false } rest
      else if c == '.' && !scan.inQuotes && !scan.inBrackets then [] :: parts scan rest
      else onto [c] (parts scan rest) := by
  rw [onto_singleton]
  rfl

theorem parts_ne_nil (scan : Scan) (cs : List Char) : parts scan cs ≠ [] := by
  induction cs generalizing scan with
  | nil => exact List.cons_ne_nil _ _
  | cons c rest ih =>
      rw [parts_cons]
      split_ifs
      · exact ih _
      · exact ih _
      · exact ih _
      · exact List.cons_ne_nil _ _
      · exact onto_ne_nil _ _

theorem parts_point (rest : List Char) :
    parts .outside ('.' :: rest) = [] :: parts .outside rest := rfl

/-- The last two pieces are the schema and the name. -/
theorem splitQualified_eq_some :
    splitQualified text = (some schema, name) ↔
      ∃ front, parts .outside text.toList = front ++ [schema.toList, name.toList] := by
  have hlast : ∀ {front} {a b : List Char}, parts .outside text.toList = front ++ [a, b] →
      splitQualified text = (some (String.ofList a), String.ofList b) := by
    intro front a b h
    rw [Scan.outside] at h
    rw [splitQualified, h, List.reverse_append]
    rfl
  constructor
  · intro h
    obtain ⟨front, last, hfront⟩ :=
      (List.eq_nil_or_concat' (parts .outside text.toList)).resolve_left (parts_ne_nil _ _)
    rcases List.eq_nil_or_concat' front with rfl | ⟨front, piece, rfl⟩
    · rw [Scan.outside] at hfront
      rw [splitQualified, hfront] at h
      cases (Prod.mk.inj h).1
    · have hparts : parts .outside text.toList = front ++ [piece, last] := by
        rw [hfront, List.append_assoc, List.singleton_append]
      have hnames := (hlast hparts).symm.trans h
      rw [Prod.mk.injEq, Option.some.injEq] at hnames
      obtain ⟨rfl, rfl⟩ := hnames
      exact ⟨front, by rw [hparts, String.toList_ofList, String.toList_ofList]⟩
  · rintro ⟨front, h⟩
    rw [hlast h, String.ofList_toList, String.ofList_toList]

/-- When a scan has a piece of its own for each of two names between marks, these are all. -/
theorem parts_delimited {marks : Marks} {inside : Scan} {a b : List Char}
    (hopening : ∀ rest, parts .outside (marks.opening :: rest) = parts inside rest)
    (hschema : ∀ rest, parts inside (double marks.closing schema.toList ++ marks.closing :: rest) =
      onto a (parts .outside rest))
    (hname : ∀ rest, parts inside (double marks.closing name.toList ++ marks.closing :: rest) =
      onto b (parts .outside rest)) :
    parts .outside (delimited marks schema name).toList = [a, b] := by
  rw [toList_delimited, hopening, hschema, parts_point, hopening, hname, onto_cons, List.append_nil]
  exact congrArg (fun last => [a, last]) (List.append_nil b)

/-! ## Names between double quotes -/

/-- Within double quotes everything is kept but the quotes. -/
theorem parts_doubleQuotes (cs rest : List Char) :
    parts ⟨true, false⟩ (double '"' cs ++ '"' :: rest) =
      onto (cs.filter (· ≠ '"')) (parts .outside rest) := by
  induction cs with
  | nil => exact (onto_nil (parts_ne_nil .outside rest)).symm
  | cons c cs ih =>
      by_cases hc : c = '"'
      · subst hc
        rw [double_cons_self]
        exact ih
      · have hkept : (c == '"' && !false) = false := by simp [hc]
        rw [double_cons_of_ne hc, List.cons_append, parts_cons,
          List.filter_cons_of_pos (by simp [hc])]
        simp [hc, ih]

/-- A qualified name in double quotes comes back without the quotes that its parts have. -/
theorem splitQualified_doubleQuotes :
    splitQualified (delimited .double schema name) =
      (some (String.ofList (schema.toList.filter (· ≠ '"'))),
        String.ofList (name.toList.filter (· ≠ '"'))) := by
  refine splitQualified_eq_some.2 ⟨[], ?_⟩
  rw [String.toList_ofList, String.toList_ofList]
  exact parts_delimited (fun _ => rfl) (parts_doubleQuotes _) (parts_doubleQuotes _)

/-! ## Names between brackets -/

theorem count_double_of_ne {mark c : Char} (h : c ≠ mark) (cs : List Char) :
    (double mark cs).count c = cs.count c := by
  induction cs with
  | nil => rfl
  | cons d cs ih =>
      by_cases hd : d = mark
      · rw [hd, double_cons_self, List.count_cons_of_ne h.symm, List.count_cons_of_ne h.symm,
          List.count_cons_of_ne h.symm, ih]
      · rw [double_cons_of_ne hd, List.count_cons, List.count_cons, ih]

/-- Within brackets everything is kept but the brackets. -/
theorem parts_brackets {cs : List Char} (h : ∀ c ∈ cs, c ≠ '[' ∧ c ≠ ']') (rest : List Char) :
    parts ⟨false, true⟩ (cs ++ ']' :: rest) = onto cs (parts .outside rest) := by
  induction cs with
  | nil => exact (onto_nil (parts_ne_nil .outside rest)).symm
  | cons c cs ih =>
      obtain ⟨hopening, hclosing⟩ := h c List.mem_cons_self
      rw [List.cons_append, parts_cons]
      simp [hopening, hclosing, ih fun d hd => h d (List.mem_cons_of_mem c hd)]

/-- No piece has more double quotes than stand in the text. -/
theorem count_flatten_parts (scan : Scan) (cs : List Char) :
    (parts scan cs).flatten.count '"' ≤ cs.count '"' := by
  induction cs generalizing scan with
  | nil => exact Nat.le_refl _
  | cons c rest ih =>
      have hrest : rest.count '"' ≤ (c :: rest).count '"' := List.count_le_count_cons
      rw [parts_cons]
      split_ifs
      · exact Nat.le_trans (ih _) hrest
      · exact Nat.le_trans (ih _) hrest
      · exact Nat.le_trans (ih _) hrest
      · exact Nat.le_trans (ih _) hrest
      · rw [flatten_onto, List.singleton_append, List.count_cons, List.count_cons]
        exact Nat.add_le_add_right (ih _) _

/-- When every double quote was kept, no bracket was. -/
theorem unbracketed_of_count {scan : Scan} {cs : List Char} (hscan : scan.inQuotes = false)
    (h : cs.count '"' ≤ (parts scan cs).flatten.count '"') :
    ∀ c ∈ (parts scan cs).flatten, c ≠ '[' ∧ c ≠ ']' := by
  induction cs generalizing scan with
  | nil => exact fun c hc => absurd hc List.not_mem_nil
  | cons c rest ih =>
      obtain ⟨_, inBrackets⟩ := scan
      cases hscan
      have hrest : rest.count '"' ≤ (c :: rest).count '"' := List.count_le_count_cons
      rw [parts_cons] at h ⊢
      split_ifs at h ⊢ with hquote hopening hclosing hpoint
      · -- The scan has just lost a double quote.
        have hlost := Nat.le_trans h (count_flatten_parts _ rest)
        rw [beq_iff_eq.1 (Bool.and_eq_true_iff.1 hquote).1, List.count_cons_self] at hlost
        omega
      · exact ih rfl (Nat.le_trans hrest h)
      · exact ih rfl (Nat.le_trans hrest h)
      · exact ih rfl (Nat.le_trans hrest h)
      · rw [flatten_onto, List.singleton_append] at h ⊢
        rw [List.count_cons, List.count_cons] at h
        rw [List.forall_mem_cons]
        refine ⟨⟨?_, ?_⟩, ih rfl (Nat.le_of_add_le_add_right h)⟩
        · rintro rfl
          exact hopening rfl
        · rintro rfl
          exact hclosing rfl

/-! ## The way back -/

/-- No mark of the kind stands in the name. -/
def Unmarked (marks : Marks) (name : String) : Prop :=
  ∀ c ∈ name.toList, c ≠ marks.opening ∧ c ≠ marks.closing

instance (marks : Marks) (name : String) : Decidable (Unmarked marks name) :=
  List.decidableBAll _ name.toList

theorem splitQualified_doubleQuotes_iff :
    splitQualified (delimited .double schema name) = (some schema, name) ↔
      Unmarked .double schema ∧ Unmarked .double name := by
  have hkept : ∀ s : String, String.ofList (s.toList.filter (· ≠ '"')) = s ↔
      Unmarked .double s := by
    intro s
    rw [← String.toList_inj, String.toList_ofList, List.filter_eq_self]
    simp [Unmarked, Marks.double]
  rw [splitQualified_doubleQuotes, Prod.mk.injEq, Option.some.injEq, hkept, hkept]

theorem splitQualified_brackets_iff :
    splitQualified (delimited .bracket schema name) = (some schema, name) ↔
      Unmarked .bracket schema ∧ Unmarked .bracket name := by
  rw [splitQualified_eq_some]
  constructor
  · rintro ⟨front, hparts⟩
    have hcount : (delimited .bracket schema name).toList.count '"' =
        schema.toList.count '"' + name.toList.count '"' := by
      simp [toList_delimited, Marks.bracket, count_double_of_ne]
    have houtside : Scan.outside.inQuotes = false := rfl
    have hkept : (delimited .bracket schema name).toList.count '"' ≤
        (parts .outside (delimited .bracket schema name).toList).flatten.count '"' := by
      rw [hparts, hcount, List.flatten_append, List.count_append]
      simp
    have hunbracketed := unbracketed_of_count houtside hkept
    rw [hparts, List.flatten_append] at hunbracketed
    exact ⟨fun c hc => hunbracketed c (by simp [hc]), fun c hc => hunbracketed c (by simp [hc])⟩
  · rintro ⟨hschema, hname⟩
    refine ⟨[], parts_delimited (fun _ => rfl) (fun rest => ?_) fun rest => ?_⟩
    · rw [double_of_not_mem fun h => (hschema _ h).2 rfl]
      exact parts_brackets hschema rest
    · rw [double_of_not_mem fun h => (hname _ h).2 rfl]
      exact parts_brackets hname rest

/-- Splitting undoes qualification exactly for names without marks. -/
theorem splitQualified_qualify (engine : Engine) (hschema : Valid schema) (hname : Valid name) :
    ∃ qualified, engine.qualify schema name = .ok qualified ∧
      (splitQualified qualified = (some schema, name) ↔
        Unmarked engine.marks schema ∧ Unmarked engine.marks name) := by
  refine ⟨delimited engine.marks schema name, ?_, ?_⟩
  · exact qualify_eq_ok.2 ⟨⟨not_refused_iff.2 hschema, not_refused_iff.2 hname⟩, rfl⟩
  · cases engine with
    | postgres => exact splitQualified_doubleQuotes_iff
    | sqlServer => exact splitQualified_brackets_iff

/-- The point in the schema and the brackets in the name come back. -/
theorem splitQualified_qualify_line :
    (Valid "my.schema" ∧ Valid "Order [Line]") ∧
      ∃ qualified, Engine.postgres.qualify "my.schema" "Order [Line]" = .ok qualified ∧
        splitQualified qualified = (some "my.schema", "Order [Line]") := by
  have hschema : Valid "my.schema" := by decide
  have hname : Valid "Order [Line]" := by decide
  obtain ⟨qualified, hqualified, hback⟩ := splitQualified_qualify .postgres hschema hname
  have hunmarked : Unmarked .double "my.schema" ∧ Unmarked .double "Order [Line]" := by decide
  exact ⟨⟨hschema, hname⟩, qualified, hqualified, hback.2 hunmarked⟩

/-- The double quotes of a name are gone, and a name in brackets is cut behind its own bracket. -/
theorem marks_lost :
    (Engine.postgres.qualify "public" "size 12\"" = .ok "\"public\".\"size 12\"\"\"" ∧
      splitQualified "\"public\".\"size 12\"\"\"" = (some "public", "size 12")) ∧
    (Engine.sqlServer.qualify "Order].Line" "Size" = .ok "[Order]].Line].[Size]" ∧
      splitQualified "[Order]].Line].[Size]" = (some "Line", "Size")) :=
  ⟨⟨rfl, by decide⟩, rfl, by decide⟩

end SchemaModel.Identifier
