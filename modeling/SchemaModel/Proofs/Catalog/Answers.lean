import SchemaModel.Catalog.Offline
import SchemaModel.Proofs.Domain.LookUp
import Mathlib.Data.List.Pairwise

/-!
# `SchemaModel.Proofs.Catalog.Answers` — what an offline catalog answers

A snapshot is searched from the front, and names are compared the way its engine compares them. So
a name in another spelling gets the same answer, and an entry gets its own contents back unless an
earlier one goes under the same name.

## Contents
- **Tables.** `exists_of_mem_ofTable`: answers about tables come from tables.
- **User-defined types.** `compositeAt?` is the composite under a key. `userType?_congr`: keys that
  are the same to the engine name the same type; `userType?_canonical`: so does the key of what was
  found.
- **Routines.** `DistinctRoutines`: no two routines go under one name. `routine?_row` and
  `resultColumnsOf_row`: each of them is then found by its own row.
-/

namespace SchemaModel

/-- The key of a user-defined type. -/
def UserTypeRow.key (t : UserTypeRow) : TypeKey := ⟨t.schema, t.name⟩

namespace CatalogSnapshot

variable {s : CatalogSnapshot}

/-! ## Tables -/

/-- What is answered about a table is there in some table of the snapshot. -/
theorem exists_of_mem_ofTable {α : Type} {row : TableRow} {part : StoredTable → List α} {x : α}
    (h : x ∈ s.ofTable row part) : ∃ t ∈ s.tables, x ∈ part t := by
  unfold ofTable at h
  cases ht : s.table? row with
  | none =>
      rw [ht] at h
      cases h
  | some t =>
      rw [ht] at h
      exact ⟨t, List.mem_of_find?_eq_some ht, h⟩

/-! ## User-defined types -/

/-- The composite that the catalog lists under a key. -/
def compositeAt? (s : CatalogSnapshot) (key : TypeKey) : Option UserTypeRow :=
  (s.userType? key.schema key.name).filter fun t => t.kind == .composite

theorem compositeAt?_eq_some {key : TypeKey} {t : UserTypeRow} :
    s.compositeAt? key = some t ↔
      s.userType? key.schema key.name = some t ∧ t.kind = .composite := by
  unfold compositeAt?
  rw [Option.filter_eq_some_iff, beq_iff_eq]

theorem userType?_eq_find? (key : TypeKey) :
    s.userType? key.schema key.name =
      s.userTypes.find? fun t => s.engine.keysEqual t.key key := rfl

theorem userType?_key {key : TypeKey} {t : UserTypeRow}
    (h : s.userType? key.schema key.name = some t) : s.engine.keysEqual t.key key = true := by
  rw [userType?_eq_find?] at h
  exact List.find?_some (p := fun t : UserTypeRow => s.engine.keysEqual t.key key) h

theorem userType?_congr {a b : TypeKey} (h : s.engine.keysEqual a b = true) :
    s.userType? a.schema a.name = s.userType? b.schema b.name := by
  rw [userType?_eq_find?, userType?_eq_find?]
  congr 1
  funext t
  exact s.engine.keysEqual_congr h t.key

theorem compositeAt?_congr {a b : TypeKey} (h : s.engine.keysEqual a b = true) :
    s.compositeAt? a = s.compositeAt? b := by
  unfold compositeAt?
  rw [userType?_congr h]

theorem compositeAt?_canonical {key : TypeKey} {t : UserTypeRow}
    (h : s.compositeAt? key = some t) : s.compositeAt? t.key = some t := by
  rw [← h]
  exact compositeAt?_congr (userType?_key (compositeAt?_eq_some.1 h).1)

/-! ## Routines -/

/-- The two routines go under one name: the engine takes their schemas and names for the same, and
their specific names are the same. -/
def SameRoutine (s : CatalogSnapshot) (a b : StoredRoutine) : Prop :=
  s.engine.namesEqual a.schema b.schema = true ∧ s.engine.namesEqual a.name b.name = true ∧
    a.effectiveName = b.effectiveName

instance (a b : StoredRoutine) : Decidable (s.SameRoutine a b) :=
  inferInstanceAs (Decidable (_ ∧ _ ∧ _))

/-- No two routines go under one name. -/
def DistinctRoutines (s : CatalogSnapshot) : Prop :=
  s.routines.Pairwise fun a b => ¬s.SameRoutine a b

instance : Decidable s.DistinctRoutines := inferInstanceAs (Decidable (List.Pairwise _ _))

theorem routine?_row (hdistinct : s.DistinctRoutines) {r : StoredRoutine} (hr : r ∈ s.routines) :
    s.routine? r.row = some r := by
  have hsymm : Std.Symm fun a b => ¬s.SameRoutine a b := by
    refine ⟨fun a b hab hba => hab ?_⟩
    exact ⟨s.engine.namesEqual_comm _ _ ▸ hba.1, s.engine.namesEqual_comm _ _ ▸ hba.2.1,
      hba.2.2.symm⟩
  unfold routine?
  refine find?_of_unique hr ?_ fun r' hr' hmatch => ?_
  · simp only [Bool.and_eq_true, beq_iff_eq]
    exact ⟨⟨s.engine.namesEqual_refl _, s.engine.namesEqual_refl _⟩, rfl⟩
  · simp only [Bool.and_eq_true, beq_iff_eq] at hmatch
    obtain ⟨⟨hschema, hname⟩, hspecific⟩ := hmatch
    by_contra hne
    exact hdistinct.forall hr' hr hne ⟨hschema, hname, hspecific⟩

theorem resultColumnsOf_row (hdistinct : s.DistinctRoutines) {r : StoredRoutine}
    (hr : r ∈ s.routines) : s.resultColumnsOf r.row = s.storedResultColumns r := by
  unfold resultColumnsOf
  rw [routine?_row hdistinct hr]

end CatalogSnapshot

end SchemaModel
