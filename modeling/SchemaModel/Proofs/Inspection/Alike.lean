import SchemaModel.Proofs.Inspection.Lockstep

/-!
# `SchemaModel.Proofs.Inspection.Alike` — inspections of catalogs over one state

Where two catalogs keep the same state and give the same lists, and the same answers about what is on
them, their inspections are not only in step but the same.

## Contents
- `TableAlike`, `RoutineAlike`: two catalogs answer alike about a table or a routine.
- `loadEach_congr`: the loop over routines is then the same.
- `inspect_congr`: so are whole inspections, whatever is left out and however the settings say so.
-/

namespace SchemaModel.Inspection

variable {σ : Type} {c c' : Catalog σ} {settings settings' : Settings}

/-- The two catalogs answer alike about the table that a row names. -/
structure TableAlike (c c' : Catalog σ) (row : TableRow) : Prop where
  columns : c'.columns row = c.columns row
  columnFlags : c'.columnFlags row = c.columnFlags row
  keyConstraints : c'.keyConstraints row = c.keyConstraints row
  foreignKeys : c'.foreignKeys row = c.foreignKeys row

/-- The two catalogs answer alike about the routine that a row names. -/
structure RoutineAlike (c c' : Catalog σ) (row : RoutineRow) : Prop where
  parameters : c'.parameters row = c.parameters row
  resultColumns : c'.resultColumns row = c.resultColumns row

theorem Progress.alike_iff_eq {p q : Progress σ} : p.Alike Eq q ↔ p = q := by
  constructor
  · rintro ⟨hcatalog, hlog, hdomain⟩
    cases p
    cases q
    simp only at hcatalog hlog hdomain
    rw [hcatalog, hlog, hdomain]
  · intro h
    rw [h]
    exact ⟨rfl, rfl, rfl⟩

/-- Steps in lockstep from every state are the same steps. -/
theorem eq_of_lockstep {α : Type} {P : α → Prop} {x y : Inspect σ α}
    (h : Lockstep (Progress.Alike Eq) P x y) : x = y := by
  funext p
  obtain ⟨hresult, hstate, _⟩ := h p p ⟨rfl, rfl, rfl⟩
  exact Prod.ext hresult (Progress.alike_iff_eq.1 hstate)

theorem lockstep_of_eq {α : Type} {x y : Reading σ α} (h : y = x) : Lockstep Eq AnyValue x y := by
  rw [h]
  intro p q hpq
  rw [hpq]
  exact ⟨rfl, rfl, fun _ _ => trivial⟩

theorem lockstep_pure {α : Type} {P : α → Prop} {x y : Reading σ α} {a : α} (hx : x = pure a)
    (hy : y = pure a) (ha : P a) : Lockstep Eq P x y := by
  rw [hx, hy]
  exact .pure ha

theorem agrees_of_alike {table : TableRow → Prop} {routine : RoutineRow → Prop}
    (he : c'.engine = c.engine) (ht : ∀ row, table row → TableAlike c c' row)
    (hr : ∀ row, routine row → RoutineAlike c c' row) (hu : c'.userType = c.userType) :
    c.Agrees Eq table routine c' where
  engine := he.symm
  columns row hrow := lockstep_of_eq (ht row hrow).columns
  columnFlags row hrow := lockstep_of_eq (ht row hrow).columnFlags
  keyConstraints row hrow := lockstep_of_eq (ht row hrow).keyConstraints
  foreignKeys row hrow := lockstep_of_eq (ht row hrow).foreignKeys
  parameters row hrow := lockstep_of_eq (hr row hrow).parameters
  resultColumns row hrow := lockstep_of_eq (hr row hrow).resultColumns
  userType schema name := lockstep_of_eq (congrFun (congrFun hu schema) name)

theorem loadEach_congr {rows : List RoutineRow} (he : c'.engine = c.engine)
    (hu : c'.userType = c.userType) (h : ∀ row ∈ rows, RoutineAlike c c' row) :
    loadEach c' rows = loadEach c rows := by
  have hagrees : c.Agrees Eq (fun _ => False) (· ∈ rows) c' := agrees_of_alike he nofun h hu
  exact (eq_of_lockstep (loadEach_lockstep hagrees fun _ hrow => hrow)).symm

/-- What to leave out matters through the lists of tables and routines alone. -/
theorem inspect_congr {tables : List TableRow} {routines : List RoutineRow}
    (he : c'.engine = c.engine) (hnames : SameNames c.engine settings settings')
    (htables : c.tables settings.excludedSchemas = pure tables)
    (htables' : c'.tables settings'.excludedSchemas = pure tables)
    (hroutines : c.routines settings.excludedSchemas = pure routines)
    (hroutines' : c'.routines settings'.excludedSchemas = pure routines)
    (ht : ∀ row ∈ tables, TableAlike c c' row) (hr : ∀ row ∈ routines, RoutineAlike c c' row)
    (hu : c'.userType = c.userType) : inspect c' settings' = inspect c settings := by
  have hagrees : c.Agrees Eq (· ∈ tables) (· ∈ routines) c' := agrees_of_alike he ht hr hu
  have hlists : c.ListsAlike Eq (· ∈ tables) (· ∈ routines) c' settings.excludedSchemas
      settings'.excludedSchemas :=
    ⟨lockstep_pure htables htables' fun _ hrow => hrow,
      lockstep_pure hroutines hroutines' fun _ hrow => hrow⟩
  exact (eq_of_lockstep (inspect_lockstep hagrees hlists hnames)).symm

end SchemaModel.Inspection
