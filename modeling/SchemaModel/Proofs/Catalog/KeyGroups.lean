import SchemaModel.Catalog.Server
import Mathlib.Data.List.Induction

/-!
# `SchemaModel.Proofs.Catalog.KeyGroups` — key constraints, one row a column and back

A server lists the columns of its key constraints one row each, and a catalog puts the rows of one
name together. Nothing is lost on the way: whatever order the rows are in, every row of a key is a
column of one constraint, and constraints that have names of their own, and columns, come back from
their rows.

## Contents
- `KeyKind.constraintType`, `KeyConstraintRow.keyColumns`: a constraint as rows.
- `addKeyColumn_new`, `addKeyColumn_last`: a row of a new name starts a constraint, and a further one
  adds to it.
- `groupKeys_keyColumns`: the constraints come back.
- **Rows in any order.** `KeyColumn.IsKey`: the row is one of a key. `Grouping`: what the constraints
  of some rows are. `Grouping.take`: one row more; `grouping_groupKeys`: all rows.
-/

namespace SchemaModel

/-- The kind as a server writes it. -/
def KeyKind.constraintType : KeyKind → String
  | .primary => "PRIMARY KEY"
  | .unique => "UNIQUE"

theorem KeyKind.ofConstraintType?_constraintType (kind : KeyKind) :
    KeyKind.ofConstraintType? kind.constraintType = some kind := by
  cases kind with
  | primary => decide
  | unique => decide

/-- The constraint as rows, one a column. -/
def KeyConstraintRow.keyColumns (c : KeyConstraintRow) : List KeyColumn :=
  c.columns.map fun column => ⟨c.name, c.kind.constraintType, column⟩

/-- The constraints have names of their own, and each has a column. -/
structure KeyConstraintRow.Named (constraints : List KeyConstraintRow) : Prop where
  distinct : (constraints.map KeyConstraintRow.name).Nodup
  columns : ∀ c ∈ constraints, c.columns ≠ []

instance (constraints : List KeyConstraintRow) : Decidable (KeyConstraintRow.Named constraints) :=
  decidable_of_iff (_ ∧ _) ⟨fun h => ⟨h.1, h.2⟩, fun h => ⟨h.distinct, h.columns⟩⟩

variable {constraints : List KeyConstraintRow} {name : String}

theorem addKeyColumn_new (h : ∀ c ∈ constraints, c.name ≠ name) (kind : KeyKind) (column : String) :
    addKeyColumn name kind column constraints = constraints ++ [⟨name, kind, [column]⟩] := by
  induction constraints with
  | nil => rfl
  | cons c rest ih =>
      obtain ⟨hc, hrest⟩ := List.forall_mem_cons.1 h
      rw [addKeyColumn, if_neg hc, ih hrest]
      rfl

theorem addKeyColumn_last (h : ∀ c ∈ constraints, c.name ≠ name) (kind first : KeyKind)
    (columns : List String) (column : String) :
    addKeyColumn name kind column (constraints ++ [⟨name, first, columns⟩]) =
      constraints ++ [⟨name, first, columns ++ [column]⟩] := by
  induction constraints with
  | nil => exact if_pos rfl
  | cons c rest ih =>
      obtain ⟨hc, hrest⟩ := List.forall_mem_cons.1 h
      rw [List.cons_append, addKeyColumn, if_neg hc, ih hrest]
      rfl

theorem takeKeyColumn_of_kind (kind : KeyKind) (column : String) :
    takeKeyColumn constraints ⟨name, kind.constraintType, column⟩ =
      addKeyColumn name kind column constraints := by
  unfold takeKeyColumn
  rw [KeyKind.ofConstraintType?_constraintType]

/-- The rows of a constraint that has begun add its columns. -/
theorem foldl_takeKeyColumn_last (h : ∀ c ∈ constraints, c.name ≠ name) (kind : KeyKind)
    (seen columns : List String) :
    (columns.map fun column => KeyColumn.mk name kind.constraintType column).foldl takeKeyColumn
        (constraints ++ [⟨name, kind, seen⟩]) =
      constraints ++ [⟨name, kind, seen ++ columns⟩] := by
  induction columns generalizing seen with
  | nil => rw [List.append_nil, List.map_nil, List.foldl_nil]
  | cons column rest ih =>
      rw [List.map_cons, List.foldl_cons, takeKeyColumn_of_kind, addKeyColumn_last h, ih,
        List.append_assoc]
      rfl

/-- The rows of a constraint of a new name add the constraint. -/
theorem foldl_takeKeyColumn_new {c : KeyConstraintRow} (h : ∀ c' ∈ constraints, c'.name ≠ c.name)
    (hcolumns : c.columns ≠ []) :
    c.keyColumns.foldl takeKeyColumn constraints = constraints ++ [c] := by
  obtain ⟨name, kind, columns⟩ := c
  cases columns with
  | nil => exact absurd rfl hcolumns
  | cons column rest =>
      unfold KeyConstraintRow.keyColumns
      rw [List.map_cons, List.foldl_cons, takeKeyColumn_of_kind, addKeyColumn_new h,
        foldl_takeKeyColumn_last h]
      rfl

/-- Constraints with names of their own and columns come back from their rows. -/
theorem groupKeys_keyColumns (h : KeyConstraintRow.Named constraints) :
    groupKeys (constraints.flatMap KeyConstraintRow.keyColumns) = constraints := by
  -- From the right: the rows of the last constraint meet all the constraints before it.
  induction constraints using List.reverseRecOn with
  | nil => rfl
  | append_singleton before c ih =>
      obtain ⟨hdistinct, hcolumns⟩ := h
      rw [List.map_append, List.nodup_append] at hdistinct
      obtain ⟨hbefore, _, hapart⟩ := hdistinct
      have hnew : ∀ c' ∈ before, c'.name ≠ c.name := fun c' hc' =>
        hapart _ (List.mem_map_of_mem hc') _ List.mem_cons_self
      rw [List.forall_mem_append] at hcolumns
      have hgroups := ih ⟨hbefore, hcolumns.1⟩
      unfold groupKeys at hgroups ⊢
      rw [List.flatMap_append, List.foldl_append, hgroups, List.flatMap_singleton,
        foldl_takeKeyColumn_new hnew (hcolumns.2 c List.mem_cons_self)]

/-! ## Rows in any order -/

/-- The row is one of a key of the kind: it has the kind's type, in any letter case. -/
def KeyColumn.Of (row : KeyColumn) (kind : KeyKind) : Prop :=
  Text.uppercase row.constraintType = Text.uppercase kind.constraintType

instance (row : KeyColumn) (kind : KeyKind) : Decidable (row.Of kind) :=
  inferInstanceAs (Decidable (_ = _))

/-- The row is one of a primary key or of a unique constraint. -/
def KeyColumn.IsKey (row : KeyColumn) : Prop := row.Of .primary ∨ row.Of .unique

instance (row : KeyColumn) : Decidable row.IsKey := inferInstanceAs (Decidable (_ ∨ _))

variable {rows : List KeyColumn} {row : KeyColumn}

theorem KeyColumn.ofConstraintType?_eq_some {kind : KeyKind} :
    KeyKind.ofConstraintType? row.constraintType = some kind ↔ row.Of kind := by
  have hprimary : Text.uppercase KeyKind.primary.constraintType = "PRIMARY KEY" := by decide
  have hunique : Text.uppercase KeyKind.unique.constraintType = "UNIQUE" := by decide
  have happart : "PRIMARY KEY" ≠ "UNIQUE" := by decide
  unfold KeyKind.ofConstraintType? KeyColumn.Of
  by_cases h : Text.uppercase row.constraintType = "PRIMARY KEY"
  · cases kind <;> simp [h, hprimary, hunique, happart]
  · cases kind <;> simp [h, hprimary, hunique]

theorem KeyColumn.isKey_iff :
    row.IsKey ↔ ∃ kind, KeyKind.ofConstraintType? row.constraintType = some kind := by
  simp only [ofConstraintType?_eq_some]
  constructor
  · rintro (h | h)
    · exact ⟨_, h⟩
    · exact ⟨_, h⟩
  · rintro ⟨_ | _, h⟩
    · exact Or.inl h
    · exact Or.inr h

/-- The rows of keys that go by a name. -/
def rowsOf (name : String) (rows : List KeyColumn) : List KeyColumn :=
  rows.filter fun row => row.IsKey ∧ row.name = name

/-- The place of the first row of a key that goes by a name. -/
def firstRow (name : String) (rows : List KeyColumn) : Nat :=
  rows.findIdx fun row => row.IsKey ∧ row.name = name

/-- The constraints are those of the rows, and nothing of a key is lost. -/
structure Grouping (rows : List KeyColumn) (constraints : List KeyConstraintRow) : Prop where
  /-- No two constraints have one name. -/
  distinct : (constraints.map KeyConstraintRow.name).Nodup
  /-- They stand in the order of their first rows. -/
  ordered : constraints.Pairwise fun c c' => firstRow c.name rows < firstRow c'.name rows
  /-- Every row of a key has its constraint. -/
  complete : ∀ row ∈ rows, row.IsKey → ∃ c ∈ constraints, c.name = row.name
  /-- The columns are those of the constraint's rows, in their order. -/
  columns : ∀ c ∈ constraints, c.columns = (rowsOf c.name rows).map KeyColumn.column
  /-- The kind is that of the first of these rows. -/
  kind : ∀ c ∈ constraints, ∃ row, (rowsOf c.name rows).head? = some row ∧ row.Of c.kind
  /-- Together there are as many columns as rows of keys. -/
  total : (constraints.flatMap KeyConstraintRow.columns).length = (rows.filter (·.IsKey)).length

/-! ### One row more -/

theorem rowsOf_concat_self (h : row.IsKey) :
    rowsOf row.name (rows ++ [row]) = rowsOf row.name rows ++ [row] := by
  simp [rowsOf, h]

theorem rowsOf_concat_other (h : ¬(row.IsKey ∧ row.name = name)) :
    rowsOf name (rows ++ [row]) = rowsOf name rows := by
  have hnone : [row].filter (fun row => row.IsKey ∧ row.name = name) = [] := by
    simpa using h
  unfold rowsOf
  rw [List.filter_append, hnone, List.append_nil]

/-- The first row of a name stays the first. -/
theorem head?_rowsOf_concat {first : KeyColumn} (h : (rowsOf name rows).head? = some first) :
    (rowsOf name (rows ++ [row])).head? = some first := by
  unfold rowsOf at h ⊢
  rw [List.filter_append, List.head?_append, h]
  rfl

theorem firstRow_lt (h : rowsOf name rows ≠ []) : firstRow name rows < rows.length := by
  obtain ⟨row, hrow⟩ := List.exists_mem_of_ne_nil _ h
  obtain ⟨hmem, hof⟩ := List.mem_filter.1 hrow
  exact List.findIdx_lt_length_of_exists ⟨row, hmem, hof⟩

/-- Where a name stood first is not changed by rows that follow. -/
theorem firstRow_concat (h : rowsOf name rows ≠ []) :
    firstRow name (rows ++ [row]) = firstRow name rows := by
  have hlt := firstRow_lt h
  unfold firstRow at hlt ⊢
  rw [List.findIdx_append, if_pos hlt]

theorem le_firstRow_concat (h : rowsOf name rows = []) :
    rows.length ≤ firstRow name (rows ++ [row]) := by
  have hnone : rows.findIdx (fun row => row.IsKey ∧ row.name = name) = rows.length := by
    rw [List.findIdx_eq_length]
    exact fun r hr => Bool.eq_false_iff.2 (List.filter_eq_nil_iff.1 h r hr)
  unfold firstRow
  rw [List.findIdx_append, hnone, if_neg (Nat.lt_irrefl _)]
  exact Nat.le_add_left _ _

/-- The constraint with a column more, if it goes by the name. -/
def KeyConstraintRow.extended (name column : String) (c : KeyConstraintRow) : KeyConstraintRow :=
  if c.name = name then { c with columns := c.columns ++ [column] } else c

@[simp] theorem KeyConstraintRow.extended_name (name column : String) (c : KeyConstraintRow) :
    (c.extended name column).name = c.name := by
  unfold extended
  split <;> rfl

@[simp] theorem KeyConstraintRow.extended_kind (name column : String) (c : KeyConstraintRow) :
    (c.extended name column).kind = c.kind := by
  unfold extended
  split <;> rfl

/-- A row of a name that is there adds to the one constraint of the name. -/
theorem addKeyColumn_known (hdistinct : (constraints.map KeyConstraintRow.name).Nodup)
    (h : ∃ c ∈ constraints, c.name = name) (kind : KeyKind) (column : String) :
    addKeyColumn name kind column constraints =
      constraints.map (KeyConstraintRow.extended name column) := by
  induction constraints with
  | nil => simp at h
  | cons c rest ih =>
      rw [List.map_cons, List.nodup_cons] at hdistinct
      by_cases hc : c.name = name
      · have hrest : rest.map (KeyConstraintRow.extended name column) = rest := by
          refine (List.map_congr_left fun c' hc' => if_neg fun hname => ?_).trans (List.map_id' rest)
          exact hdistinct.1 (List.mem_map.2 ⟨c', hc', hname.trans hc.symm⟩)
        rw [addKeyColumn, if_pos hc, List.map_cons, hrest, KeyConstraintRow.extended, if_pos hc]
      · have hlater : ∃ c' ∈ rest, c'.name = name := by
          simpa [hc] using h
        rw [addKeyColumn, if_neg hc, List.map_cons, ih hdistinct.2 hlater,
          KeyConstraintRow.extended, if_neg hc]

theorem length_addKeyColumn (name : String) (kind : KeyKind) (column : String)
    (constraints : List KeyConstraintRow) :
    ((addKeyColumn name kind column constraints).flatMap KeyConstraintRow.columns).length =
      (constraints.flatMap KeyConstraintRow.columns).length + 1 := by
  induction constraints with
  | nil => rfl
  | cons c rest ih =>
      by_cases hc : c.name = name
      · rw [addKeyColumn, if_pos hc]
        simp only [List.flatMap_cons, List.length_append, List.length_singleton]
        omega
      · rw [addKeyColumn, if_neg hc]
        simp only [List.flatMap_cons, List.length_append, ih]
        omega

namespace Grouping

variable (h : Grouping rows constraints)

include h

theorem rowsOf_ne_nil {c : KeyConstraintRow} (hc : c ∈ constraints) : rowsOf c.name rows ≠ [] := by
  obtain ⟨row, hrow, _⟩ := h.kind c hc
  intro hnone
  rw [hnone] at hrow
  cases hrow

theorem rowsOf_eq_nil (hnew : ∀ c ∈ constraints, c.name ≠ name) : rowsOf name rows = [] := by
  rw [rowsOf, List.filter_eq_nil_iff]
  intro row hrow hof
  obtain ⟨hkey, hname⟩ := of_decide_eq_true hof
  obtain ⟨c, hc, hcname⟩ := h.complete row hrow hkey
  exact hnew c hc (hcname.trans hname)

/-- Rows that follow do not change the order. -/
theorem ordered_concat : constraints.Pairwise fun c c' =>
    firstRow c.name (rows ++ [row]) < firstRow c'.name (rows ++ [row]) := by
  refine h.ordered.imp_of_mem fun {c c'} hc hc' hlt => ?_
  rwa [firstRow_concat (h.rowsOf_ne_nil hc), firstRow_concat (h.rowsOf_ne_nil hc')]

theorem kind_concat {c : KeyConstraintRow} (hc : c ∈ constraints) :
    ∃ first, (rowsOf c.name (rows ++ [row])).head? = some first ∧ first.Of c.kind := by
  obtain ⟨first, hfirst, hof⟩ := h.kind c hc
  exact ⟨first, head?_rowsOf_concat hfirst, hof⟩

/-- A row that is of no key changes nothing. -/
theorem pass (hkey : ¬row.IsKey) : Grouping (rows ++ [row]) constraints where
  distinct := h.distinct
  ordered := h.ordered_concat
  complete := by
    intro r hr hrkey
    rcases List.mem_append.1 hr with hr | hr
    · exact h.complete r hr hrkey
    · rw [List.mem_singleton.1 hr] at hrkey
      exact absurd hrkey hkey
  columns c hc := by
    rw [rowsOf_concat_other fun hof => hkey hof.1]
    exact h.columns c hc
  kind c hc := h.kind_concat hc
  total := by simp [h.total, hkey]

variable {kind : KeyKind} (hkey : row.IsKey)

include hkey

/-- The constraint of the row's name has the row's column now, and the others have their own. -/
theorem extended_columns {c : KeyConstraintRow} (hc : c ∈ constraints) :
    (c.extended row.name row.column).columns =
      (rowsOf (c.extended row.name row.column).name (rows ++ [row])).map KeyColumn.column := by
  rw [KeyConstraintRow.extended_name]
  by_cases hname : c.name = row.name
  · rw [KeyConstraintRow.extended, if_pos hname, hname, rowsOf_concat_self hkey, List.map_append,
      ← hname, ← h.columns c hc]
    rfl
  · rw [KeyConstraintRow.extended, if_neg hname,
      rowsOf_concat_other fun hlast => hname hlast.2.symm]
    exact h.columns c hc

/-- A row of a new name starts a constraint. -/
theorem start (hof : row.Of kind) (hnew : ∀ c ∈ constraints, c.name ≠ row.name) :
    Grouping (rows ++ [row]) (addKeyColumn row.name kind row.column constraints) := by
  have hnone := h.rowsOf_eq_nil hnew
  have hrows : rowsOf row.name (rows ++ [row]) = [row] := by
    rw [rowsOf_concat_self hkey, hnone, List.nil_append]
  have hothers : ∀ c ∈ constraints, rowsOf c.name (rows ++ [row]) = rowsOf c.name rows :=
    fun c hc => rowsOf_concat_other fun hlast => hnew c hc hlast.2.symm
  have htotal := length_addKeyColumn row.name kind row.column constraints
  rw [addKeyColumn_new hnew] at htotal ⊢
  constructor
  case distinct =>
    rw [List.map_append, List.nodup_append]
    refine ⟨h.distinct, List.nodup_cons.2 ⟨List.not_mem_nil, List.nodup_nil⟩, ?_⟩
    intro name hname name' hlast
    obtain ⟨c, hc, rfl⟩ := List.mem_map.1 hname
    rw [List.mem_singleton.1 hlast]
    exact hnew c hc
  case ordered =>
    have hfirst : rows.length ≤ firstRow row.name (rows ++ [row]) := le_firstRow_concat hnone
    refine List.pairwise_append.2 ⟨h.ordered_concat, List.pairwise_singleton _ _, ?_⟩
    intro c hc c' hlast
    rw [List.mem_singleton.1 hlast, firstRow_concat (h.rowsOf_ne_nil hc)]
    exact Nat.lt_of_lt_of_le (firstRow_lt (h.rowsOf_ne_nil hc)) hfirst
  case complete =>
    intro r hr hrkey
    rcases List.mem_append.1 hr with hr | hr
    · obtain ⟨c, hc, hname⟩ := h.complete r hr hrkey
      exact ⟨c, List.mem_append_left _ hc, hname⟩
    · rw [List.mem_singleton.1 hr]
      exact ⟨_, List.mem_append_right _ (List.mem_singleton_self _), rfl⟩
  case columns =>
    intro c hc
    rcases List.mem_append.1 hc with hc | hc
    · rw [hothers c hc]
      exact h.columns c hc
    · rw [List.mem_singleton.1 hc, hrows]
      rfl
  case kind =>
    intro c hc
    rcases List.mem_append.1 hc with hc | hc
    · exact h.kind_concat hc
    · rw [List.mem_singleton.1 hc, hrows]
      exact ⟨row, rfl, hof⟩
  case total =>
    rw [htotal, h.total]
    simp [hkey]

/-- A further row of a name adds to its constraint. -/
theorem extend (hknown : ∃ c ∈ constraints, c.name = row.name) :
    Grouping (rows ++ [row]) (addKeyColumn row.name kind row.column constraints) := by
  have htotal := length_addKeyColumn row.name kind row.column constraints
  rw [addKeyColumn_known h.distinct hknown] at htotal ⊢
  constructor
  case distinct =>
    have hnames : (KeyConstraintRow.name ∘ KeyConstraintRow.extended row.name row.column) =
        KeyConstraintRow.name := funext fun c => c.extended_name row.name row.column
    rw [List.map_map, hnames]
    exact h.distinct
  case ordered =>
    rw [List.pairwise_map]
    simp only [KeyConstraintRow.extended_name]
    exact h.ordered_concat
  case complete =>
    intro r hr hrkey
    have hbefore : ∃ c ∈ constraints, c.name = r.name := by
      rcases List.mem_append.1 hr with hr | hr
      · exact h.complete r hr hrkey
      · rw [List.mem_singleton.1 hr]
        exact hknown
    obtain ⟨c, hc, hname⟩ := hbefore
    exact ⟨_, List.mem_map_of_mem hc, (c.extended_name _ _).trans hname⟩
  case columns =>
    intro _ hlater
    obtain ⟨c, hc, rfl⟩ := List.mem_map.1 hlater
    exact h.extended_columns hkey hc
  case kind =>
    intro _ hlater
    obtain ⟨c, hc, rfl⟩ := List.mem_map.1 hlater
    rw [KeyConstraintRow.extended_name, KeyConstraintRow.extended_kind]
    exact h.kind_concat hc
  case total =>
    rw [htotal, h.total]
    simp [hkey]

end Grouping

/-- What has been grouped stays so when a row is taken up. -/
theorem Grouping.take (h : Grouping rows constraints) (row : KeyColumn) :
    Grouping (rows ++ [row]) (takeKeyColumn constraints row) := by
  unfold takeKeyColumn
  cases hkind : KeyKind.ofConstraintType? row.constraintType with
  | none =>
      refine h.pass fun hkey => ?_
      obtain ⟨kind, hof⟩ := KeyColumn.isKey_iff.1 hkey
      rw [hkind] at hof
      cases hof
  | some kind =>
      have hkey : row.IsKey := KeyColumn.isKey_iff.2 ⟨kind, hkind⟩
      by_cases hknown : ∃ c ∈ constraints, c.name = row.name
      · exact h.extend hkey hknown
      · have hnew : ∀ c ∈ constraints, c.name ≠ row.name :=
          fun c hc hname => hknown ⟨c, hc, hname⟩
        exact h.start hkey (KeyColumn.ofConstraintType?_eq_some.1 hkind) hnew

/-- The constraints of any rows are those rows grouped. -/
theorem grouping_groupKeys (rows : List KeyColumn) : Grouping rows (groupKeys rows) := by
  -- From the right, as the rows are taken up.
  induction rows using List.reverseRecOn with
  | nil =>
      exact ⟨List.nodup_nil, List.Pairwise.nil, nofun, nofun, nofun, rfl⟩
  | append_singleton rows row ih =>
      unfold groupKeys at ih ⊢
      rw [List.foldl_append]
      exact ih.take row

end SchemaModel
