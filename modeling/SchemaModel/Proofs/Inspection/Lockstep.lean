import SchemaModel.Inspection.Inspector

/-!
# `SchemaModel.Proofs.Inspection.Lockstep` — two catalogs inspected side by side

An inspection learns of a database through the answers of its catalog only. So two catalogs are
inspected by the same steps as long as they give the same answers, whatever they keep of their own
between the answers: a list of statements, a connection, nothing.

## Contents
- `Lockstep`: two computations over states of their own come to the same result and leave related
  states. `Lockstep.bind` for sequences, and one lemma for each kind of step.
- `Catalog.Agrees`, `Catalog.ListsAlike`: two catalogs answer alike about single tables, routines and
  types, and give the same lists of them.
- One lemma for each part of an inspection, and `inspect_lockstep` for the whole.
-/

namespace SchemaModel

/-! ## Computations side by side -/

/-- The second part starts from what the first one left, or not at all. -/
theorem bind_apply {ε S α β : Type} (x : ExceptT ε (StateM S) α) (f : α → ExceptT ε (StateM S) β)
    (p : S) :
    (x >>= f) p =
      match x p with
      | (.ok a, p') => f a p'
      | (.error e, p') => (.error e, p') := by
  change (ExceptT.bindCont f (x p).1) (x p).2 = _
  rcases x p with ⟨_ | _, _⟩ <;> rfl

/-- From related states the two computations come to the same result and leave related states, and the
value that they give, if any, has a property. -/
def Lockstep {ε S T α : Type} (R : S → T → Prop) (P : α → Prop) (x : ExceptT ε (StateM S) α)
    (y : ExceptT ε (StateM T) α) : Prop :=
  ∀ p q, R p q → (x p).1 = (y q).1 ∧ R (x p).2 (y q).2 ∧ ∀ a, (x p).1 = .ok a → P a

/-- Nothing is said about a value. -/
def AnyValue {α : Type} (_ : α) : Prop := True

namespace Lockstep

variable {ε S T α β : Type} {R : S → T → Prop} {P : α → Prop} {Q : β → Prop}
  {x : ExceptT ε (StateM S) α} {y : ExceptT ε (StateM T) α}

theorem pure {a : α} (ha : P a) :
    Lockstep R P (Pure.pure a : ExceptT ε (StateM S) α) (Pure.pure a : ExceptT ε (StateM T) α) := by
  intro p q hpq
  refine ⟨rfl, hpq, fun b hb => ?_⟩
  cases hb
  exact ha

theorem throw (e : ε) :
    Lockstep R P (MonadExcept.throw e : ExceptT ε (StateM S) α)
      (MonadExcept.throw e : ExceptT ε (StateM T) α) :=
  fun _ _ hpq => ⟨rfl, hpq, nofun⟩

/-- The second parts are compared for the values that the first ones can give. -/
theorem bind {f : α → ExceptT ε (StateM S) β} {g : α → ExceptT ε (StateM T) β}
    (h : Lockstep R P x y) (hk : ∀ a, P a → Lockstep R Q (f a) (g a)) :
    Lockstep R Q (x >>= f) (y >>= g) := by
  intro p q hpq
  obtain ⟨hresult, hstate, hvalue⟩ := h p q hpq
  rw [bind_apply, bind_apply]
  rcases hxp : x p with ⟨result, p'⟩
  rcases hyq : y q with ⟨result', q'⟩
  rw [hxp, hyq] at hresult hstate
  rw [hxp] at hvalue
  cases hresult
  cases result with
  | error e => exact ⟨rfl, hstate, nofun⟩
  | ok a => exact hk a (hvalue a rfl) p' q' hstate

/-- What is made of a known value is known. -/
theorem map_pure {a : α} {f : α → β} {b : β}
    (h : Lockstep R (· = a) x (Pure.pure a : ExceptT ε (StateM T) α)) (hb : f a = b) (hQ : Q b) :
    Lockstep R Q (x >>= fun a => Pure.pure (f a)) (Pure.pure b : ExceptT ε (StateM T) β) := by
  have hpure : (Pure.pure b : ExceptT ε (StateM T) β) =
      Pure.pure a >>= fun a => Pure.pure (f a) := by
    rw [pure_bind, hb]
  rw [hpure]
  refine h.bind fun a' ha' => .pure ?_
  rw [ha', hb]
  exact hQ

end Lockstep

/-- The two inspections have come as far: their catalogs are related, and they have said and built the
same. -/
structure Progress.Alike {σ τ : Type} (R : σ → τ → Prop) (p : Progress σ) (q : Progress τ) : Prop where
  catalog : R p.catalog q.catalog
  log : p.log = q.log
  domain : p.domain = q.domain

namespace Inspect

variable {σ τ α : Type} {R : σ → τ → Prop} {P : α → Prop}

theorem ask_lockstep {question : Reading σ α} {question' : Reading τ α}
    (h : Lockstep R P question question') :
    Lockstep (Progress.Alike R) P (ask question) (ask question') := by
  intro p q hpq
  obtain ⟨hresult, hstate, hvalue⟩ := h p.catalog q.catalog hpq.catalog
  exact ⟨hresult, ⟨hstate, hpq.log, hpq.domain⟩, hvalue⟩

theorem warnAll_lockstep (ws : List Warning) :
    Lockstep (Progress.Alike R) AnyValue (warnAll ws) (warnAll ws) := by
  intro p q hpq
  exact ⟨rfl, ⟨hpq.catalog, congrArg (· ++ ws) hpq.log, hpq.domain⟩, fun _ _ => trivial⟩

theorem warn_lockstep (w : Warning) :
    Lockstep (Progress.Alike R) AnyValue (warn w) (warn w) :=
  warnAll_lockstep [w]

theorem getDomain_lockstep : Lockstep (Progress.Alike R) AnyValue getDomain getDomain := by
  intro p q hpq
  exact ⟨congrArg Except.ok hpq.domain, hpq, fun _ _ => trivial⟩

theorem change_lockstep (f : Domain → Domain) :
    Lockstep (Progress.Alike R) AnyValue (change f) (change f) := by
  intro p q hpq
  exact ⟨rfl, ⟨hpq.catalog, hpq.log, congrArg f hpq.domain⟩, fun _ _ => trivial⟩

theorem setDomain_lockstep (d : Domain) :
    Lockstep (Progress.Alike R) AnyValue (setDomain d) (setDomain d) :=
  change_lockstep fun _ => d

theorem lift_lockstep (result : Outcome α) :
    Lockstep (Progress.Alike R) AnyValue (lift result) (lift result) := by
  cases result with
  | ok a => exact .pure trivial
  | error e => exact .throw e

end Inspect

/-! ## Catalogs that answer alike -/

/-- The two catalogs are of one engine and answer alike about the tables and routines that are asked
about, and about every user-defined type. -/
structure Catalog.Agrees {σ τ : Type} (R : σ → τ → Prop) (table : TableRow → Prop)
    (routine : RoutineRow → Prop) (c : Catalog σ) (c' : Catalog τ) : Prop where
  engine : c.engine = c'.engine
  columns : ∀ row, table row → Lockstep R AnyValue (c.columns row) (c'.columns row)
  columnFlags : ∀ row, table row → Lockstep R AnyValue (c.columnFlags row) (c'.columnFlags row)
  keyConstraints : ∀ row, table row →
    Lockstep R AnyValue (c.keyConstraints row) (c'.keyConstraints row)
  foreignKeys : ∀ row, table row → Lockstep R AnyValue (c.foreignKeys row) (c'.foreignKeys row)
  parameters : ∀ row, routine row → Lockstep R AnyValue (c.parameters row) (c'.parameters row)
  resultColumns : ∀ row, routine row →
    Lockstep R AnyValue (c.resultColumns row) (c'.resultColumns row)
  userType : ∀ schema name, Lockstep R AnyValue (c.userType schema name) (c'.userType schema name)

/-- The two catalogs list the same tables and routines, each outside some schemas. -/
structure Catalog.ListsAlike {σ τ : Type} (R : σ → τ → Prop) (table : TableRow → Prop)
    (routine : RoutineRow → Prop) (c : Catalog σ) (c' : Catalog τ) (excluded excluded' : List String) :
    Prop where
  tables : Lockstep R (fun rows => ∀ row ∈ rows, table row) (c.tables excluded) (c'.tables excluded')
  routines : Lockstep R (fun rows => ∀ row ∈ rows, routine row) (c.routines excluded)
    (c'.routines excluded')

namespace Inspection

open Inspect

variable {σ τ : Type} {R : σ → τ → Prop} {table : TableRow → Prop} {routine : RoutineRow → Prop}
  {c : Catalog σ} {c' : Catalog τ}

/-! ## Tables -/

theorem loadTable_lockstep (h : c.Agrees R table routine c') {row : TableRow} (hrow : table row) :
    Lockstep (Progress.Alike R) AnyValue (loadTable c row) (loadTable c' row) := by
  unfold loadTable
  rw [h.engine]
  refine .bind (warnAll_lockstep _) fun _ _ => ?_
  refine .bind (ask_lockstep (h.columns row hrow)) fun columns _ => ?_
  refine .bind (warnAll_lockstep _) fun _ _ => ?_
  refine .bind (ask_lockstep (h.columnFlags row hrow)) fun flags _ => ?_
  refine .bind (warnAll_lockstep _) fun _ _ => ?_
  exact .bind (ask_lockstep (h.keyConstraints row hrow)) fun keys _ => lift_lockstep _

theorem loadTables_lockstep (h : c.Agrees R table routine c') {rows : List TableRow}
    (hrows : ∀ row ∈ rows, table row) :
    Lockstep (Progress.Alike R) AnyValue (loadTables c rows) (loadTables c' rows) := by
  induction rows with
  | nil => exact .pure trivial
  | cons row rest ih =>
      obtain ⟨hrow, hrest⟩ := List.forall_mem_cons.1 hrows
      unfold loadTables
      refine .bind (loadTable_lockstep h hrow) fun t _ => ?_
      refine .bind (ask_lockstep (h.foreignKeys row hrow)) fun keys _ => ?_
      refine .bind (change_lockstep _) fun _ _ => ?_
      exact .bind (ih hrest) fun more _ => .pure trivial

theorem resolveForeignKeys_lockstep (owner : TypeKey) (fks : List ForeignKeyRow) :
    Lockstep (Progress.Alike R) AnyValue (resolveForeignKeys owner fks)
      (resolveForeignKeys owner fks) := by
  induction fks with
  | nil => exact .pure trivial
  | cons fk rest ih =>
      unfold resolveForeignKeys
      refine .bind getDomain_lockstep fun d _ => ?_
      refine .bind (lift_lockstep _) fun resolved _ => ?_
      refine .bind (setDomain_lockstep _) fun _ _ => ?_
      exact .bind (warnAll_lockstep _) fun _ _ => ih

theorem resolveAll_lockstep (pending : List (TypeKey × List ForeignKeyRow)) :
    Lockstep (Progress.Alike R) AnyValue (resolveAll pending) (resolveAll pending) := by
  induction pending with
  | nil => exact .pure trivial
  | cons entry rest ih =>
      unfold resolveAll
      exact .bind (resolveForeignKeys_lockstep entry.1 entry.2) fun _ _ => ih

/-! ## Routines -/

section Routines

variable (h : c.Agrees R table routine c')

include h

theorem resolveUserType_lockstep (key user : TypeKey) :
    Lockstep (Progress.Alike R) AnyValue (resolveUserType c key user)
      (resolveUserType c' key user) := by
  unfold resolveUserType
  refine .bind getDomain_lockstep fun d _ => ?_
  cases d.findResultType? key with
  | some existing => exact .bind (setDomain_lockstep _) fun _ _ => .pure trivial
  | none =>
      refine .bind (ask_lockstep (h.userType key.schema key.name)) fun found _ => ?_
      cases found with
      | none => exact .throw _
      | some row =>
          dsimp only
          cases row.kind with
          | composite =>
              refine .bind (warnAll_lockstep _) fun _ _ => ?_
              exact .bind (setDomain_lockstep _) fun _ _ => .pure trivial
          | domain =>
              dsimp only
              cases d.engine.valueType? (row.baseType.getD "") with
              | some valueType => exact .pure trivial
              | none => exact .bind (warn_lockstep _) fun _ _ => .pure trivial
          | enum => exact .bind (warn_lockstep _) fun _ _ => .pure trivial

theorem loadParameter_lockstep (op : TypeKey) (row : ParameterRow) :
    Lockstep (Progress.Alike R) AnyValue (loadParameter c op row) (loadParameter c' op row) := by
  unfold loadParameter
  refine .bind getDomain_lockstep fun d _ => ?_
  by_cases huser : row.isUserDefined
  · rw [if_pos huser, if_pos huser]
    refine .bind (resolveUserType_lockstep h _ op) fun shape _ => ?_
    cases shape with
    | rows key => exact .pure trivial
    | value valueType => exact lift_lockstep _
  · rw [if_neg huser, if_neg huser]
    exact lift_lockstep _

theorem loadParameters_lockstep (op : TypeKey) (rows : List ParameterRow) :
    Lockstep (Progress.Alike R) AnyValue (loadParameters c op rows) (loadParameters c' op rows) := by
  induction rows with
  | nil => exact .pure trivial
  | cons row rest ih =>
      unfold loadParameters
      refine .bind (loadParameter_lockstep h op row) fun p _ => ?_
      exact .bind ih fun more _ => .pure trivial

omit h in
theorem widen_lockstep (result : TypeKey) (related : Option TypeKey) :
    Lockstep (Progress.Alike R) AnyValue (widen result related) (widen result related) := by
  unfold widen
  cases related with
  | none => exact .pure trivial
  | some source =>
      refine .bind getDomain_lockstep fun d _ => ?_
      exact .bind (setDomain_lockstep _) fun _ _ => warnAll_lockstep _

omit h in
theorem rowReturn_lockstep (op : Operation) (rows : List ResultColumnRow) :
    Lockstep (Progress.Alike R) AnyValue (rowReturn op rows) (rowReturn op rows) := by
  unfold rowReturn
  refine .bind getDomain_lockstep fun d _ => ?_
  dsimp only
  refine .bind (warnAll_lockstep _) fun _ _ => ?_
  split
  · exact .pure trivial
  · cases d.findTypeByFields? _ op (d.engine == .postgres) with
    | some key => exact .pure trivial
    | none =>
        dsimp only
        cases d.findResultType? (rowTypeKey d op) with
        | some existing => exact .bind (setDomain_lockstep _) fun _ _ => .pure trivial
        | none =>
            refine .bind (setDomain_lockstep _) fun _ _ => ?_
            exact .bind (widen_lockstep _ _) fun _ _ => .pure trivial

theorem declaredReturn_lockstep (op : Operation) (row : RoutineRow) :
    Lockstep (Progress.Alike R) AnyValue (declaredReturn c op row) (declaredReturn c' op row) := by
  unfold declaredReturn
  refine .bind getDomain_lockstep fun d _ => ?_
  split
  · exact .pure trivial
  dsimp only
  split
  · exact .bind (warn_lockstep _) fun _ _ => .pure trivial
  split
  · exact .pure trivial
  split
  · exact .pure trivial
  · refine .bind (resolveUserType_lockstep h _ _) fun shape _ => ?_
    cases shape with
    | rows found => exact .bind (widen_lockstep _ _) fun _ _ => .pure trivial
    | value valueType => exact .pure trivial

theorem loadOperation_lockstep {row : RoutineRow} (hrow : routine row) :
    Lockstep (Progress.Alike R) AnyValue (loadOperation c row) (loadOperation c' row) := by
  have hreturn : ∀ op, Lockstep (Progress.Alike R) AnyValue (inferReturn c op row)
      (inferReturn c' op row) := by
    intro op
    unfold inferReturn
    refine .bind (ask_lockstep (h.resultColumns row hrow)) fun columns _ => ?_
    cases columns.isEmpty with
    | true => exact declaredReturn_lockstep h op row
    | false => exact rowReturn_lockstep op columns
  unfold loadOperation
  refine .bind (warnAll_lockstep _) fun _ _ => ?_
  refine .bind getDomain_lockstep fun d _ => ?_
  refine .bind (warnAll_lockstep _) fun _ _ => ?_
  refine .bind (ask_lockstep (h.parameters row hrow)) fun inputs _ => ?_
  refine .bind (loadParameters_lockstep h _ inputs) fun ps _ => ?_
  refine .bind (hreturn _) fun returns _ => ?_
  exact .bind getDomain_lockstep fun d _ => .pure trivial

theorem loadEach_lockstep {rows : List RoutineRow} (hrows : ∀ row ∈ rows, routine row) :
    Lockstep (Progress.Alike R) AnyValue (loadEach c rows) (loadEach c' rows) := by
  induction rows with
  | nil => exact .pure trivial
  | cons row rest ih =>
      obtain ⟨hrow, hrest⟩ := List.forall_mem_cons.1 hrows
      unfold loadEach
      refine .bind (loadOperation_lockstep h hrow) fun op _ => ?_
      exact .bind (change_lockstep _) fun _ _ => ih hrest

end Routines

/-! ## Whole inspections -/

/-- The settings name the same style and namespace for an engine. -/
def SameNames (engine : Engine) (settings settings' : Settings) : Prop :=
  settings'.namingFor engine = settings.namingFor engine ∧
    settings'.namespaceFor engine = settings.namespaceFor engine

variable {settings settings' : Settings}

/-- Two catalogs that answer alike are inspected alike. What is left out matters through the lists of
tables and routines alone. -/
theorem inspect_lockstep (h : c.Agrees R table routine c')
    (hlists : c.ListsAlike R table routine c' settings.excludedSchemas settings'.excludedSchemas)
    (hnames : SameNames c.engine settings settings') :
    Lockstep (Progress.Alike R) AnyValue (inspect c settings) (inspect c' settings') := by
  have hblank : blankDomain c'.engine settings' = blankDomain c.engine settings := by
    unfold blankDomain
    rw [← h.engine, hnames.1, hnames.2]
  have htypes : Lockstep (Progress.Alike R) AnyValue (loadTypes c settings)
      (loadTypes c' settings') := by
    unfold loadTypes
    rw [hblank]
    refine .bind (setDomain_lockstep _) fun _ _ => ?_
    refine .bind (ask_lockstep hlists.tables) fun rows hrows => ?_
    exact .bind (loadTables_lockstep h hrows) fun pending _ => resolveAll_lockstep pending
  have hoperations : Lockstep (Progress.Alike R) AnyValue (loadOperations c settings)
      (loadOperations c' settings') := by
    unfold loadOperations
    refine .bind (ask_lockstep hlists.routines) fun rows hrows => ?_
    refine .bind (loadEach_lockstep h hrows) fun _ _ => ?_
    refine .bind getDomain_lockstep fun d _ => ?_
    dsimp only
    split
    · exact warn_lockstep _
    · exact .pure trivial
  unfold inspect
  refine .bind htypes fun _ _ => ?_
  refine .bind hoperations fun _ _ => ?_
  refine .bind getDomain_lockstep fun d _ => ?_
  refine .bind (warnAll_lockstep _) fun _ _ => ?_
  exact .bind (warnAll_lockstep _) fun _ _ => .pure trivial

end Inspection

end SchemaModel
