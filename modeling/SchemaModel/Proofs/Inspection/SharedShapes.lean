import SchemaModel.Proofs.Inspection.FirstUse

/-!
# `SchemaModel.Proofs.Inspection.SharedShapes` — what routines that share a result type see of it

Result types are shared by name alone. The columns that a routine returns are those of its result
type when the routine was the first to use it; otherwise the routine sees what the first use made of
it. A user-defined type is no exception: its name stands for the catalog's composite only if no
columns went under that name before.

## Contents
- `loadedRoutines`: the routines that an inspection loads, in order.
- `rows_of_first_use`: the result type that a routine returns. `reports` has two overloads that
  return different columns under one conventional name.
- `composites_of_first_use`: the result type that a user-defined type stands for. `notes` has a
  composite whose name is also the conventional name for the columns of an earlier routine.
-/

namespace SchemaModel

open Inspection

/-- The routines outside the excluded schemas, in order. -/
def CatalogSnapshot.loadedRoutines (s : CatalogSnapshot) (settings : Settings) :
    List StoredRoutine :=
  s.routines.filter fun r => !s.isExcluded settings.excludedSchemas r.schema

namespace Offline

variable {s : CatalogSnapshot} {settings : Settings} {executed : List String} {start d : Domain}

/-- The ways in which the routines of an inspection came to result types, in order. -/
def usesIn (s : CatalogSnapshot) (settings : Settings) (d : Domain) : List Use :=
  allUses s (s.routineRows settings.excludedSchemas) d.operations

theorem forall₂_getElem? {α β : Type} {R : α → β → Prop} {xs : List α} {ys : List β}
    (h : List.Forall₂ R xs ys) {i : Nat} {x : α} {y : β} (hx : xs[i]? = some x)
    (hy : ys[i]? = some y) : R x y := by
  obtain ⟨hi, rfl⟩ := List.getElem?_eq_some_iff.1 hx
  obtain ⟨hi', rfl⟩ := List.getElem?_eq_some_iff.1 hy
  exact h.get hi hi'

theorem exists_of_map_eq {α β : Type} {f : α → β} {xs : List α} {ys : List β} (h : xs.map f = ys)
    {i : Nat} {y : β} (hy : ys[i]? = some y) : ∃ x, xs[i]? = some x ∧ f x = y := by
  rw [← h, List.getElem?_map] at hy
  exact Option.map_eq_some_iff.1 hy

/-! ## Routines that return rows -/

/-- The result type that a routine returns is the only one of its name, and it is what the first use
of the name made it: the composite of that name, or the output columns of the routine that used it
first. If that is the routine itself, they are its own. -/
theorem rows_of_first_use
    (h : (run (inspect s.catalog settings) executed start).result = .ok d) :
    d.operations.length = (s.loadedRoutines settings).length ∧
    ∀ (i : Nat) (routine : StoredRoutine) (o : Operation),
      (s.loadedRoutines settings)[i]? = some routine → d.operations[i]? = some o →
      o.key = ⟨routine.schema, routine.name⟩ ∧
      (s.DistinctRoutines → s.resultColumnsOf routine.row = s.storedResultColumns routine) ∧
      ∀ key, 2 ≤ (s.resultColumnsOf routine.row).length → o.returns.kind = .customType →
        o.returns.typeKey = some key →
        ∃ r ∈ d.resultTypes, r.key = key ∧
          (∀ r' ∈ d.resultTypes, d.engine.keysEqual r'.key key = true → r' = r) ∧
          (∃ u, firstUse? (usesIn s settings d) key = some u ∧ u.Settles s r) ∧
          ((∀ j o', j < i → d.operations[j]? = some o' → ¬o'.Uses key) →
            (∀ p ∈ o.parameters, p.resultType ≠ some key) →
            r.isCustomType = false ∧
              r.columnList = columnList (s.resultColumnsOf routine.row)) := by
  obtain ⟨hall, huses⟩ := inspect_firstUses h
  have hregistered := inspect_registered h
  constructor
  · rw [← hall.length_eq]
    exact List.length_map _
  intro i routine o hroutine ho
  have hrow : (s.routineRows settings.excludedSchemas)[i]? = some routine.row := by
    unfold CatalogSnapshot.routineRows
    rw [List.getElem?_map]
    exact congrArg (Option.map StoredRoutine.row) hroutine
  have hstored : routine ∈ s.routines := (List.mem_filter.1 (List.mem_of_getElem? hroutine)).1
  refine ⟨(forall₂_getElem? hall hrow ho).key, ?_, ?_⟩
  · intro hdistinct
    exact CatalogSnapshot.resultColumnsOf_row hdistinct hstored
  intro key hseveral hkind htype
  obtain ⟨r, hr, hkey, u, hu, hsettles⟩ :=
    exists_settled_of_uses hall huses (List.mem_of_getElem? ho) (Or.inl ⟨hkind, htype⟩)
  refine ⟨r, List.mem_of_find?_eq_some hr, hkey, ?_, ⟨u, hu, hsettles⟩, ?_⟩
  · intro r' hr' hsame
    exact hregistered.unique hr hr' hsame
  · intro hbefore hparameters
    have hcustom : o.returns.customKey? = some key := by
      unfold OperationReturn.customKey?
      rw [if_pos hkind, htype]
    have hown := firstUse?_returned (s := s) hrow ho hbefore hparameters hcustom
    rw [hu, returnUse_shaped key hseveral] at hown
    rw [Option.some.inj hown] at hsettles
    exact hsettles

/-- A function that returns rows, with its name, its specific name and its inputs. -/
def rowFunction (name : String) (specific : Option String) (inputs : List StoredParameter)
    (columns : List ResultColumnRow) : StoredRoutine :=
  ⟨"public", name, specific, .function, some "record", true, none, none, inputs, columns⟩

/-- A function that is overloaded, and whose overloads return different columns. -/
def reports : CatalogSnapshot where
  engine := .postgres
  tables := []
  routines :=
    [rowFunction "report" (some "report_1") []
      [⟨"id", 1, "integer", false, none⟩, ⟨"name", 2, "text", false, none⟩],
     rowFunction "report" (some "report_2") [⟨"since", "date", none, false, false, false⟩]
      [⟨"day", 1, "date", false, none⟩, ⟨"total", 2, "numeric", false, none⟩]]
  userTypes := []

/-- The key of the result type that both overloads return. -/
def reportResult : TypeKey := ⟨"public", "report_result"⟩

/-- What a domain says about shapes: those of parameters, of returns, and of result types. -/
structure Overview where
  parameters : List (List (Option TypeKey))
  returns : List OperationReturn
  resultTypes : List (TypeKey × Bool × List (String × String))
  deriving DecidableEq

/-- The shapes of a domain. -/
def overview (d : Domain) : Overview where
  parameters := d.operations.map fun o => o.parameters.map Parameter.resultType
  returns := d.operations.map Operation.returns
  resultTypes := d.resultTypes.map ResultType.outline

/-- Both overloads return the result type, and it has the columns of the first. -/
theorem reports_inspected :
    ∃ d, (run (inspect reports.catalog .standard) [] default).result = .ok d ∧
      overview d = ⟨[[], [none]],
        [.customType reportResult true, .customType reportResult true],
        [(reportResult, false, [("id", "integer"), ("name", "text")])]⟩ := by
  decide +kernel

/-- The overloads do not go under one name, for they have different specific names. The second one
returns a result type that does not have its columns. -/
theorem overloads_share_columns :
    reports.DistinctRoutines ∧
    ∃ d o r routine, (run (inspect reports.catalog .standard) [] default).result = .ok d ∧
      (reports.loadedRoutines .standard)[1]? = some routine ∧ d.operations[1]? = some o ∧
      2 ≤ (reports.storedResultColumns routine).length ∧
      o.returns = .customType r.key true ∧ d.resultTypes = [r] ∧
      r.columnList ≠ columnList (reports.storedResultColumns routine) := by
  refine ⟨by decide +kernel, ?_⟩
  obtain ⟨d, h, hview⟩ := reports_inspected
  obtain ⟨o, ho, hreturn⟩ : ∃ o, d.operations[1]? = some o ∧ o.returns = _ :=
    exists_of_map_eq (congrArg Overview.returns hview) rfl
  obtain ⟨r, hr, houtline⟩ := List.map_eq_singleton_iff.1 (congrArg Overview.resultTypes hview)
  have hkey : r.key = reportResult := congrArg Prod.fst houtline
  have hcolumns : r.columnList = [("id", "integer"), ("name", "text")] :=
    congrArg (fun x => x.2.2) houtline
  refine ⟨d, o, r, _, h, rfl, ho, by decide +kernel, hkey ▸ hreturn, hr, ?_⟩
  rw [hcolumns]
  decide +kernel

/-- The first overload is the first to use the result type, so it returns its own columns. -/
theorem first_overload_own_columns :
    ∃ d r, (run (inspect reports.catalog .standard) [] default).result = .ok d ∧
      r ∈ d.resultTypes ∧ r.key = reportResult ∧ r.isCustomType = false ∧
      r.columnList = [("id", "integer"), ("name", "text")] := by
  obtain ⟨d, h, hview⟩ := reports_inspected
  obtain ⟨o, ho, hreturn⟩ : ∃ o, d.operations[0]? = some o ∧ o.returns = _ :=
    exists_of_map_eq (congrArg Overview.returns hview) rfl
  obtain ⟨o', ho', hparameters⟩ :
      ∃ o, d.operations[0]? = some o ∧ o.parameters.map Parameter.resultType = _ :=
    exists_of_map_eq (congrArg Overview.parameters hview) rfl
  cases ho.symm.trans ho'
  obtain ⟨_, hroutines⟩ := rows_of_first_use h
  obtain ⟨_, _, hrows⟩ := hroutines 0 _ o rfl ho
  have htwo : 2 ≤ (reports.resultColumnsOf (reports.routines[0]).row).length := by decide +kernel
  obtain ⟨r, hr, hkey, _, _, hfirst⟩ := hrows reportResult htwo (by rw [hreturn]; rfl)
    (by rw [hreturn]; rfl)
  refine ⟨d, r, h, hr, hkey, hfirst ?_ ?_⟩
  · intro j o'' hj
    cases hj
  · intro p hp
    rw [List.map_eq_nil_iff.1 hparameters] at hp
    cases hp

/-! ## User-defined types -/

/-- A key stands for a composite of the catalog: the result type under it goes by a name that the
engine takes for the composite's. It has the composite's columns, and counts as a type of the
database, exactly when it was the name of a user-defined type that was used first; otherwise it is
a shape made of columns. -/
def StandsFor (s : CatalogSnapshot) (d : Domain) (used : List Use) (key : TypeKey)
    (t : UserTypeRow) : Prop :=
  s.engine.keysEqual key t.key = true ∧
    ∃ r ∈ d.resultTypes, r.key = key ∧
      (∀ r' ∈ d.resultTypes, d.engine.keysEqual r'.key key = true → r' = r) ∧
      ∃ u, firstUse? used key = some u ∧ u.Settles s r ∧
        ((r.isCustomType = true ∧ r.columnList = columnList t.columns) ↔ u = .named key)

theorem standsFor_of_uses {rows : List RoutineRow} {o : Operation} {key wanted : TypeKey}
    {t : UserTypeRow} (hd : Registered d.Uses d)
    (hall : List.Forall₂ (FollowsRoutine s d) rows d.operations)
    (huses : FirstUses s (allUses s rows d.operations) d) (ho : o ∈ d.operations)
    (hkey : o.Uses key) (ht : s.compositeAt? wanted = some t)
    (hsame : s.engine.keysEqual key wanted = true) :
    StandsFor s d (allUses s rows d.operations) key t := by
  obtain ⟨r, hr, hrkey, u, hu, hsettles⟩ := exists_settled_of_uses hall huses ho hkey
  have hukey : u.key = key := key_of_firstUse? hu
  have hcomposite : s.compositeAt? key = some t :=
    (CatalogSnapshot.compositeAt?_congr hsame).trans ht
  have htkey := CatalogSnapshot.userType?_key (CatalogSnapshot.compositeAt?_eq_some.1 hcomposite).1
  refine ⟨s.engine.keysEqual_comm t.key key ▸ htkey, r, List.mem_of_find?_eq_some hr, hrkey,
    fun r' hr' hsame' => hd.unique hr hr' hsame', u, hu, hsettles, ?_⟩
  rw [← hukey] at hcomposite ⊢
  exact hsettles.isComposite_iff hcomposite

/-- A composite that an input or a declared return type names is given by a result type of its name,
which is the catalog's composite exactly when no columns went under the name before. -/
theorem composites_of_first_use
    (h : (run (inspect s.catalog settings) executed start).result = .ok d) :
    ∀ (i : Nat) (row : RoutineRow) (o : Operation),
      (s.routineRows settings.excludedSchemas)[i]? = some row → d.operations[i]? = some o →
      (∀ (j : Nat) (input : ParameterRow) (t : UserTypeRow),
        (inputs s row)[j]? = some input → input.isUserDefined = true →
        s.compositeAt? ⟨input.typeSchema.getD row.schema, input.nativeType⟩ = some t →
          ∃ p key, o.parameters[j]? = some p ∧ p.resultType = some key ∧
            StandsFor s d (usesIn s settings d) key t) ∧
      (DeclaresRows s d row → ∀ t : UserTypeRow,
        s.compositeAt? (typeNameKey (row.returnType.getD "") row.schema) = some t →
          ∃ key, o.returns = .customType key row.returnsSet ∧
            StandsFor s d (usesIn s settings d) key t) := by
  obtain ⟨hall, huses⟩ := inspect_firstUses h
  have hregistered := inspect_registered h
  intro i row o hrow ho
  have hfollows := forall₂_getElem? hall hrow ho
  have hmem := List.mem_of_getElem? ho
  constructor
  · intro j input t hinput huser ht
    obtain ⟨p, hp⟩ : ∃ p, o.parameters[j]? = some p := by
      obtain ⟨hj, _⟩ := List.getElem?_eq_some_iff.1 hinput
      rw [hfollows.parameters.length_eq] at hj
      exact ⟨_, List.getElem?_eq_getElem hj⟩
    have hcarries := forall₂_getElem? hfollows.parameters hinput hp
    obtain ⟨key, hkey, hsame⟩ := hcarries huser t ht
    have hused : o.Uses key := Or.inr ⟨p, List.mem_of_getElem? hp, hkey⟩
    exact ⟨p, key, hp, hkey, standsFor_of_uses hregistered hall huses hmem hused ht hsame⟩
  · intro hrows t ht
    obtain ⟨key, hreturns, hsame⟩ := hfollows.returns hrows t ht
    have hused : o.Uses key := by
      rw [Operation.Uses, hreturns]
      exact Or.inl ⟨rfl, rfl⟩
    exact ⟨key, hreturns, standsFor_of_uses hregistered hall huses hmem hused ht hsame⟩

/-- A procedure that takes rows of two composites. One of them has the name under which the columns
of an earlier function go. -/
def notes : CatalogSnapshot where
  engine := .postgres
  tables := []
  routines :=
    [rowFunction "report" none []
      [⟨"id", 1, "integer", false, none⟩, ⟨"name", 2, "text", false, none⟩],
     ⟨"public", "report_add", none, .procedure, none, false, none, none,
      [⟨"line", "report_result", some "public", true, false, false⟩,
       ⟨"comment", "note", some "public", true, false, false⟩], []⟩]
  userTypes :=
    [⟨"public", "report_result", .composite, none, none, [⟨"remark", 1, "text", false, none⟩]⟩,
     ⟨"public", "note", .composite, none, none,
      [⟨"author", 1, "integer", false, none⟩, ⟨"body", 2, "text", false, none⟩]⟩]

theorem notes_inspected :
    ∃ d, (run (inspect notes.catalog .standard) [] default).result = .ok d ∧
      overview d = ⟨[[], [some reportResult, some ⟨"public", "note"⟩]],
        [.customType reportResult true, .nothing],
        [(reportResult, false, [("id", "integer"), ("name", "text")]),
         (⟨"public", "note"⟩, true, [("author", "integer"), ("body", "text")])]⟩ := by
  decide +kernel

/-- The procedure takes rows of a composite by a result type that is not the composite. -/
theorem composite_taken_for_columns :
    ∃ d row input t o p r, (run (inspect notes.catalog .standard) [] default).result = .ok d ∧
      (notes.routineRows [])[1]? = some row ∧ (inputs notes row)[0]? = some input ∧
      input.isUserDefined = true ∧
      notes.compositeAt? ⟨input.typeSchema.getD row.schema, input.nativeType⟩ = some t ∧
      d.operations[1]? = some o ∧ o.parameters[0]? = some p ∧ d.resultTypes[0]? = some r ∧
      p.resultType = some r.key ∧ r.isCustomType = false ∧
      r.columnList ≠ columnList t.columns := by
  obtain ⟨d, h, hview⟩ := notes_inspected
  obtain ⟨o, ho, hparameters⟩ :
      ∃ o, d.operations[1]? = some o ∧ o.parameters.map Parameter.resultType = _ :=
    exists_of_map_eq (congrArg Overview.parameters hview) rfl
  obtain ⟨p, hp, hresult⟩ : ∃ p, o.parameters[0]? = some p ∧ p.resultType = _ :=
    exists_of_map_eq hparameters rfl
  obtain ⟨r, hr, houtline⟩ : ∃ r, d.resultTypes[0]? = some r ∧ r.outline = _ :=
    exists_of_map_eq (congrArg Overview.resultTypes hview) rfl
  have hkey : r.key = reportResult := congrArg Prod.fst houtline
  have hcolumns : r.columnList = [("id", "integer"), ("name", "text")] :=
    congrArg (fun x => x.2.2) houtline
  refine ⟨d, _, _, notes.userTypes[0], o, p, r, h, rfl, rfl, rfl, by decide +kernel, ho, hp, hr,
    hkey ▸ hresult, congrArg (fun x => x.2.1) houtline, ?_⟩
  rw [hcolumns]
  decide +kernel

/-- The rows of the other composite are known by its name. -/
theorem note_standsFor :
    ∃ d o p key, (run (inspect notes.catalog .standard) [] default).result = .ok d ∧
      d.operations[1]? = some o ∧ o.parameters[1]? = some p ∧ p.resultType = some key ∧
      StandsFor notes d (usesIn notes .standard d) key notes.userTypes[1] := by
  obtain ⟨d, h, hview⟩ := notes_inspected
  obtain ⟨o, ho, _⟩ :
      ∃ o, d.operations[1]? = some o ∧ o.parameters.map Parameter.resultType = _ :=
    exists_of_map_eq (congrArg Overview.parameters hview) rfl
  obtain ⟨hinputs, _⟩ := composites_of_first_use h 1 _ o rfl ho
  obtain ⟨p, key, hp, hkey, hstands⟩ := hinputs 1 _ notes.userTypes[1] rfl rfl (by decide +kernel)
  exact ⟨d, o, p, key, h, ho, hp, hkey, hstands⟩

end Offline

end SchemaModel
