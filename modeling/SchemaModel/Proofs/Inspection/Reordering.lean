import SchemaModel.Proofs.Catalog.Answers
import SchemaModel.Proofs.Inspection.Alike
import SchemaModel.Proofs.Inspection.Steady
import SchemaModel.Proofs.Inspection.TypeStage

/-!
# `SchemaModel.Proofs.Inspection.Reordering` — snapshots written down in another order

Tables and user-defined types may be written down in any order. Where no two of them go by one key,
each is found wherever it stands; a foreign key finds its table in front of it or behind; and where
one table at most holds the users, it is found as well. What remains of the order is the order of
the types in the domain.

## Contents
- `Reordered`: the tables and the user-defined types stand in another order.
- `DistinctTables`, `DistinctUserTypes`, `OneUserTable`: what the order cannot matter under.
- **The first stage.** `finalType_reordered`: the type of a table is the same.
- `inspect_reordered`: either snapshot can be inspected when the other one can, with the same types
  for the same tables and the same rest.
- `office`, `officeReversed`: tables that refer to each other and to themselves, in two orders.
-/

namespace SchemaModel

open Inspection

/-! ## Snapshots -/

/-- The table is marked as the one that holds the users. -/
def StoredTable.holdsUsers (t : StoredTable) : Bool :=
  (Attributes.parse t.description t.row.fullName).1.any Attributes.securityPrincipal

namespace CatalogSnapshot

/-- The same tables, routines and user-defined types, where the routines stand in the same order. -/
structure Reordered (s s' : CatalogSnapshot) : Prop where
  engine : s'.engine = s.engine
  tables : s'.tables.Perm s.tables
  routines : s'.routines = s.routines
  userTypes : s'.userTypes.Perm s.userTypes

/-- No two tables go by one key. -/
def DistinctTables (s : CatalogSnapshot) : Prop :=
  s.tables.Pairwise fun a b => s.engine.keysEqual a.row.key b.row.key = false

/-- No two user-defined types go by one key. -/
def DistinctUserTypes (s : CatalogSnapshot) : Prop :=
  s.userTypes.Pairwise fun a b => s.engine.keysEqual a.key b.key = false

/-- One table at most is marked as the one that holds the users. -/
def OneUserTable (s : CatalogSnapshot) : Prop := (s.tables.filter StoredTable.holdsUsers).length ≤ 1

instance (s : CatalogSnapshot) : Decidable s.DistinctTables :=
  inferInstanceAs (Decidable (List.Pairwise _ _))

instance (s : CatalogSnapshot) : Decidable s.DistinctUserTypes :=
  inferInstanceAs (Decidable (List.Pairwise _ _))

instance (s : CatalogSnapshot) : Decidable s.OneUserTable := inferInstanceAs (Decidable (_ ≤ _))

/-- The tables outside the excluded schemas. -/
def included (s : CatalogSnapshot) (excluded : List String) : List StoredTable :=
  s.tables.filter fun t => !s.isExcluded excluded t.schema

variable {s s' : CatalogSnapshot} {excluded : List String}

/-- Of elements with distinct keys one at most goes by a given key. -/
theorem eq_of_keysEqual {α : Type} {engine : Engine} {key : α → TypeKey} {xs : List α}
    (h : xs.Pairwise fun a b => engine.keysEqual (key a) (key b) = false)
    {wanted : TypeKey} {x y : α} (hx : x ∈ xs) (hy : y ∈ xs) (hxw : engine.keysEqual (key x) wanted = true)
    (hyw : engine.keysEqual (key y) wanted = true) : x = y := by
  by_contra hne
  have hsymm : Std.Symm fun a b => engine.keysEqual (key a) (key b) = false :=
    ⟨fun a b hab => engine.keysEqual_comm (key a) (key b) ▸ hab⟩
  have hsame := engine.keysEqual_trans hxw (engine.keysEqual_comm (key y) wanted ▸ hyw)
  rw [h.forall hx hy hne] at hsame
  cases hsame

theorem eq_of_length_filter_le {α : Type} {p : α → Bool} {xs : List α}
    (h : (xs.filter p).length ≤ 1) {x y : α} (hx : x ∈ xs) (hy : y ∈ xs) (hpx : p x = true)
    (hpy : p y = true) : x = y := by
  have hxf := List.mem_filter.2 ⟨hx, hpx⟩
  have hyf := List.mem_filter.2 ⟨hy, hpy⟩
  rcases hf : xs.filter p with _ | ⟨z, _ | ⟨_, _⟩⟩
  · rw [hf] at hxf
    cases hxf
  · rw [hf] at hxf hyf
    rw [List.mem_singleton.1 hxf, List.mem_singleton.1 hyf]
  · rw [hf] at h
    simp at h

namespace Reordered

theorem userType? (h : s.Reordered s') (hdistinct : s.DistinctUserTypes) :
    s'.userType? = s.userType? := by
  funext schema name
  show (s'.userTypes.find? fun t => s'.engine.keysEqual t.key ⟨schema, name⟩) = _
  rw [h.engine]
  exact find?_eq_of_perm h.userTypes fun x hx y hy hxw hyw =>
    eq_of_keysEqual hdistinct hx hy hxw hyw

theorem table? (h : s.Reordered s') (hdistinct : s.DistinctTables) : s'.table? = s.table? := by
  funext row
  show (s'.tables.find? fun t => s'.engine.keysEqual t.row.key row.key) = _
  rw [h.engine]
  exact find?_eq_of_perm h.tables fun x hx y hy hxw hyw =>
    eq_of_keysEqual hdistinct hx hy hxw hyw

theorem included (h : s.Reordered s') (excluded : List String) :
    (s'.included excluded).Perm (s.included excluded) := by
  unfold CatalogSnapshot.included isExcluded
  rw [h.engine]
  exact h.tables.filter _

end Reordered

theorem DistinctTables.included (h : s.DistinctTables) (excluded : List String) :
    (s.included excluded).Pairwise fun a b => s.engine.keysEqual a.row.key b.row.key = false :=
  h.sublist List.filter_sublist

/-- Distinct tables stay distinct in another order. -/
theorem DistinctTables.reordered (h : s.DistinctTables) (hs : s.Reordered s') :
    s'.DistinctTables := by
  unfold DistinctTables
  rw [hs.engine]
  refine (hs.tables.pairwise_iff fun {a b} hab => ?_).2 h
  exact s.engine.keysEqual_comm a.row.key b.row.key ▸ hab

theorem OneUserTable.included (h : s.OneUserTable) (excluded : List String) :
    ((s.included excluded).filter StoredTable.holdsUsers).length ≤ 1 :=
  Nat.le_trans (List.Sublist.filter _ List.filter_sublist).length_le h

end CatalogSnapshot

namespace Offline

variable {s s' : CatalogSnapshot} {settings : Settings} {d d' start : Domain}

/-! ## The first stage -/

theorem distinctRows (h : s.DistinctTables) (excluded : List String) :
    DistinctRows s.engine (s.tableRows excluded) :=
  List.pairwise_map.2 (h.included excluded)

theorem ofTable_reordered (h : s.Reordered s') (htables : s.DistinctTables) (row : TableRow)
    {α : Type} (part : StoredTable → List α) : s'.ofTable row part = s.ofTable row part := by
  unfold CatalogSnapshot.ofTable
  rw [h.table? htables]

theorem tableType_reordered (h : s.Reordered s') (htables : s.DistinctTables) :
    tableType s' = tableType s := by
  funext row
  unfold tableType
  simp only [ofTable_reordered h htables, h.engine]

/-- Loaded types have the distinct keys of their tables, whatever else they hold. -/
theorem distinct_of_key (htables : s.DistinctTables) (hload : Loads s settings)
    {view : TableRow → ApplicationType} (hview : ∀ row, (view row).key = (loadedType s row).key) :
    ((s.tableRows settings.excludedSchemas).map view).Pairwise fun a b =>
      s.engine.keysEqual a.key b.key = false := by
  rw [List.pairwise_map]
  refine (distinctRows htables settings.excludedSchemas).imp_of_mem fun {a b} ha hb hab => ?_
  rw [hview, hview, (loadedType_key hload ha).1, (loadedType_key hload hb).1]
  exact hab

theorem findType?_loaded_reordered (h : s.Reordered s') (htables : s.DistinctTables)
    (hload : Loads s settings) (key : TypeKey) :
    (loadedDomain s' settings).findType? key = (loadedDomain s settings).findType? key := by
  have hloaded : loadedType s' = loadedType s := by
    funext row
    unfold loadedType
    rw [tableType_reordered h htables]
  have hrows : (s'.tableRows settings.excludedSchemas).Perm
      (s.tableRows settings.excludedSchemas) := (h.included _).map _
  show (((s'.tableRows settings.excludedSchemas).map (loadedType s')).find? fun t =>
    s'.engine.keysEqual t.key key) = _
  rw [hloaded, h.engine]
  refine find?_eq_of_perm (hrows.map _) fun x hx y hy hxk hyk => ?_
  exact CatalogSnapshot.eq_of_keysEqual (distinct_of_key htables hload fun _ => rfl) hx hy hxk hyk

theorem fieldAt?_loaded_reordered (h : s.Reordered s') (htables : s.DistinctTables)
    (hload : Loads s settings) (key : TypeKey) (column : String) :
    (loadedDomain s' settings).fieldAt? key column =
      (loadedDomain s settings).fieldAt? key column := by
  have hengine : (loadedDomain s' settings).engine = (loadedDomain s settings).engine := h.engine
  unfold Domain.fieldAt?
  rw [findType?_loaded_reordered h htables hload, hengine]

/-- The type of a table is the same whatever stands before or behind it. -/
theorem finalType_reordered (h : s.Reordered s') (htables : s.DistinctTables)
    (hload : Loads s settings) : finalType s' settings = finalType s settings := by
  have hengine : (loadedDomain s' settings).engine = (loadedDomain s settings).engine := h.engine
  have hpointed : (loadedDomain s' settings).pointed = (loadedDomain s settings).pointed := by
    funext t fk
    unfold Domain.pointed
    rw [fieldAt?_loaded_reordered h htables hload, hengine]
  funext row
  unfold finalType loadedType
  rw [hpointed, ofTable_reordered h htables, tableType_reordered h htables]

theorem resolvable_reordered (h : s.Reordered s') (htables : s.DistinctTables)
    (hload : Loads s settings) {owner : TypeKey} {fk : ForeignKeyRow} :
    (loadedDomain s' settings).Resolvable owner fk ↔
      (loadedDomain s settings).Resolvable owner fk := by
  unfold Domain.Resolvable
  rw [findType?_loaded_reordered h htables hload, fieldAt?_loaded_reordered h htables hload,
    fieldAt?_loaded_reordered h htables hload]

/-- The types of the tables of a snapshot, as the first stage on another one makes them. -/
def typesIn (s' s : CatalogSnapshot) (settings : Settings) : List ApplicationType :=
  (s'.tableRows settings.excludedSchemas).map (finalType s settings)

/-- The first stage succeeds on either snapshot when it does on the other, and gives the same types
in their order. -/
theorem typeStage_reordered (h : s.Reordered s') (htables : s.DistinctTables) :
    typeStage s' settings start = (.ok (), d') ↔
      ∃ d, typeStage s settings start = (.ok (), d) ∧ d' = d.withTypes (typesIn s' s settings) := by
  have hrows : (s'.tableRows settings.excludedSchemas).Perm
      (s.tableRows settings.excludedSchemas) := (h.included _).map _
  have hblank : blankDomain s'.engine settings = blankDomain s.engine settings := by rw [h.engine]
  rw [typeStage_eq_ok (distinctRows (htables.reordered h) _), hblank]
  simp only [typeStage_eq_ok (distinctRows htables _), hrows.mem_iff, tableType_reordered h htables,
    ofTable_reordered h htables]
  constructor
  · rintro ⟨hall, rfl⟩
    have hload : Loads s settings := fun row hrow => (hall row hrow).1
    refine ⟨_, ⟨fun row hrow => ⟨(hall row hrow).1, fun fk hfk => ?_⟩, rfl⟩, ?_⟩
    · exact (resolvable_reordered h htables hload).1 ((hall row hrow).2 fk hfk)
    · rw [finalType_reordered h htables hload]
      rfl
  · rintro ⟨_, ⟨hall, rfl⟩, rfl⟩
    have hload : Loads s settings := fun row hrow => (hall row hrow).1
    refine ⟨fun row hrow => ⟨(hall row hrow).1, fun fk hfk => ?_⟩, ?_⟩
    · exact (resolvable_reordered h htables hload).2 ((hall row hrow).2 fk hfk)
    · rw [finalType_reordered h htables hload]
      rfl

theorem foldl_pointed_attributes (d : Domain) (t : ApplicationType) (fks : List ForeignKeyRow) :
    (fks.foldl d.pointed t).attributes = t.attributes := by
  induction fks generalizing t with
  | nil => rfl
  | cons fk rest ih =>
      rw [List.foldl_cons, ih]
      unfold Domain.pointed
      split <;> rfl

/-- No look-up in the domain that the first stage gives depends on the order of its types. -/
theorem reorders_of_typeStage (h : s.Reordered s') (htables : s.DistinctTables)
    (husers : s.OneUserTable) (hrun : typeStage s settings start = (.ok (), d)) :
    d.Reorders (typesIn s' s settings) := by
  obtain ⟨hall, rfl⟩ := (typeStage_eq_ok (distinctRows htables _)).1 hrun
  have hload : Loads s settings := fun row hrow => (hall row hrow).1
  have hperm : (typesIn s' s settings).Perm (typesIn s s settings) := ((h.included _).map _).map _
  refine ⟨hperm, fun key => ?_, ?_⟩
  · refine find?_eq_of_perm hperm fun x hx y hy hxk hyk => ?_
    exact CatalogSnapshot.eq_of_keysEqual
      (distinct_of_key htables hload (finalType_key s settings)) hx hy hxk hyk
  · have hmark : ∀ t ∈ s.included settings.excludedSchemas,
        (finalType s settings t.row).isSecurityPrincipal = t.holdsUsers := by
      intro t ht
      unfold ApplicationType.isSecurityPrincipal StoredTable.holdsUsers finalType
      rw [foldl_pointed_attributes, (loadedType_key hload (List.mem_map_of_mem ht)).2]
      rfl
    refine find?_eq_of_perm hperm fun x hx y hy hxp hyp => ?_
    obtain ⟨_, hr, rfl⟩ := List.mem_map.1 hx
    obtain ⟨t, ht, rfl⟩ := List.mem_map.1 hr
    obtain ⟨_, hr', rfl⟩ := List.mem_map.1 hy
    obtain ⟨u, hu, rfl⟩ := List.mem_map.1 hr'
    rw [hmark t ht] at hxp
    rw [hmark u hu] at hyp
    rw [CatalogSnapshot.eq_of_length_filter_le (husers.included _) ht hu hxp hyp]

/-! ## Whole inspections -/

/-- Operations are loaded from the routines and the user-defined types alone. -/
theorem operationStage_reordered (h : s.Reordered s') (huserTypes : s.DistinctUserTypes)
    (rows : List RoutineRow) : operationStage s' rows = operationStage s rows := by
  have huserType : s'.catalog.userType = s.catalog.userType := by
    funext schema name
    exact congrArg pure (congrFun (congrFun (h.userType? huserTypes) schema) name)
  have hroutine : s'.routine? = s.routine? := by
    unfold CatalogSnapshot.routine?
    rw [h.engine, h.routines]
  have halike : ∀ row ∈ rows, RoutineAlike s.catalog s'.catalog row := by
    intro row _
    constructor
    · unfold CatalogSnapshot.catalog
      dsimp only
      rw [hroutine]
    · unfold CatalogSnapshot.catalog CatalogSnapshot.resultColumnsOf
        CatalogSnapshot.storedResultColumns
      dsimp only
      rw [hroutine, h.engine]
  funext d
  have hyields : Yields d (loadEach s.catalog rows) (operationStage s' rows d) := by
    rw [← loadEach_congr h.engine huserType halike]
    exact loadEach_yields rows
  exact hyields.unique (loadEach_yields rows) []

/-- A snapshot in another order gives what the first one gives, with the types in its own order. -/
theorem inspect_eq_ok_reordered (h : s.Reordered s') (htables : s.DistinctTables)
    (huserTypes : s.DistinctUserTypes) (husers : s.OneUserTable) {executed : List String} :
    (run (inspect s'.catalog settings) executed start).result = .ok d' ↔
      ∃ d, (run (inspect s.catalog settings) executed start).result = .ok d ∧
        d' = d.withTypes (typesIn s' s settings) := by
  have hroutines : s'.routineRows settings.excludedSchemas =
      s.routineRows settings.excludedSchemas := by
    unfold CatalogSnapshot.routineRows CatalogSnapshot.isExcluded
    rw [h.engine, h.routines]
  simp only [inspect_eq_ok, typeStage_reordered h htables, hroutines,
    operationStage_reordered h huserTypes]
  constructor
  · rintro ⟨_, ⟨d₀, htypes, rfl⟩, hrest⟩
    obtain ⟨hsame, _⟩ := operationStage_steady (s := s) (s.routineRows settings.excludedSchemas)
      d₀ _ (reorders_of_typeStage h htables husers htypes)
    rw [hsame] at hrest
    obtain ⟨hok, rfl⟩ := Prod.mk.inj hrest
    exact ⟨_, ⟨d₀, htypes, Prod.ext hok rfl⟩, rfl⟩
  · rintro ⟨_, ⟨d₀, htypes, hrest⟩, rfl⟩
    obtain ⟨hsame, _⟩ := operationStage_steady (s := s) (s.routineRows settings.excludedSchemas)
      d₀ _ (reorders_of_typeStage h htables husers htypes)
    rw [hrest] at hsame
    exact ⟨_, ⟨d₀, htypes, rfl⟩, hsame⟩

/-- The types of an inspected domain are the final types of its tables. -/
theorem types_of_inspect (htables : s.DistinctTables) {executed : List String}
    (hrun : (run (inspect s.catalog settings) executed start).result = .ok d) :
    d.types = typesIn s s settings ∧ Loads s settings := by
  obtain ⟨d₀, htypes, hrest⟩ := inspect_eq_ok.1 hrun
  obtain ⟨_, hsame, _⟩ := operationStage_steady (s := s) (s.routineRows settings.excludedSchemas) d₀
    d₀.types ⟨.refl _, fun _ => rfl, rfl⟩
  obtain ⟨hall, rfl⟩ := (typeStage_eq_ok (distinctRows htables _)).1 htypes
  rw [hrest] at hsame
  exact ⟨hsame, fun row hrow => (hall row hrow).1⟩

/-- The order in which tables and user-defined types are written down never matters: a snapshot can
be inspected in one order exactly when it can be in another, every table then has the same type, and
everything but the order of the types is the same. -/
theorem inspect_reordered (h : s.Reordered s') (htables : s.DistinctTables)
    (huserTypes : s.DistinctUserTypes) (husers : s.OneUserTable) (settings : Settings)
    (executed : List String) (start : Domain) :
    ((∃ d, (run (inspect s.catalog settings) executed start).result = .ok d) ↔
      ∃ d', (run (inspect s'.catalog settings) executed start).result = .ok d') ∧
    ∀ d d', (run (inspect s.catalog settings) executed start).result = .ok d →
      (run (inspect s'.catalog settings) executed start).result = .ok d' →
      (∃ typeOf : StoredTable → ApplicationType,
        d.types = (s.included settings.excludedSchemas).map typeOf ∧
        d'.types = (s'.included settings.excludedSchemas).map typeOf ∧
        ∀ t ∈ s.included settings.excludedSchemas, (typeOf t).key = t.row.key) ∧
      d'.operations = d.operations ∧ d'.resultTypes = d.resultTypes ∧
      d' = d.withTypes d'.types := by
  constructor
  · constructor
    · rintro ⟨d, hd⟩
      exact ⟨_, (inspect_eq_ok_reordered h htables huserTypes husers).2 ⟨d, hd, rfl⟩⟩
    · rintro ⟨d', hd'⟩
      obtain ⟨d, hd, _⟩ := (inspect_eq_ok_reordered h htables huserTypes husers).1 hd'
      exact ⟨d, hd⟩
  · intro d d' hd hd'
    obtain ⟨d₁, hd₁, rfl⟩ := (inspect_eq_ok_reordered h htables huserTypes husers).1 hd'
    obtain rfl : d = d₁ := Except.ok.inj (hd.symm.trans hd₁)
    obtain ⟨htypes, hload⟩ := types_of_inspect htables hd
    refine ⟨⟨fun t => finalType s settings t.row, ?_, ?_, ?_⟩, rfl, rfl, rfl⟩
    · rw [htypes]
      exact List.map_map
    · exact List.map_map
    · intro t ht
      rw [finalType_key]
      exact (loadedType_key hload (List.mem_map_of_mem ht)).1

/-! ## Two orders -/

/-- A table for people with a reference to itself and one to their rooms, which refer back to
them; a routine that takes a composite and returns what a table has. -/
def office (tables : List StoredTable → List StoredTable)
    (userTypes : List UserTypeRow → List UserTypeRow) : CatalogSnapshot where
  engine := .postgres
  tables := tables
    [⟨"public", "person", some "\x7b\"security_principal\": true\x7d",
      [⟨"id", "integer", none, none, none, false, true, false, none, none⟩,
       ⟨"boss", "integer", none, none, none, true, false, false, none, none⟩,
       ⟨"room", "integer", none, none, none, true, false, false, none, none⟩],
      [⟨"person_pk", .primary, ["id"]⟩],
      [⟨"person_boss", "boss", "public", "person", "id"⟩,
       ⟨"person_room", "room", "public", "room", "id"⟩]⟩,
     ⟨"public", "room", none,
      [⟨"id", "integer", none, none, none, false, true, false, none, none⟩,
       ⟨"keeper", "integer", none, none, none, false, false, false, none, none⟩],
      [⟨"room_pk", .primary, ["id"]⟩],
      [⟨"room_keeper", "keeper", "public", "person", "id"⟩]⟩]
  routines :=
    [⟨"public", "room_select_all", none, .function, none, true, none, none,
      [⟨"span", "span", some "public", true, false, false⟩,
       ⟨"p_user_id", "integer", none, false, false, false⟩],
      [⟨"id", 1, "integer", false, none⟩, ⟨"keeper", 2, "integer", false, none⟩]⟩,
     ⟨"public", "room_note", none, .function, some "note", false, none, none, [], []⟩]
  userTypes := userTypes
    [⟨"public", "span", .composite, none, none, [⟨"since", 1, "date", true, none⟩]⟩,
     ⟨"public", "note", .composite, none, none, [⟨"body", 1, "text", false, none⟩]⟩]

theorem inspect_reordered_office :
    ∃ d d', (run (inspect (office id id).catalog .standard) [] default).result = .ok d ∧
      (run (inspect (office List.reverse List.reverse).catalog .standard) [] default).result =
        .ok d' ∧
      d.types.map ApplicationType.key = [⟨"public", "person"⟩, ⟨"public", "room"⟩] ∧
      d'.types.map ApplicationType.key = [⟨"public", "room"⟩, ⟨"public", "person"⟩] ∧
      d'.operations = d.operations ∧ d'.resultTypes = d.resultTypes := by
  obtain ⟨d, hd, hkeys⟩ :
      ∃ d, (run (inspect (office id id).catalog .standard) [] default).result = .ok d ∧
        d.types.map ApplicationType.key = [⟨"public", "person"⟩, ⟨"public", "room"⟩] := by
    decide +kernel
  have hs : (office id id).Reordered (office List.reverse List.reverse) :=
    ⟨rfl, List.reverse_perm _, rfl, List.reverse_perm _⟩
  obtain ⟨hiff, hsame⟩ := inspect_reordered hs (by decide +kernel) (by decide +kernel)
    (by decide +kernel) .standard [] default
  obtain ⟨d', hd'⟩ := hiff.1 ⟨d, hd⟩
  obtain ⟨⟨typeOf, htypes, htypes', _⟩, hoperations, hresults, _⟩ := hsame d d' hd hd'
  have hreversed : d'.types = d.types.reverse := by
    rw [htypes, htypes']
    rfl
  refine ⟨d, d', hd, hd', hkeys, ?_, hoperations, hresults⟩
  rw [hreversed, List.map_reverse, hkeys]
  rfl

end Offline

end SchemaModel
