import SchemaModel.Proofs.Portable.Outline

/-!
# `SchemaModel.Proofs.Portable.Tables` — the table stage on a portable schema

Whatever the engine, the table stage succeeds on a portable schema, and it ends with the types that
one and the same list of outlines stands for.

## Contents
- `Holds`: a snapshot has the tables of a schema as written down for an engine.
- **Tables.** `Schema.loaded`: the outline of a table before references. Of two tables of one name
  the first one's columns count, for that is the one which a catalog finds.
- **References.** `pointAt`: one foreign key on outlines. `Fits`: outlines have the names of the
  schema's tables and columns, which is all that resolving foreign keys needs.
- `Schema.outlines`: the tables with their references. `typeStage_stored`: every engine ends with
  the types that they stand for.
-/

namespace SchemaModel.Portable

open Inspection Offline

variable {s : CatalogSnapshot} {engine : Engine} {schema : Schema} {settings : Settings}

/-- The snapshot is of the engine and has the tables of the schema, whatever else it has. -/
structure Holds (s : CatalogSnapshot) (engine : Engine) (schema : Schema) : Prop where
  sameEngine : s.engine = engine
  sameTables : s.tables = schema.tables.map (Table.stored engine)

/-! ## Tables -/

/-- The table whose columns and keys a catalog gives when asked for this one. -/
def Schema.contents (schema : Schema) (t : Table) : Table :=
  (tableNamed? schema.tables t.name).getD t

theorem tableNamed?_eq_some {tables : List Table} {name : Name} {t : Table}
    (h : tableNamed? tables name = some t) : t ∈ tables ∧ t.name = name := by
  have hname := List.find?_some h
  exact ⟨List.mem_of_find?_eq_some h, of_decide_eq_true hname⟩

theorem Schema.tableNamed?_contents {t : Table} (ht : t ∈ schema.tables) :
    tableNamed? schema.tables t.name = some (schema.contents t) := by
  unfold Schema.contents
  cases h : tableNamed? schema.tables t.name with
  | some u => rfl
  | none =>
      unfold tableNamed? at h
      rw [List.find?_eq_none] at h
      exact absurd (decide_eq_true rfl) (h t ht)

theorem Schema.contents_of_tableNamed? {name : Name} {t : Table}
    (h : tableNamed? schema.tables name = some t) : schema.contents t = t := by
  obtain ⟨_, rfl⟩ := tableNamed?_eq_some h
  unfold Schema.contents
  rw [h]
  rfl

/-- What a table comes to before references: the contents that a catalog gives for it, under its own
comment. -/
def Schema.loaded (schema : Schema) (t : Table) : TypeOutline :=
  (schema.contents t).outline t.description

theorem table?_stored (hs : Holds s engine schema) {t : Table} (ht : t ∈ schema.tables) :
    s.table? (t.stored engine).row = some ((schema.contents t).stored engine) := by
  have hsame : ∀ u ∈ schema.tables,
      (s.engine.namesEqual (u.stored engine).schema (t.stored engine).row.schema &&
        s.engine.namesEqual (u.stored engine).name (t.stored engine).row.name) =
          decide (u.name = t.name) := by
    intro u hu
    rw [hs.sameEngine]
    have hschema : engine.namesEqual (u.stored engine).schema (t.stored engine).row.schema = true :=
      engine.namesEqual_refl _
    rw [hschema, Bool.true_and]
    exact namesEqual_on schema.separated engine (List.mem_map_of_mem hu) (List.mem_map_of_mem ht)
  unfold CatalogSnapshot.table?
  rw [hs.sameTables, find?_map_of_mem hsame]
  have hfind := Schema.tableNamed?_contents ht
  unfold tableNamed? at hfind
  rw [hfind]
  rfl

theorem ofTable_stored (hs : Holds s engine schema) {t : Table} (ht : t ∈ schema.tables)
    {α : Type} (part : StoredTable → List α) :
    s.ofTable (t.stored engine).row part = part ((schema.contents t).stored engine) := by
  unfold CatalogSnapshot.ofTable
  rw [table?_stored hs ht]

theorem tableType_stored (hs : Holds s engine schema) {t : Table} (ht : t ∈ schema.tables) :
    tableType s (t.stored engine).row = .ok ((schema.loaded t).type engine) := by
  obtain ⟨_, hname⟩ := tableNamed?_eq_some (Schema.tableNamed?_contents ht)
  unfold tableType Schema.loaded
  dsimp only
  rw [ofTable_stored hs ht, ofTable_stored hs ht, ofTable_stored hs ht, parse_fst, hs.sameEngine,
    ← Table.outline_stored, hname]
  rfl

/-- The foreign keys that wait for a table. -/
def Schema.pending (engine : Engine) (schema : Schema) (t : Table) :
    TypeKey × List ForeignKeyRow :=
  (keyOn engine t.name, (schema.contents t).foreignKeys.map (ForeignKey.row engine))

/-- The domain with the types that outlines stand for. -/
def domainOf (engine : Engine) (settings : Settings) (ts : List TypeOutline) : Domain :=
  { blankDomain engine settings with types := ts.map (TypeOutline.type engine) }

theorem tableStage_stored (settings : Settings) (hs : Holds s engine schema) {rest : List Table}
    (hrest : ∀ t ∈ rest, t ∈ schema.tables) (ts : List TypeOutline) :
    tableStage s (rest.map fun t => (t.stored engine).row) (domainOf engine settings ts) =
      (.ok (rest.map (schema.pending engine)),
        domainOf engine settings (ts ++ rest.map schema.loaded)) := by
  induction rest generalizing ts with
  | nil =>
      have hnone : ts ++ List.map schema.loaded [] = ts := List.append_nil ts
      rw [hnone]
      rfl
  | cons t more ih =>
      have ht := hrest t List.mem_cons_self
      have hload : Build.outcome (tableType s (t.stored engine).row) (domainOf engine settings ts) =
          (.ok ((schema.loaded t).type engine), domainOf engine settings ts) :=
        Build.outcome_eq_ok.2 ⟨tableType_stored hs ht, rfl⟩
      have hadd : { domainOf engine settings ts with
          types := (domainOf engine settings ts).types ++ [(schema.loaded t).type engine] } =
            domainOf engine settings (ts ++ [schema.loaded t]) := by
        unfold domainOf
        rw [List.map_append]
        rfl
      have hmore := ih (fun u hu => hrest u (List.mem_cons_of_mem t hu)) (ts ++ [schema.loaded t])
      rw [List.map_cons]
      unfold tableStage
      rw [Build.bind_ok hload, Build.act_bind, hadd, Build.bind_ok hmore, List.append_assoc,
        ofTable_stored hs ht]
      obtain ⟨_, hname⟩ := tableNamed?_eq_some (Schema.tableNamed?_contents ht)
      have hkey : ((schema.loaded t).type engine).key = keyOn engine t.name := by
        unfold Schema.loaded ApplicationType.key TypeOutline.type
        rw [Table.outline_name, hname]
        rfl
      rw [hkey]
      rfl

/-! ## References -/

/-- Points the field of a foreign key at its target. -/
def pointAt (owner : Name) (ts : List TypeOutline) (k : ForeignKey) : List TypeOutline :=
  modifyFirst (fun t => decide (t.name = owner))
    (fun t => { t with
      fields := changeField k.column (fun f => { f with references := some (k.table, k.target) })
        t.fields }) ts

/-- The name of a type with those of its fields. -/
def TypeOutline.signature (t : TypeOutline) : Name × List Name :=
  (t.name, t.fields.map FieldOutline.name)

/-- The outlines have the names of the schema's tables and of their columns. -/
def Schema.Fits (schema : Schema) (ts : List TypeOutline) : Prop :=
  ts.map TypeOutline.signature =
    schema.tables.map fun t => (t.name, (schema.contents t).columns.map Column.name)

variable {ts : List TypeOutline}

theorem Schema.loaded_fits (schema : Schema) : schema.Fits (schema.tables.map schema.loaded) := by
  unfold Schema.Fits
  rw [List.map_map]
  refine List.map_congr_left fun t ht => ?_
  obtain ⟨_, hname⟩ := tableNamed?_eq_some (Schema.tableNamed?_contents ht)
  rw [Function.comp_apply]
  unfold TypeOutline.signature Schema.loaded
  rw [Table.outline_name, Table.outline_names, hname]

theorem pointAt_fits (h : schema.Fits ts) (owner : Name) (k : ForeignKey) :
    schema.Fits (pointAt owner ts k) := by
  unfold Schema.Fits at h ⊢
  rw [← h]
  apply map_modifyFirst
  intro t
  exact congrArg (Prod.mk t.name) (changeField_names fun _ => rfl)

namespace Schema.Fits

theorem names (h : schema.Fits ts) :
    ts.map TypeOutline.name = schema.tables.map Table.name := by
  have hfirst := congrArg (List.map Prod.fst) h
  rw [List.map_map, List.map_map] at hfirst
  exact hfirst

theorem separated (h : schema.Fits ts) : Separated (ts.map TypeOutline.name) := by
  rw [h.names]
  exact schema.separated

/-- The fields of an outline are named like the columns of a table. -/
theorem columns (h : schema.Fits ts) {t : TypeOutline} (ht : t ∈ ts) :
    ∃ u ∈ schema.tables, t.fields.map FieldOutline.name = u.columns.map Column.name := by
  have hsig : t.signature ∈ ts.map TypeOutline.signature := List.mem_map_of_mem ht
  rw [h, List.mem_map] at hsig
  obtain ⟨u, hu, hsame⟩ := hsig
  obtain ⟨hmem, _⟩ := tableNamed?_eq_some (Schema.tableNamed?_contents hu)
  exact ⟨schema.contents u, hmem, (congrArg Prod.snd hsame).symm⟩

theorem fields_separated (h : schema.Fits ts) {t : TypeOutline} (ht : t ∈ ts) :
    Separated (t.fields.map FieldOutline.name) := by
  obtain ⟨u, _, hnames⟩ := h.columns ht
  rw [hnames]
  exact u.separated

/-- The outline of a table that can be found has the names of its columns. -/
theorem find? (h : schema.Fits ts) {name : Name} {u : Table}
    (hu : tableNamed? schema.tables name = some u) :
    ∃ t ∈ ts, ts.find? (fun t => decide (t.name = name)) = some t ∧ t.name = name ∧
      t.fields.map FieldOutline.name = u.columns.map Column.name := by
  have hleft : (ts.map TypeOutline.signature).find? (fun sig => decide (sig.1 = name)) =
      (ts.find? fun t => decide (t.name = name)).map TypeOutline.signature := List.find?_map
  have hright : (schema.tables.map fun t =>
      (t.name, (schema.contents t).columns.map Column.name)).find?
        (fun sig => decide (sig.1 = name)) = some (name, u.columns.map Column.name) := by
    have hfind := hu
    unfold tableNamed? at hfind
    obtain ⟨_, hname⟩ := tableNamed?_eq_some hu
    rw [List.find?_map]
    show Option.map _ (schema.tables.find? fun t => decide (t.name = name)) = _
    rw [hfind, Option.map_some, hname, Schema.contents_of_tableNamed? hu]
  rw [h, hright] at hleft
  obtain ⟨t, hfind, hsig⟩ := Option.map_eq_some_iff.1 hleft.symm
  refine ⟨t, List.mem_of_find?_eq_some hfind, hfind, ?_, ?_⟩
  · exact congrArg Prod.fst hsig
  · exact congrArg Prod.snd hsig

/-- All outlines of one name have the columns of the table that is found under it. -/
theorem fields_names (h : schema.Fits ts) {name : Name} {u : Table}
    (hu : tableNamed? schema.tables name = some u) {t : TypeOutline} (ht : t ∈ ts)
    (hname : t.name = name) : t.fields.map FieldOutline.name = u.columns.map Column.name := by
  have hsig : t.signature ∈ ts.map TypeOutline.signature := List.mem_map_of_mem ht
  rw [h, List.mem_map] at hsig
  obtain ⟨v, hv, hsame⟩ := hsig
  have hvname : v.name = name := (congrArg Prod.fst hsame).trans hname
  have hcontents : schema.contents v = u := by
    have hfound := Schema.tableNamed?_contents hv
    rw [hvname, hu] at hfound
    exact (Option.some.inj hfound).symm
  rw [← hcontents]
  exact (congrArg Prod.snd hsame).symm

/-- Either engine finds a type under the spelling of its name. -/
theorem keysEqual_type (h : schema.Fits ts) {name : Name}
    (hname : name ∈ ts.map TypeOutline.name) :
    ∀ t ∈ ts, engine.keysEqual (t.type engine).key (keyOn engine name) =
      decide (t.name = name) := by
  intro t ht
  show engine.keysEqual (keyOn engine t.name) (keyOn engine name) = _
  rw [keysEqual_keyOn]
  exact namesEqual_on h.separated engine (List.mem_map_of_mem ht) hname

theorem findType? (h : schema.Fits ts) {name : Name} (hname : name ∈ ts.map TypeOutline.name) :
    (domainOf engine settings ts).findType? (keyOn engine name) =
      (ts.find? fun t => decide (t.name = name)).map (TypeOutline.type engine) :=
  find?_map_of_mem (h.keysEqual_type hname)

/-- Either engine finds a table under the spelling of its name. -/
theorem found (h : schema.Fits ts) (engine : Engine) (settings : Settings) {name : Name} {u : Table}
    (hu : tableNamed? schema.tables name = some u) :
    ∃ t ∈ ts, (domainOf engine settings ts).findType? (keyOn engine name) = some (t.type engine) ∧
      t.name = name ∧ t.fields.map FieldOutline.name = u.columns.map Column.name := by
  obtain ⟨t, ht, hfind, hname, hnames⟩ := h.find? hu
  refine ⟨t, ht, ?_, hname, hnames⟩
  have hmem : name ∈ ts.map TypeOutline.name := hname ▸ List.mem_map_of_mem ht
  rw [h.findType? hmem, hfind]
  rfl

end Schema.Fits

/-- Pointing at a field by its words changes the types that the outlines stand for as an engine
changes them by name. -/
theorem modifyType_stored (engine : Engine) (settings : Settings) (h : schema.Fits ts)
    {owner : Name} {v : Table} {k : ForeignKey}
    (howner : tableNamed? schema.tables owner = some v)
    (hcolumn : k.column ∈ v.columns.map Column.name) :
    (domainOf engine settings ts).modifyType (keyOn engine owner) (fun t =>
      { t with fields := modifyField engine t.fields (k.column.on engine) fun f =>
          { f with references := some ⟨keyOn engine k.table, k.target.on engine⟩ } }) =
      domainOf engine settings (pointAt owner ts k) := by
  obtain ⟨w, hw, _, hwname, _⟩ := h.find? howner
  have hmem : owner ∈ ts.map TypeOutline.name := hwname ▸ List.mem_map_of_mem hw
  unfold Domain.modifyType domainOf pointAt
  dsimp only
  rw [modifyFirst_map (h.keysEqual_type hmem)]
  intro x hx hxname
  have hnames := h.fields_names howner hx (of_decide_eq_true hxname)
  have hfields : modifyField engine (x.fields.map (FieldOutline.field engine))
      (k.column.on engine)
      (fun f => { f with references := some ⟨keyOn engine k.table, k.target.on engine⟩ }) =
        (changeField k.column (fun f => { f with references := some (k.table, k.target) })
          x.fields).map (FieldOutline.field engine) :=
    modifyField_outline (h.fields_separated hx) (hnames ▸ hcolumn) fun _ => rfl
  unfold TypeOutline.type
  dsimp only
  rw [hfields]

/-- Resolving a written foreign key finds both of its ends and points the one at the other. -/
theorem resolveForeignKey_stored (engine : Engine) (settings : Settings) (h : schema.Fits ts)
    {owner : Name} {v : Table} {k : ForeignKey}
    (howner : tableNamed? schema.tables owner = some v)
    (hcolumn : k.column ∈ v.columns.map Column.name)
    (htarget : ∃ u, tableNamed? schema.tables k.table = some u ∧
      k.target ∈ u.columns.map Column.name) :
    resolveForeignKey (domainOf engine settings ts) (keyOn engine owner) (k.row engine) =
      .ok (domainOf engine settings (pointAt owner ts k), []) := by
  obtain ⟨u, hu, hfield⟩ := htarget
  obtain ⟨t, ht, htype, htname, htnames⟩ := h.found engine settings hu
  obtain ⟨w, hw, hown, _, hwnames⟩ := h.found engine settings howner
  obtain ⟨f, _, hfname, hf⟩ :=
    findField?_outline engine (h.fields_separated ht) (htnames ▸ hfield)
  obtain ⟨g, _, _, hg⟩ :=
    findField?_outline engine (h.fields_separated hw) (hwnames ▸ hcolumn)
  have hend : (⟨(t.type engine).key, (f.field engine).name⟩ : FieldReference) =
      ⟨keyOn engine k.table, k.target.on engine⟩ := by
    rw [← htname, ← hfname]
    rfl
  have hlook : (domainOf engine settings ts).findType?
      ⟨(k.row engine).refSchema, (k.row engine).refTable⟩ = some (t.type engine) := htype
  have hthere : findField? (domainOf engine settings ts).engine (t.type engine).fields
      (k.row engine).refColumn = some (f.field engine) := hf
  have hhere : findField? (domainOf engine settings ts).engine (w.type engine).fields
      (k.row engine).column = some (g.field engine) := hg
  unfold resolveForeignKey
  dsimp only
  rw [hlook]
  dsimp only
  rw [hthere, hown, Option.bind_some, hhere]
  dsimp only
  rw [hend]
  exact congrArg (fun d => Except.ok (d, [])) (modifyType_stored engine settings h howner hcolumn)

/-- Pointing at a field by its words is what an engine does with the written foreign key. -/
theorem reference_stored (engine : Engine) (settings : Settings) (h : schema.Fits ts)
    {owner : Name} {v : Table} {k : ForeignKey}
    (howner : tableNamed? schema.tables owner = some v)
    (hcolumn : k.column ∈ v.columns.map Column.name)
    (htarget : ∃ u, tableNamed? schema.tables k.table = some u ∧
      k.target ∈ u.columns.map Column.name) :
    reference (keyOn engine owner) (k.row engine) (domainOf engine settings ts) =
      (.ok (), domainOf engine settings (pointAt owner ts k)) := by
  unfold reference
  rw [resolveForeignKey_stored engine settings h howner hcolumn htarget]

theorem references_stored (engine : Engine) (settings : Settings) (h : schema.Fits ts)
    {owner : Name} {v : Table} {ks : List ForeignKey}
    (howner : tableNamed? schema.tables owner = some v)
    (hks : ∀ k ∈ ks, k ∈ v.foreignKeys) :
    references (keyOn engine owner) (ks.map (ForeignKey.row engine))
        (domainOf engine settings ts) =
      (.ok (), domainOf engine settings (ks.foldl (pointAt owner) ts)) ∧
    schema.Fits (ks.foldl (pointAt owner) ts) := by
  induction ks generalizing ts with
  | nil => exact ⟨rfl, h⟩
  | cons k rest ih =>
      have hk := hks k List.mem_cons_self
      obtain ⟨hv, _⟩ := tableNamed?_eq_some howner
      have hstep := reference_stored engine settings h howner
        (v.foreignColumns k hk) (schema.targets v hv k hk)
      obtain ⟨hrun, hfits⟩ := ih (pointAt_fits h owner k) fun k' hk' =>
        hks k' (List.mem_cons_of_mem k hk')
      refine ⟨?_, hfits⟩
      rw [List.map_cons]
      unfold references
      rw [Build.bind_ok hstep, hrun]
      rfl

/-- The outlines after the foreign keys of a table. -/
def Schema.pointAll (schema : Schema) (ts : List TypeOutline) (t : Table) : List TypeOutline :=
  (schema.contents t).foreignKeys.foldl (pointAt t.name) ts

/-- The tables of a schema with everything that the table stage finds out about them. -/
def Schema.outlines (schema : Schema) : List TypeOutline :=
  schema.tables.foldl schema.pointAll (schema.tables.map schema.loaded)

theorem referenceStage_stored (engine : Engine) (settings : Settings) (h : schema.Fits ts)
    {rest : List Table}
    (hrest : ∀ t ∈ rest, t ∈ schema.tables) :
    referenceStage (rest.map (schema.pending engine)) (domainOf engine settings ts) =
      (.ok (), domainOf engine settings (rest.foldl schema.pointAll ts)) ∧
    schema.Fits (rest.foldl schema.pointAll ts) := by
  induction rest generalizing ts with
  | nil => exact ⟨rfl, h⟩
  | cons t more ih =>
      have hfind := Schema.tableNamed?_contents (hrest t List.mem_cons_self)
      obtain ⟨hstep, hfits⟩ := references_stored engine settings h hfind
        fun _ hk => hk
      obtain ⟨hrun, hend⟩ := ih hfits fun u hu => hrest u (List.mem_cons_of_mem t hu)
      refine ⟨?_, hend⟩
      rw [List.map_cons]
      unfold Schema.pending referenceStage
      rw [Build.bind_ok hstep]
      exact hrun

theorem Schema.outlines_fits (schema : Schema) : schema.Fits schema.outlines :=
  (referenceStage_stored .postgres .standard schema.loaded_fits fun _ ht => ht).2

/-! ## The stage -/

theorem tableRows_stored (hs : Holds s engine schema) :
    s.tableRows [] = schema.tables.map fun t => (t.stored engine).row := by
  have hkeep : s.tables.filter (fun t => !s.isExcluded [] t.schema) = s.tables :=
    List.filter_eq_self.2 fun _ _ => rfl
  unfold CatalogSnapshot.tableRows
  rw [hkeep, hs.sameTables, List.map_map]
  rfl

/-- Where no schema is left out, either engine ends the table stage with what the outlines stand
for. -/
theorem typeStage_stored (hs : Holds s engine schema) (hall : settings.excludedSchemas = [])
    (start : Domain) :
    typeStage s settings start = (.ok (), domainOf engine settings schema.outlines) := by
  have hblank : blankDomain s.engine settings = domainOf engine settings [] := by
    rw [hs.sameEngine]
    rfl
  have htables := tableStage_stored settings hs (fun _ ht => ht) []
  rw [List.nil_append] at htables
  unfold typeStage
  rw [Build.act_bind, hblank, hall, tableRows_stored hs, Build.bind_ok htables]
  exact (referenceStage_stored engine settings schema.loaded_fits fun _ ht => ht).1

end SchemaModel.Portable
