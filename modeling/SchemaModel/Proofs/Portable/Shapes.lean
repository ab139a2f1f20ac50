import SchemaModel.Proofs.Inspection.Changes
import SchemaModel.Proofs.Portable.Routines
import SchemaModel.Proofs.Portable.Twins

/-!
# `SchemaModel.Proofs.Portable.Shapes` — which table has the shape of a routine's rows

An engine looks for the table whose rows a routine returns in two places: under the name in the
routine's annotation, and under what stands before `_select_` in the routine's own name. Told in
words, both engines look in the first place alike, and compare the shapes that they find there
alike. In the second place PostgreSQL alone finds anything, for the marker is spelled the way that
PostgreSQL's names are.

## Contents
- **Shapes.** `TypeOutline.hasShape`: a table's projected fields are those of given columns, one by
  one. `fieldsMatch_outline`: either engine's comparison comes to this.
- **Candidates.** `Database.annotated?`, `Database.marked?`: the tables of the right shape in the
  two places.
- `Database.recognized?`: the table that an engine finds; `findTypeByFields?_stored` says that it
  does.
-/

namespace SchemaModel.Portable

open Inspection Offline

variable {engine : Engine} {db : Database} {r : Routine}

/-! ## Shapes -/

/-- The field of a result column. -/
def OutputColumn.outline (c : OutputColumn) : FieldOutline where
  name := c.name
  order := c.order
  type := c.type
  isRequired := !c.isNullable
  size := c.size
  precision := none
  scale := none
  isKey := false
  isGenerated := false
  isComputed := false
  references := none
  attributes := none

theorem resultFields_stored (engine : Engine) (owner : String) (columns : List OutputColumn) :
    (resultFields engine owner (columns.map (OutputColumn.row engine))).1 =
      (columns.map OutputColumn.outline).map (FieldOutline.field engine) := by
  rw [resultFields_fst, List.map_map, List.map_map]
  refine List.map_congr_left fun c _ => ?_
  rw [Function.comp_apply, Function.comp_apply]
  unfold resultField
  dsimp only [OutputColumn.row]
  rw [c.type.valueType?_native engine]
  rfl

/-- The field takes part in projections. -/
def FieldOutline.isProjected (f : FieldOutline) : Bool :=
  !(f.field .postgres).isExcludedFromResults .snakeCase

/-- Either engine leaves the same fields out of projections. -/
theorem isProjected_field (engine : Engine) (f : FieldOutline) :
    (!(f.field engine).isExcludedFromResults engine.defaultNaming) = f.isProjected := by
  unfold FieldOutline.isProjected
  cases engine with
  | postgres => rfl
  | sqlServer =>
      rw [f.alike.isExcludedFromResults]
      rfl

theorem filter_isProjected (engine : Engine) (fs : List FieldOutline) :
    (fs.map (FieldOutline.field engine)).filter
        (fun f => !f.isExcludedFromResults engine.defaultNaming) =
      (fs.filter FieldOutline.isProjected).map (FieldOutline.field engine) := by
  rw [List.filter_map]
  congr 1
  exact List.filter_congr fun f _ => isProjected_field engine f

/-- The fields have one name and one type. -/
def FieldOutline.agrees (f w : FieldOutline) : Bool :=
  decide (f.name = w.name) && decide (f.type = w.type)

theorem sameField_outline (engine : Engine) {names : List Name} (hsep : Separated names)
    {f w : FieldOutline} (hf : f.name ∈ names) (hw : w.name ∈ names) :
    Domain.sameField (engine == .postgres) (f.field engine) (w.field engine) = f.agrees w := by
  have hname : Domain.sameFieldName (engine == .postgres) (f.name.on engine) (w.name.on engine) =
      decide (f.name = w.name) := by
    rw [← namesEqual_on hsep engine hf hw]
    cases engine <;> rfl
  have htype : (f.type.native engine == w.type.native engine) = decide (f.type = w.type) := by
    rw [Bool.eq_iff_iff, beq_iff_eq, decide_eq_true_eq]
    constructor
    · exact SharedType.native_injective
    · intro h
      rw [h]
  unfold Domain.sameField FieldOutline.agrees
  dsimp only [FieldOutline.field]
  rw [hname, SharedType.normalize_native, SharedType.normalize_native, htype]

/-- The projected fields of a type are as many as those wanted, and each one wanted agrees with
exactly one of them. -/
def TypeOutline.hasShape (t : TypeOutline) (wanted : List FieldOutline) : Bool :=
  let available := t.fields.filter FieldOutline.isProjected
  let wanted := wanted.filter FieldOutline.isProjected
  available.length == wanted.length &&
    wanted.all fun w => (available.filter fun f => f.agrees w).length == 1

/-- Either engine compares shapes word by word and type by type. -/
theorem fieldsMatch_outline (engine : Engine) {t : TypeOutline} {fs : List FieldOutline}
    (hsep : Separated (t.fields.map FieldOutline.name ++ fs.map FieldOutline.name)) :
    Domain.fieldsMatch (t.type engine)
        ((fs.map (FieldOutline.field engine)).filter
          fun f => !f.isExcludedFromResults engine.defaultNaming)
        engine.defaultNaming (engine == .postgres) = t.hasShape fs := by
  have hone : ∀ w ∈ fs.filter FieldOutline.isProjected,
      (((t.fields.filter FieldOutline.isProjected).map (FieldOutline.field engine)).filter
        fun f => Domain.sameField (engine == .postgres) f (w.field engine)).length =
          ((t.fields.filter FieldOutline.isProjected).filter fun f => f.agrees w).length := by
    intro w hw
    rw [List.filter_map, List.length_map]
    congr 1
    refine List.filter_congr fun f hf => ?_
    apply sameField_outline engine hsep
    · exact List.mem_append_left _ (List.mem_map_of_mem (List.mem_filter.1 hf).1)
    · exact List.mem_append_right _ (List.mem_map_of_mem (List.mem_filter.1 hw).1)
  unfold Domain.fieldsMatch TypeOutline.hasShape
  dsimp only [TypeOutline.type]
  rw [filter_isProjected, filter_isProjected, List.length_map, List.length_map, List.all_map]
  congr 1
  rw [Bool.eq_iff_iff, List.all_eq_true, List.all_eq_true]
  refine forall₂_congr fun w hw => ?_
  rw [Function.comp_apply, hone w hw]

/-! ## Look-up by words -/

/-- The outline of the first table of a name. -/
def Schema.outlineNamed? (schema : Schema) (name : Name) : Option TypeOutline :=
  schema.outlines.find? fun t => t.name = name

/-- The domain is of an engine, follows its customary style, and has the types that the outlines of
the schema stand for. -/
structure Knows (d : Domain) (engine : Engine) (schema : Schema) : Prop where
  sameEngine : d.engine = engine
  sameNaming : d.naming = engine.defaultNaming
  sameTypes : d.types = schema.outlines.map (TypeOutline.type engine)

variable {d : Domain} {schema : Schema}

theorem outlineNamed?_eq_some {name : Name} {t : TypeOutline}
    (h : schema.outlineNamed? name = some t) : t ∈ schema.outlines ∧ t.name = name := by
  have hname := List.find?_some h
  exact ⟨List.mem_of_find?_eq_some h, of_decide_eq_true hname⟩

/-- Types are found by words wherever their spellings are told apart from the one looked for. -/
theorem Knows.findType? (h : Knows d engine schema) {name : Name}
    (hname : ∀ t ∈ schema.outlines, engine.namesEqual (t.name.on engine) (name.on engine) =
      decide (t.name = name)) :
    d.findType? (keyOn engine name) =
      (schema.outlineNamed? name).map (TypeOutline.type engine) := by
  unfold Domain.findType? Schema.outlineNamed?
  rw [h.sameTypes, h.sameEngine]
  refine find?_map_of_mem fun t ht => ?_
  show engine.keysEqual (keyOn engine t.name) (keyOn engine name) = _
  rw [keysEqual_keyOn]
  exact hname t ht

theorem Database.namesEqual_mentioned (engine : Engine) (hr : r ∈ db.routines) {name : Name}
    (hname : r.mentioned? = some name) :
    ∀ t ∈ db.outlines, engine.namesEqual (t.name.on engine) (name.on engine) =
      decide (t.name = name) := by
  intro t ht
  apply namesEqual_on db.mentions engine
  · rw [← db.outlines_fits.names]
    exact List.mem_append_left _ (List.mem_map_of_mem ht)
  · exact List.mem_append_right _ (List.mem_filterMap.2 ⟨r, hr, hname⟩)

theorem namesEqual_on_postgres (a b : Name) :
    Engine.postgres.namesEqual (a.on .postgres) (b.on .postgres) = decide (a = b) := by
  rw [Bool.eq_iff_iff, decide_eq_true_eq]
  constructor
  · intro h
    exact Name.text_injective (beq_iff_eq.1 h)
  · rintro rfl
    exact Engine.postgres.namesEqual_refl _

/-- With its schema or without, a mention stands for the table of its name. -/
theorem Mention.typeNameKey_text (m : Mention) (engine : Engine) :
    typeNameKey (m.text engine) engine.defaultNamespace = keyOn engine m.name := by
  unfold Mention.text
  by_cases hqualified : m.isQualified = true
  · rw [if_pos hqualified]
    apply Name.typeNameKey_qualified (m.named hqualified)
    · cases engine <;> decide
    · cases engine <;> decide
  · rw [if_neg hqualified]
    exact Name.typeNameKey_text m.name _ _

/-- Looking again without letter case finds nothing more. -/
theorem lookUpType?_mention (h : Knows d engine db.toSchema) (hr : r ∈ db.routines) {m : Mention}
    (hm : r.annotation.about = some m) :
    lookUpType? d (m.text engine) engine.defaultNamespace =
      (db.outlineNamed? m.name).map fun t => keyOn engine t.name := by
  have hmentioned : r.mentioned? = some m.name := by
    unfold Routine.mentioned?
    rw [hm]
    rfl
  have htold := db.namesEqual_mentioned engine hr hmentioned
  have hfind := h.findType? htold
  unfold lookUpType?
  rw [m.typeNameKey_text engine]
  dsimp only
  rw [hfind]
  cases hnamed : db.outlineNamed? m.name with
  | some t => rfl
  | none =>
      have hnone : d.types.filter (fun t =>
          Text.eqIgnoreAsciiCase t.schema (keyOn engine m.name).schema &&
            Text.eqIgnoreAsciiCase t.name (keyOn engine m.name).name) = [] := by
        rw [h.sameTypes, List.filter_eq_nil_iff]
        intro t ht hsame
        obtain ⟨o, ho, rfl⟩ := List.mem_map.1 ht
        rw [Bool.and_eq_true] at hsame
        have hcase : engine.namesEqual (o.name.on engine) (m.name.on engine) = true := by
          rw [← Name.eqIgnoreAsciiCase_on]
          exact hsame.2
        rw [htold o ho] at hcase
        unfold Schema.outlineNamed? at hnamed
        rw [List.find?_eq_none] at hnamed
        exact hnamed o ho hcase
      rw [Option.map_none]
      dsimp only
      rw [hnone]
      rfl

/-! ## Candidates -/

/-- The rows of a routine as fields. -/
def Database.shape (db : Database) (r : Routine) : List FieldOutline :=
  (db.contents r).output.columns.map OutputColumn.outline

/-- Values have no shape, and rows have one. -/
theorem Database.shape_eq_nil (db : Database) (hr : r ∈ db.routines) :
    db.shape r = [] ↔ r.output.columns = [] := by
  unfold Database.shape
  rw [List.map_eq_nil_iff]
  exact db.contents_columns hr

/-- The table of a name, when it has the shape of a routine's rows. -/
def Database.shaped? (db : Database) (r : Routine) (name : Name) : Option TypeOutline :=
  (db.outlineNamed? name).filter fun t => t.hasShape (db.shape r)

/-- The table that a routine's annotation names, when it has the shape of its rows. -/
def Database.annotated? (db : Database) (r : Routine) : Option TypeOutline :=
  r.mentioned?.bind (db.shaped? r)

/-- The table named by the words before `select` in a routine's name, when it has the shape of its
rows. -/
def Database.marked? (db : Database) (r : Routine) : Option TypeOutline :=
  r.name.front?.bind (db.shaped? r)

/-- The table whose rows an engine takes the rows of a routine for. -/
def Database.recognized? (db : Database) (engine : Engine) (r : Routine) : Option TypeOutline :=
  (db.annotated? r).or ((r.name.frontOn? engine).bind (db.shaped? r))

theorem Database.columnNames_outline (hr : r ∈ db.routines) {t : TypeOutline}
    (ht : t ∈ db.outlines) :
    Separated (t.fields.map FieldOutline.name ++ (db.shape r).map FieldOutline.name) := by
  obtain ⟨u, hu, hnames⟩ := db.outlines_fits.columns ht
  obtain ⟨hmem, _⟩ := db.contents_mem hr
  have hshape : (db.shape r).map FieldOutline.name =
      (db.contents r).output.columns.map OutputColumn.name := by
    unfold Database.shape
    rw [List.map_map]
    rfl
  rw [hnames, hshape]
  exact db.columnNames u hu _ hmem

/-- What an engine makes of one candidate. -/
theorem candidate_stored (h : Knows d engine db.toSchema) (hr : r ∈ db.routines) {name : Name}
    (hname : ∀ t ∈ db.outlines, engine.namesEqual (t.name.on engine) (name.on engine) =
      decide (t.name = name)) :
    ((d.findType? (keyOn engine name)).bind fun t =>
        if Domain.fieldsMatch t
          (((db.shape r).map (FieldOutline.field engine)).filter
            fun f => !f.isExcludedFromResults d.naming)
          d.naming (engine == .postgres) then some t.key else none) =
      (db.shaped? r name).map fun t => keyOn engine t.name := by
  rw [h.findType? hname]
  unfold Database.shaped?
  cases hnamed : db.outlineNamed? name with
  | none => rfl
  | some t =>
      obtain ⟨ht, _⟩ := outlineNamed?_eq_some hnamed
      rw [Option.map_some, Option.bind_some, h.sameNaming,
        fieldsMatch_outline engine (db.columnNames_outline hr ht), Option.filter_some]
      by_cases hshape : t.hasShape (db.shape r) = true
      · rw [if_pos hshape, if_pos hshape]
        rfl
      · rw [if_neg hshape, if_neg hshape]
        rfl

theorem findSome?_toList {α β : Type} (f : α → Option β) (o : Option α) :
    o.toList.findSome? f = o.bind f := by
  cases o with
  | none => rfl
  | some a => exact List.findSome?_singleton

/-- The key of the table that a routine's annotation names, where there is one. -/
def Database.aboutKey? (db : Database) (engine : Engine) (r : Routine) : Option TypeKey :=
  (r.mentioned?.bind db.outlineNamed?).map fun t => keyOn engine t.name

theorem returnCandidates_stored {o : Operation} (hname : o.name = r.name.on engine)
    (hschema : o.schema = engine.defaultNamespace)
    (hrelated : o.relatedType = db.aboutKey? engine r) :
    Domain.returnCandidates o = (db.aboutKey? engine r).toList ++
      ((r.name.frontOn? engine).map (keyOn engine)).toList := by
  have hfront := r.name.until?_on engine
  unfold Domain.returnCandidates
  rw [hname, hschema, hrelated]
  congr 1
  · unfold Database.aboutKey?
    cases r.mentioned?.bind db.outlineNamed? with
    | none => rfl
    | some t => rfl
  · cases hend : Text.until? Domain.selectMarker.toList (r.name.on engine).toList with
    | none =>
        rw [hend, Option.map_none] at hfront
        rw [Option.map_eq_none_iff.1 hfront.symm]
        rfl
    | some front =>
        rw [hend, Option.map_some] at hfront
        obtain ⟨words, hwords, htext⟩ := Option.map_eq_some_iff.1 hfront.symm
        rw [hwords]
        dsimp only
        rw [← htext]
        rfl

/-- An engine recognizes the table that the words say. -/
theorem findTypeByFields?_stored (h : Knows d engine db.toSchema) (hr : r ∈ db.routines)
    {o : Operation} (hname : o.name = r.name.on engine)
    (hschema : o.schema = engine.defaultNamespace)
    (hrelated : o.relatedType = db.aboutKey? engine r) :
    d.findTypeByFields? ((db.shape r).map (FieldOutline.field engine)) o (engine == .postgres) =
      (db.recognized? engine r).map fun t => keyOn engine t.name := by
  unfold Domain.findTypeByFields? Database.recognized?
  dsimp only
  rw [returnCandidates_stored hname hschema hrelated, List.findSome?_append, findSome?_toList,
    findSome?_toList, Option.map_or]
  congr 1
  · unfold Database.aboutKey? Database.annotated?
    cases hmentioned : r.mentioned? with
    | none => rfl
    | some name =>
        have hcandidate := candidate_stored h hr (db.namesEqual_mentioned engine hr hmentioned)
        rw [Option.bind_some, Option.bind_some, ← hcandidate]
        cases hnamed : db.outlineNamed? name with
        | none =>
            rw [h.findType? (db.namesEqual_mentioned engine hr hmentioned), hnamed]
            rfl
        | some t =>
            obtain ⟨_, htname⟩ := outlineNamed?_eq_some hnamed
            rw [Option.map_some, Option.bind_some, htname]
  · rw [Option.bind_map]
    cases engine with
    | sqlServer => rfl
    | postgres =>
        show r.name.front?.bind _ = (r.name.front?.bind _).map _
        rw [Option.map_bind]
        congr 1
        funext front
        exact candidate_stored h hr fun t _ => namesEqual_on_postgres t.name front

end SchemaModel.Portable
