import SchemaModel.Proofs.Inspection.SharedShapes

/-!
# `SchemaModel.Proofs.Inspection.Growth` — operations only add to a domain

Loading an operation may add result types, join the users of one that is there, and widen its
fields, all before the operation itself is added and perhaps before a fault. Whatever it comes to,
nothing that was there is taken away or moved: the stage adds operations behind those of the domain
and result types behind its own, and of a result type it changes no more than its users and what its
fields take over from a table.

## Contents
- `ResultType.Keeps`, `Domain.KeepsResultTypes`: what stays of a result type, and where.
- `Growing`: a step keeps all this whether it succeeds or fails; `Growing.bind` for sequences, and
  one lemma for each part of loading an operation.
- `Operation.ReadFrom`: an operation has the names, the kind and the overrides of its routine.
- `LoadedBetween`, `inspect_between`: from which domains the operations of an inspection were loaded.
- `operations_only_add`: from any domain, the stage adds one operation for each routine in front of
  the one that fails, and keeps everything else.
- `visits`: a database whose second routine fails after it has joined the users of a result type.
-/

namespace SchemaModel

open Inspection

/-! ## Result types -/

/-- What is never changed of a field: its column and where its values come from. -/
def Field.origin (f : Field) :
    String × Int × String × Option Int × Option Int × Bool × Option String :=
  (f.name, f.order, f.nativeType, f.precision, f.scale, f.isGenerated, f.defaultValue)

/-- The second result type is the first one, perhaps with more users and with widened fields. -/
structure ResultType.Keeps (r r' : ResultType) : Prop where
  schema : r'.schema = r.schema
  name : r'.name = r.name
  isCustomType : r'.isCustomType = r.isCustomType
  relatedType : r'.relatedType = r.relatedType
  attributes : r'.attributes = r.attributes
  fields : r'.fields.map Field.origin = r.fields.map Field.origin
  operations : r.operations <+: r'.operations

namespace ResultType.Keeps

variable {r r' r'' : ResultType}

theorem refl (r : ResultType) : Keeps r r := ⟨rfl, rfl, rfl, rfl, rfl, rfl, List.prefix_refl _⟩

theorem trans (h : Keeps r r') (h' : Keeps r' r'') : Keeps r r'' where
  schema := h'.schema.trans h.schema
  name := h'.name.trans h.name
  isCustomType := h'.isCustomType.trans h.isCustomType
  relatedType := h'.relatedType.trans h.relatedType
  attributes := h'.attributes.trans h.attributes
  fields := h'.fields.trans h.fields
  operations := h.operations.trans h'.operations

theorem addOperation (r : ResultType) (user : TypeKey) : Keeps r (r.addOperation user) := by
  unfold ResultType.addOperation
  by_cases huser : r.operations.contains user
  · rw [if_pos huser]
    exact refl r
  · rw [if_neg huser]
    exact ⟨rfl, rfl, rfl, rfl, rfl, rfl, List.prefix_append _ _⟩

/-- Widening takes over no more than size, flags, reference, value type and overrides. -/
theorem widenedFields (engine : Engine) (source : ApplicationType) (r : ResultType) :
    Keeps r { r with fields := r.fields.map (Domain.widenedField engine source) } := by
  have horigin : ∀ f, (Domain.widenedField engine source f).origin = f.origin := by
    intro f
    unfold Domain.widenedField
    cases Domain.sourceField? engine source f with
    | none => rfl
    | some g => rfl
  refine ⟨rfl, rfl, rfl, rfl, rfl, ?_, List.prefix_refl _⟩
  simp only [List.map_map, Function.comp_def, horigin]

end ResultType.Keeps

namespace Domain

variable {d d' d'' : Domain}

/-- Every result type of the first domain stands in its place in the second. -/
def KeepsResultTypes (d d' : Domain) : Prop :=
  ∀ (i : Nat) (r : ResultType), d.resultTypes[i]? = some r →
    ∃ r', d'.resultTypes[i]? = some r' ∧ r.Keeps r'

namespace KeepsResultTypes

theorem refl (d : Domain) : KeepsResultTypes d d := fun _ r hr => ⟨r, hr, .refl r⟩

theorem trans (h : KeepsResultTypes d d') (h' : KeepsResultTypes d' d'') :
    KeepsResultTypes d d'' := by
  intro i r hr
  obtain ⟨r₁, hr₁, hkeeps₁⟩ := h i r hr
  obtain ⟨r₂, hr₂, hkeeps₂⟩ := h' i r₁ hr₁
  exact ⟨r₂, hr₂, hkeeps₁.trans hkeeps₂⟩

theorem modify (d : Domain) (key : TypeKey) {change : ResultType → ResultType}
    (h : ∀ r : ResultType, r.Keeps (change r)) :
    KeepsResultTypes d (d.modifyResultType key change) := by
  intro i r hr
  have hcases : (d.modifyResultType key change).resultTypes[i]? = some r ∨
      (d.modifyResultType key change).resultTypes[i]? = some (change r) := getElem?_modifyFirst hr
  rcases hcases with hsame | hchanged
  · exact ⟨r, hsame, .refl r⟩
  · exact ⟨change r, hchanged, h r⟩

theorem add (d : Domain) (new : ResultType) :
    KeepsResultTypes d { d with resultTypes := d.resultTypes ++ [new] } := by
  intro i r hr
  obtain ⟨hi, _⟩ := List.getElem?_eq_some_iff.1 hr
  exact ⟨r, (List.getElem?_append_left hi).trans hr, .refl r⟩

theorem widen (d : Domain) (key source : TypeKey) :
    KeepsResultTypes d (d.widenResult key source).1 := by
  rcases d.widenResult_cases key source with ⟨_, hw⟩ | ⟨t, _, _, _, hw⟩
  · rw [hw]
    exact refl d
  · rw [hw]
    exact modify d key fun r => .widenedFields d.engine t r

end KeepsResultTypes

/-- The second domain is the first one with more operations and result types behind it. -/
structure Grows (d d' : Domain) : Prop where
  defaultNamespace : d'.defaultNamespace = d.defaultNamespace
  engine : d'.engine = d.engine
  naming : d'.naming = d.naming
  types : d'.types = d.types
  operations : d.operations <+: d'.operations
  resultTypes : d.KeepsResultTypes d'

namespace Grows

theorem of_frame (h : d.Frame d') (hkeeps : d.KeepsResultTypes d') : Grows d d' where
  defaultNamespace := h.defaultNamespace
  engine := h.engine
  naming := h.naming
  types := h.types
  operations := h.operations ▸ List.prefix_refl _
  resultTypes := hkeeps

theorem refl (d : Domain) : Grows d d := of_frame (.refl d) (.refl d)

theorem trans (h : Grows d d') (h' : Grows d' d'') : Grows d d'' where
  defaultNamespace := h'.defaultNamespace.trans h.defaultNamespace
  engine := h'.engine.trans h.engine
  naming := h'.naming.trans h.naming
  types := h'.types.trans h.types
  operations := h.operations.trans h'.operations
  resultTypes := h.resultTypes.trans h'.resultTypes

theorem findType? (h : Grows d d') (key : TypeKey) : d'.findType? key = d.findType? key := by
  unfold Domain.findType?
  rw [h.types, h.engine]

/-- Adding an operation behind the others. -/
theorem push (d : Domain) (o : Operation) :
    d.Grows { d with operations := d.operations ++ [o] } :=
  ⟨rfl, rfl, rfl, rfl, List.prefix_append _ _, .refl d⟩

end Grows

end Domain

namespace Offline

variable {s : CatalogSnapshot} {d d' : Domain} {α β : Type}

/-! ## Steps -/

/-- Whatever the step comes to, it leaves operations alone and keeps the result types. -/
def Growing (m : Build α) : Prop := ∀ d : Domain, d.Frame (m d).2 ∧ d.KeepsResultTypes (m d).2

namespace Growing

theorem of_run {m : Build α} {result : Outcome α} (h : Growing m) (hrun : m d = (result, d')) :
    d.Frame d' ∧ d.KeepsResultTypes d' := by
  have hkept := h d
  rw [hrun] at hkept
  exact hkept

/-- Steps that leave the domain alone. -/
theorem still {m : Build α} (h : ∀ d, (m d).2 = d) : Growing m := by
  intro d
  rw [h d]
  exact ⟨.refl d, .refl d⟩

theorem pure (a : α) : Growing (Pure.pure a) := still fun _ => rfl

/-- The second part starts from what the first one left, or not at all. -/
theorem bind {m : Build α} {k : α → Build β} (hm : Growing m) (hk : ∀ a, Growing (k a)) :
    Growing (m >>= k) := by
  intro d
  rcases hd : m d with ⟨e | a, d₁⟩
  · rw [Build.bind_error hd]
    exact hm.of_run hd
  · obtain ⟨hframe, hkeeps⟩ := hm.of_run hd
    obtain ⟨hframe', hkeeps'⟩ := hk a d₁
    rw [Build.bind_ok hd]
    exact ⟨hframe.trans hframe', hkeeps.trans hkeeps'⟩

end Growing

theorem userShape_growing (key user : TypeKey) : Growing (userShape s key user) := by
  intro d
  unfold userShape
  cases d.findResultType? key with
  | some existing =>
      exact ⟨⟨rfl, rfl, rfl, rfl, rfl⟩, .modify d key fun r => .addOperation r user⟩
  | none =>
      dsimp only
      cases s.userType? key.schema key.name with
      | none => exact ⟨.refl d, .refl d⟩
      | some row =>
          dsimp only
          cases row.kind with
          | composite => exact ⟨⟨rfl, rfl, rfl, rfl, rfl⟩, .add d _⟩
          | domain => exact ⟨.refl d, .refl d⟩
          | enum => exact ⟨.refl d, .refl d⟩

theorem parameter_growing (op : TypeKey) (row : ParameterRow) : Growing (parameter s op row) := by
  unfold parameter
  by_cases huser : row.isUserDefined
  · rw [if_pos huser]
    refine (userShape_growing _ op).bind fun shape => ?_
    cases shape with
    | rows key => exact .pure _
    | value valueType => exact .still fun _ => rfl
  · rw [if_neg huser]
    exact .still fun _ => rfl

theorem parameters_growing (op : TypeKey) (rows : List ParameterRow) :
    Growing (parameters s op rows) := by
  induction rows with
  | nil => exact .pure _
  | cons row rest ih => exact (parameter_growing op row).bind fun _ => ih.bind fun _ => .pure _

/-- What holds of an input and its parameter whenever one is loaded holds of them one by one. -/
theorem parameters_forall₂ {op : TypeKey} {R : ParameterRow → Parameter → Prop}
    (hR : ∀ {d d' : Domain} {row : ParameterRow} {p : Parameter}, d.engine = s.engine →
      parameter s op row d = (.ok p, d') → R row p)
    {rows : List ParameterRow} {ps : List Parameter} (he : d.engine = s.engine)
    (h : parameters s op rows d = (.ok ps, d')) : List.Forall₂ R rows ps := by
  induction rows generalizing d d' ps with
  | nil =>
      obtain ⟨rfl, _⟩ := Build.pure_eq_ok.1 h
      exact .nil
  | cons row rest ih =>
      obtain ⟨p, d₁, hp, hrest⟩ := Build.bind_eq_ok.1 h
      obtain ⟨more, d₂, hmore, hlast⟩ := Build.bind_eq_ok.1 hrest
      obtain ⟨rfl, _⟩ := Build.pure_eq_ok.1 hlast
      obtain ⟨hframe, _⟩ := (parameter_growing op row).of_run hp
      exact .cons (hR he hp) (ih (hframe.engine.trans he) hmore)

theorem widened_keeps (d : Domain) (key : TypeKey) (about : Option TypeKey) :
    d.Frame (widened d key about) ∧ d.KeepsResultTypes (widened d key about) := by
  cases about with
  | none => exact ⟨.refl d, .refl d⟩
  | some source =>
      have hchange : Change key d none (d.widenResult key source).1 := .widened d key source
      exact ⟨hchange.frame, .widen d key source⟩

theorem namedRowShape_growing (o : Operation) (rows : List ResultColumnRow) :
    Growing (namedRowShape o rows) := by
  intro d
  unfold namedRowShape
  dsimp only
  cases d.findResultType? (rowTypeKey d o) with
  | some existing =>
      exact ⟨⟨rfl, rfl, rfl, rfl, rfl⟩, .modify d _ fun r => .addOperation r o.key⟩
  | none =>
      -- The shape is added first and widened where it stands.
      have hadded : d.Frame { d with resultTypes := d.resultTypes ++ [synthesized d o rows] } :=
        ⟨rfl, rfl, rfl, rfl, rfl⟩
      obtain ⟨hframe, hkeeps⟩ := widened_keeps
        { d with resultTypes := d.resultTypes ++ [synthesized d o rows] } (rowTypeKey d o)
        o.relatedType
      exact ⟨hadded.trans hframe, (Domain.KeepsResultTypes.add d _).trans hkeeps⟩

theorem rowShape_growing (o : Operation) (rows : List ResultColumnRow) :
    Growing (rowShape o rows) := by
  intro d
  unfold rowShape
  split
  · exact ⟨.refl d, .refl d⟩
  · split
    · exact ⟨.refl d, .refl d⟩
    · exact namedRowShape_growing o rows d

theorem resolvedShape_growing (o : Operation) (returnsSet : Bool) (shape : UserTypeShape) :
    Growing (resolvedShape o returnsSet shape) := by
  cases shape with
  | rows key => exact fun d => widened_keeps d key o.relatedType
  | value valueType => exact .pure _

theorem declaredShape_growing (o : Operation) (row : RoutineRow) :
    Growing (declaredShape s o row) := by
  intro d
  unfold declaredShape
  split
  · exact ⟨.refl d, .refl d⟩
  dsimp only
  split
  · exact ⟨.refl d, .refl d⟩
  split
  · exact ⟨.refl d, .refl d⟩
  split
  · exact ⟨.refl d, .refl d⟩
  · exact (userShape_growing _ o.key).bind (resolvedShape_growing o row.returnsSet) d

theorem returnShape_growing (o : Operation) (row : RoutineRow) :
    Growing (returnShape s o row) := by
  unfold returnShape
  split
  · exact declaredShape_growing o row
  · exact rowShape_growing o _

theorem operation_growing (row : RoutineRow) : Growing (operation s row) := by
  intro d
  unfold operation operationAbout
  refine Growing.bind (parameters_growing _ _) (fun ps => ?_) d
  exact (returnShape_growing _ row).bind fun returns => .still fun _ => rfl

/-! ## Operations and their routines -/

end Offline

/-- The operation has the names and the kind of the routine, and the overrides in its comment. -/
structure Operation.ReadFrom (o : Operation) (r : StoredRoutine) : Prop where
  schema : o.schema = r.schema
  name : o.name = r.name
  specificName : o.specificName = r.effectiveName
  kind : o.kind = r.kind
  attributes : o.attributes = Offline.overrides r.row

namespace Offline

variable {s : CatalogSnapshot} {d d' : Domain}

theorem operation_readFrom {r : StoredRoutine} {o : Operation}
    (h : operation s r.row d = (.ok o, d')) : o.ReadFrom r := by
  unfold operation operationAbout at h
  obtain ⟨ps, d₁, _, hrest⟩ := Build.bind_eq_ok.1 h
  obtain ⟨returns, d₂, _, hlast⟩ := Build.bind_eq_ok.1 hrest
  cases hlast
  obtain ⟨qs, hmatched, _⟩ := matchParameters_eq d'
    { unshaped r.row ps (Offline.related d r.row) with returns := returns }
  rw [hmatched]
  exact ⟨rfl, rfl, rfl, rfl, rfl⟩

/-! ## The stage -/

/-- What loading routines adds to a domain, in order: an operation for each routine in front of the
first that fails, and for all of them when none does. -/
structure Adds (routines : List StoredRoutine) (d : Domain) (result : Outcome Unit) (d' : Domain) :
    Prop where
  grows : d.Grows d'
  operations : ∃ n ops, n ≤ routines.length ∧ d'.operations = d.operations ++ ops ∧
    List.Forall₂ (fun r o => o.ReadFrom r) (routines.take n) ops ∧
    (result = .ok () ↔ n = routines.length)

namespace Adds

variable {routines : List StoredRoutine} {result : Outcome Unit}

theorem nil (d : Domain) : Adds [] d (.ok ()) d where
  grows := .refl d
  operations := ⟨0, [], Nat.le_refl 0, (List.append_nil _).symm, .nil, iff_of_true rfl rfl⟩

/-- A routine that fails adds no operation, whatever it has done to the result types. -/
theorem failed {e : Fault} (r : StoredRoutine) (hframe : d.Frame d')
    (hkeeps : d.KeepsResultTypes d') : Adds (r :: routines) d (.error e) d' where
  grows := .of_frame hframe hkeeps
  operations := by
    refine ⟨0, [], Nat.zero_le _, ?_, .nil, iff_of_false nofun nofun⟩
    rw [hframe.operations, List.append_nil]

/-- A routine that succeeds adds its operation in front of what the others add. -/
theorem cons {r : StoredRoutine} {o : Operation} {d₁ : Domain} (hframe : d.Frame d₁)
    (hkeeps : d.KeepsResultTypes d₁) (ho : o.ReadFrom r)
    (hrest : Adds routines { d₁ with operations := d₁.operations ++ [o] } result d') :
    Adds (r :: routines) d result d' where
  grows := (Domain.Grows.of_frame hframe hkeeps).trans ((Domain.Grows.push d₁ o).trans hrest.grows)
  operations := by
    obtain ⟨n, ops, hn, hops, hread, hresult⟩ := hrest.operations
    refine ⟨n + 1, o :: ops, Nat.succ_le_succ hn, ?_, .cons ho hread, ?_⟩
    · rw [hops, hframe.operations, List.append_assoc]
      rfl
    · rw [hresult, List.length_cons, Nat.succ_inj]

end Adds

theorem operationStage_adds (routines : List StoredRoutine) (d : Domain) :
    Adds routines d (operationStage s (routines.map StoredRoutine.row) d).1
      (operationStage s (routines.map StoredRoutine.row) d).2 := by
  induction routines generalizing d with
  | nil => exact .nil d
  | cons r rest ih =>
      rw [List.map_cons]
      unfold operationStage
      rcases hrun : operation s r.row d with ⟨e | o, d₁⟩
      all_goals obtain ⟨hframe, hkeeps⟩ := (operation_growing r.row).of_run hrun
      · rw [Build.bind_error hrun]
        exact .failed r hframe hkeeps
      · rw [Build.bind_ok hrun, Build.act_bind]
        exact .cons hframe hkeeps (operation_readFrom hrun) (ih _)

theorem operationStage_grows (routines : List StoredRoutine)
    (h : operationStage s (routines.map StoredRoutine.row) d = (.ok (), d')) : d.Grows d' := by
  have hadds := (operationStage_adds (s := s) routines d).grows
  rw [h] at hadds
  exact hadds

/-- The operation is what a routine was loaded to on the way from one domain to another. -/
def LoadedBetween (s : CatalogSnapshot) (d d' : Domain) (row : RoutineRow) (o : Operation) : Prop :=
  ∃ d₁ d₂, d.Grows d₁ ∧ operation s row d₁ = (.ok o, d₂) ∧ d₂.Grows d'

theorem operationStage_between (routines : List StoredRoutine)
    (h : operationStage s (routines.map StoredRoutine.row) d = (.ok (), d')) :
    ∃ ops, d'.operations = d.operations ++ ops ∧
      List.Forall₂ (fun r o => LoadedBetween s d d' r.row o) routines ops := by
  induction routines generalizing d with
  | nil =>
      obtain ⟨_, rfl⟩ := Build.pure_eq_ok.1 h
      exact ⟨[], (List.append_nil _).symm, .nil⟩
  | cons r rest ih =>
      obtain ⟨o, d₁, ho, hrest⟩ := Build.bind_eq_ok.1 h
      rw [Build.act_bind] at hrest
      obtain ⟨hframe, hkeeps⟩ := (operation_growing r.row).of_run ho
      have hpush := Domain.Grows.push d₁ o
      have hbefore := (Domain.Grows.of_frame hframe hkeeps).trans hpush
      have hafter := operationStage_grows rest hrest
      obtain ⟨ops, hops, hall⟩ := ih hrest
      refine ⟨o :: ops, ?_, .cons ⟨d, d₁, .refl d, ho, hpush.trans hafter⟩ (hall.imp ?_)⟩
      · rw [hops, hframe.operations, List.append_assoc]
        rfl
      · -- What the others are loaded from has grown from the domain behind this operation.
        rintro r' o' ⟨d₂, d₃, hgrows, ho', hrest'⟩
        exact ⟨d₂, d₃, hbefore.trans hgrows, ho', hrest'⟩

/-- Every operation of an inspected domain was loaded on the way from the tables to that domain. -/
theorem inspect_between {settings : Settings} {executed : List String} {start : Domain}
    (h : (run (inspect s.catalog settings) executed start).result = .ok d) :
    ∃ d₀, typeStage s settings start = (.ok (), d₀) ∧ d₀.Grows d ∧
      List.Forall₂ (fun r o => LoadedBetween s d₀ d r.row o) (s.loadedRoutines settings)
        d.operations := by
  obtain ⟨d₀, htypes, hoperations⟩ := inspect_eq_ok.1 h
  obtain ⟨_, hnone, _⟩ := typeStage_blank htypes
  obtain ⟨ops, hops, hall⟩ := operationStage_between (s.loadedRoutines settings) hoperations
  rw [hnone, List.nil_append] at hops
  rw [← hops] at hall
  exact ⟨d₀, htypes, operationStage_grows (s.loadedRoutines settings) hoperations, hall⟩

/-- A run of the second stage ends as the stage does on the domain alone. -/
theorem loadOperations_run (s : CatalogSnapshot) (settings : Settings) (executed : List String)
    (d : Domain) :
    (run (loadOperations s.catalog settings) executed d).result =
        (operationStage s (s.routineRows settings.excludedSchemas) d).1 ∧
      (run (loadOperations s.catalog settings) executed d).domain =
        (operationStage s (s.routineRows settings.excludedSchemas) d).2 := by
  obtain ⟨log, h⟩ := loadOperations_yields (s := s) (d := d) settings executed []
  unfold run
  rw [h]
  exact ⟨rfl, rfl⟩

/-- From any domain and whether it succeeds or fails, the second stage takes nothing away and moves
nothing. It adds an operation for each routine outside the excluded schemas, in order, up to the
first that fails; the domain's types, engine, naming style and default namespace stay, and every
result type that was there stands where it stood, with the same columns. -/
theorem operations_only_add (s : CatalogSnapshot) (settings : Settings) (executed : List String)
    (d : Domain) :
    d.Grows (run (loadOperations s.catalog settings) executed d).domain ∧
    ∃ n ops, n ≤ (s.loadedRoutines settings).length ∧
      (run (loadOperations s.catalog settings) executed d).domain.operations =
        d.operations ++ ops ∧
      List.Forall₂ (fun r o => o.ReadFrom r) ((s.loadedRoutines settings).take n) ops ∧
      ((run (loadOperations s.catalog settings) executed d).result = .ok () ↔
        n = (s.loadedRoutines settings).length) := by
  have hadds := operationStage_adds (s := s) (s.loadedRoutines settings) d
  obtain ⟨hresult, hdomain⟩ := loadOperations_run s settings executed d
  rw [hresult, hdomain]
  exact ⟨hadds.grows, hadds.operations⟩

/-- A function that returns rows, and a procedure that takes such rows and then a value of a type
that is not known. -/
def visits : CatalogSnapshot where
  engine := .postgres
  tables := []
  routines :=
    [rowFunction "visit_list" none []
      [⟨"id", 1, "integer", false, none⟩, ⟨"day", 2, "date", false, none⟩],
     ⟨"public", "visit_add", none, .procedure, none, false, none, none,
      [⟨"visits", "visit_list_result", some "public", true, false, false⟩,
       ⟨"place", "point3d", none, false, false, false⟩], []⟩]
  userTypes := []

/-- The procedure is not loaded, but it stays one of the users of the rows. -/
example :
    let after := run (loadOperations visits.catalog .standard) []
      (blankDomain visits.engine .standard)
    after.result.isOk = false ∧
      after.domain.operations.map Operation.key = [⟨"public", "visit_list"⟩] ∧
      after.domain.resultTypes.map ResultType.operations =
        [[⟨"public", "visit_list"⟩, ⟨"public", "visit_add"⟩]] := by
  decide +kernel

end Offline

end SchemaModel
