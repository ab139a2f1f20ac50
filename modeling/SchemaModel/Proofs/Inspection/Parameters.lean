import SchemaModel.Proofs.Inspection.Resolution
import SchemaModel.Proofs.Inspection.TypeStage

/-!
# `SchemaModel.Proofs.Inspection.Parameters` — what becomes of the inputs of a routine

A parameter is written twice. When its input is loaded it gets the type that the input is declared
with: rows of a result type or a value. Once the return shape of its operation is known, it is
compared with the fields of the type that the operation is about, and may take over what a field
says. Tables and naming style stay as they are all the while, so the second step can be told from
the finished domain.

## Contents
- `HoldsValues`: no field of a table holds rows.
- `declaredType?`, `Declared`: an input as it is declared. `parameters_declared`: so it is loaded.
- `TakesInputs`: the parameters of an operation are its inputs as they are declared, each compared
  with the related type. `inspect_takesInputs`: every inspection gives this.
- `parameters_fit`: type, rows, default and field of a parameter agree with each other.
- `callers_accept_null`: a parameter that carries the calling user's id accepts null exactly when it
  is declared as one that can. `guestBook` has one that is not.
-/

namespace SchemaModel

open Inspection

/-! ## Fields of tables -/

/-- The tables of native types lead to values, never to rows. -/
theorem Engine.valueType?_kind {engine : Engine} {nativeType : String} {v : ValueType}
    (h : engine.valueType? nativeType = some v) : v.kind ≠ .resultType := by
  have hlookup : ∀ {table : List (ValueKind × List String)} {name : String} {kind : ValueKind},
      ValueKind.resultType ∉ table.map Prod.fst → NativeType.lookup table name = some kind →
        kind ≠ .resultType := by
    intro table name kind htable hfind hkind
    obtain ⟨entry, hentry, rfl⟩ := Option.map_eq_some_iff.1 hfind
    exact htable (hkind ▸ List.mem_map_of_mem (List.mem_of_find?_eq_some hentry))
  unfold Engine.valueType? at h
  cases engine with
  | postgres =>
      unfold NativeType.postgres? at h
      dsimp only at h
      split at h
      all_goals
        obtain ⟨kind, hkind, rfl⟩ := Option.map_eq_some_iff.1 h
        exact hlookup (by decide) hkind
  | sqlServer =>
      obtain ⟨kind, hkind, rfl⟩ := Option.map_eq_some_iff.1 h
      exact hlookup (by decide) hkind

/-- The field does not hold rows. -/
def Field.HoldsValues (f : Field) : Prop := f.kind? ≠ some .resultType

/-- Nullability is no part of the kind. -/
theorem ValueType.nullableForm_kind (v : ValueType) : v.nullableForm.kind = v.kind := by
  unfold nullableForm
  split <;> rfl

theorem ValueType.nullableForm_nullableForm (v : ValueType) :
    v.nullableForm.nullableForm = v.nullableForm := by
  unfold nullableForm
  split <;> rfl

theorem Field.setRequired_kind? (f : Field) (required : Bool) :
    (f.setRequired required).kind? = f.kind? := by
  have hkind : ∀ v : ValueType, (v.withNullability !required).kind = v.kind := by
    intro v
    unfold ValueType.withNullability
    split
    · exact v.nullableForm_kind
    · rfl
  unfold setRequired kind?
  cases f.valueType with
  | none => rfl
  | some v => exact congrArg some (hkind v)

theorem holdsValues_law (s : CatalogSnapshot) : Offline.FieldLaw s Field.HoldsValues where
  column _ _ row _ _ := by
    show (Field.setRequired _ false).kind? ≠ _
    rw [Field.setRequired_kind?]
    show (s.engine.valueType? row.nativeType).map ValueType.kind ≠ _
    rw [Ne, Option.map_eq_some_iff]
    rintro ⟨v, hv, hkind⟩
    exact Engine.valueType?_kind hv hkind
  flags row f h := by
    show (f.setRequired _).kind? ≠ _
    rw [Field.setRequired_kind?]
    exact h
  mark _ h := h
  point _ _ h := h

/-! ## Inputs as they are declared -/

namespace CatalogSnapshot

variable {s : CatalogSnapshot}

/-- The value type that an input is declared with: that of its native type, or that of the base type
of the domain which it names. -/
def declaredType? (s : CatalogSnapshot) (op : TypeKey) (input : ParameterRow) :
    Option ValueType :=
  if input.isUserDefined then
    (s.userType? (inputKey op input).schema (inputKey op input).name).bind fun t =>
      if t.kind = .domain then s.engine.valueType? (t.baseType.getD "") else none
  else s.engine.valueType? input.nativeType

theorem declaredType?_kind {op : TypeKey} {input : ParameterRow} {v : ValueType}
    (h : s.declaredType? op input = some v) : v.kind ≠ .resultType := by
  unfold declaredType? at h
  split at h
  · obtain ⟨t, _, ht⟩ := Option.bind_eq_some_iff.1 h
    split at ht
    · exact Engine.valueType?_kind ht
    · cases ht
  · exact Engine.valueType?_kind h

end CatalogSnapshot

namespace Offline

variable {s : CatalogSnapshot} {settings : Settings} {d d' start : Domain} {op : TypeKey}
  {o : Operation}

/-- A parameter is its input as it is declared: with rows of a result type, or with a value. -/
inductive Declared (s : CatalogSnapshot) (op : TypeKey) (input : ParameterRow) :
    Parameter → Prop where
  | rows (key : TypeKey) :
      Declared s op input { untypedParameter input with
        valueType := some (.of .resultType), resultType := some key }
  | value {v : ValueType} (hv : s.declaredType? op input = some v) :
      Declared s op input { untypedParameter input with valueType := some v }

theorem typedParameter_declared {input : ParameterRow} {v : Option ValueType} {p : Parameter}
    (hv : s.declaredType? op input = v)
    (h : typedParameter op (untypedParameter input) v = .ok p) : Declared s op input p := by
  cases v with
  | none => cases h
  | some v =>
      cases h
      exact .value hv

theorem parameter_declared {input : ParameterRow} {p : Parameter} (he : d.engine = s.engine)
    (h : parameter s op input d = (.ok p, d')) : Declared s op input p := by
  unfold parameter at h
  by_cases huser : input.isUserDefined
  · rw [if_pos huser] at h
    obtain ⟨shape, d₁, hshape, hrest⟩ := Build.bind_eq_ok.1 h
    cases shape with
    | rows key =>
        obtain ⟨rfl, _⟩ := Build.pure_eq_ok.1 hrest
        exact .rows key
    | value v =>
        obtain ⟨htyped, _⟩ := Build.outcome_eq_ok.1 hrest
        refine typedParameter_declared ?_ htyped
        obtain ⟨t, ht, hkind⟩ := userShape_value he hshape
        unfold CatalogSnapshot.declaredType? CatalogSnapshot.inputKey
        rw [if_pos huser, ht, Option.bind_some]
        rcases hkind with ⟨hdomain, hbase⟩ | ⟨henum, rfl⟩
        · rw [if_pos hdomain, hbase]
        · rw [if_neg (henum ▸ nofun)]
  · rw [if_neg huser] at h
    obtain ⟨htyped, _⟩ := Build.outcome_eq_ok.1 h
    refine typedParameter_declared ?_ htyped
    unfold CatalogSnapshot.declaredType?
    rw [if_neg huser, he]

theorem parameters_declared {rows : List ParameterRow} {ps : List Parameter}
    (he : d.engine = s.engine) (h : parameters s op rows d = (.ok ps, d')) :
    List.Forall₂ (Declared s op) rows ps := parameters_forall₂ parameter_declared he h

/-! ## Comparison with the related type -/

/-- A parameter after comparison with the fields of the type that its operation is about. -/
def compared (d : Domain) (about : Option TypeKey) (p : Parameter) : Parameter :=
  match about.bind d.findType? with
  | some t => matchedParameter d t p
  | none => p

theorem matchParameters_eq_map (d : Domain) (o : Operation) :
    matchParameters d o = { o with parameters := o.parameters.map (compared d o.relatedType) } := by
  unfold matchParameters compared
  cases o.relatedType.bind d.findType? with
  | none =>
      dsimp only
      rw [List.map_id']
  | some t => rfl

/-- Operations and result types of the domain do not matter. -/
theorem compared_of_grows (h : d.Grows d') : compared d' = compared d := by
  obtain ⟨_, _, _, _, _, _⟩ := d
  obtain ⟨_, _, _, _, _, _⟩ := d'
  obtain ⟨_, hengine, hnaming, htypes, _, _⟩ := h
  cases hengine
  cases hnaming
  cases htypes
  rfl

/-- The parameters of an operation are the inputs of its routine as they are declared, each compared
with the type that the operation is about. -/
structure TakesInputs (s : CatalogSnapshot) (d : Domain) (row : RoutineRow) (o : Operation) :
    Prop where
  related : ∀ key, o.relatedType = some key → d.LoadsType key
  parameters : List.Forall₂
    (fun input p => ∃ p₀, Declared s o.key input p₀ ∧ p = compared d o.relatedType p₀)
    (inputs s row) o.parameters

theorem TakesInputs.of_grows {row : RoutineRow} (h : TakesInputs s d row o) (hd : d.Grows d') :
    TakesInputs s d' row o where
  related key hkey := by
    obtain ⟨t, ht, hsame⟩ := h.related key hkey
    exact ⟨t, (hd.findType? key).trans ht, hsame⟩
  parameters := by
    rw [compared_of_grows hd]
    exact h.parameters

theorem operation_takesInputs {row : RoutineRow} (he : d.engine = s.engine)
    (h : operation s row d = (.ok o, d')) : TakesInputs s d' row o := by
  have hloaded := operation_loaded he h
  refine ⟨hloaded.related, ?_⟩
  rw [hloaded.key]
  unfold operation operationAbout at h
  obtain ⟨ps, d₁, hps, hrest⟩ := Build.bind_eq_ok.1 h
  obtain ⟨returns, d₂, hreturns, hlast⟩ := Build.bind_eq_ok.1 hrest
  cases hlast
  rw [matchParameters_eq_map]
  refine List.forall₂_map_right_iff.2 ((parameters_declared he hps).imp fun input p hp => ?_)
  exact ⟨p, hp, rfl⟩

/-- Whatever the snapshot and the settings, the operations take the inputs of their routines, and no
field of a table holds rows. -/
theorem inspect_takesInputs {executed : List String}
    (h : (run (inspect s.catalog settings) executed start).result = .ok d) :
    List.Forall₂ (fun r o => TakesInputs s d r.row o) (s.loadedRoutines settings) d.operations ∧
      ∀ t ∈ d.types, ∀ f ∈ t.fields, f.HoldsValues := by
  obtain ⟨d₀, htypes, hgrows, hall⟩ := inspect_between h
  obtain ⟨hengine, _⟩ := typeStage_blank htypes
  constructor
  · refine hall.imp fun r o ho => ?_
    -- What the later routines do to the domain is nothing that the comparison looks at.
    obtain ⟨d₁, d₂, hbefore, hloaded, hafter⟩ := ho
    exact (operation_takesInputs (hbefore.engine.trans hengine) hloaded).of_grows hafter
  · rw [hgrows.types]
    exact typeStage_law (holdsValues_law s) htypes

/-! ## What a parameter says of itself -/

/-- What a parameter says agrees with itself and with the field that it was matched to. -/
structure Fits (d : Domain) (o : Operation) (p : Parameter) : Prop where
  typed : p.valueType.isSome = true
  rows : p.resultType.isSome = true ↔ p.valueType.map ValueType.kind = some .resultType
  unmatched : p.resultType.isSome = true → p.relatedField = none
  optional : p.hasDefault = true → p.isRequired = false
  about : p.relatedField.isSome = true → o.relatedType.isSome = true
  field : ∀ name, p.relatedField = some name →
    ∃ t f, o.relatedType.bind d.findType? = some t ∧ t.field? name = some f ∧
      carriedField? d t p = some f ∧ (∀ v, f.valueType = some v → p.valueType = some v) ∧
      p.size = f.size ∧ p.isRequired = (f.isRequired && !p.hasDefault)

/-- Only rows name a result type. -/
theorem Declared.rows_iff {input : ParameterRow} {p : Parameter} (h : Declared s op input p) :
    p.resultType.isSome = true ↔ p.valueType.map ValueType.kind = some .resultType := by
  cases h with
  | rows key => exact iff_of_true rfl rfl
  | value hv =>
      refine iff_of_false nofun ?_
      rw [Option.map_some, Option.some.injEq]
      exact CatalogSnapshot.declaredType?_kind hv

theorem Declared.isSome {input : ParameterRow} {p : Parameter} (h : Declared s op input p) :
    p.valueType.isSome = true := by
  cases h <;> rfl

theorem Declared.optional {input : ParameterRow} {p : Parameter} (h : Declared s op input p)
    (hdefault : p.hasDefault = true) : p.isRequired = false := by
  cases h <;> exact congrArg (!·) hdefault

theorem Declared.relatedField {input : ParameterRow} {p : Parameter} (h : Declared s op input p) :
    p.relatedField = none := by
  cases h <;> rfl

/-- What says of no field that it was matched to it agrees with every type. -/
theorem Fits.of_unmatched {p : Parameter} (htyped : p.valueType.isSome = true)
    (hrows : p.resultType.isSome = true ↔ p.valueType.map ValueType.kind = some .resultType)
    (hoptional : p.hasDefault = true → p.isRequired = false) (hnone : p.relatedField = none) :
    Fits d o p where
  typed := htyped
  rows := hrows
  unmatched _ := hnone
  optional := hoptional
  about hmatched := by
    rw [hnone] at hmatched
    cases hmatched
  field name hname := by
    rw [hnone] at hname
    cases hname

theorem Declared.fits {input : ParameterRow} {p : Parameter} (h : Declared s op input p) :
    Fits d o p :=
  .of_unmatched h.isSome h.rows_iff h.optional h.relatedField

/-- The field's type, where it has one, takes the place of the declared one. -/
theorem applyField_valueType (p : Parameter) (f : Field) :
    (p.applyField f).valueType = f.valueType.or p.valueType := by
  unfold Parameter.applyField
  cases f.valueType <;> rfl

theorem makeOptional_kind (p : Parameter) :
    p.makeOptional.valueType.map ValueType.kind = p.valueType.map ValueType.kind := by
  unfold Parameter.makeOptional
  cases p.valueType with
  | none => rfl
  | some v => exact congrArg some v.nullableForm_kind

/-- A value that takes over a field which holds values fits. -/
theorem Declared.applyField_fits {input : ParameterRow} {t : ApplicationType} {p : Parameter}
    {f : Field} (h : Declared s op input p) (hvalue : p.isResultType = false)
    (ht : o.relatedType.bind d.findType? = some t) (hf : carriedField? d t p = some f)
    (hholds : f.HoldsValues) : Fits d o (p.applyField f) := by
  cases h with
  | rows key => cases hvalue
  | @value v hv =>
      refine ⟨?_, ?_, nofun, ?_, ?_, ?_⟩
      · rw [applyField_valueType, Option.isSome_or]
        exact Bool.or_true _
      · refine iff_of_false nofun ?_
        rw [applyField_valueType]
        cases htype : f.valueType with
        | none =>
            rw [Option.none_or, Option.map_some, Option.some.injEq]
            exact CatalogSnapshot.declaredType?_kind hv
        | some _ =>
            rw [Option.some_or, ← htype]
            exact hholds
      · intro (hdefault : input.hasDefault = true)
        show (f.isRequired && !input.hasDefault) = false
        rw [hdefault, Bool.not_true, Bool.and_false]
      · intro _
        obtain ⟨key, hkey, _⟩ := Option.bind_eq_some_iff.1 ht
        rw [hkey]
        rfl
      · intro name hname
        cases hname
        refine ⟨t, f, ht, field?_of_carriedField? hf, hf, ?_, rfl, rfl⟩
        intro w hw
        rw [applyField_valueType, hw, Option.some_or]

/-- Comparison with a type none of whose fields holds rows leaves a parameter that fits. -/
theorem Declared.matched_fits {input : ParameterRow} {t : ApplicationType} {p q : Parameter}
    (h : Declared s op input p) (ht : o.relatedType.bind d.findType? = some t)
    (hholds : ∀ f ∈ t.fields, f.HoldsValues) (hmatched : Matched d t p q) : Fits d o q := by
  cases hmatched with
  | rows _ => exact h.fits
  | alone _ _ _ => exact h.fits
  | caller _ _ =>
      refine .of_unmatched (Option.isSome_map.trans h.isSome) ?_ (fun _ => rfl) h.relatedField
      rw [makeOptional_kind]
      exact h.rows_iff
  | field hvalue _ hf =>
      exact h.applyField_fits hvalue ht hf
        (hholds _ (List.mem_of_find?_eq_some (field?_of_carriedField? hf)))

/-- Every parameter of an inspected domain fits: it has a type; it names a result type exactly when
it carries rows, which are matched to no field; one with a default is not required; and one that was
matched has type, size and need of the field. -/
theorem parameters_fit {executed : List String}
    (h : (run (inspect s.catalog settings) executed start).result = .ok d) :
    ∀ o ∈ d.operations, ∀ p ∈ o.parameters, Fits d o p := by
  obtain ⟨htakes, hholds⟩ := inspect_takesInputs h
  intro o ho p hp
  obtain ⟨r, _, hinputs⟩ := exists_of_forall₂ htakes.flip ho
  obtain ⟨input, _, p₀, hdeclared, rfl⟩ := exists_of_forall₂ hinputs.parameters.flip hp
  unfold compared
  cases ht : o.relatedType.bind d.findType? with
  | none => exact hdeclared.fits
  | some t =>
      obtain ⟨key, _, hkey⟩ := Option.bind_eq_some_iff.1 ht
      exact hdeclared.matched_fits ht (hholds t (List.mem_of_find?_eq_some hkey))
        (matchedParameter_matched d t p₀)

/-- A guest book. Its visitors are the users, and a visit has the id of one, which the procedures
take in different integer types. -/
def guestBook : CatalogSnapshot where
  engine := .postgres
  tables :=
    [⟨"public", "app_user", some "\x7b\"security_principal\": true\x7d",
      [⟨"app_user_id", "integer", none, none, none, false, true, false, none, none⟩],
      [⟨"app_user_pkey", .primary, ["app_user_id"]⟩], []⟩,
     ⟨"public", "visit", none,
      [⟨"visit_id", "integer", none, none, none, false, true, false, none, none⟩,
       ⟨"current_user_id", "integer", none, none, none, false, false, false, none, none⟩,
       ⟨"note", "text", some 80, none, none, false, false, false, none, none⟩],
      [⟨"visit_pkey", .primary, ["visit_id"]⟩], []⟩]
  routines :=
    [⟨"public", "visit_add", none, .procedure, none, false, none,
      some "\x7b\"applicationtype\": \"visit\"\x7d",
      [⟨"current_user_id", "bigint", none, false, false, false⟩,
       ⟨"note", "varchar", none, false, true, false⟩,
       ⟨"stamps", "stamp", none, true, false, false⟩], []⟩,
     ⟨"public", "visit_clear", none, .procedure, none, false, none,
      some "\x7b\"applicationtype\": \"visit\"\x7d",
      [⟨"current_user_id", "integer", none, false, false, false⟩], []⟩]
  userTypes := [⟨"public", "stamp", .composite, none, none, [⟨"label", 1, "text", false, none⟩]⟩]

/-- The note has a default, so it is not required, although the field that it was matched to is. -/
theorem parameters_fit_guestBook :
    ∃ d, (run (inspect guestBook.catalog .standard) [] default).result = .ok d ∧
      ∃ o ∈ d.operations, ∃ p ∈ o.parameters, p.relatedField = some "note" ∧
        p.hasDefault = true ∧ p.isRequired = false ∧ p.size = some 80 ∧ Fits d o p := by
  obtain ⟨d, hd, o, ho, p, hp, hfield, hdefault, hsize⟩ :
      ∃ d, (run (inspect guestBook.catalog .standard) [] default).result = .ok d ∧
        ∃ o ∈ d.operations, ∃ p ∈ o.parameters, p.relatedField = some "note" ∧
          p.hasDefault = true ∧ p.size = some 80 := by
    decide +kernel
  have hfits := parameters_fit hd o ho p hp
  exact ⟨d, hd, o, ho, p, hp, hfield, hdefault, hfits.optional hdefault, hsize, hfits⟩

/-! ## The calling user -/

/-- The parameter accepts null, and no field stands for it. -/
structure AcceptsNull (p : Parameter) : Prop where
  isRequired : p.isRequired = false
  valueType : ∃ v, p.valueType = some v ∧ v.nullableForm = v
  relatedField : p.relatedField = none

/-- A parameter that did not count as the calling user's when its input was loaded, and does so now,
has taken over a field that holds values like the users' key. -/
theorem caller_of_field {p : Parameter} {f : Field} (hother : d.isSecurityUser p = false)
    (huser : d.isSecurityUser (p.applyField f) = true) :
    ∃ identity, d.userIdentity? = some identity ∧ f.valueType.isSome = true ∧
      f.kind? = identity.kind? := by
  unfold Domain.isSecurityUser at hother huser
  rw [applyField_valueType] at huser
  obtain ⟨hname, hkind⟩ := Bool.and_eq_true_iff.1 huser
  have hsame : p.isCurrentUser d.naming = true := hname
  rw [hsame, Bool.true_and] at hother
  cases htype : f.valueType with
  | none =>
      rw [htype, Option.none_or] at hkind
      rw [hkind] at hother
      cases hother
  | some v =>
      rw [htype, Option.some_or] at hkind
      cases hidentity : d.userIdentity? with
      | none =>
          rw [hidentity] at hother
          cases hother
      | some identity =>
          rw [hidentity] at hkind
          refine ⟨identity, rfl, rfl, ?_⟩
          unfold Field.kind?
          rw [htype]
          exact (eq_of_beq hkind).symm

/-- When the operation is about a type, a parameter that passes a value and carries the calling
user's id accepts null exactly when its input is declared as one that does. The other ones carry
what counts as that id through a field that they took over. -/
def TakesCaller (s : CatalogSnapshot) (d : Domain) (o : Operation) (input : ParameterRow)
    (p : Parameter) : Prop :=
  p.isResultType = false → d.isSecurityUser p = true →
    (AcceptsNull p ↔
      d.isSecurityUser { p with valueType := s.declaredType? o.key input } = true) ∧
    (¬AcceptsNull p → ∃ t f identity, o.relatedType.bind d.findType? = some t ∧
      carriedField? d t p = some f ∧ p.relatedField = some f.name ∧ p.valueType = f.valueType ∧
      d.userIdentity? = some identity ∧ f.kind? = identity.kind?)

theorem Declared.takesCaller {input : ParameterRow} {t : ApplicationType} {p q : Parameter}
    (h : Declared s o.key input p) (ht : o.relatedType.bind d.findType? = some t)
    (hmatched : Matched d t p q) : TakesCaller s d o input q := by
  intro hvalue huser
  cases hmatched with
  | rows hrows => exact absurd (hrows.symm.trans hvalue) nofun
  | alone _ hother _ => exact absurd (hother.symm.trans huser) nofun
  | caller hvalue₀ huser₀ =>
      cases h with
      | rows key => cases hvalue₀
      | @value v hv =>
          have haccepts : AcceptsNull
              ({ untypedParameter input with valueType := some v } : Parameter).makeOptional :=
            ⟨rfl, ⟨_, rfl, v.nullableForm_nullableForm⟩, rfl⟩
          refine ⟨iff_of_true haccepts ?_, fun hnot => absurd haccepts hnot⟩
          rw [hv]
          exact huser₀
  | @field f hvalue₀ hother hf =>
      cases h with
      | rows key => cases hvalue₀
      | @value v hv =>
          have hnot : ¬AcceptsNull
              (({ untypedParameter input with valueType := some v } : Parameter).applyField f) :=
            fun haccepts => nomatch haccepts.relatedField
          refine ⟨iff_of_false hnot ?_, fun _ => ?_⟩
          · rw [hv, Bool.not_eq_true]
            exact hother
          · obtain ⟨identity, hidentity, htyped, hkind⟩ := caller_of_field hother huser
            refine ⟨t, f, identity, ht, hf, rfl, ?_, hidentity, hkind⟩
            rw [applyField_valueType, Option.or_of_isSome htyped]

/-- In every inspected domain, a parameter of an operation that is about a type, and that carries
the calling user's id, accepts null exactly when it is declared in a kind of value that the users'
key has. Any other such parameter has been matched to a field of that kind, whose type it took. -/
theorem callers_accept_null {executed : List String}
    (h : (run (inspect s.catalog settings) executed start).result = .ok d) :
    List.Forall₂ (fun r o => o.relatedType.isSome = true →
        List.Forall₂ (TakesCaller s d o) (inputs s r.row) o.parameters)
      (s.loadedRoutines settings) d.operations := by
  obtain ⟨htakes, _⟩ := inspect_takesInputs h
  refine htakes.imp fun r o hinputs habout => ?_
  obtain ⟨key, hkey⟩ := Option.isSome_iff_exists.1 habout
  obtain ⟨t, ht, _⟩ := hinputs.related key hkey
  have hrelated : o.relatedType.bind d.findType? = some t := by
    rw [hkey]
    exact ht
  refine hinputs.parameters.imp fun input p hp => ?_
  obtain ⟨p₀, hdeclared, rfl⟩ := hp
  unfold compared
  rw [hrelated]
  exact hdeclared.takesCaller hrelated (matchedParameter_matched d t p₀)

/-- The caller of the first procedure is declared in a wider type than the users' key has, so the
parameter is matched to the visitor of the visit, and a visit without one cannot be added. -/
theorem guestBook_requires_caller :
    ∃ d, (run (inspect guestBook.catalog .standard) [] default).result = .ok d ∧
      ∃ o ∈ d.operations, o.relatedType = some ⟨"public", "visit"⟩ ∧
        ∃ p ∈ o.parameters, p.isResultType = false ∧ d.isSecurityUser p = true ∧
          p.isRequired = true ∧ p.valueType = some (.of .int32) ∧
          p.valueType ≠ p.valueType.map ValueType.nullableForm ∧
          p.relatedField = some "current_user_id" := by
  decide +kernel

theorem callers_accept_null_guestBook :
    ∃ d, (run (inspect guestBook.catalog .standard) [] default).result = .ok d ∧
      ∃ o ∈ d.operations, ∃ p ∈ o.parameters, d.isSecurityUser p = true ∧ p.isRequired = true ∧
        ∃ (f identity : Field), p.relatedField = some f.name ∧ d.userIdentity? = some identity ∧
          f.kind? = identity.kind? := by
  obtain ⟨d, hd, o, ho, habout, p, hp, hvalue, huser, hrequired⟩ :
      ∃ d, (run (inspect guestBook.catalog .standard) [] default).result = .ok d ∧
        ∃ o ∈ d.operations, o.relatedType.isSome = true ∧
          ∃ p ∈ o.parameters, p.isResultType = false ∧ d.isSecurityUser p = true ∧
            p.isRequired = true := by
    decide +kernel
  obtain ⟨r, _, hinputs⟩ := exists_of_forall₂ (callers_accept_null hd).flip ho
  obtain ⟨input, _, htakes⟩ := exists_of_forall₂ (hinputs habout).flip hp
  obtain ⟨_, hfield⟩ := htakes hvalue huser
  obtain ⟨_, f, identity, _, _, hname, _, hidentity, hkind⟩ :=
    hfield fun haccepts => nomatch hrequired.symm.trans haccepts.isRequired
  exact ⟨d, hd, o, ho, p, hp, huser, hrequired, f, identity, hname, hidentity, hkind⟩

end Offline

end SchemaModel
