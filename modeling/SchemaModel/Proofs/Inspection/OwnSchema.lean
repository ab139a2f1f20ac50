import SchemaModel.Proofs.Inspection.DefaultNamespace
import SchemaModel.Proofs.Inspection.Resolution

/-!
# `SchemaModel.Proofs.Inspection.OwnSchema` — names without a schema

A routine can name a type without a schema in three places: in the comment that says what it is
about, as the type of an input, and as its declared return type. All three mean a type in the
routine's own schema. Where there is none, the operation is about nothing, or the inspection fails;
whether the default namespace has a type of that name makes no difference.

## Contents
- `Unqualified`: a text that names no schema. What look-ups find for it.
- `LeadsTo`: what the name of a user-defined type has led to goes by its key.
- `OwnSchema`: what an operation refers to without a schema is in the schema of its routine.
- `unqualified_in_own_schema`: so it is in every inspected domain, and the default namespace decides
  nothing.
- `shop`: a database whose types are not found from another schema.
-/

namespace SchemaModel

open Inspection

/-! ## Texts that name no schema -/

/-- The text names no schema. -/
def Unqualified (text : String) : Prop := (splitTypeName text).1 = none

instance (text : String) : Decidable (Unqualified text) :=
  inferInstanceAs (Decidable ((splitTypeName text).1 = none))

theorem typeNameKey_of_unqualified {text : String} (h : Unqualified text) (schema : String) :
    typeNameKey text schema = ⟨schema, text⟩ := by
  have hsplit : splitTypeName text = (none, text) := by
    unfold Unqualified splitTypeName at h
    unfold splitTypeName
    split at h
    · split at h
      · rename_i hempty
        rw [if_pos hempty]
      · cases h
    · rfl
  unfold typeNameKey
  rw [hsplit]
  rfl

namespace Domain

variable {d : Domain} {text schema : String}

/-- An override that names no schema leads to a table in the schema at hand. -/
theorem lookUpType?_unqualified {key : TypeKey} (h : Unqualified text)
    (hkey : lookUpType? d text schema = some key) :
    ∃ t ∈ d.types, t.key = key ∧ Text.eqIgnoreAsciiCase t.schema schema = true ∧
      Text.eqIgnoreAsciiCase t.name text = true := by
  unfold lookUpType? at hkey
  rw [typeNameKey_of_unqualified h] at hkey
  dsimp only at hkey
  cases hfind : d.findType? ⟨schema, text⟩ with
  | some t =>
      rw [hfind] at hkey
      cases hkey
      have hsame : d.engine.keysEqual t.key ⟨schema, text⟩ = true :=
        List.find?_some (p := fun t : ApplicationType => d.engine.keysEqual t.key _) hfind
      obtain ⟨hschema, hname⟩ := Bool.and_eq_true_iff.1 hsame
      exact ⟨t, List.mem_of_find?_eq_some hfind, rfl,
        d.engine.eqIgnoreAsciiCase_of_namesEqual hschema,
        d.engine.eqIgnoreAsciiCase_of_namesEqual hname⟩
  | none =>
      simp only [hfind] at hkey
      split at hkey
      · rename_i t hone
        cases hkey
        obtain ⟨hmem, hsame⟩ := List.mem_filter.1 (hone.symm ▸ List.mem_singleton_self t)
        obtain ⟨hschema, hname⟩ := Bool.and_eq_true_iff.1 hsame
        exact ⟨t, hmem, rfl, hschema, hname⟩
      · cases hkey

/-- It leads to nothing only when no table in that schema has the name. -/
theorem lookUpType?_unqualified_none (h : Unqualified text)
    (hnone : lookUpType? d text schema = none) :
    ∀ t ∈ d.types, d.engine.keysEqual t.key ⟨schema, text⟩ = false := by
  unfold lookUpType? at hnone
  rw [typeNameKey_of_unqualified h] at hnone
  dsimp only at hnone
  cases hfind : d.findType? ⟨schema, text⟩ with
  | some t =>
      rw [hfind] at hnone
      cases hnone
  | none => exact fun t ht => Bool.eq_false_iff.2 (List.find?_eq_none.1 hfind t ht)

end Domain

namespace Offline

variable {s : CatalogSnapshot} {settings : Settings} {d d' start : Domain} {op : TypeKey}
  {o : Operation} {row : RoutineRow}

/-! ## User-defined types -/

/-- What the name of a user-defined type has led to goes by the key: a result type under a key that
is the same to the engine, or the value of a type that the catalog lists. -/
def LeadsTo (s : CatalogSnapshot) (key : TypeKey) : Option TypeKey → Prop
  | some found => s.engine.keysEqual found key = true
  | none => ∃ t, s.userType? key.schema key.name = some t ∧ t.kind ≠ .composite

theorem userShape_leadsTo {key user : TypeKey} {shape : UserTypeShape} (he : d.engine = s.engine)
    (h : userShape s key user d = (.ok shape, d')) : LeadsTo s key shape.resultKey? := by
  cases userShape_looksUp h with
  | @found r hfind =>
      show s.engine.keysEqual r.key key = true
      rw [← he]
      exact List.find?_some (p := fun r : ResultType => d.engine.keysEqual r.key key) hfind
  | composite _ hrow _ => exact CatalogSnapshot.userType?_key hrow
  | other _ hrow hkind => exact ⟨_, hrow, hkind⟩

/-- An input of a user-defined type without a schema has led to a type in the schema of the
operation. -/
def InputLeads (s : CatalogSnapshot) (op : TypeKey) (input : ParameterRow) (p : Parameter) : Prop :=
  input.isUserDefined = true → input.typeSchema = none →
    LeadsTo s ⟨op.schema, input.nativeType⟩ p.resultType

theorem parameter_leads {input : ParameterRow} {p : Parameter} (he : d.engine = s.engine)
    (h : parameter s op input d = (.ok p, d')) : InputLeads s op input p := by
  intro huser hschema
  unfold parameter at h
  rw [if_pos huser, hschema] at h
  obtain ⟨shape, d₁, hshape, hrest⟩ := Build.bind_eq_ok.1 h
  obtain ⟨hresult, _, rfl⟩ := shapedParameter_eq_ok hrest
  rw [hresult]
  exact userShape_leadsTo he hshape

/-! ## Declared return types -/

/-- The routine has no output columns, and what it declares to return is neither nothing, nor a
pseudo-type, nor a value. -/
structure ReturnsNamed (s : CatalogSnapshot) (row : RoutineRow) : Prop where
  columns : s.resultColumnsOf row = []
  notVoid : s.engine.isVoid row.returnType = false
  notPseudo : isPseudoType (row.returnType.getD "") = false
  notValue : s.engine.valueType? (row.returnType.getD "") = none

/-- What a key names is returned: the rows of the table of this key, and where there is none, what a
user-defined type of this key stands for. -/
def ReturnLeads (s : CatalogSnapshot) (d : Domain) (key : TypeKey) (multiple : Bool)
    (returns : OperationReturn) : Prop :=
  match d.findType? key with
  | some t => returns = .applicationType t.key multiple
  | none => returns.multiple = multiple ∧ LeadsTo s key returns.typeKey

theorem ReturnLeads.table {key : TypeKey} {multiple : Bool} {returns : OperationReturn}
    {t : ApplicationType} (h : ReturnLeads s d key multiple returns)
    (ht : d.findType? key = some t) : returns = .applicationType t.key multiple := by
  unfold ReturnLeads at h
  rw [ht] at h
  exact h

theorem returnShape_leads {returns : OperationReturn} (he : d.engine = s.engine)
    (hschema : o.schema = row.schema) (hnamed : ReturnsNamed s row)
    (h : returnShape s o row d = (.ok returns, d')) :
    ReturnLeads s d (typeNameKey (row.returnType.getD "") row.schema) row.returnsSet returns := by
  unfold returnShape at h
  rw [if_pos (by rw [hnamed.columns]; rfl)] at h
  unfold declaredShape at h
  simp only [he, hnamed.notVoid, hnamed.notPseudo, hnamed.notValue, hschema] at h
  unfold ReturnLeads
  cases htable : d.findType? (typeNameKey (row.returnType.getD "") row.schema) with
  | some t =>
      simp only [htable] at h
      cases h
      rfl
  | none =>
      simp only [htable] at h
      obtain ⟨shape, d₁, hshape, hrest⟩ := Build.bind_eq_ok.1 h
      have hleads := userShape_leadsTo he hshape
      cases shape with
      | rows found =>
          cases hrest
          exact ⟨rfl, hleads⟩
      | value valueType =>
          cases hrest
          exact ⟨rfl, hleads⟩

/-! ## Operations -/

/-- Everything that a routine names without a schema is in its own schema: the table that it is
about, which is none only when no table there has the name; the types of its inputs; and what it
declares to return. -/
structure OwnSchema (s : CatalogSnapshot) (d : Domain) (row : RoutineRow) (o : Operation) :
    Prop where
  about : ∀ text, o.attributes.bind Attributes.applicationType? = some text → Unqualified text →
    ∀ key, o.relatedType = some key → ∃ t ∈ d.types, t.key = key ∧
      Text.eqIgnoreAsciiCase t.schema row.schema = true ∧ Text.eqIgnoreAsciiCase t.name text = true
  aboutNone : ∀ text, o.attributes.bind Attributes.applicationType? = some text →
    Unqualified text → o.relatedType = none →
      ∀ t ∈ d.types, s.engine.keysEqual t.key ⟨row.schema, text⟩ = false
  inputs : List.Forall₂ (InputLeads s ⟨row.schema, row.name⟩) (inputs s row) o.parameters
  returns : ReturnsNamed s row → Unqualified (row.returnType.getD "") →
    ReturnLeads s d ⟨row.schema, row.returnType.getD ""⟩ row.returnsSet o.returns

/-- Only the types of the domain matter. -/
theorem OwnSchema.of_grows (h : OwnSchema s d row o) (hd : d.Grows d') : OwnSchema s d' row o where
  about := hd.types ▸ h.about
  aboutNone := hd.types ▸ h.aboutNone
  inputs := h.inputs
  returns hnamed htext := by
    unfold ReturnLeads
    rw [hd.findType?]
    exact h.returns hnamed htext

theorem related_eq {text : String}
    (h : (overrides row).bind Attributes.applicationType? = some text) :
    related d row = lookUpType? d text row.schema := by
  unfold related relatedType
  rw [h]
  dsimp only
  cases lookUpType? d text row.schema with
  | none => rfl
  | some key => rfl

theorem operation_ownSchema (he : d.engine = s.engine) (h : operation s row d = (.ok o, d')) :
    OwnSchema s d' row o := by
  unfold operation operationAbout at h
  obtain ⟨ps, d₁, hps, hrest⟩ := Build.bind_eq_ok.1 h
  obtain ⟨returns, d₂, hreturns, hlast⟩ := Build.bind_eq_ok.1 hrest
  cases hlast
  obtain ⟨hframe, _⟩ := (parameters_growing _ _).of_run hps
  obtain ⟨hframe', _⟩ := (returnShape_growing _ _).of_run hreturns
  obtain ⟨qs, hmatched, _⟩ := matchParameters_eq d'
    { unshaped row ps (related d row) with returns := returns }
  have htypes : d'.types = d.types := hframe'.types.trans hframe.types
  constructor
  · rw [hmatched]
    intro text htext hplain key hkey
    rw [htypes]
    exact Domain.lookUpType?_unqualified hplain (related_eq htext ▸ hkey)
  · rw [hmatched]
    intro text htext hplain hnone
    rw [htypes, ← he]
    exact Domain.lookUpType?_unqualified_none hplain (related_eq htext ▸ hnone)
  · refine matchParameters_forall₂ (fun input p t hp => ?_)
      (parameters_forall₂ parameter_leads he hps)
    intro huser hschema
    rw [matchedParameter_resultType]
    exact hp huser hschema
  · rw [hmatched]
    intro hnamed htext
    have hleads := returnShape_leads (hframe.engine.trans he) rfl hnamed hreturns
    rw [typeNameKey_of_unqualified htext] at hleads
    unfold ReturnLeads at hleads ⊢
    rw [hframe'.findType?]
    exact hleads

/-! ## Inspections -/

/-- Whatever the snapshot and the settings: what a routine of an inspected domain names without a
schema is in the schema of the routine. Another default namespace changes nothing in an inspection
but the namespace that the domain keeps. -/
theorem unqualified_in_own_schema (s : CatalogSnapshot) (settings : Settings)
    (executed : List String) (start : Domain) :
    (∀ d, (run (inspect s.catalog settings) executed start).result = .ok d →
      List.Forall₂ (fun r o => OwnSchema s d r.row o) (s.loadedRoutines settings) d.operations) ∧
    ∀ given, (run (inspect s.catalog { settings with defaultNamespace := given }) executed
        start).result =
      (run (inspect s.catalog settings) executed start).result.map fun d =>
        d.inNamespace (given.getD s.engine.defaultNamespace) := by
  refine ⟨fun d h => ?_, fun given => inspect_inNamespace s settings given executed start⟩
  obtain ⟨d₀, htypes, _, hall⟩ := inspect_between h
  obtain ⟨hengine, _⟩ := typeStage_blank htypes
  refine hall.imp fun r o ho => ?_
  obtain ⟨d₁, d₂, hbefore, hloaded, hafter⟩ := ho
  exact (operation_ownSchema (hbefore.engine.trans hengine) hloaded).of_grows hafter

/-- A shop whose tables and types are in the schema `public`, with some routines. -/
def shop (routines : List StoredRoutine) : CatalogSnapshot where
  engine := .postgres
  tables :=
    [⟨"public", "customer", none,
      [⟨"customer_id", "integer", none, none, none, false, true, false, none, none⟩,
       ⟨"name", "text", none, none, none, false, false, false, none, none⟩],
      [⟨"customer_pkey", .primary, ["customer_id"]⟩], []⟩]
  routines := routines
  userTypes := [⟨"public", "address", .composite, none, none, [⟨"street", 1, "text", false, none⟩]⟩]

/-- A function in a schema that returns customers. -/
def customerList (schema : String) : StoredRoutine :=
  ⟨schema, "customer_list", none, .function, some "customer", true, none, none, [], []⟩

/-- A procedure in a schema that takes an address. -/
def addressAdd (schema : String) : StoredRoutine :=
  ⟨schema, "address_add", none, .procedure, none, false, none, none,
    [⟨"entry", "address", none, true, false, false⟩], []⟩

/-- A procedure in a schema that is about customers. -/
def customerTouch (schema : String) : StoredRoutine :=
  ⟨schema, "customer_touch", none, .procedure, none, false, none,
    some "\x7b\"applicationtype\": \"customer\"\x7d", [], []⟩

/-- The three routines in the schema of the types. -/
def publicShop : CatalogSnapshot :=
  shop [customerList "public", addressAdd "public", customerTouch "public"]

/-- In the schema of the types, all three places are understood; and so they are when the default
namespace is another one. -/
theorem unqualified_in_own_schema_shop :
    ∃ d, (run (inspect publicShop.catalog .standard) [] default).result = .ok d ∧
      (run (inspect publicShop.catalog { Settings.standard with defaultNamespace := some "sales" })
        [] default).result = .ok (d.inNamespace "sales") ∧
      ∃ lists adds touches t, d.operations = [lists, adds, touches] ∧
        d.findType? ⟨"public", "customer"⟩ = some t ∧ lists.returns = .applicationType t.key true ∧
        (∃ p ∈ adds.parameters, LeadsTo publicShop ⟨"public", "address"⟩ p.resultType) ∧
        ∃ key, touches.relatedType = some key ∧
          Text.eqIgnoreAsciiCase key.schema "public" = true := by
  obtain ⟨d, hd, htable, hlast⟩ :
      ∃ d, (run (inspect publicShop.catalog .standard) [] default).result = .ok d ∧
        (d.findType? ⟨"public", "customer"⟩).isSome = true ∧
        ∀ o ∈ d.operations.drop 2,
          o.attributes.bind Attributes.applicationType? = some "customer" ∧
            o.relatedType.isSome = true := by
    decide +kernel
  obtain ⟨hown, hnamespace⟩ := unqualified_in_own_schema publicShop .standard [] default
  have hother := hnamespace (some "sales")
  rw [hd] at hother
  have hloaded : publicShop.loadedRoutines .standard =
      [customerList "public", addressAdd "public", customerTouch "public"] := by decide +kernel
  have hall := hown d hd
  rw [hloaded] at hall
  obtain ⟨lists, _, hlists, hrest, hops⟩ := List.forall₂_cons_left_iff.1 hall
  obtain ⟨adds, _, hadds, hrest', rfl⟩ := List.forall₂_cons_left_iff.1 hrest
  obtain ⟨touches, _, htouches, hnone, rfl⟩ := List.forall₂_cons_left_iff.1 hrest'
  obtain rfl := List.forall₂_nil_left_iff.1 hnone
  obtain ⟨t, ht⟩ := Option.isSome_iff_exists.1 htable
  refine ⟨d, hd, hother, lists, adds, touches, t, hops, ht, ?_, ?_, ?_⟩
  · have hreturns := hlists.returns
      ⟨by decide +kernel, by decide +kernel, by decide +kernel, by decide +kernel⟩
      (by decide +kernel)
    exact hreturns.table ht
  · have hinputs : inputs publicShop (addressAdd "public").row =
        (addressAdd "public").parameterRows := by decide +kernel
    have hleads := hadds.inputs
    rw [hinputs] at hleads
    obtain ⟨p, _, hp, _, hps⟩ := List.forall₂_cons_left_iff.1 hleads
    exact ⟨p, hps ▸ List.mem_cons_self, hp rfl rfl⟩
  · rw [hops] at hlast
    obtain ⟨htext, habout⟩ := hlast touches (List.mem_singleton_self touches)
    obtain ⟨key, hkey⟩ := Option.isSome_iff_exists.1 habout
    obtain ⟨u, _, rfl, hschema, _⟩ := htouches.about "customer" htext (by decide +kernel) key hkey
    exact ⟨u.key, hkey, hschema⟩

/-- From another schema, none of the three names is understood, although the default namespace has a
table or a type of that name: two inspections fail, and the third operation is about nothing. -/
theorem shared_types_not_found :
    (run (inspect (shop [customerList "sales"]).catalog .standard) [] default).result =
        .error (.unknownUserType "sales" "customer") ∧
      (run (inspect (shop [addressAdd "sales"]).catalog .standard) [] default).result =
        .error (.unknownUserType "sales" "address") ∧
      ((shop []).userType? "public" "address").isSome = true ∧
      ∃ d, (run (inspect (shop [customerTouch "sales"]).catalog .standard) [] default).result =
          .ok d ∧
        d.defaultNamespace = "public" ∧ (d.findType? ⟨"public", "customer"⟩).isSome = true ∧
        ∃ o ∈ d.operations, o.attributes.bind Attributes.applicationType? = some "customer" ∧
          o.relatedType = none := by
  refine ⟨?_, ?_, by decide +kernel, ?_⟩
  · apply Outcome.eq_error_of_test
    decide +kernel
  · apply Outcome.eq_error_of_test
    decide +kernel
  · decide +kernel

end Offline

end SchemaModel
