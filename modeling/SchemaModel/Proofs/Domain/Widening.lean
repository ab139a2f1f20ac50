import SchemaModel.Proofs.Domain.LookUp
import Mathlib.Data.List.Forall2

/-!
# `SchemaModel.Proofs.Domain.Widening` — what a result type learns from a type

A shared result type is compared with the type it is about each time that another routine returns its
rows. Routines that were loaded before rely on its shape, so a comparison may add to what is known of
its fields and may not take anything back, and a second comparison finds nothing left to do.

## Contents
- **Entries.** `Fields.get?_insertAll`: a look-up after entries are put into others.
  `Fields.Ordered.ext`: ordered entries are determined by their look-ups.
- **Bags.** `Attributes.at?`, `at?_merged`, `merged_merged`: what stands under a key of a union, and
  that a bag which is in already adds nothing.
- `Field.WidenedBy`: a field before and after it is compared with another one. `widenField_widened`
  and `widenField_widenField` are about single fields.
- `Domain.widenResult_cases`: widening does nothing, or it compares the fields of one result type with
  those of one type. `widenResult_widens`: what becomes of the domain.
-/

namespace SchemaModel

/-! ## Entries of objects -/

namespace Json.Fields

/-- Nothing stands under a key that comes before all keys. -/
theorem get?_eq_none_of_lt {key : String} {fields : Fields}
    (h : ∀ k ∈ fields.map Prod.fst, key < k) : get? key fields = none := by
  induction fields with
  | nil => rfl
  | cons entry rest ih =>
      obtain ⟨k, v⟩ := entry
      have hne : k ≠ key := by
        intro heq
        have hlt := h k List.mem_cons_self
        rw [heq] at hlt
        exact String.lt_irrefl key hlt
      have hrest := ih fun k' hk' => h k' (List.mem_cons_of_mem k hk')
      rw [get?, if_neg hne, hrest]

/-- Of the entries that are put in, those under the key decide; they are distinct. -/
theorem get?_insertAll {more : Fields} (hmore : more.Ordered) (base : Fields) (key : String) :
    get? key (insertAll base more) = (get? key more).or (get? key base) := by
  induction more generalizing base with
  | nil => rfl
  | cons entry rest ih =>
      obtain ⟨k, v⟩ := entry
      rw [Ordered, List.map_cons, List.pairwise_cons] at hmore
      have hrest : get? key (insertAll base ((k, v) :: rest)) =
          (get? key rest).or (get? key (insert k v base)) := ih hmore.2 (insert k v base)
      rw [hrest, get?]
      by_cases hk : k = key
      · subst hk
        have hlater := get?_eq_none_of_lt hmore.1
        rw [if_pos rfl, hlater, get?_insert_self]
        rfl
      · rw [if_neg hk, get?_insert_of_ne (Ne.symm hk)]

theorem Ordered.get?_eq_none {key k : String} {v : Json} {rest : Fields}
    (h : Ordered ((k, v) :: rest)) (hlt : key < k) : get? key ((k, v) :: rest) = none := by
  rw [Ordered, List.map_cons, List.pairwise_cons] at h
  refine get?_eq_none_of_lt fun k' hk' => ?_
  rcases List.mem_cons.1 hk' with rfl | hrest
  · exact hlt
  · exact String.lt_trans hlt (h.1 k' hrest)

/-- Ordered entries with the same look-ups are the same. -/
theorem Ordered.ext {a b : Fields} (ha : a.Ordered) (hb : b.Ordered)
    (h : ∀ key, get? key a = get? key b) : a = b := by
  induction a generalizing b with
  | nil =>
      cases b with
      | nil => rfl
      | cons entry _ => simpa [get?] using h entry.1
  | cons entry rest ih =>
      obtain ⟨k, v⟩ := entry
      cases b with
      | nil => simpa [get?] using h k
      | cons entry' rest' =>
          obtain ⟨k', v'⟩ := entry'
          -- The lesser of the two first keys would be missing on the other side.
          have hkey : k = k' := by
            refine String.le_antisymm (fun hlt => ?_) (fun hlt => ?_)
            · have hmissing := (h k').symm.trans (ha.get?_eq_none hlt)
              simp [get?] at hmissing
            · have hmissing := (h k).trans (hb.get?_eq_none hlt)
              simp [get?] at hmissing
          subst hkey
          rw [Ordered, List.map_cons, List.pairwise_cons] at ha hb
          have hvalue : v = v' := by simpa [get?] using h k
          have hrests : rest = rest' := by
            refine ih ha.2 hb.2 fun key => ?_
            by_cases hk : k = key
            · subst hk
              rw [get?_eq_none_of_lt ha.1, get?_eq_none_of_lt hb.1]
            · simpa [get?, hk] using h key
          rw [hvalue, hrests]

end Json.Fields

/-! ## Unions of bags -/

namespace Attributes

/-- What stands literally under a key of a bag that may be missing. -/
def at? (a : Option Attributes) (key : String) : Option Json :=
  a.bind fun a => Json.Fields.get? key a.fields

/-- The second bag decides about its keys. -/
theorem at?_merged (base overrides : Option Attributes) (key : String) :
    at? (merged base overrides) key = (at? overrides key).or (at? base key) := by
  cases base with
  | none => cases overrides <;> simp [merged, at?]
  | some b =>
      cases overrides with
      | none => simp [merged, at?]
      | some o => exact Json.Fields.get?_insertAll o.normal.1 b.fields key

theorem merged_eq_none {base overrides : Option Attributes} :
    merged base overrides = none ↔ overrides = none ∧ base = none := by
  cases base <;> cases overrides <;> simp [merged]

/-- What a bag says already is not said again. -/
theorem union_union (base overrides : Attributes) :
    base.union (base.union overrides) = base.union overrides := by
  apply ext_fields
  have hunion := (base.union overrides).normal.1
  refine (base.union (base.union overrides)).normal.1.ext hunion fun key => ?_
  change Json.Fields.get? key (Json.Fields.insertAll base.fields (base.union overrides).fields) = _
  rw [Json.Fields.get?_insertAll hunion]
  change Option.or (Json.Fields.get? key (Json.Fields.insertAll base.fields overrides.fields)) _ =
    Json.Fields.get? key (Json.Fields.insertAll base.fields overrides.fields)
  rw [Json.Fields.get?_insertAll overrides.normal.1, Option.or_assoc, Option.or_self]

theorem union_self (a : Attributes) : a.union a = a := by
  apply ext_fields
  refine (a.union a).normal.1.ext a.normal.1 fun key => ?_
  change Json.Fields.get? key (Json.Fields.insertAll a.fields a.fields) = _
  rw [Json.Fields.get?_insertAll a.normal.1, Option.or_self]

theorem merged_merged (base overrides : Option Attributes) :
    merged base (merged base overrides) = merged base overrides := by
  cases base with
  | none => cases overrides <;> rfl
  | some b =>
      cases overrides with
      | none => exact congrArg some b.union_self
      | some o => exact congrArg some (b.union_union o)

end Attributes

/-! ## Single fields -/

/-- A field before and after a comparison with a field of a type. -/
structure Field.WidenedBy (f source f' : Field) : Prop where
  -- What a routine says about its column.
  name : f'.name = f.name
  order : f'.order = f.order
  nativeType : f'.nativeType = f.nativeType
  precision : f'.precision = f.precision
  scale : f'.scale = f.scale
  isGenerated : f'.isGenerated = f.isGenerated
  defaultValue : f'.defaultValue = f.defaultValue
  -- What only the table knows.
  size : f'.size = source.size
  isKey : f'.isKey = source.isKey
  isRequired : f'.isRequired = source.isRequired
  isComputed : f'.isComputed = source.isComputed
  references : f'.references = source.references
  /-- No value type is made up. -/
  untyped : f.valueType = none → f'.valueType = none
  /-- The value type stays up to nullability, which it gains where the source's is its nullable form. -/
  typed : ∀ own, f.valueType = some own → ∃ wide, f'.valueType = some wide ∧
    wide.kind = own.kind ∧ wide.array = own.array ∧
      (wide.nullable = true ↔
        own.nullable = true ∨ source.valueType = some { own with nullable := true })
  /-- The field's own overrides stand, and those of the source fill the gaps. -/
  override : ∀ key, Attributes.at? f'.attributes key =
    (Attributes.at? f.attributes key).or (Attributes.at? source.attributes key)
  bare : f'.attributes = none ↔ f.attributes = none ∧ source.attributes = none

namespace Domain

theorem widenField_valueType {f source : Field} {own : ValueType} (h : f.valueType = some own) :
    ∃ wide, (widenField f source).valueType = some wide ∧
      wide.kind = own.kind ∧ wide.array = own.array ∧
        (wide.nullable = true ↔
          own.nullable = true ∨ source.valueType = some { own with nullable := true }) := by
  obtain ⟨kind, nullable, array⟩ := own
  cases htheirs : source.valueType with
  | none =>
      have hkept : (widenField f source).valueType = some ⟨kind, nullable, array⟩ := by
        simp only [widenField, h, htheirs]
      exact ⟨_, hkept, rfl, rfl, by simp⟩
  | some theirs =>
      obtain ⟨kind', nullable', array'⟩ := theirs
      have hvalue : (widenField f source).valueType =
          if (⟨kind, nullable, array⟩ : ValueType) == ⟨kind', false, array'⟩
          then some ⟨kind', nullable', array'⟩ else some ⟨kind, nullable, array⟩ := by
        simp only [widenField, h, htheirs]
        rfl
      by_cases hsame : (⟨kind, nullable, array⟩ : ValueType) = ⟨kind', false, array'⟩
      · rw [if_pos (beq_iff_eq.2 hsame)] at hvalue
        cases hsame
        exact ⟨_, hvalue, rfl, rfl, by simp⟩
      · rw [if_neg (fun hbeq => hsame (beq_iff_eq.1 hbeq))] at hvalue
        refine ⟨_, hvalue, rfl, rfl, ⟨.inl, ?_⟩⟩
        -- A source that differs in more than nullability is not the nullable form.
        rintro (hnullable | hwide)
        · exact hnullable
        · cases hwide
          cases nullable with
          | true => rfl
          | false => exact absurd rfl hsame

theorem widenField_widened (f source : Field) : f.WidenedBy source (widenField f source) where
  name := rfl
  order := rfl
  nativeType := rfl
  precision := rfl
  scale := rfl
  isGenerated := rfl
  defaultValue := rfl
  size := rfl
  isKey := rfl
  isRequired := rfl
  isComputed := rfl
  references := rfl
  untyped := by
    intro hnone
    simp only [widenField, hnone]
  typed := fun _ hown => widenField_valueType hown
  override := fun key => Attributes.at?_merged source.attributes f.attributes key
  bare := Attributes.merged_eq_none

/-- A field has nothing more to learn from a field that it was compared with. -/
theorem widenField_widenField (f source : Field) :
    widenField (widenField f source) source = widenField f source := by
  have hvalue : (widenField (widenField f source) source).valueType =
      (widenField f source).valueType := by
    cases hown : f.valueType with
    | none => simp only [widenField, hown]
    | some own =>
        cases htheirs : source.valueType with
        | none => simp only [widenField, hown, htheirs]
        | some theirs =>
            by_cases hsame : own = theirs.nonNullable
            · simp only [widenField, hown, htheirs, hsame, beq_self_eq_true, if_true, ite_self]
            · have hdiffer : (own == theirs.nonNullable) = false := beq_eq_false_iff_ne.2 hsame
              simp only [widenField, hown, htheirs, hdiffer, Bool.false_eq_true, if_false]
  have hattributes : (widenField (widenField f source) source).attributes =
      (widenField f source).attributes := Attributes.merged_merged source.attributes f.attributes
  change { widenField f source with
    valueType := (widenField (widenField f source) source).valueType
    attributes := (widenField (widenField f source) source).attributes } = widenField f source
  rw [hvalue, hattributes]

/-- A field of a result type before and after a comparison with a type: no field of the type has its
name, or the first one that has tells what becomes of it. -/
inductive Widens (engine : Engine) (t : ApplicationType) : Field → Field → Prop where
  | unknown {f : Field} (hnone : ∀ source ∈ t.fields, engine.namesEqual source.name f.name = false) :
      Widens engine t f f
  | known {f source f' : Field}
      (hfirst : t.fields.find? (fun s => engine.namesEqual s.name f.name) = some source)
      (hwidened : f.WidenedBy source f') : Widens engine t f f'

theorem widenedField_widens (engine : Engine) (t : ApplicationType) (f : Field) :
    Widens engine t f (widenedField engine t f) := by
  unfold widenedField
  cases hsource : sourceField? engine t f with
  | none =>
      refine .unknown fun source hmem => ?_
      exact Bool.eq_false_iff.2 (List.find?_eq_none.1 hsource source hmem)
  | some source => exact .known hsource (widenField_widened f source)

theorem widenedField_widenedField (engine : Engine) (t : ApplicationType) (f : Field) :
    widenedField engine t (widenedField engine t f) = widenedField engine t f := by
  cases hsource : sourceField? engine t f with
  | none =>
      have hkept : widenedField engine t f = f := by rw [widenedField, hsource]
      rw [hkept, hkept]
  | some source =>
      have hwide : widenedField engine t f = widenField f source := by rw [widenedField, hsource]
      have hagain : sourceField? engine t (widenField f source) = some source := hsource
      rw [hwide, widenedField, hagain]
      exact widenField_widenField f source

/-! ## Result types -/

/-- Widening does nothing where one of the two is missing. Otherwise it compares the fields of the one
with those of the other. -/
theorem widenResult_cases (d : Domain) (key source : TypeKey) :
    ((d.findType? source = none ∨ d.findResultType? key = none) ∧
        (d.widenResult key source).1 = d) ∨
      ∃ t r, d.findType? source = some t ∧ d.findResultType? key = some r ∧
        (d.widenResult key source).1 = d.modifyResultType key fun r =>
          { r with fields := r.fields.map (widenedField d.engine t) } := by
  unfold widenResult
  cases d.findType? source with
  | none => exact .inl ⟨.inl rfl, rfl⟩
  | some t =>
      dsimp only
      cases d.findResultType? key with
      | none => exact .inl ⟨.inr rfl, rfl⟩
      | some r => exact .inr ⟨t, r, rfl, rfl, rfl⟩

/-- The second of two changes to the result type under a key finds the one that the first found. -/
theorem modifyResultType_modifyResultType (d : Domain) (key : TypeKey)
    {first second : ResultType → ResultType} (hkey : ∀ r, (first r).key = r.key) :
    (d.modifyResultType key first).modifyResultType key second =
      d.modifyResultType key fun r => second (first r) := by
  have hfound : ∀ r, d.engine.keysEqual (first r).key key = d.engine.keysEqual r.key key := by
    intro r
    rw [hkey]
  unfold modifyResultType
  dsimp only
  rw [modifyFirst_modifyFirst hfound]

theorem widenResult_widenResult (d : Domain) (key source : TypeKey) :
    ((d.widenResult key source).1.widenResult key source).1 = (d.widenResult key source).1 := by
  rcases d.widenResult_cases key source with ⟨_, hsame⟩ | ⟨t, r, ht, hr, hwide⟩
  · rw [hsame, hsame]
  · have hframe : d.Frame (d.widenResult key source).1 := by
      rw [hwide]
      exact ⟨rfl, rfl, rfl, rfl, rfl⟩
    rcases (d.widenResult key source).1.widenResult_cases key source with
      ⟨_, hsame⟩ | ⟨t', _, ht', _, hagain⟩
    · exact hsame
    · have htype : t' = t := by
        rw [hframe.findType?, ht] at ht'
        exact (Option.some.inj ht').symm
      rw [hagain, hframe.engine, htype, hwide, modifyResultType_modifyResultType]
      · simp only [List.map_map, Function.comp_def, widenedField_widenedField]
      · intro r
        rfl

/-- Comparing a result type with the type it is about changes the fields of that result type alone,
and a second comparison changes nothing. No field loses what it has: those that the type does not
know stay, and the others are as `Field.WidenedBy` says. -/
theorem widenResult_widens (d : Domain) (key source : TypeKey) :
    ((d.widenResult key source).1.widenResult key source).1 = (d.widenResult key source).1 ∧
      (((d.findType? source = none ∨ d.findResultType? key = none) ∧
          (d.widenResult key source).1 = d) ∨
        ∃ t r before after fields,
          d.findType? source = some t ∧ d.findResultType? key = some r ∧
          d.resultTypes = before ++ r :: after ∧
          (∀ other ∈ before, d.engine.keysEqual other.key key = false) ∧
          (d.widenResult key source).1 =
            { d with resultTypes := before ++ { r with fields := fields } :: after } ∧
          List.Forall₂ (Widens d.engine t) r.fields fields) := by
  refine ⟨d.widenResult_widenResult key source, ?_⟩
  rcases d.widenResult_cases key source with hsame | ⟨t, r, ht, hr, hwide⟩
  · exact .inl hsame
  · obtain ⟨before, after, hsplit, hbefore, hmodified⟩ :=
      modifyFirst_of_find?_some
        (fun r : ResultType => { r with fields := r.fields.map (widenedField d.engine t) }) hr
    refine .inr ⟨t, r, before, after, r.fields.map (widenedField d.engine t), ht, hr, hsplit,
      hbefore, ?_, ?_⟩
    · rw [hwide, modifyResultType, hmodified]
    · rw [List.forall₂_map_right_iff, List.forall₂_same]
      intro f _
      exact widenedField_widens d.engine t f

end Domain

end SchemaModel
