import SchemaModel.Inspection.Inspector
import SchemaModel.Catalog.Offline
import SchemaModel.Proofs.Domain.LookUp
import Mathlib.Data.Fintype.EquivFin

/-!
# `SchemaModel.Proofs.Domain.Shapes` — types of a given shape

Rows have the shape of a type when the projected fields of both correspond one to one, each to a field
of its name and native type. The search for a type counts instead: as many fields on either side, and
for every field of the rows exactly one field of the type. The two come to the same as long as no
field of the rows is repeated. A repeated one is counted twice and finds the same partner twice, which
leaves room for a field of the type that the rows do not have.

## Contents
- `length_filter_eq_one_iff`: what it says of a list that one of its elements is kept.
- `Field.Agrees`, `projection`, `OneToOne`: fields that agree, those that count, and rows of the shape
  of a type.
- `fieldsMatch_iff`: the test, in these words. `fieldsMatch_of_perm`: it finds columns in any order.
- `oneToOne_iff`: when the test is right. `findTypeByFields?_shape`: what is known of a type that was
  found.
-/

namespace SchemaModel

/-- One element is kept: there is one, and there are no two. -/
theorem length_filter_eq_one_iff {α : Type} {p : α → Bool} {xs : List α} :
    (xs.filter p).length = 1 ↔
      (∃ x ∈ xs, p x = true) ∧ xs.Pairwise fun a b => ¬(p a = true ∧ p b = true) := by
  induction xs with
  | nil => simp
  | cons x rest ih =>
      cases hx : p x with
      | false =>
          rw [List.filter_cons_of_neg (by rw [hx]; exact Bool.false_ne_true), ih, List.pairwise_cons]
          simp [hx]
      | true =>
          rw [List.filter_cons_of_pos hx, List.length_cons, Nat.add_eq_right,
            List.length_eq_zero_iff, List.filter_eq_nil_iff, List.pairwise_cons]
          constructor
          · intro hrest
            refine ⟨⟨x, List.mem_cons_self, hx⟩, fun y hy hboth => hrest y hy hboth.2, ?_⟩
            exact List.pairwise_of_forall_mem_list fun y hy _ _ hboth => hrest y hy hboth.1
          · rintro ⟨_, hnone, _⟩ y hy hpy
            exact hnone y hy ⟨hx, hpy⟩

namespace Domain

/-! ## Fields that agree -/

/-- Two fields agree: they have the same name, exactly or up to the case of ASCII letters, and the same
native type. -/
structure Agrees (caseSensitive : Bool) (f g : Field) : Prop where
  name : if caseSensitive then f.name = g.name else Text.eqIgnoreAsciiCase f.name g.name = true
  nativeType : NativeType.normalize f.nativeType = NativeType.normalize g.nativeType

theorem sameField_iff {caseSensitive : Bool} {f g : Field} :
    sameField caseSensitive f g = true ↔ Agrees caseSensitive f g := by
  have hname : sameFieldName caseSensitive f.name g.name = true ↔
      if caseSensitive then f.name = g.name else Text.eqIgnoreAsciiCase f.name g.name = true := by
    cases caseSensitive with
    | false => exact Iff.rfl
    | true => exact beq_iff_eq
  unfold sameField
  rw [Bool.and_eq_true, hname, beq_iff_eq]
  exact ⟨fun h => ⟨h.1, h.2⟩, fun h => ⟨h.name, h.nativeType⟩⟩

namespace Agrees

variable {caseSensitive : Bool} {f g k : Field}

theorem of_eq (hname : f.name = g.name) (hnative : f.nativeType = g.nativeType) :
    Agrees caseSensitive f g := by
  refine ⟨?_, congrArg NativeType.normalize hnative⟩
  cases caseSensitive with
  | false => exact hname ▸ Text.eqIgnoreAsciiCase_refl f.name
  | true => exact hname

/-- Fields that agree have the same name up to letter case in either way of comparison. -/
theorem eqIgnoreAsciiCase (h : Agrees caseSensitive f g) :
    Text.eqIgnoreAsciiCase f.name g.name = true := by
  have hname := h.name
  cases caseSensitive with
  | false => exact hname
  | true =>
      have hsame : f.name = g.name := hname
      rw [hsame]
      exact Text.eqIgnoreAsciiCase_refl g.name

theorem symm (h : Agrees caseSensitive f g) : Agrees caseSensitive g f := by
  refine ⟨?_, h.nativeType.symm⟩
  have hname := h.name
  cases caseSensitive with
  | false => exact Text.eqIgnoreAsciiCase_comm f.name g.name ▸ hname
  | true => exact hname.symm

theorem trans (h : Agrees caseSensitive f g) (h' : Agrees caseSensitive g k) :
    Agrees caseSensitive f k := by
  refine ⟨?_, h.nativeType.trans h'.nativeType⟩
  have hname := h.name
  have hname' := h'.name
  cases caseSensitive with
  | false => exact Text.eqIgnoreAsciiCase_trans hname hname'
  | true => exact hname.trans hname'

end Agrees

/-! ## Shapes -/

/-- The fields that count in a comparison of shapes. -/
def projection (style : NamingStyle) (fields : List Field) : List Field :=
  fields.filter fun f => !f.isExcludedFromResults style

/-- The fields of both lists correspond one to one, and those that correspond agree. -/
def OneToOne (caseSensitive : Bool) (given available : List Field) : Prop :=
  ∃ e : Fin given.length ≃ Fin available.length,
    ∀ i, Agrees caseSensitive available[e i] given[i]

/-- Each given field has exactly one partner. -/
def Partners (caseSensitive : Bool) (given available : List Field) : Prop :=
  ∀ g ∈ given, ∃ i : Fin available.length, Agrees caseSensitive available[i] g ∧
    ∀ j : Fin available.length, Agrees caseSensitive available[j] g → j = i

/-- No field is given twice. -/
def Unrepeated (caseSensitive : Bool) (given : List Field) : Prop :=
  given.Pairwise fun g g' => ¬Agrees caseSensitive g g'

theorem length_filter_sameField {caseSensitive : Bool} {available : List Field} {g : Field} :
    (available.filter fun f => sameField caseSensitive f g).length = 1 ↔
      ∃ i : Fin available.length, Agrees caseSensitive available[i] g ∧
        ∀ j : Fin available.length, Agrees caseSensitive available[j] g → j = i := by
  rw [length_filter_eq_one_iff, List.pairwise_iff_getElem]
  simp only [sameField_iff]
  constructor
  · rintro ⟨⟨f, hf, hagrees⟩, hno⟩
    obtain ⟨i, hi, rfl⟩ := List.mem_iff_getElem.1 hf
    refine ⟨⟨i, hi⟩, hagrees, fun j hj => Fin.ext ?_⟩
    rcases Nat.lt_trichotomy j.1 i with hlt | heq | hlt
    · exact absurd ⟨hj, hagrees⟩ (hno j.1 i j.2 hi hlt)
    · exact heq
    · exact absurd ⟨hagrees, hj⟩ (hno i j.1 hi j.2 hlt)
  · rintro ⟨i, hagrees, honly⟩
    refine ⟨⟨available[i], List.getElem_mem i.2, hagrees⟩, ?_⟩
    rintro j k hj hk hlt ⟨hagreesj, hagreesk⟩
    have hjk : (⟨j, hj⟩ : Fin available.length) = ⟨k, hk⟩ :=
      (honly ⟨j, hj⟩ hagreesj).trans (honly ⟨k, hk⟩ hagreesk).symm
    exact Nat.ne_of_lt hlt (Fin.mk.inj hjk)

theorem fieldsMatch_iff {t : ApplicationType} {given : List Field} {style : NamingStyle}
    {caseSensitive : Bool} :
    fieldsMatch t given style caseSensitive = true ↔
      (projection style t.fields).length = given.length ∧
        Partners caseSensitive given (projection style t.fields) := by
  unfold fieldsMatch Partners
  rw [Bool.and_eq_true, beq_iff_eq, List.all_eq_true]
  simp only [beq_iff_eq, length_filter_sameField]
  exact Iff.rfl

/-- Fields that are columns of equal names and native types in another order match, where no two of
them have names that differ in letter case at most. -/
theorem fieldsMatch_of_perm {t : ApplicationType} {given : List Field} {style : NamingStyle}
    {caseSensitive : Bool}
    (hperm : ((projection style t.fields).map fun f => (f.name, f.nativeType)).Perm
      (given.map fun g => (g.name, g.nativeType)))
    (hdistinct : (projection style t.fields).Pairwise fun f g =>
      Text.eqIgnoreAsciiCase f.name g.name = false) :
    fieldsMatch t given style caseSensitive = true := by
  have hlength := hperm.length_eq
  rw [List.length_map, List.length_map] at hlength
  refine fieldsMatch_iff.2 ⟨hlength, fun g hg => ?_⟩
  have hcolumn := hperm.mem_iff.2 (List.mem_map_of_mem hg)
  obtain ⟨f, hf, hsame⟩ := List.mem_map.1 hcolumn
  have hagrees : Agrees caseSensitive f g :=
    .of_eq (congrArg Prod.fst hsame) (congrArg Prod.snd hsame)
  refine length_filter_sameField.1 (length_filter_eq_one_iff.2 ⟨?_, hdistinct.imp fun hother => ?_⟩)
  · exact ⟨f, hf, sameField_iff.2 hagrees⟩
  · rintro ⟨hfirst, hsecond⟩
    have hboth := (sameField_iff.1 hfirst).trans (sameField_iff.1 hsecond).symm
    exact absurd hboth.eqIgnoreAsciiCase (Bool.eq_false_iff.1 hother)

/-- Fields that have exactly one partner each, among equally many, correspond one to one if and only
if none of them is repeated. -/
theorem oneToOne_iff {caseSensitive : Bool} {given available : List Field}
    (hlength : available.length = given.length) (h : Partners caseSensitive given available) :
    OneToOne caseSensitive given available ↔ Unrepeated caseSensitive given := by
  constructor
  · rintro ⟨e, he⟩
    refine List.pairwise_iff_getElem.2 fun i j hi hj hlt hagrees => ?_
    obtain ⟨k, _, honly⟩ := h given[i] (List.getElem_mem hi)
    -- The partner of the one field would be that of the other, too.
    have hi' : e ⟨i, hi⟩ = k := honly _ (he ⟨i, hi⟩)
    have hj' : e ⟨j, hj⟩ = k := honly _ ((he ⟨j, hj⟩).trans hagrees.symm)
    have hij := e.injective (hi'.trans hj'.symm)
    exact Nat.ne_of_lt hlt (Fin.mk.inj hij)
  · intro hdistinct
    have hpartner : ∀ i : Fin given.length, ∃ k : Fin available.length,
        Agrees caseSensitive available[k] given[i] := by
      intro i
      obtain ⟨k, hk, _⟩ := h given[i] (List.getElem_mem i.2)
      exact ⟨k, hk⟩
    choose partner hagrees using hpartner
    have hdiffer : ∀ i j : Fin given.length, i < j → partner i ≠ partner j := by
      intro i j hlt hsame
      have hi := hagrees i
      rw [hsame] at hi
      exact List.pairwise_iff_getElem.1 hdistinct i j i.2 j.2 hlt (hi.symm.trans (hagrees j))
    have hinjective : Function.Injective partner := by
      intro i j hsame
      rcases lt_trichotomy i j with hlt | heq | hlt
      · exact absurd hsame (hdiffer i j hlt)
      · exact heq
      · exact absurd hsame.symm (hdiffer j i hlt)
    -- Equally many fields on both sides, so none is left without a partner.
    have hbijective : Function.Bijective partner := by
      refine (Fintype.bijective_iff_injective_and_card partner).2 ⟨hinjective, ?_⟩
      rw [Fintype.card_fin, Fintype.card_fin, hlength]
    exact ⟨Equiv.ofBijective partner hbijective, hagrees⟩

/-! ## Types that are found -/

theorem findTypeByFields?_eq_some {d : Domain} {fields : List Field} {op : Operation}
    {caseSensitive : Bool} {key : TypeKey}
    (h : d.findTypeByFields? fields op caseSensitive = some key) :
    ∃ t, d.findType? key = some t ∧ t.key = key ∧
      fieldsMatch t (projection d.naming fields) d.naming caseSensitive = true := by
  unfold findTypeByFields? at h
  obtain ⟨candidate, _, hcandidate⟩ := List.exists_of_findSome?_eq_some h
  obtain ⟨t, hfind, ht⟩ := Option.bind_eq_some_iff.1 hcandidate
  split at ht
  · rename_i hmatch
    cases ht
    exact ⟨t, findType?_canonical hfind, rfl, hmatch⟩
  · cases ht

/-- The type of the operation's related name in its own schema comes first, so it is found exactly
when it matches. -/
theorem findTypeByFields?_related {d : Domain} {fields : List Field} {op : Operation}
    {caseSensitive : Bool} {related : TypeKey} {t : ApplicationType}
    (hrelated : op.relatedType = some related) (ht : d.findType? ⟨op.schema, related.name⟩ = some t) :
    d.findTypeByFields? fields op caseSensitive = some t.key ↔
      fieldsMatch t (projection d.naming fields) d.naming caseSensitive = true := by
  constructor
  · intro h
    obtain ⟨t', ht', _, hmatch⟩ := findTypeByFields?_eq_some h
    cases (findType?_canonical ht).symm.trans ht'
    exact hmatch
  · intro hmatch
    unfold findTypeByFields? returnCandidates
    rw [hrelated, List.singleton_append, List.findSome?_cons, ht, Option.bind_some]
    unfold projection at hmatch
    rw [if_pos hmatch]

/-- A type that was found for some fields has as many projected fields, and each of the given ones has
exactly one partner among them. The fields correspond one to one exactly when none is given twice. -/
theorem findTypeByFields?_shape {d : Domain} {fields : List Field} {op : Operation}
    {caseSensitive : Bool} {key : TypeKey}
    (h : d.findTypeByFields? fields op caseSensitive = some key) :
    ∃ t, d.findType? key = some t ∧ t.key = key ∧
      (projection d.naming t.fields).length = (projection d.naming fields).length ∧
      Partners caseSensitive (projection d.naming fields) (projection d.naming t.fields) ∧
      (OneToOne caseSensitive (projection d.naming fields) (projection d.naming t.fields) ↔
        Unrepeated caseSensitive (projection d.naming fields)) := by
  obtain ⟨t, ht, hkey, hmatch⟩ := findTypeByFields?_eq_some h
  obtain ⟨hlength, hpartners⟩ := fieldsMatch_iff.1 hmatch
  exact ⟨t, ht, hkey, hlength, hpartners, oneToOne_iff hlength hpartners⟩

/-- A field of a type that no given field agrees with stands alone. -/
theorem not_oneToOne_of_alone {caseSensitive : Bool} {given available : List Field} {f : Field}
    (hf : f ∈ available) (halone : ∀ g ∈ given, sameField caseSensitive f g = false) :
    ¬OneToOne caseSensitive given available := by
  rintro ⟨e, he⟩
  obtain ⟨k, hk, rfl⟩ := List.mem_iff_getElem.1 hf
  have hagrees := he (e.symm ⟨k, hk⟩)
  simp only [Equiv.apply_symm_apply] at hagrees
  have hno := halone _ (List.getElem_mem (e.symm ⟨k, hk⟩).2)
  exact absurd (sameField_iff.2 hagrees) (Bool.eq_false_iff.1 hno)

end Domain

/-! ## A repeated column -/

namespace Offline

open Inspection Domain

/-- A procedure about customers with its columns. -/
def customerProcedure (name : String) (columns : List ResultColumnRow) : StoredRoutine :=
  ⟨"dbo", name, none, .procedure, none, false, none,
    some "\x7b\"applicationtype\": \"Customer\"\x7d", [], columns⟩

/-- The columns of the listing. -/
def listingColumns : List ResultColumnRow :=
  [⟨"name", 1, "nvarchar", true, some 50⟩, ⟨"CustomerId", 2, "int", false, none⟩]

/-- The columns of the pairs. -/
def pairColumns : List ResultColumnRow :=
  [⟨"CustomerId", 1, "int", false, none⟩, ⟨"CustomerId", 2, "int", false, none⟩]

/-- A table of customers. The first procedure returns its columns, the second one pairs of keys. -/
def customerPairs : CatalogSnapshot where
  engine := .sqlServer
  tables :=
    [⟨"dbo", "Customer", none,
      [⟨"CustomerId", "int", none, none, none, false, true, false, none, none⟩,
       ⟨"Name", "nvarchar", some 50, none, none, false, false, false, none, none⟩],
      [⟨"PK_Customer", .primary, ["CustomerId"]⟩], []⟩]
  routines :=
    [customerProcedure "CustomerListing" listingColumns,
     customerProcedure "CustomerPairs" pairColumns]
  userTypes := []

theorem findTypeByFields?_shape_listing :
    ∃ d, (run (inspect customerPairs.catalog .standard) [] default).result = .ok d ∧
      ∃ o ∈ d.operations, ∃ (fields : List Field) (t : ApplicationType),
        fields = (resultFields d.engine o.key.text listingColumns).1 ∧
        d.findTypeByFields? fields o false = some t.key ∧ t.key = ⟨"dbo", "Customer"⟩ ∧
        OneToOne false (projection d.naming fields) (projection d.naming t.fields) := by
  obtain ⟨d, hd, o, ho, hfound, hdistinct⟩ :
      ∃ d, (run (inspect customerPairs.catalog .standard) [] default).result = .ok d ∧
        ∃ o ∈ d.operations,
          d.findTypeByFields? (resultFields d.engine o.key.text listingColumns).1 o false =
            some ⟨"dbo", "Customer"⟩ ∧
          (projection d.naming (resultFields d.engine o.key.text listingColumns).1).Pairwise
            fun g g' => sameField false g g' = false := by
    decide +kernel
  obtain ⟨t, _, hkey, _, _, hshape⟩ := findTypeByFields?_shape hfound
  have honce : OneToOne false
      (projection d.naming (resultFields d.engine o.key.text listingColumns).1)
      (projection d.naming t.fields) := by
    refine hshape.2 (hdistinct.imp fun hno hagrees => ?_)
    exact absurd (sameField_iff.2 hagrees) (Bool.eq_false_iff.1 hno)
  exact ⟨d, hd, o, ho, _, t, rfl, hkey ▸ hfound, hkey, honce⟩

/-- The second procedure is taken to return customers, although its rows have no name. -/
theorem pairs_taken_for_customers :
    ∃ d, (run (inspect customerPairs.catalog .standard) [] default).result = .ok d ∧
      ∃ o ∈ d.operations, ∃ (fields : List Field) (t : ApplicationType),
        o.name = "CustomerPairs" ∧
        fields = (resultFields d.engine o.key.text pairColumns).1 ∧
        d.findTypeByFields? fields o false = some t.key ∧ d.types = [t] ∧
        o.returns = .applicationType t.key true ∧
        ¬OneToOne false (projection d.naming fields) (projection d.naming t.fields) := by
  obtain ⟨d, hd, o, ho, hname, t, ht, hone, hfound, hreturns, f, hf, halone⟩ :
      ∃ d, (run (inspect customerPairs.catalog .standard) [] default).result = .ok d ∧
        ∃ o ∈ d.operations, o.name = "CustomerPairs" ∧ ∃ t ∈ d.types, d.types.length = 1 ∧
          d.findTypeByFields? (resultFields d.engine o.key.text pairColumns).1 o false =
            some t.key ∧
          o.returns = .applicationType t.key true ∧
          ∃ f ∈ projection d.naming t.fields,
            ∀ g ∈ projection d.naming (resultFields d.engine o.key.text pairColumns).1,
              sameField false f g = false := by
    decide +kernel
  obtain ⟨t', hsingle⟩ := List.length_eq_one_iff.1 hone
  have hsame : t = t' := by
    rw [hsingle] at ht
    exact List.mem_singleton.1 ht
  exact ⟨d, hd, o, ho, _, t, hname, rfl, hfound, hsame ▸ hsingle, hreturns,
    not_oneToOne_of_alone hf halone⟩

end Offline

end SchemaModel
