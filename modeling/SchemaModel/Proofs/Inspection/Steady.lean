import SchemaModel.Proofs.Inspection.Changes
import Mathlib.Data.List.Pairwise

/-!
# `SchemaModel.Proofs.Inspection.Steady` — operations do not see the order of the types

Loading operations consults the types of the domain by look-ups: by key, by the letter case of
names, and for the one that holds the users. Where each of these has one answer at most, the types
may stand in any order, and every step comes to the same result.

## Contents
- `find?_eq_of_perm`: a search that has one answer at most gives it in any order.
- `Domain.Reorders`: the types in another order, by which every look-up has the same answer.
- **Look-ups.** Everything that is asked about the types of a domain is the same after reordering.
- `Steady`: a step that reordering passes through; it is kept by sequences. One lemma for each stage
  of loading an operation, up to `operationStage_steady`.
-/

namespace SchemaModel

open Inspection

/-- A search for what is there once at most does not depend on the order. -/
theorem find?_eq_of_perm {α : Type} {p : α → Bool} {xs ys : List α} (h : ys.Perm xs)
    (hone : ∀ x ∈ xs, ∀ y ∈ xs, p x = true → p y = true → x = y) : ys.find? p = xs.find? p := by
  cases hx : xs.find? p with
  | none =>
      rw [List.find?_eq_none] at hx ⊢
      exact fun y hy => hx y (h.mem_iff.1 hy)
  | some x =>
      have hmem := List.mem_of_find?_eq_some hx
      cases hy : ys.find? p with
      | none =>
          rw [List.find?_eq_none] at hy
          exact absurd (List.find?_some hx) (hy x (h.mem_iff.2 hmem))
      | some y =>
          have hymem := h.mem_iff.1 (List.mem_of_find?_eq_some hy)
          rw [hone x hmem y hymem (List.find?_some hx) (List.find?_some hy)]

namespace Domain

/-- The domain with other types. -/
def withTypes (d : Domain) (ts : List ApplicationType) : Domain := { d with types := ts }

/-- The types of the domain in another order, by which a key and the mark of the users' table find
what they found. -/
structure Reorders (d : Domain) (ts : List ApplicationType) : Prop where
  perm : ts.Perm d.types
  find : ∀ key, (d.withTypes ts).findType? key = d.findType? key
  users : (d.withTypes ts).userType? = d.userType?

/-! ## Look-ups -/

namespace Reorders

variable {d : Domain} {ts : List ApplicationType}

theorem lookUpType? (h : d.Reorders ts) (text schema : String) :
    Inspection.lookUpType? (d.withTypes ts) text schema = Inspection.lookUpType? d text schema := by
  unfold Inspection.lookUpType?
  dsimp only
  rw [h.find]
  cases d.findType? (typeNameKey text schema) with
  | some t => rfl
  | none =>
      dsimp only
      generalize hp : (fun t : ApplicationType =>
        Text.eqIgnoreAsciiCase t.schema (typeNameKey text schema).schema &&
          Text.eqIgnoreAsciiCase t.name (typeNameKey text schema).name) = p
      have hperm : ((d.withTypes ts).types.filter p).Perm (d.types.filter p) := h.perm.filter p
      -- One type agrees in either order, or several do, or none.
      rcases hold : d.types.filter p with _ | ⟨t, _ | ⟨u, more⟩⟩
      · rw [hold] at hperm
        rw [hperm.eq_nil]
      · rw [hold] at hperm
        rw [List.perm_singleton.1 hperm]
      · rw [hold] at hperm
        rcases hnew : (d.withTypes ts).types.filter p with _ | ⟨t', _ | ⟨u', more'⟩⟩
        · rfl
        · rw [hnew] at hperm
          cases hperm.length_eq
        · rfl

theorem relatedType (h : d.Reorders ts) (op : TypeKey) (overrides : Option Attributes) :
    Inspection.relatedType (d.withTypes ts) op overrides =
      Inspection.relatedType d op overrides := by
  unfold Inspection.relatedType
  simp only [h.lookUpType?]

theorem compositeType (h : d.Reorders ts) (row : UserTypeRow) (user : TypeKey) :
    Inspection.compositeType (d.withTypes ts) row user = Inspection.compositeType d row user := by
  unfold Inspection.compositeType
  simp only [h.lookUpType?]
  rfl

theorem findTypeByFields? (h : d.Reorders ts) (fields : List Field) (op : Operation)
    (caseSensitive : Bool) :
    (d.withTypes ts).findTypeByFields? fields op caseSensitive =
      d.findTypeByFields? fields op caseSensitive := by
  unfold Domain.findTypeByFields?
  simp only [h.find]
  rfl

theorem widenResult (h : d.Reorders ts) (result source : TypeKey) :
    ((d.withTypes ts).widenResult result source).1 =
      (d.widenResult result source).1.withTypes ts := by
  unfold Domain.widenResult
  rw [h.find]
  cases d.findType? source with
  | none => rfl
  | some t =>
      dsimp only
      cases hr : d.findResultType? result with
      | none =>
          have hr' : (d.withTypes ts).findResultType? result = none := hr
          rw [hr']
      | some r =>
          have hr' : (d.withTypes ts).findResultType? result = some r := hr
          rw [hr']
          rfl

theorem isSecurityUser (h : d.Reorders ts) (p : Parameter) :
    (d.withTypes ts).isSecurityUser p = d.isSecurityUser p := by
  unfold Domain.isSecurityUser Domain.userIdentity? Domain.userIdentityField
  rw [h.users]
  rfl

theorem matchParameters (h : d.Reorders ts) (op : Operation) :
    Inspection.matchParameters (d.withTypes ts) op = Inspection.matchParameters d op := by
  have hmatched : matchedParameter (d.withTypes ts) = matchedParameter d := by
    funext t p
    unfold matchedParameter
    rw [h.isSecurityUser]
    rfl
  have hfind : (d.withTypes ts).findType? = d.findType? := funext h.find
  unfold Inspection.matchParameters
  rw [hmatched, hfind]

/-- Only types and engine matter. -/
theorem congr {d' : Domain} (h : d.Reorders ts) (ht : d'.types = d.types)
    (he : d'.engine = d.engine) : d'.Reorders ts where
  perm := ht ▸ h.perm
  find := by
    intro key
    have hfind := h.find key
    unfold Domain.findType? at hfind ⊢
    show (ts.find? fun t => d'.engine.keysEqual t.key key) = _
    rw [ht, he]
    exact hfind
  users := by
    have husers := h.users
    unfold Domain.userType? at husers ⊢
    rw [ht]
    exact husers

end Reorders

end Domain

namespace Offline

variable {s : CatalogSnapshot} {α β : Type}

/-! ## Steps -/

/-- The step comes to the same with the types in another order, and leaves the types and the engine
alone. -/
def Steady (m : Build α) : Prop :=
  ∀ d ts, d.Reorders ts →
    m (d.withTypes ts) = ((m d).1, (m d).2.withTypes ts) ∧
      (m d).2.types = d.types ∧ (m d).2.engine = d.engine

namespace Steady

theorem pure (a : α) : Steady (Pure.pure a) := fun _ _ _ => ⟨rfl, rfl, rfl⟩

theorem outcome (x : Outcome α) : Steady (Build.outcome x) := fun _ _ _ => ⟨rfl, rfl, rfl⟩

theorem bind {m : Build α} {k : α → Build β} (hm : Steady m) (hk : ∀ a, Steady (k a)) :
    Steady (m >>= k) := by
  intro d ts h
  obtain ⟨hrun, htypes, hengine⟩ := hm d ts h
  rcases hd : m d with ⟨e | a, d'⟩
  · rw [hd] at hrun htypes hengine
    rw [Build.bind_error hd, Build.bind_error hrun]
    exact ⟨rfl, htypes, hengine⟩
  · rw [hd] at hrun htypes hengine
    rw [Build.bind_ok hd, Build.bind_ok hrun]
    obtain ⟨hrest, htypes', hengine'⟩ := hk a d' ts (h.congr htypes hengine)
    exact ⟨hrest, htypes'.trans htypes, hengine'.trans hengine⟩

end Steady

theorem userShape_steady (key user : TypeKey) : Steady (userShape s key user) := by
  intro d ts h
  have hfind : (d.withTypes ts).findResultType? key = d.findResultType? key := rfl
  unfold userShape
  rw [hfind]
  cases d.findResultType? key with
  | some existing => exact ⟨rfl, rfl, rfl⟩
  | none =>
      dsimp only
      cases s.userType? key.schema key.name with
      | none => exact ⟨rfl, rfl, rfl⟩
      | some row =>
          dsimp only
          cases row.kind with
          | composite =>
              dsimp only
              rw [h.compositeType]
              exact ⟨rfl, rfl, rfl⟩
          | domain => exact ⟨rfl, rfl, rfl⟩
          | enum => exact ⟨rfl, rfl, rfl⟩

theorem parameter_steady (op : TypeKey) (row : ParameterRow) : Steady (parameter s op row) := by
  unfold parameter
  split
  · refine (userShape_steady _ op).bind fun shape => ?_
    cases shape with
    | rows key => exact .pure _
    | value valueType => exact .outcome _
  · exact fun _ _ _ => ⟨rfl, rfl, rfl⟩

theorem parameters_steady (op : TypeKey) (rows : List ParameterRow) :
    Steady (parameters s op rows) := by
  induction rows with
  | nil => exact .pure _
  | cons row rest ih => exact (parameter_steady op row).bind fun _ => ih.bind fun _ => .pure _

theorem widened_withTypes {d : Domain} {ts : List ApplicationType} (h : d.Reorders ts)
    (key : TypeKey) (about : Option TypeKey) :
    widened (d.withTypes ts) key about = (widened d key about).withTypes ts ∧
      (widened d key about).types = d.types ∧ (widened d key about).engine = d.engine := by
  cases about with
  | none => exact ⟨rfl, rfl, rfl⟩
  | some source =>
      have hchange : Change key d none (d.widenResult key source).1 := .widened d key source
      exact ⟨h.widenResult key source, hchange.frame.types, hchange.frame.engine⟩

theorem namedRowShape_steady (op : Operation) (rows : List ResultColumnRow) :
    Steady (namedRowShape op rows) := by
  intro d ts h
  have hfind : (d.withTypes ts).findResultType? (rowTypeKey (d.withTypes ts) op) =
      d.findResultType? (rowTypeKey d op) := rfl
  unfold namedRowShape
  dsimp only
  rw [hfind]
  cases d.findResultType? (rowTypeKey d op) with
  | some existing => exact ⟨rfl, rfl, rfl⟩
  | none =>
      have hadded : ({ d with resultTypes := d.resultTypes ++ [synthesized d op rows] } :
          Domain).Reorders ts := h.congr rfl rfl
      obtain ⟨hw, htypes, hengine⟩ := widened_withTypes hadded (rowTypeKey d op) op.relatedType
      exact ⟨congrArg (Prod.mk _) hw, htypes, hengine⟩

theorem rowShape_steady (op : Operation) (rows : List ResultColumnRow) :
    Steady (rowShape op rows) := by
  intro d ts h
  have hfields : (resultFields (d.withTypes ts).engine op.key.text rows).1 =
      (resultFields d.engine op.key.text rows).1 := rfl
  have hengine : (d.withTypes ts).engine = d.engine := rfl
  unfold rowShape
  rw [hfields, hengine]
  split
  · exact ⟨rfl, rfl, rfl⟩
  · rw [h.findTypeByFields?]
    split
    · exact ⟨rfl, rfl, rfl⟩
    · exact namedRowShape_steady op rows d ts h

theorem resolvedShape_steady (op : Operation) (returnsSet : Bool) (shape : UserTypeShape) :
    Steady (resolvedShape op returnsSet shape) := by
  cases shape with
  | rows key =>
      intro d ts h
      obtain ⟨hw, htypes, hengine⟩ := widened_withTypes h key op.relatedType
      exact ⟨congrArg (Prod.mk _) hw, htypes, hengine⟩
  | value valueType => exact .pure _

theorem declaredShape_steady (op : Operation) (row : RoutineRow) :
    Steady (declaredShape s op row) := by
  intro d ts h
  have hengine : (d.withTypes ts).engine = d.engine := rfl
  unfold declaredShape
  rw [hengine]
  split
  · exact ⟨rfl, rfl, rfl⟩
  dsimp only
  split
  · exact ⟨rfl, rfl, rfl⟩
  split
  · exact ⟨rfl, rfl, rfl⟩
  rw [h.find]
  split
  · exact ⟨rfl, rfl, rfl⟩
  · exact (userShape_steady _ op.key).bind (resolvedShape_steady op row.returnsSet) d ts h

theorem returnShape_steady (op : Operation) (row : RoutineRow) :
    Steady (returnShape s op row) := by
  unfold returnShape
  split
  · exact declaredShape_steady op row
  · exact rowShape_steady op _

theorem operation_steady (row : RoutineRow) : Steady (operation s row) := by
  intro d ts h
  have habout : related (d.withTypes ts) row = related d row :=
    congrArg Prod.fst (h.relatedType _ _)
  unfold operation
  rw [habout]
  unfold operationAbout
  refine Steady.bind (parameters_steady _ _) (fun ps => ?_) d ts h
  refine (returnShape_steady _ row).bind fun returns d' ts' h' => ?_
  dsimp only
  rw [h'.matchParameters]
  exact ⟨rfl, rfl, rfl⟩

/-- Loading operations comes to the same whatever the order of the types. -/
theorem operationStage_steady (rows : List RoutineRow) : Steady (operationStage s rows) := by
  induction rows with
  | nil => exact .pure _
  | cons row rest ih =>
      refine (operation_steady row).bind fun op => ?_
      exact Steady.bind (fun _ _ _ => ⟨rfl, rfl, rfl⟩) fun _ => ih

end Offline

end SchemaModel
