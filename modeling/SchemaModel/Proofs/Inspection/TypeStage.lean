import SchemaModel.Proofs.Catalog.Answers
import SchemaModel.Proofs.Inspection.Types
import Mathlib.Data.List.Forall2

/-!
# `SchemaModel.Proofs.Inspection.TypeStage` — the first stage, table by table

The tables are loaded one by one and their foreign keys are resolved afterwards, each by a look-up
in everything that was loaded. The look-ups see keys and names alone, and these never change while
references are set. So where no two tables go by one key, the type that the stage gives for a table
can be told from the types of the tables as they were loaded, and no other foreign key matters for
it.

## Contents
- `tableStage_eq_ok`: loading gives the type of every table, in order.
- `typeStage_keys`: the stage gives one type for every table outside the excluded schemas, under its
  key.
- **Look-ups.** `Domain.fieldAt?` is the field under a key and a name; it and `Resolvable` depend on
  keys and names alone.
- **Foreign keys.** `pointed`: a type after one foreign key. `referenceStage_eq_ok`: where keys are
  distinct, the foreign keys of a table change its own type only.
- **The stage.** `loadedType` and `finalType`: the type of a table before and after its references
  are set. `typeStage_eq_ok`: whether the stage succeeds, and the domain that it ends with.
- **Laws of fields.** `typeStage_law`: what is true of the fields of columns, and kept by whatever
  the stage sets on a field, is true of every field that it leaves.
-/

namespace SchemaModel

open Inspection

/-- The key of the table that a row names. -/
def TableRow.key (row : TableRow) : TypeKey := ⟨row.schema, row.name⟩

namespace Offline

variable {s : CatalogSnapshot} {settings : Settings} {d d' : Domain}

/-! ## Loading -/

theorem applyConstraints_key {engine : Engine} {table : String} {t t' : ApplicationType}
    {rows : List KeyConstraintRow} (h : applyConstraints engine table t rows = .ok t') :
    t'.key = t.key ∧ t'.attributes = t.attributes := by
  induction rows generalizing t with
  | nil =>
      cases h
      exact ⟨rfl, rfl⟩
  | cons row rest ih =>
      unfold applyConstraints at h
      split at h
      · rename_i t₁ h₁
        obtain ⟨hkey, hattributes⟩ := ih h
        obtain ⟨names, _, rfl⟩ := Outcome.map_eq_ok.1 h₁
        exact ⟨hkey, hattributes⟩
      · cases h

/-- The type of a table has the table's key and the overrides in its comment. -/
theorem tableType_key {row : TableRow} {t : ApplicationType} (h : tableType s row = .ok t) :
    t.key = row.key ∧ t.attributes = (Attributes.parse row.description row.fullName).1 :=
  applyConstraints_key h

theorem exists_of_forall₂ {α β : Type} {R : α → β → Prop} {xs : List α} {ys : List β}
    (h : List.Forall₂ R xs ys) {x : α} (hx : x ∈ xs) : ∃ y ∈ ys, R x y := by
  induction h with
  | nil => cases hx
  | @cons _ y _ ys hhead _ ih =>
      rcases List.mem_cons.1 hx with rfl | hrest
      · exact ⟨y, List.mem_cons_self, hhead⟩
      · obtain ⟨z, hz, hR⟩ := ih hrest
        exact ⟨z, List.mem_cons_of_mem y hz, hR⟩

/-- The foreign keys that wait for a table. -/
def waiting (s : CatalogSnapshot) (row : TableRow) : TypeKey × List ForeignKeyRow :=
  (row.key, s.ofTable row StoredTable.foreignKeys)

/-- Loading succeeds exactly when every table has a type, and adds these types in order. -/
theorem tableStage_eq_ok {rows : List TableRow} {pending : List (TypeKey × List ForeignKeyRow)} :
    tableStage s rows d = (.ok pending, d') ↔
      pending = rows.map (waiting s) ∧
      ∃ ts, List.Forall₂ (fun row t => tableType s row = .ok t) rows ts ∧
        d' = { d with types := d.types ++ ts } := by
  induction rows generalizing d d' pending with
  | nil =>
      unfold tableStage
      rw [Build.pure_eq_ok]
      constructor
      · rintro ⟨rfl, rfl⟩
        exact ⟨rfl, [], .nil, by rw [List.append_nil]⟩
      · rintro ⟨rfl, ts, hts, rfl⟩
        rw [List.forall₂_nil_left_iff.1 hts, List.append_nil]
        exact ⟨rfl, rfl⟩
  | cons row rest ih =>
      unfold tableStage
      constructor
      · intro h
        obtain ⟨t, d₁, ht, hrest⟩ := Build.bind_eq_ok.1 h
        obtain ⟨htype, rfl⟩ := Build.outcome_eq_ok.1 ht
        rw [Build.act_bind] at hrest
        obtain ⟨more, d₂, hmore, hlast⟩ := Build.bind_eq_ok.1 hrest
        obtain ⟨rfl, rfl⟩ := Build.pure_eq_ok.1 hlast
        obtain ⟨rfl, ts, hts, rfl⟩ := ih.1 hmore
        refine ⟨?_, t :: ts, .cons htype hts, ?_⟩
        · rw [List.map_cons, waiting, (tableType_key htype).1]
        · rw [List.append_assoc]
          rfl
      · rintro ⟨rfl, ts, hts, rfl⟩
        obtain ⟨t, more, htype, hmore, rfl⟩ := List.forall₂_cons_left_iff.1 hts
        have hload : Build.outcome (tableType s row) d = (.ok t, d) :=
          Build.outcome_eq_ok.2 ⟨htype, rfl⟩
        have hrun : tableStage s rest { d with types := d.types ++ [t] } =
            (.ok (rest.map (waiting s)), { d with types := d.types ++ [t] ++ more }) :=
          ih.2 ⟨rfl, more, hmore, rfl⟩
        rw [Build.bind_ok hload, Build.act_bind, Build.bind_ok hrun, Build.pure_eq_ok,
          (tableType_key htype).1, List.append_assoc]
        exact ⟨rfl, rfl⟩

end Offline

/-! ## Look-ups -/

/-- The field under a key and a name. -/
def Domain.fieldAt? (d : Domain) (key : TypeKey) (column : String) : Option FieldReference :=
  (d.findType? key).bind fun t =>
    (Inspection.findField? d.engine t.fields column).map fun f => ⟨t.key, f.name⟩

namespace Offline

variable {s : CatalogSnapshot} {settings : Settings} {d d' : Domain}

theorem Retyped.engine (h : Retyped d d') : d'.engine = d.engine := by rw [h.rest]

/-- References change no key. -/
theorem Retyped.keys (h : Retyped d d') :
    d'.types.map ApplicationType.key = d.types.map ApplicationType.key := by
  have hfirst := congrArg (List.map Prod.fst) h.signatures
  rw [List.map_map, List.map_map] at hfirst
  exact hfirst

theorem findType?_signature (d : Domain) (key : TypeKey) :
    (d.findType? key).map Domain.typeSignature =
      (d.types.map Domain.typeSignature).find? fun sig => d.engine.keysEqual sig.1 key := by
  rw [List.find?_map]
  rfl

theorem Retyped.findType? (h : Retyped d d') (key : TypeKey) :
    (d'.findType? key).map Domain.typeSignature = (d.findType? key).map Domain.typeSignature := by
  rw [findType?_signature, findType?_signature, h.signatures, h.engine]

theorem fieldAt?_signature (d : Domain) (key : TypeKey) (column : String) :
    d.fieldAt? key column =
      ((d.findType? key).map Domain.typeSignature).bind fun sig =>
        (sig.2.find? fun name => d.engine.namesEqual name column).map
          (FieldReference.mk sig.1) := by
  unfold Domain.fieldAt?
  cases d.findType? key with
  | none => rfl
  | some t =>
      show ((t.fields.find? _).map _ : Option FieldReference) =
        ((t.fields.map Field.name).find? _).map _
      rw [List.find?_map, Option.map_map]
      rfl

theorem Retyped.fieldAt? (h : Retyped d d') (key : TypeKey) (column : String) :
    d'.fieldAt? key column = d.fieldAt? key column := by
  rw [fieldAt?_signature, fieldAt?_signature, h.findType?, h.engine]

end Offline

/-! ## Foreign keys -/

/-- The key of the table that a foreign key refers to. -/
def ForeignKeyRow.target (fk : ForeignKeyRow) : TypeKey := ⟨fk.refSchema, fk.refTable⟩

/-- Where its table is loaded, the foreign key of a type names a field on both of its sides. -/
def Domain.Resolvable (d : Domain) (owner : TypeKey) (fk : ForeignKeyRow) : Prop :=
  (d.findType? fk.target).isSome = true →
    (d.fieldAt? fk.target fk.refColumn).isSome = true ∧ (d.fieldAt? owner fk.column).isSome = true

/-- A type with the field of a foreign key pointed at the field that the domain has for it. -/
def Domain.pointed (d : Domain) (t : ApplicationType) (fk : ForeignKeyRow) : ApplicationType :=
  match d.fieldAt? fk.target fk.refColumn with
  | none => t
  | some field =>
    { t with fields := modifyField d.engine t.fields fk.column fun f =>
        { f with references := some field } }

/-- No two types of the domain go by one key. -/
def Domain.DistinctTypes (d : Domain) : Prop :=
  (d.types.map ApplicationType.key).Pairwise fun a b => d.engine.keysEqual a b = false

namespace Offline

variable {s : CatalogSnapshot} {settings : Settings} {d d' : Domain}

theorem pointed_signature (d : Domain) (t : ApplicationType) (fk : ForeignKeyRow) :
    Domain.typeSignature (d.pointed t fk) = Domain.typeSignature t := by
  unfold Domain.pointed
  split
  · rfl
  · exact congrArg (Prod.mk t.key) (pointAt_names _ _ _ _)

theorem Retyped.pointed (h : Retyped d d') : d'.pointed = d.pointed := by
  funext t fk
  unfold Domain.pointed
  rw [h.fieldAt?, h.engine]

theorem Retyped.resolvable (h : Retyped d d') {owner : TypeKey} {fk : ForeignKeyRow} :
    d'.Resolvable owner fk ↔ d.Resolvable owner fk := by
  have hsome := congrArg Option.isSome (h.findType? fk.target)
  rw [Option.isSome_map, Option.isSome_map] at hsome
  unfold Domain.Resolvable
  rw [hsome, h.fieldAt?, h.fieldAt?]

theorem Retyped.distinctTypes (h : Retyped d d') (hd : d.DistinctTypes) : d'.DistinctTypes := by
  unfold Domain.DistinctTypes at hd ⊢
  rw [h.keys, h.engine]
  exact hd

/-- The domain with the types of a key changed. -/
def retyped (d : Domain) (owner : TypeKey) (change : ApplicationType → ApplicationType) : Domain :=
  { d with types := d.types.map fun t => if d.engine.keysEqual t.key owner then change t else t }

theorem retyped_retyped {owner : TypeKey} {change : ApplicationType → ApplicationType}
    (h : ∀ t, Domain.typeSignature (change t) = Domain.typeSignature t) :
    Retyped d (retyped d owner change) where
  rest := rfl
  signatures := by
    unfold retyped
    rw [List.map_map]
    refine List.map_congr_left fun t _ => ?_
    rw [Function.comp_apply]
    split
    · exact h t
    · rfl

/-- Where keys are distinct, the first type of a key is the only one. -/
theorem modifyType_eq (hd : d.DistinctTypes) (owner : TypeKey)
    (change : ApplicationType → ApplicationType) :
    d.modifyType owner change = retyped d owner change := by
  unfold Domain.modifyType retyped
  rw [modifyFirst_eq_map]
  refine (List.pairwise_map.1 hd).imp fun {a b} hab ha => ?_
  by_contra hb
  have hsame := d.engine.keysEqual_trans ha
    (d.engine.keysEqual_comm owner b.key ▸ Bool.of_not_eq_false hb)
  rw [hab] at hsame
  cases hsame

theorem retyped_self (d : Domain) (owner : TypeKey) {change : ApplicationType → ApplicationType}
    (h : ∀ t, change t = t) : retyped d owner change = d := by
  unfold retyped
  have hid : (fun t => if d.engine.keysEqual t.key owner then change t else t) = id := by
    funext t
    rw [h, ite_self]
    rfl
  rw [hid, List.map_id]

/-- A foreign key is resolved exactly when it can be, and changes the type of its table. -/
theorem reference_eq_ok (hd : d.DistinctTypes) {owner : TypeKey} {fk : ForeignKeyRow} :
    reference owner fk d = (.ok (), d') ↔
      d.Resolvable owner fk ∧ d' = retyped d owner fun t => d.pointed t fk := by
  have hown : ((d.findType? owner).bind fun t =>
      Inspection.findField? d.engine t.fields fk.column).isSome =
        (d.fieldAt? owner fk.column).isSome := by
    unfold Domain.fieldAt?
    cases d.findType? owner with
    | none => rfl
    | some t => exact Option.isSome_map.symm
  unfold reference resolveForeignKey Domain.Resolvable Domain.pointed
  rw [← modifyType_eq hd, ← hown]
  unfold Domain.fieldAt? ForeignKeyRow.target
  dsimp only
  cases d.findType? ⟨fk.refSchema, fk.refTable⟩ with
  | none =>
      have hsame : (d.modifyType owner fun t => t) = d :=
        (modifyType_eq hd owner _).trans (retyped_self d owner fun _ => rfl)
      dsimp only [Option.bind_none]
      rw [hsame]
      refine ⟨fun h => ⟨nofun, (Prod.mk.inj h).2.symm⟩, fun h => by rw [h.2]⟩
  | some target =>
      dsimp only [Option.bind_some]
      cases Inspection.findField? d.engine target.fields fk.refColumn with
      | none => exact iff_of_false nofun fun h => nomatch (h.1 rfl).1
      | some field =>
          dsimp only
          cases (d.findType? owner).bind fun t =>
              Inspection.findField? d.engine t.fields fk.column with
          | none => exact iff_of_false nofun fun h => nomatch (h.1 rfl).2
          | some own =>
              refine ⟨fun h => ⟨fun _ => ⟨rfl, rfl⟩, (Prod.mk.inj h).2.symm⟩, fun h => ?_⟩
              rw [h.2]
              rfl

/-- Foreign keys change neither the key nor the names of the fields. -/
theorem foldl_pointed_signature (d : Domain) (t : ApplicationType) (fks : List ForeignKeyRow) :
    Domain.typeSignature (fks.foldl d.pointed t) = Domain.typeSignature t := by
  induction fks generalizing t with
  | nil => rfl
  | cons fk rest ih => exact (ih _).trans (pointed_signature d t fk)

theorem retyped_comp {owner : TypeKey} {first second : ApplicationType → ApplicationType}
    (h : ∀ t, Domain.typeSignature (first t) = Domain.typeSignature t) :
    retyped (retyped d owner first) owner second = retyped d owner fun t => second (first t) := by
  unfold retyped
  rw [List.map_map]
  congr 1
  refine List.map_congr_left fun t _ => ?_
  have hkey : (first t).key = t.key := congrArg Prod.fst (h t)
  rw [Function.comp_apply]
  by_cases ht : d.engine.keysEqual t.key owner
  · rw [if_pos ht, if_pos ht, if_pos (hkey ▸ ht)]
  · rw [if_neg ht, if_neg ht, if_neg ht]

/-- The foreign keys of one table change its own type, one after the other. What they are resolved
by is the same before and after. -/
theorem references_eq_ok (hd : d.DistinctTypes) {owner : TypeKey} {fks : List ForeignKeyRow} :
    references owner fks d = (.ok (), d') ↔
      (∀ fk ∈ fks, d.Resolvable owner fk) ∧
        d' = retyped d owner fun t => fks.foldl d.pointed t := by
  induction fks generalizing d with
  | nil =>
      unfold references
      have hsame : (retyped d owner fun t => [].foldl d.pointed t) = d :=
        retyped_self d owner fun _ => rfl
      rw [Build.pure_eq_ok, hsame]
      exact ⟨fun h => ⟨List.forall_mem_nil _, h.2⟩, fun h => ⟨rfl, h.2⟩⟩
  | cons fk rest ih =>
      have hstep : Retyped d (retyped d owner fun t => d.pointed t fk) :=
        retyped_retyped fun t => pointed_signature d t fk
      have hrest := ih (hstep.distinctTypes hd)
      rw [hstep.pointed, retyped_comp fun t => pointed_signature d t fk] at hrest
      simp only [hstep.resolvable] at hrest
      unfold references
      rw [Build.bind_eq_ok, List.forall_mem_cons]
      constructor
      · rintro ⟨_, d₁, hfirst, h⟩
        obtain ⟨hfk, rfl⟩ := (reference_eq_ok hd).1 hfirst
        obtain ⟨hmore, rfl⟩ := hrest.1 h
        exact ⟨⟨hfk, hmore⟩, rfl⟩
      · rintro ⟨⟨hfk, hmore⟩, rfl⟩
        exact ⟨(), _, (reference_eq_ok hd).2 ⟨hfk, rfl⟩, hrest.2 ⟨hmore, rfl⟩⟩

/-- A type after the foreign keys that wait for it. -/
def settled (d : Domain) (pending : List (TypeKey × List ForeignKeyRow)) (t : ApplicationType) :
    ApplicationType :=
  pending.foldl (fun t entry =>
    if d.engine.keysEqual t.key entry.1 then entry.2.foldl d.pointed t else t) t

theorem settled_cons (d : Domain) (entry : TypeKey × List ForeignKeyRow)
    (rest : List (TypeKey × List ForeignKeyRow)) (t : ApplicationType) :
    settled d (entry :: rest) t =
      settled d rest (if d.engine.keysEqual t.key entry.1 then entry.2.foldl d.pointed t else t) :=
  rfl

/-- All foreign keys are resolved by the domain as it was before the first of them. -/
theorem referenceStage_eq_ok (hd : d.DistinctTypes)
    {pending : List (TypeKey × List ForeignKeyRow)} :
    referenceStage pending d = (.ok (), d') ↔
      (∀ entry ∈ pending, ∀ fk ∈ entry.2, d.Resolvable entry.1 fk) ∧
        d' = { d with types := d.types.map (settled d pending) } := by
  induction pending generalizing d with
  | nil =>
      have hid : settled d [] = id := rfl
      unfold referenceStage
      rw [Build.pure_eq_ok, hid, List.map_id]
      exact ⟨fun h => ⟨List.forall_mem_nil _, h.2⟩, fun h => ⟨rfl, h.2⟩⟩
  | cons entry rest ih =>
      obtain ⟨owner, fks⟩ := entry
      have hstep : Retyped d (retyped d owner fun t => fks.foldl d.pointed t) :=
        retyped_retyped fun t => foldl_pointed_signature d t fks
      have hrest := ih (hstep.distinctTypes hd)
      have hsettled : ({ retyped d owner (fun t => fks.foldl d.pointed t) with
          types := (retyped d owner fun t => fks.foldl d.pointed t).types.map
            (settled (retyped d owner fun t => fks.foldl d.pointed t) rest) } : Domain) =
          { d with types := d.types.map (settled d ((owner, fks) :: rest)) } := by
        unfold settled
        rw [hstep.pointed]
        unfold retyped
        rw [List.map_map]
        rfl
      rw [hsettled] at hrest
      simp only [hstep.resolvable] at hrest
      unfold referenceStage
      rw [Build.bind_eq_ok, List.forall_mem_cons]
      constructor
      · rintro ⟨_, d₁, hfirst, h⟩
        obtain ⟨hfks, rfl⟩ := (references_eq_ok hd).1 hfirst
        obtain ⟨hmore, rfl⟩ := hrest.1 h
        exact ⟨⟨hfks, hmore⟩, rfl⟩
      · rintro ⟨⟨hfks, hmore⟩, rfl⟩
        exact ⟨(), _, (references_eq_ok hd).2 ⟨hfks, rfl⟩, hrest.2 ⟨hmore, rfl⟩⟩

/-! ## The stage -/

theorem keys_of_tableTypes {rows : List TableRow} {ts : List ApplicationType}
    (h : List.Forall₂ (fun row t => tableType s row = .ok t) rows ts) :
    rows.map TableRow.key = ts.map ApplicationType.key := by
  rw [← List.forall₂_eq_eq_eq, List.forall₂_map_left_iff, List.forall₂_map_right_iff]
  exact h.imp fun row t ht => (tableType_key ht).1.symm

/-- Every type of the stage stands for a table outside the excluded schemas, in their order. -/
theorem typeStage_keys {start : Domain} (h : typeStage s settings start = (.ok (), d)) :
    d.types.map ApplicationType.key =
      (s.tableRows settings.excludedSchemas).map TableRow.key := by
  unfold typeStage at h
  rw [Build.act_bind] at h
  obtain ⟨pending, d₁, htables, hrest⟩ := Build.bind_eq_ok.1 h
  obtain ⟨_, ts, hts, rfl⟩ := tableStage_eq_ok.1 htables
  rw [(referenceStage_retyped hrest).keys]
  exact (keys_of_tableTypes hts).symm

/-- The type of a table as it was loaded. -/
def loadedType (s : CatalogSnapshot) (row : TableRow) : ApplicationType :=
  match tableType s row with
  | .ok t => t
  | .error _ => default

theorem loadedType_of_ok {row : TableRow} {t : ApplicationType} (h : tableType s row = .ok t) :
    loadedType s row = t := by
  unfold loadedType
  rw [h]

theorem tableTypes_iff {rows : List TableRow} {ts : List ApplicationType} :
    List.Forall₂ (fun row t => tableType s row = .ok t) rows ts ↔
      (∀ row ∈ rows, ∃ t, tableType s row = .ok t) ∧ ts = rows.map (loadedType s) := by
  induction rows generalizing ts with
  | nil =>
      rw [List.forall₂_nil_left_iff]
      exact ⟨fun h => ⟨nofun, h⟩, fun h => h.2⟩
  | cons row rest ih =>
      rw [List.forall₂_cons_left_iff, List.forall_mem_cons, List.map_cons]
      constructor
      · rintro ⟨t, more, ht, hmore, rfl⟩
        obtain ⟨hrest, rfl⟩ := ih.1 hmore
        exact ⟨⟨⟨t, ht⟩, hrest⟩, by rw [loadedType_of_ok ht]⟩
      · rintro ⟨⟨⟨t, ht⟩, hrest⟩, rfl⟩
        exact ⟨t, _, ht, ih.2 ⟨hrest, rfl⟩, by rw [loadedType_of_ok ht]⟩

/-- The domain when every table is loaded and no reference is set. -/
def loadedDomain (s : CatalogSnapshot) (settings : Settings) : Domain :=
  { blankDomain s.engine settings with
    types := (s.tableRows settings.excludedSchemas).map (loadedType s) }

/-- The type of a table with its own references. -/
def finalType (s : CatalogSnapshot) (settings : Settings) (row : TableRow) : ApplicationType :=
  (s.ofTable row StoredTable.foreignKeys).foldl (loadedDomain s settings).pointed (loadedType s row)

/-- No two rows name a table of one key. -/
def DistinctRows (engine : Engine) (rows : List TableRow) : Prop :=
  rows.Pairwise fun a b => engine.keysEqual a.key b.key = false

/-- The foreign keys of other tables do not matter. -/
theorem settled_of_ne {pending : List (TypeKey × List ForeignKeyRow)} {t : ApplicationType}
    (h : ∀ entry ∈ pending, d.engine.keysEqual t.key entry.1 = false) :
    settled d pending t = t := by
  induction pending with
  | nil => rfl
  | cons entry rest ih =>
      rw [List.forall_mem_cons] at h
      rw [settled_cons, if_neg (Bool.eq_false_iff.1 h.1)]
      exact ih h.2

theorem settled_waiting {rows : List TableRow} (hrows : DistinctRows d.engine rows) {row : TableRow}
    (hrow : row ∈ rows) {t : ApplicationType} (ht : t.key = row.key) :
    settled d (rows.map (waiting s)) t =
      (s.ofTable row StoredTable.foreignKeys).foldl d.pointed t := by
  induction rows with
  | nil => cases hrow
  | cons first rest ih =>
      obtain ⟨hfirst, hrest⟩ := List.pairwise_cons.1 hrows
      rw [List.map_cons, settled_cons]
      rcases List.mem_cons.1 hrow with rfl | hmem
      · have hown : d.engine.keysEqual t.key (waiting s row).1 = true :=
          ht ▸ d.engine.keysEqual_refl row.key
        have hkey : ((waiting s row).2.foldl d.pointed t).key = row.key :=
          (congrArg Prod.fst (foldl_pointed_signature d t _)).trans ht
        rw [if_pos hown]
        refine settled_of_ne fun entry hentry => ?_
        obtain ⟨other, hother, rfl⟩ := List.mem_map.1 hentry
        rw [hkey]
        exact hfirst other hother
      · have hother : d.engine.keysEqual t.key (waiting s first).1 = false := by
          rw [ht, d.engine.keysEqual_comm]
          exact hfirst row hmem
        rw [if_neg (Bool.eq_false_iff.1 hother)]
        exact ih hrest hmem

/-- Every table outside the excluded schemas can be loaded. -/
def Loads (s : CatalogSnapshot) (settings : Settings) : Prop :=
  ∀ row ∈ s.tableRows settings.excludedSchemas, ∃ t, tableType s row = .ok t

theorem loadedType_key (hload : Loads s settings) {row : TableRow}
    (hrow : row ∈ s.tableRows settings.excludedSchemas) :
    (loadedType s row).key = row.key ∧
      (loadedType s row).attributes = (Attributes.parse row.description row.fullName).1 := by
  obtain ⟨t, ht⟩ := hload row hrow
  rw [loadedType_of_ok ht]
  exact tableType_key ht

theorem finalType_key (s : CatalogSnapshot) (settings : Settings) (row : TableRow) :
    (finalType s settings row).key = (loadedType s row).key :=
  congrArg Prod.fst (foldl_pointed_signature _ _ _)

/-- Distinct tables are loaded under distinct keys. -/
theorem loadedDomain_distinct
    (hrows : DistinctRows s.engine (s.tableRows settings.excludedSchemas))
    (hload : Loads s settings) : (loadedDomain s settings).DistinctTypes := by
  have hkeys : ((s.tableRows settings.excludedSchemas).map (loadedType s)).map
      ApplicationType.key = (s.tableRows settings.excludedSchemas).map TableRow.key := by
    rw [List.map_map]
    exact List.map_congr_left fun row hrow => (loadedType_key hload hrow).1
  show (((s.tableRows settings.excludedSchemas).map (loadedType s)).map
    ApplicationType.key).Pairwise _
  rw [hkeys, List.pairwise_map]
  exact hrows

/-- Behind the loaded tables, the stage succeeds exactly when every foreign key can be resolved. -/
theorem loadedReferences_eq_ok
    (hrows : DistinctRows s.engine (s.tableRows settings.excludedSchemas))
    (hload : Loads s settings) :
    referenceStage ((s.tableRows settings.excludedSchemas).map (waiting s))
        (loadedDomain s settings) = (.ok (), d) ↔
      (∀ row ∈ s.tableRows settings.excludedSchemas,
        ∀ fk ∈ s.ofTable row StoredTable.foreignKeys,
          (loadedDomain s settings).Resolvable row.key fk) ∧
      d = { blankDomain s.engine settings with
        types := (s.tableRows settings.excludedSchemas).map (finalType s settings) } := by
  have hfinal : ((s.tableRows settings.excludedSchemas).map (loadedType s)).map
      (settled (loadedDomain s settings)
        ((s.tableRows settings.excludedSchemas).map (waiting s))) =
      (s.tableRows settings.excludedSchemas).map (finalType s settings) := by
    rw [List.map_map]
    exact List.map_congr_left fun row hrow =>
      settled_waiting hrows hrow (loadedType_key hload hrow).1
  rw [referenceStage_eq_ok (loadedDomain_distinct hrows hload), List.forall_mem_map, ← hfinal]
  rfl

/-- Where keys are distinct, the stage succeeds exactly when every table can be loaded and every
foreign key can be resolved, and the type of a table hangs on its own rows and foreign keys. -/
theorem typeStage_eq_ok {start : Domain}
    (hrows : DistinctRows s.engine (s.tableRows settings.excludedSchemas)) :
    typeStage s settings start = (.ok (), d) ↔
      (∀ row ∈ s.tableRows settings.excludedSchemas,
        (∃ t, tableType s row = .ok t) ∧
        ∀ fk ∈ s.ofTable row StoredTable.foreignKeys,
          (loadedDomain s settings).Resolvable row.key fk) ∧
      d = { blankDomain s.engine settings with
        types := (s.tableRows settings.excludedSchemas).map (finalType s settings) } := by
  unfold typeStage
  rw [Build.act_bind, Build.bind_eq_ok]
  constructor
  · rintro ⟨pending, d₁, htables, hrefs⟩
    obtain ⟨rfl, ts, hts, rfl⟩ := tableStage_eq_ok.1 htables
    obtain ⟨hload, rfl⟩ := tableTypes_iff.1 hts
    obtain ⟨hresolve, rfl⟩ := (loadedReferences_eq_ok hrows hload).1 hrefs
    exact ⟨fun row hrow => ⟨hload row hrow, hresolve row hrow⟩, rfl⟩
  · rintro ⟨hall, hd⟩
    have hload : Loads s settings := fun row hrow => (hall row hrow).1
    exact ⟨_, _, tableStage_eq_ok.2 ⟨rfl, _, tableTypes_iff.2 ⟨hload, rfl⟩, rfl⟩,
      (loadedReferences_eq_ok hrows hload).2 ⟨fun row hrow => (hall row hrow).2, hd⟩⟩

/-! ## Laws of fields -/

/-- A field is made of a column, and then flags, keys and references are set on it. The property
holds of the fields of the snapshot's columns, and each of these keeps it. -/
structure FieldLaw (s : CatalogSnapshot) (P : Field → Prop) : Prop where
  column : ∀ table ∈ s.tables, ∀ row ∈ table.columnRows, ∀ owner,
    P (columnField s.engine owner row).1
  flags : ∀ row f, P f → P (withFlags s.engine row f)
  mark : ∀ f, P f → P { f with isKey := true }
  point : ∀ f target, P f → P { f with references := some target }

section Laws

variable {P : Field → Prop}

theorem applyConstraints_law {engine : Engine} {table : String} {t t' : ApplicationType}
    {rows : List KeyConstraintRow} (hmark : ∀ f, P f → P { f with isKey := true })
    (ht : ∀ f ∈ t.fields, P f) (h : applyConstraints engine table t rows = .ok t') :
    ∀ f ∈ t'.fields, P f := by
  induction rows generalizing t with
  | nil =>
      cases h
      exact ht
  | cons row rest ih =>
      unfold applyConstraints at h
      split at h
      · rename_i t₁ h₁
        refine ih ?_ h
        obtain ⟨names, _, rfl⟩ := Outcome.map_eq_ok.1 h₁
        dsimp only
        split
        · exact forall_markKeys hmark ht
        · exact ht
      · cases h

section References

variable (hpoint : ∀ f target, P f → P { f with references := some target })

include hpoint

theorem reference_law {owner : TypeKey} {fk : ForeignKeyRow}
    (hd : ∀ t ∈ d.types, ∀ f ∈ t.fields, P f) (h : reference owner fk d = (.ok (), d')) :
    ∀ t ∈ d'.types, ∀ f ∈ t.fields, P f := by
  rcases reference_cases h with rfl | ⟨target, _, rfl⟩
  · exact hd
  · intro t ht
    rcases mem_modifyFirst ht with hold | ⟨t₀, ht₀, rfl⟩
    · exact hd t hold
    · exact forall_modifyField (fun f => hpoint f target) (hd t₀ ht₀)

theorem references_law {owner : TypeKey} {fks : List ForeignKeyRow}
    (hd : ∀ t ∈ d.types, ∀ f ∈ t.fields, P f) (h : references owner fks d = (.ok (), d')) :
    ∀ t ∈ d'.types, ∀ f ∈ t.fields, P f := by
  induction fks generalizing d with
  | nil =>
      obtain ⟨_, rfl⟩ := Build.pure_eq_ok.1 h
      exact hd
  | cons fk rest ih =>
      obtain ⟨_, d₁, hfirst, hrest⟩ := Build.bind_eq_ok.1 h
      exact ih (reference_law hpoint hd hfirst) hrest

theorem referenceStage_law {pending : List (TypeKey × List ForeignKeyRow)}
    (hd : ∀ t ∈ d.types, ∀ f ∈ t.fields, P f)
    (h : referenceStage pending d = (.ok (), d')) : ∀ t ∈ d'.types, ∀ f ∈ t.fields, P f := by
  induction pending generalizing d with
  | nil =>
      obtain ⟨_, rfl⟩ := Build.pure_eq_ok.1 h
      exact hd
  | cons first rest ih =>
      obtain ⟨_, d₁, hfirst, hrest⟩ := Build.bind_eq_ok.1 h
      exact ih (references_law hpoint hd hfirst) hrest

end References

/-- The law holds of every field that the first stage leaves. -/
theorem typeStage_law {start : Domain} (law : FieldLaw s P)
    (h : typeStage s settings start = (.ok (), d)) : ∀ t ∈ d.types, ∀ f ∈ t.fields, P f := by
  unfold typeStage at h
  rw [Build.act_bind] at h
  obtain ⟨pending, d₁, htables, hrest⟩ := Build.bind_eq_ok.1 h
  obtain ⟨_, ts, hts, rfl⟩ := tableStage_eq_ok.1 htables
  refine referenceStage_law law.point ?_ hrest
  intro t ht
  obtain ⟨row, _, htype⟩ := exists_of_forall₂ hts.flip ht
  refine applyConstraints_law law.mark ?_ htype
  refine forall_applyFlags law.flags ?_
  rw [columnFields_fst]
  refine List.forall_mem_map.2 fun column hcolumn => ?_
  obtain ⟨table, htable, hmem⟩ := CatalogSnapshot.exists_of_mem_ofTable hcolumn
  exact law.column table htable column hmem _

end Laws

end Offline

end SchemaModel
