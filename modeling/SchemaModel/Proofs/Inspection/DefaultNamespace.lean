import SchemaModel.Proofs.Inspection.Lockstep
import SchemaModel.Proofs.Inspection.Offline

/-!
# `SchemaModel.Proofs.Inspection.DefaultNamespace` — the default namespace decides nothing

The settings give a default namespace, and the domain keeps it. No step of an inspection looks at
it: whatever a name without a schema leads to, it leads to the same under another default namespace.

## Contents
- `Domain.inNamespace`: the domain with another default namespace.
- `Blind`: two steps that come to the same from a domain and from this domain in another namespace.
  One lemma for each part of an inspection.
- `inspect_inNamespace`: an inspection with another default namespace gives the same domain in that
  namespace, or the same fault.
-/

namespace SchemaModel

open Inspection

/-- The domain with another default namespace. -/
def Domain.inNamespace (d : Domain) (ns : String) : Domain := { d with defaultNamespace := ns }

namespace Offline

variable {s : CatalogSnapshot} {settings : Settings} {ns : String} {α β : Type}

/-! ## Steps -/

/-- From a domain in two namespaces, the steps come to the same result, and leave a domain in these
two namespaces. -/
def Blind (ns : String) (m m' : Build α) : Prop :=
  Lockstep (fun d d' => d' = d.inNamespace ns) AnyValue m m'

namespace Blind

variable {m m' : Build α}

theorem of_apply (h : ∀ d : Domain, m' (d.inNamespace ns) = ((m d).1, (m d).2.inNamespace ns)) :
    Blind ns m m' := by
  rintro d _ rfl
  rw [h d]
  exact ⟨rfl, rfl, fun _ _ => trivial⟩

theorem apply (h : Blind ns m m') (d : Domain) :
    m' (d.inNamespace ns) = ((m d).1, (m d).2.inNamespace ns) := by
  obtain ⟨hresult, hdomain, _⟩ := h d _ rfl
  exact Prod.ext hresult.symm hdomain

theorem pure (a : α) : Blind ns (Pure.pure a) (Pure.pure a) := Lockstep.pure trivial

theorem outcome (x : Outcome α) : Blind ns (Build.outcome x) (Build.outcome x) :=
  of_apply fun _ => rfl

theorem act {f : Domain → Domain} (h : ∀ d : Domain, f (d.inNamespace ns) = (f d).inNamespace ns) :
    Blind ns (Build.act f) (Build.act f) :=
  of_apply fun d => congrArg (Prod.mk _) (h d)

theorem bind {k k' : α → Build β} (hm : Blind ns m m') (hk : ∀ a, Blind ns (k a) (k' a)) :
    Blind ns (m >>= k) (m' >>= k') :=
  Lockstep.bind hm fun a _ => hk a

end Blind

/-! ## Tables -/

theorem tableStage_blind (rows : List TableRow) :
    Blind ns (tableStage s rows) (tableStage s rows) := by
  induction rows with
  | nil => exact .pure _
  | cons row rest ih =>
      refine .bind (.outcome _) fun t => ?_
      refine .bind (.act fun _ => rfl) fun _ => ?_
      exact .bind ih fun more => .pure _

theorem resolveForeignKey_inNamespace (d : Domain) (owner : TypeKey) (fk : ForeignKeyRow) :
    resolveForeignKey (d.inNamespace ns) owner fk =
      (resolveForeignKey d owner fk).map fun made => (made.1.inNamespace ns, made.2) := by
  have hfind : (d.inNamespace ns).findType? = d.findType? := rfl
  have hengine : (d.inNamespace ns).engine = d.engine := rfl
  unfold resolveForeignKey
  dsimp only
  rw [hfind, hengine]
  cases d.findType? ⟨fk.refSchema, fk.refTable⟩ with
  | none => rfl
  | some target =>
      dsimp only
      cases findField? d.engine target.fields fk.refColumn with
      | none => rfl
      | some targetField =>
          dsimp only
          cases (d.findType? owner).bind fun t => findField? d.engine t.fields fk.column with
          | none => rfl
          | some _ => rfl

theorem reference_blind (owner : TypeKey) (fk : ForeignKeyRow) :
    Blind ns (reference owner fk) (reference owner fk) := by
  refine .of_apply fun d => ?_
  unfold reference
  rw [resolveForeignKey_inNamespace]
  cases resolveForeignKey d owner fk with
  | error e => rfl
  | ok made => rfl

theorem references_blind (owner : TypeKey) (fks : List ForeignKeyRow) :
    Blind ns (references owner fks) (references owner fks) := by
  induction fks with
  | nil => exact .pure _
  | cons fk rest ih => exact .bind (reference_blind owner fk) fun _ => ih

theorem referenceStage_blind (pending : List (TypeKey × List ForeignKeyRow)) :
    Blind ns (referenceStage pending) (referenceStage pending) := by
  induction pending with
  | nil => exact .pure _
  | cons entry rest ih => exact .bind (references_blind entry.1 entry.2) fun _ => ih

/-! ## Operations -/

theorem userShape_blind (key user : TypeKey) :
    Blind ns (userShape s key user) (userShape s key user) := by
  refine .of_apply fun d => ?_
  have hfind : (d.inNamespace ns).findResultType? key = d.findResultType? key := rfl
  unfold userShape
  rw [hfind]
  cases d.findResultType? key with
  | some existing => rfl
  | none =>
      dsimp only
      cases s.userType? key.schema key.name with
      | none => rfl
      | some row =>
          dsimp only
          cases row.kind with
          | composite => rfl
          | domain => rfl
          | enum => rfl

theorem parameter_blind (op : TypeKey) (row : ParameterRow) :
    Blind ns (parameter s op row) (parameter s op row) := by
  unfold parameter
  split
  · refine .bind (userShape_blind _ op) fun shape => ?_
    cases shape with
    | rows key => exact .pure _
    | value valueType => exact .outcome _
  · exact .of_apply fun _ => rfl

theorem parameters_blind (op : TypeKey) (rows : List ParameterRow) :
    Blind ns (parameters s op rows) (parameters s op rows) := by
  induction rows with
  | nil => exact .pure _
  | cons row rest ih =>
      exact .bind (parameter_blind op row) fun p => .bind ih fun more => .pure _

theorem widened_inNamespace (d : Domain) (key : TypeKey) (about : Option TypeKey) :
    widened (d.inNamespace ns) key about = (widened d key about).inNamespace ns := by
  cases about with
  | none => rfl
  | some source =>
      have htype : (d.inNamespace ns).findType? = d.findType? := rfl
      have hresult : (d.inNamespace ns).findResultType? = d.findResultType? := rfl
      unfold widened Domain.widenResult
      dsimp only
      rw [htype, hresult]
      cases d.findType? source with
      | none => rfl
      | some t =>
          dsimp only
          cases d.findResultType? key with
          | none => rfl
          | some r => rfl

theorem namedRowShape_blind (o : Operation) (rows : List ResultColumnRow) :
    Blind ns (namedRowShape o rows) (namedRowShape o rows) := by
  refine .of_apply fun d => ?_
  have hfind : (d.inNamespace ns).findResultType? (rowTypeKey (d.inNamespace ns) o) =
      d.findResultType? (rowTypeKey d o) := rfl
  unfold namedRowShape
  dsimp only
  rw [hfind]
  cases d.findResultType? (rowTypeKey d o) with
  | some existing => rfl
  | none =>
      exact congrArg (Prod.mk _) (widened_inNamespace
        { d with resultTypes := d.resultTypes ++ [synthesized d o rows] } (rowTypeKey d o)
        o.relatedType)

theorem rowShape_blind (o : Operation) (rows : List ResultColumnRow) :
    Blind ns (rowShape o rows) (rowShape o rows) := by
  refine .of_apply fun d => ?_
  have hengine : (d.inNamespace ns).engine = d.engine := rfl
  have hfind : (d.inNamespace ns).findTypeByFields? = d.findTypeByFields? := rfl
  unfold rowShape
  rw [hengine, hfind]
  split
  · rfl
  · split
    · rfl
    · exact (namedRowShape_blind o rows).apply d

theorem resolvedShape_blind (o : Operation) (returnsSet : Bool) (shape : UserTypeShape) :
    Blind ns (resolvedShape o returnsSet shape) (resolvedShape o returnsSet shape) := by
  cases shape with
  | rows key => exact .of_apply fun d => congrArg (Prod.mk _) (widened_inNamespace d key _)
  | value valueType => exact .pure _

theorem declaredShape_blind (o : Operation) (row : RoutineRow) :
    Blind ns (declaredShape s o row) (declaredShape s o row) := by
  refine .of_apply fun d => ?_
  have hengine : (d.inNamespace ns).engine = d.engine := rfl
  have hfind : (d.inNamespace ns).findType? = d.findType? := rfl
  unfold declaredShape
  rw [hengine, hfind]
  split
  · rfl
  dsimp only
  split
  · rfl
  split
  · rfl
  split
  · rfl
  · exact (Blind.bind (userShape_blind _ o.key) (resolvedShape_blind o row.returnsSet)).apply d

theorem returnShape_blind (o : Operation) (row : RoutineRow) :
    Blind ns (returnShape s o row) (returnShape s o row) := by
  unfold returnShape
  split
  · exact declaredShape_blind o row
  · exact rowShape_blind o _

theorem matchParameters_inNamespace (d : Domain) (o : Operation) :
    matchParameters (d.inNamespace ns) o = matchParameters d o := rfl

theorem operation_blind (row : RoutineRow) : Blind ns (operation s row) (operation s row) := by
  refine .of_apply fun d => ?_
  have habout : related (d.inNamespace ns) row = related d row := rfl
  unfold operation
  rw [habout]
  refine Blind.apply (.bind (parameters_blind _ _) fun ps => ?_) d
  refine .bind (returnShape_blind _ row) fun returns => .of_apply fun d' => ?_
  rw [matchParameters_inNamespace]

theorem operationStage_blind (rows : List RoutineRow) :
    Blind ns (operationStage s rows) (operationStage s rows) := by
  induction rows with
  | nil => exact .pure _
  | cons row rest ih =>
      refine .bind (operation_blind row) fun o => ?_
      exact .bind (.act fun _ => rfl) fun _ => ih

/-! ## Whole inspections -/

/-- The domain that such a step leaves is given in the namespace that it started in. -/
theorem Blind.current {m : Build Unit} (h : Blind ns m m) (d : Domain) :
    ((m >>= fun _ => Build.current) (d.inNamespace ns)).1 =
      ((m >>= fun _ => Build.current) d).1.map fun left => left.inNamespace ns := by
  have hother := h.apply d
  rcases hrun : m d with ⟨e | _, left⟩
  · rw [hrun] at hother
    rw [Build.bind_error hrun, Build.bind_error hother]
    rfl
  · rw [hrun] at hother
    rw [Build.bind_ok hrun, Build.bind_ok hother]
    rfl

/-- What both stages do to the blank domain that the settings ask for. -/
def stages (s : CatalogSnapshot) (settings : Settings) : Build Unit := do
  referenceStage (← tableStage s (s.tableRows settings.excludedSchemas))
  operationStage s (s.routineRows settings.excludedSchemas)

theorem inspection_eq_stages (s : CatalogSnapshot) (settings : Settings) (start : Domain) :
    inspection s settings start =
      (stages s settings >>= fun _ => Build.current) (blankDomain s.engine settings) := by
  unfold inspection typeStage stages
  simp only [bind_assoc]
  exact Build.act_bind

/-- Whatever the default namespace that is given, an inspection comes to the same: to the same
fault, or to a domain that differs in its default namespace alone. -/
theorem inspect_inNamespace (s : CatalogSnapshot) (settings : Settings) (given : Option String)
    (executed : List String) (start : Domain) :
    (run (inspect s.catalog { settings with defaultNamespace := given }) executed start).result =
      (run (inspect s.catalog settings) executed start).result.map fun d =>
        d.inNamespace (given.getD s.engine.defaultNamespace) := by
  have hstages : Blind (given.getD s.engine.defaultNamespace) (stages s settings)
      (stages s settings) :=
    .bind (tableStage_blind _) fun pending =>
      .bind (referenceStage_blind pending) fun _ => operationStage_blind _
  rw [inspect_result, inspect_result, inspection_eq_stages, inspection_eq_stages]
  exact hstages.current (blankDomain s.engine settings)

end Offline

end SchemaModel
