import SchemaModel.Model.Domain

/-!
# `SchemaModel.DropPlan` — statements for what is gone

Objects that an earlier run generated and that a later inspection no longer finds are dropped.
Routines go before types, since a routine may use a type in its signature.

## Contents
- `goneOperations`, `goneTypes`: the generated objects of the old domain that the new one lacks,
  compared like the new domain's engine compares names.
- `statements`: their drop statements.
- `warnings`: domains of different engines are compared all the same, with a warning.
-/

namespace SchemaModel.DropPlan

/-- The generated operations that the new domain has no operation for. -/
def goneOperations (old new : Domain) : List Operation :=
  (old.operations.filter Operation.isGenerated).filter fun op =>
    (new.findOperations op.key).isEmpty

/-- The generated composites that the new domain has no result type for. -/
def goneTypes (old new : Domain) : List ResultType :=
  (old.resultTypes.filter fun r => r.isCustomType && r.isGenerated).filter fun r =>
    (new.findResultType? r.key).isNone

/-- Results in order, or the first fault. -/
def collect {α : Type} (statement : α → Outcome String) : List α → Outcome (List String)
  | [] => .ok []
  | x :: rest =>
    match statement x with
    | .error e => .error e
    | .ok sql => (collect statement rest).map (sql :: ·)

/-- The statement that drops an operation. -/
def dropOperation (engine : Engine) (op : Operation) : Outcome String :=
  engine.dropRoutine op.schema op.name op.kind op.parameterTypes

/-- The statement that drops a composite. -/
def dropResultType (engine : Engine) (r : ResultType) : Outcome String :=
  engine.dropType r.schema r.name

/-- The statements that drop what the old domain generated and the new one lacks. -/
def statements (old new : Domain) : Outcome (List String) := do
  let routines ← collect (dropOperation new.engine) (goneOperations old new)
  let types ← collect (dropResultType new.engine) (goneTypes old new)
  return routines ++ types

/-- What is odd about comparing two domains. -/
def warnings (old new : Domain) : List Warning :=
  if old.engine = new.engine then [] else [.differentEngines old.engine.title new.engine.title]

end SchemaModel.DropPlan
