import SchemaModel.Proofs.Catalog.TableSignature
import SchemaModel.Proofs.DropPlan.Difference

/-!
# `SchemaModel.Proofs.Identifier.Reading` — quoted names are read back

A name that passes the check is written between marks. The reader of table signatures takes it back
from there, and so does its counterpart for brackets, whatever stands behind the closing mark. A
statement of a drop plan therefore names the schema and the object that it was made for: whatever
characters they have, neither ends before its own closing mark.

## Contents
- `Engine.readName?`: the reader of each engine. `Engine.target?`: a schema and a name in a row.
- `target?_delimited`: a schema and a name between marks are read back, with what stands behind.
- `Reversible`: what quoting promises. `quoting_reversible`: both engines keep it.
-/

namespace SchemaModel

open Identifier

namespace Engine

variable {engine : Engine} {schema name : String} {tail : List Char}

/-! ## Readers -/

/-- The name that stands behind an opening mark, and what follows its closing mark. -/
def readName? : Engine → List Char → Option (List Char × List Char)
  | .postgres => TableSignature.quotedIdentifier?
  | .sqlServer => unwrap? ']'

theorem readName?_eq : engine.readName? = unwrap? engine.marks.closing := by
  cases engine with
  | postgres => exact funext TableSignature.quotedIdentifier?_eq
  | sqlServer => rfl

/-- The schema and the name at the front of a text, each between marks, with a point in the middle,
and what follows them. -/
def target? (engine : Engine) (text : List Char) :
    Option (List Char × List Char × List Char) := do
  let (schema, behind) ← engine.readName? (← Text.after? [engine.marks.opening] text)
  let (name, behind) ← engine.readName? (← Text.after? ['.', engine.marks.opening] behind)
  return (schema, name, behind)

/-- What was quoted is read back. -/
theorem readName?_double (h : tail.head? ≠ some engine.marks.closing) (cs : List Char) :
    engine.readName? (Text.double engine.marks.closing cs ++ engine.marks.closing :: tail) =
      some (cs, tail) := by
  rw [readName?_eq, unwrap?_double h]

/-- A schema and a name between marks are read back with what stands behind them. -/
theorem target?_delimited (h : tail.head? ≠ some engine.marks.closing) :
    engine.target? ((delimited engine.marks schema name).toList ++ tail) =
      some (schema.toList, name.toList, tail) := by
  have hpoint : ∀ cs : List Char, ('.' :: cs).head? ≠ some engine.marks.closing :=
    fun _ hsome => point_ne_closing (Option.some.inj hsome).symm
  have hschema := readName?_double (hpoint (engine.marks.opening ::
    (Text.double engine.marks.closing name.toList ++ engine.marks.closing :: tail))) schema.toList
  have hname := readName?_double h name.toList
  rw [toList_delimited]
  simp [target?, Text.after?, hschema, hname]

end Engine

/-! ## What quoting promises -/

open DropPlan

/-- Behind its key words, a statement is read as a schema and a name, with a text left over. -/
def ReadsTarget (engine : Engine) (sql words schema name behind : String) : Prop :=
  ∃ target, sql.toList = words.toList ++ target ∧
    engine.target? target = some (schema.toList, name.toList, behind.toList)

/-- Quoting can be undone: it accepts the valid names, a quoted name is read back whatever follows
it, and the target of a statement that drops something is read as the schema and the name that were
given, with only the argument list left. -/
structure Reversible (engine : Engine) : Prop where
  accepts : ∀ name, (∃ quoted, engine.quote name = .ok quoted) ↔ Valid name
  qualifies : ∀ schema name,
    (∃ qualified, engine.qualify schema name = .ok qualified) ↔ Valid schema ∧ Valid name
  reads : ∀ {name quoted : String} {tail : List Char}, engine.quote name = .ok quoted →
    tail.head? ≠ some engine.marks.closing →
    engine.readName? (quoted.toList.tail ++ tail) = some (name.toList, tail)
  injective : ∀ {schema name schema' name' qualified : String},
    engine.qualify schema name = .ok qualified → engine.qualify schema' name' = .ok qualified →
    schema = schema' ∧ name = name'
  routine : ∀ {schema name sql : String} {kind : RoutineKind} {argumentTypes : List String},
    engine.dropRoutine schema name kind argumentTypes = .ok sql →
    ReadsTarget engine sql ("DROP " ++ keyword kind ++ " IF EXISTS ") schema name
      (argumentList engine argumentTypes ++ ";")
  type : ∀ {schema name sql : String}, engine.dropType schema name = .ok sql →
    ReadsTarget engine sql "DROP TYPE IF EXISTS " schema name ";"

theorem readsTarget_delimited {engine : Engine} {words schema name behind : String}
    (h : behind.toList.head? ≠ some engine.marks.closing) :
    ReadsTarget engine (words ++ delimited engine.marks schema name ++ behind) words schema name
      behind := by
  refine ⟨(delimited engine.marks schema name).toList ++ behind.toList, ?_,
    Engine.target?_delimited h⟩
  rw [String.toList_append, String.toList_append, List.append_assoc]

/-- Behind the target of a statement stands no closing mark. -/
theorem head?_argumentList {engine : Engine} {argumentTypes : List String} :
    (argumentList engine argumentTypes ++ ";").toList.head? ≠ some engine.marks.closing := by
  cases engine <;> simp [argumentList, Engine.marks, Marks.double, Marks.bracket]

theorem quoting_reversible (engine : Engine) : Reversible engine where
  accepts name := by
    simp only [Engine.quote, quote_eq_ok, exists_and_left, exists_eq, and_true, not_refused_iff]
  qualifies schema name := by
    simp only [Engine.qualify, qualify_eq_ok, exists_and_left, exists_eq, and_true, not_refused_iff]
  reads {name quoted tail} hquoted htail := by
    obtain ⟨_, rfl⟩ := quote_eq_ok.1 hquoted
    rw [toList_wrap, List.cons_append, List.tail_cons, List.append_assoc, List.singleton_append,
      Engine.readName?_double htail]
  injective {schema name schema' name' qualified} h h' := by
    obtain ⟨_, rfl⟩ := qualify_eq_ok.1 h
    obtain ⟨_, hsame⟩ := qualify_eq_ok.1 h'
    have hend : ([] : List Char).head? ≠ some engine.marks.closing := nofun
    obtain ⟨hschema, hname, _⟩ := delimited_append_inj point_ne_closing
      (congrArg (·.toList ++ []) hsame) hend hend
    exact ⟨hschema, hname⟩
  routine h := by
    obtain ⟨_, rfl⟩ := dropRoutine_eq_ok.1 h
    unfold routineText
    rw [String.append_assoc]
    exact readsTarget_delimited head?_argumentList
  type {schema name sql} h := by
    obtain ⟨_, rfl⟩ := dropType_eq_ok.1 h
    exact readsTarget_delimited (by cases engine <;> decide)

/-- The statement for a name that tries to end its quotes. -/
def hostileStatement : String :=
  "DROP TYPE IF EXISTS \"public\".\"note\"\"; DROP TABLE orders; --\";"

theorem quoting_reversible_hostile :
    Engine.postgres.dropType "public" "note\"; DROP TABLE orders; --" = .ok hostileStatement ∧
      ReadsTarget .postgres hostileStatement "DROP TYPE IF EXISTS " "public"
        "note\"; DROP TABLE orders; --" ";" := by
  have hmade : Engine.postgres.dropType "public" "note\"; DROP TABLE orders; --" =
      .ok hostileStatement := rfl
  exact ⟨hmade, (quoting_reversible .postgres).type hmade⟩

end SchemaModel
