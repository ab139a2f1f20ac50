import SchemaModel.Catalog.SqlServer
import SchemaModel.Proofs.Catalog.Served

/-!
# `SchemaModel.Proofs.Catalog.KeyConstraints` — the key constraints that a server tells

Both engines tell the keys of a table one row a column, in answer to statements of their own. Their
catalogs put the rows together in the same way, whatever rows there are, and lose nothing.

## Contents
- `KeysRead`: what both catalogs make of an answer. `keysRead`: the rows grouped.
- `keyConstraints_grouped`: the constraints are those of the rows, and constraints come back from
  theirs.
- `orderKeys`: two keys, and `scatteredKeys`: their rows mixed, with one that is of no key.
-/

namespace SchemaModel

open Postgres (keyColumnCells leftInverse_keyColumn)

/-- When a server answers the question for the keys of a table with the rows, the catalogs of both
engines make the constraints of them. -/
structure KeysRead (rows : List KeyColumn) (constraints : List KeyConstraintRow) : Prop where
  /-- A PostgreSQL server is asked over an open pool. -/
  postgres : ∀ {σ : Type} (server : Server σ) (table : TableRow) (state state' : σ),
    server.query ⟨Postgres.Statements.keyConstraints, [.text table.schema, .text table.name]⟩ state =
      (.ok (rows.map keyColumnCells), state') →
    (Postgres.catalog server).keyConstraints table ⟨state, false⟩ =
      (.ok constraints, ⟨state', false⟩)
  sqlServer : ∀ {σ : Type} (server : Server σ) (table : TableRow) (state state' : σ),
    server.query ⟨SqlServer.Statements.keyConstraints, [.text table.schema, .text table.name]⟩ state =
      (.ok (rows.map keyColumnCells), state') →
    (SqlServer.catalog server).keyConstraints table state = (.ok constraints, state')

theorem SqlServer.exchange_ok {σ α : Type} {question : Exchange σ α} {answer : α}
    {state state' : σ} (h : question state = (.ok answer, state')) (fault : String → Fault) :
    exchange question fault state = (.ok answer, state') := by
  have hget : (get : Reading σ σ) state = (.ok state, state) := rfl
  unfold exchange
  rw [bind_apply, hget]
  dsimp only
  rw [h]
  rfl

/-- Both catalogs group the rows that they are sent. -/
theorem keysRead (rows : List KeyColumn) : KeysRead rows (groupKeys rows) where
  postgres {σ} server table state state' h := by
    have hrows := Postgres.ask_ok h "key_constraints"
    show ((Postgres.askAbout server _ table.schema table.name _) >>= fun answer =>
      pure (groupKeys (answer.map keyColumn))) _ = _
    unfold Postgres.askAbout
    rw [bind_apply, hrows]
    dsimp only
    rw [leftInverse_keyColumn.list_map]
    rfl
  sqlServer {σ} server table state state' h := by
    have hrows := SqlServer.exchange_ok h (.query SqlServer.Statements.keyConstraints)
    show ((SqlServer.askAbout server _ table.schema table.name) >>= fun answer =>
      pure (groupKeys (answer.map keyColumn))) _ = _
    unfold SqlServer.askAbout SqlServer.ask
    rw [bind_apply, hrows]
    dsimp only
    rw [leftInverse_keyColumn.list_map]
    rfl

/-- Whatever rows a server answers with, the catalogs of both engines make the same constraints of
them, and these are the rows of keys grouped without loss. Constraints that have names of their own,
and columns, come back from their rows. -/
theorem keyConstraints_grouped :
    (∀ rows, KeysRead rows (groupKeys rows) ∧ Grouping rows (groupKeys rows)) ∧
      ∀ constraints, KeyConstraintRow.Named constraints →
        KeysRead (constraints.flatMap KeyConstraintRow.keyColumns) constraints := by
  refine ⟨fun rows => ⟨keysRead rows, grouping_groupKeys rows⟩, fun constraints h => ?_⟩
  have hread := keysRead (constraints.flatMap KeyConstraintRow.keyColumns)
  rwa [groupKeys_keyColumns h] at hread

/-- Rows of two keys, mixed, with one of a check. -/
def scatteredKeys : List KeyColumn :=
  [⟨"order_number_key", "unique", "shop_id"⟩, ⟨"order_pkey", "PRIMARY KEY", "order_id"⟩,
    ⟨"order_total_check", "CHECK", "total"⟩, ⟨"order_number_key", "UNIQUE", "number"⟩,
    ⟨"order_pkey", "Primary Key", "line_no"⟩]

/-- The two keys. -/
def orderKeys : List KeyConstraintRow :=
  [⟨"order_number_key", .unique, ["shop_id", "number"]⟩,
    ⟨"order_pkey", .primary, ["order_id", "line_no"]⟩]

/-- A server that answers every statement with the same rows. -/
def Server.constant (rows : List Cells) : Server Unit where
  query _ := pure rows
  execute _ := pure 0
  ping := pure ()

/-- The keys are put together from mixed rows, and from rows of their own over both catalogs. -/
theorem keyConstraints_grouped_orders :
    Grouping scatteredKeys orderKeys ∧ KeyConstraintRow.Named orderKeys ∧
      (Postgres.catalog (.constant ((orderKeys.flatMap KeyConstraintRow.keyColumns).map
          keyColumnCells))).keyConstraints ⟨"public", "order", none⟩ ⟨(), false⟩ =
        (.ok orderKeys, ⟨(), false⟩) ∧
      (SqlServer.catalog (.constant ((orderKeys.flatMap KeyConstraintRow.keyColumns).map
          keyColumnCells))).keyConstraints ⟨"dbo", "order", none⟩ () = (.ok orderKeys, ()) := by
  have hscattered : groupKeys scatteredKeys = orderKeys := by decide
  have hnamed : KeyConstraintRow.Named orderKeys := by decide
  have hread := keyConstraints_grouped.2 orderKeys hnamed
  refine ⟨?_, hnamed, hread.postgres _ _ _ _ rfl, hread.sqlServer _ _ _ _ rfl⟩
  rw [← hscattered]
  exact (keyConstraints_grouped.1 scatteredKeys).2

end SchemaModel
