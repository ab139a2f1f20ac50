import SchemaModel.Proofs.Inspection.Alike
import SchemaModel.Proofs.Inspection.FirstUse
import SchemaModel.Proofs.Inspection.TypeStage

/-!
# `SchemaModel.Proofs.Inspection.Exclusion` — schemas that are left out

A snapshot leaves schemas out of its lists of tables and routines only; every later look-up searches
all that was written down. It finds nothing of theirs all the same: an entry is found under a name
that the engine takes for its own, and of two schemas that are the same to the engine both are left
out or none. So the inspection is that of a snapshot in which they were never written down.

## Contents
- `CatalogSnapshot.without`: the snapshot without the tables and routines of some schemas.
- **Answers.** `table?_without`, `routine?_without`: what is not left out is found as before.
- `inspect_excluded`: both snapshots are inspected by the same steps, so what stands in the schemas
  left out changes nothing, and nothing of theirs is loaded.
- `ledger`: a database with a schema to leave out, which the rest of it refers to.
-/

namespace SchemaModel

open Inspection

namespace CatalogSnapshot

variable {s s' : CatalogSnapshot} {excluded : List String}

/-- The snapshot without the tables and routines of the excluded schemas. -/
def without (s : CatalogSnapshot) (excluded : List String) : CatalogSnapshot :=
  { s with
    tables := s.tables.filter fun t => !s.isExcluded excluded t.schema
    routines := s.routines.filter fun r => !s.isExcluded excluded r.schema }

/-! ## Answers -/

/-- Schemas that are the same to the engine are left out together. -/
theorem isExcluded_congr {a b : String} (h : s.engine.namesEqual a b = true) :
    s.isExcluded excluded a = s.isExcluded excluded b := by
  unfold isExcluded
  congr 1
  funext e
  rw [Bool.eq_iff_iff]
  constructor
  · intro he
    exact s.engine.namesEqual_trans he h
  · intro he
    exact s.engine.namesEqual_trans he (s.engine.namesEqual_comm a b ▸ h)

/-- A search whose finds are all kept goes past what is not. -/
theorem find?_filter_of_imp {α : Type} {keep p : α → Bool} {xs : List α}
    (h : ∀ x, p x = true → keep x = true) : (xs.filter keep).find? p = xs.find? p := by
  rw [List.find?_filter]
  congr 1
  funext x
  rw [Bool.eq_iff_iff, decide_eq_true_iff]
  exact ⟨fun hx => hx.2, fun hx => ⟨h x hx, hx⟩⟩

theorem table?_without {row : TableRow} (h : s.isExcluded excluded row.schema = false) :
    (s.without excluded).table? row = s.table? row := by
  refine find?_filter_of_imp fun t ht => ?_
  rw [Bool.and_eq_true] at ht
  rw [isExcluded_congr (s := s) ht.1, h]
  rfl

theorem routine?_without {row : RoutineRow} (h : s.isExcluded excluded row.schema = false) :
    (s.without excluded).routine? row = s.routine? row := by
  refine find?_filter_of_imp fun r hr => ?_
  rw [Bool.and_eq_true, Bool.and_eq_true] at hr
  rw [isExcluded_congr (s := s) hr.1.1, h]
  rfl

theorem tableRows_without : (s.without excluded).tableRows [] = s.tableRows excluded := by
  unfold tableRows without
  rw [List.filter_filter]
  rfl

theorem routineRows_without : (s.without excluded).routineRows [] = s.routineRows excluded := by
  unfold routineRows without
  rw [List.filter_filter]
  rfl

theorem schema_of_tableRows {row : TableRow} (h : row ∈ s.tableRows excluded) :
    s.isExcluded excluded row.schema = false := by
  obtain ⟨t, ht, rfl⟩ := List.mem_map.1 h
  exact Bool.not_eq_true' _ ▸ (List.mem_filter.1 ht).2

theorem schema_of_routineRows {row : RoutineRow} (h : row ∈ s.routineRows excluded) :
    s.isExcluded excluded row.schema = false := by
  obtain ⟨r, hr, rfl⟩ := List.mem_map.1 h
  exact Bool.not_eq_true' _ ▸ (List.mem_filter.1 hr).2

/-- The catalog of the smaller snapshot says the same about a table that is not left out. -/
theorem tableAlike_without {row : TableRow} (h : s.isExcluded excluded row.schema = false) :
    TableAlike s.catalog (s.without excluded).catalog row := by
  have hpart : ∀ {α : Type} (part : StoredTable → List α),
      (s.without excluded).ofTable row part = s.ofTable row part := by
    intro α part
    unfold ofTable
    rw [table?_without h]
  exact ⟨congrArg pure (hpart _), congrArg pure (hpart _), congrArg pure (hpart _),
    congrArg pure (hpart _)⟩

theorem routineAlike_without {row : RoutineRow} (h : s.isExcluded excluded row.schema = false) :
    RoutineAlike s.catalog (s.without excluded).catalog row where
  parameters := by
    unfold catalog
    dsimp only
    rw [routine?_without h]
  resultColumns := by
    unfold catalog resultColumnsOf
    dsimp only
    rw [routine?_without h]
    rfl

end CatalogSnapshot

namespace Offline

variable {s : CatalogSnapshot} {settings : Settings} {d : Domain}

/-- Leaving schemas out is inspecting a snapshot without them. -/
theorem inspect_without (s : CatalogSnapshot) (settings : Settings) :
    inspect (s.without settings.excludedSchemas).catalog { settings with excludedSchemas := [] } =
      inspect s.catalog settings :=
  inspect_congr (c := s.catalog) rfl ⟨rfl, rfl⟩ rfl
    (congrArg pure CatalogSnapshot.tableRows_without) rfl
    (congrArg pure CatalogSnapshot.routineRows_without)
    (fun _ hrow => CatalogSnapshot.tableAlike_without (CatalogSnapshot.schema_of_tableRows hrow))
    (fun _ hrow =>
      CatalogSnapshot.routineAlike_without (CatalogSnapshot.schema_of_routineRows hrow))
    rfl

/-- Types and operations stand for tables and routines outside the excluded schemas. -/
theorem loaded_outside {executed : List String} {start : Domain}
    (h : (run (inspect s.catalog settings) executed start).result = .ok d) :
    (∀ t ∈ d.types, s.isExcluded settings.excludedSchemas t.schema = false) ∧
      ∀ o ∈ d.operations, s.isExcluded settings.excludedSchemas o.schema = false := by
  constructor
  · obtain ⟨d₀, htypes, hoperations⟩ := inspect_eq_ok.1 h
    obtain ⟨hengine, _, hresults⟩ := typeStage_blank htypes
    have hnone : FirstUses s [] d₀ := ⟨nofun, by rw [hresults]; exact nofun⟩
    obtain ⟨_, _, _, hsame, _, _⟩ := operationStage_firstUses hengine hnone hoperations
    intro t ht
    have hkey : t.key ∈ (s.tableRows settings.excludedSchemas).map TableRow.key := by
      rw [← typeStage_keys htypes, ← hsame]
      exact List.mem_map_of_mem ht
    obtain ⟨row, hrow, hsame⟩ := List.mem_map.1 hkey
    have hschema : row.schema = t.schema := congrArg TypeKey.schema hsame
    exact hschema ▸ CatalogSnapshot.schema_of_tableRows hrow
  · have hschemas : (s.routineRows settings.excludedSchemas).map RoutineRow.schema =
        d.operations.map Operation.schema := by
      rw [← List.forall₂_eq_eq_eq, List.forall₂_map_left_iff, List.forall₂_map_right_iff]
      exact (inspect_firstUses h).1.imp fun _ _ hfollows =>
        (congrArg TypeKey.schema hfollows.key).symm
    intro o ho
    have hmem : o.schema ∈ (s.routineRows settings.excludedSchemas).map RoutineRow.schema :=
      hschemas ▸ List.mem_map_of_mem ho
    obtain ⟨row, hrow, hsame⟩ := List.mem_map.1 hmem
    exact hsame ▸ CatalogSnapshot.schema_of_routineRows hrow

/-- Schemas that are left out do not interfere: the whole run, with its result or fault, its
warnings and the domain it leaves, is that of the snapshot without their tables and routines. So it
is the same for all snapshots that differ in these alone, and it loads nothing of theirs. -/
theorem inspect_excluded (s : CatalogSnapshot) (settings : Settings) (executed : List String)
    (start : Domain) :
    run (inspect s.catalog settings) executed start =
        run (inspect (s.without settings.excludedSchemas).catalog
          { settings with excludedSchemas := [] }) executed start ∧
      (∀ s' : CatalogSnapshot,
        s'.without settings.excludedSchemas = s.without settings.excludedSchemas →
        run (inspect s'.catalog settings) executed start =
          run (inspect s.catalog settings) executed start) ∧
      ∀ d, (run (inspect s.catalog settings) executed start).result = .ok d →
        (∀ t ∈ d.types, s.isExcluded settings.excludedSchemas t.schema = false) ∧
        ∀ o ∈ d.operations, s.isExcluded settings.excludedSchemas o.schema = false := by
  refine ⟨by rw [inspect_without], fun s' hs' => ?_, fun d h => loaded_outside h⟩
  rw [← inspect_without s' settings, hs', inspect_without s settings]

/-! ## A schema to leave out -/

/-- Accounts that refer to a table of another schema, with routines in either schema. What stands in
the other schema is left open. -/
def ledger (columns : List StoredColumn) (routines : List StoredRoutine) : CatalogSnapshot where
  engine := .sqlServer
  tables :=
    [⟨"Audit", "Entry", none, columns, [], []⟩,
     ⟨"dbo", "Account", none,
      [⟨"AccountId", "int", none, none, none, false, true, false, none, none⟩,
       ⟨"EntryId", "int", none, none, none, true, false, false, none, none⟩],
      [⟨"PK_Account", .primary, ["AccountId"]⟩],
      [⟨"FK_Account_Entry", "EntryId", "audit", "Entry", "EntryId"⟩]⟩]
  routines :=
    routines ++ [⟨"dbo", "AccountSelect", none, .procedure, none, false, none, none, [],
      [⟨"AccountId", 1, "int", false, none⟩, ⟨"EntryId", 2, "int", true, none⟩]⟩]
  userTypes := []

/-- The other schema with a table and a routine that cannot be loaded. -/
def brokenLedger : CatalogSnapshot :=
  ledger [⟨"Id", "int", none, none, none, false, true, false, none, none⟩]
    [⟨"AUDIT", "EntryAdd", none, .procedure, none, false, none, none,
      [⟨"Shape", "geometry", none, false, false, false⟩], []⟩]

/-- The name of the other schema in the letter case of neither of its entries. -/
def withoutAudit : Settings := { Settings.standard with excludedSchemas := ["audit"] }

/-- As it stands, the other schema keeps the database from being inspected. Left out, it might as
well be empty. -/
theorem inspect_excluded_ledger :
    (∃ e, (run (inspect brokenLedger.catalog .standard) [] default).result = .error e) ∧
      ∃ d, (run (inspect brokenLedger.catalog withoutAudit) [] default).result = .ok d ∧
        d.types.map ApplicationType.key = [⟨"dbo", "Account"⟩] ∧
        run (inspect (ledger [] []).catalog withoutAudit) [] default =
          run (inspect brokenLedger.catalog withoutAudit) [] default ∧
        ∀ o ∈ d.operations, brokenLedger.isExcluded ["audit"] o.schema = false := by
  obtain ⟨d, hd, hkeys⟩ :
      ∃ d, (run (inspect brokenLedger.catalog withoutAudit) [] default).result = .ok d ∧
        d.types.map ApplicationType.key = [⟨"dbo", "Account"⟩] := by
    decide +kernel
  have hfails : (run (inspect brokenLedger.catalog .standard) [] default).result.isOk = false := by
    decide +kernel
  have h := inspect_excluded brokenLedger withoutAudit [] default
  refine ⟨?_, d, hd, hkeys, h.2.1 (ledger [] []) rfl, (h.2.2 d hd).2⟩
  rw [Outcome.isError_iff]
  rintro ⟨d, hd⟩
  rw [hd] at hfails
  cases hfails

end Offline

end SchemaModel
