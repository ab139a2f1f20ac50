import SchemaModel.Proofs.CommandLine.Disk
import SchemaModel.Proofs.DropPlan.Execution
import SchemaModel.Proofs.Model.DomainSnapshot

/-!
# `SchemaModel.Proofs.CommandLine.Keeping` — when a domain is kept

A domain is kept for a later comparison, so a command that fails must not take the place of what was
kept before. Whatever can fail comes first: reading, inspecting, planning and running statements.

## Contents
- `Inspects`: the configuration loads, the catalog opens and its inspection gives a domain.
- `Ready`: the domain that a task wants to keep, and the statements that it has run by then.
- `inspectPlan_cases`, `dropPlan_cases`: a plan is made of what is ready, or it fails and keeps
  nothing.
- `Kept`: a snapshot was written and can be loaded, and nothing else has changed.
- `KeepsLast`: what a command line does to the disk. `kept_last`: every command line does so, and
  every catalog is dropped from in order.
-/

namespace SchemaModel

open Inspection

theorem Fault.exitCode_ne_zero (e : Fault) : e.exitCode ≠ 0 := by
  cases e <;> exact nofun

namespace CommandLine

/-! ## Plans on a disk -/

theorem Plan.exitCode_settle_eq_zero {p : Plan} :
    (p.settle (.ok ())).exitCode = 0 ↔ p.fault = none := by
  unfold Plan.settle Report.exitCode
  cases p.fault with
  | none => exact iff_of_true rfl rfl
  | some e => exact iff_of_false e.exitCode_ne_zero nofun

namespace Disk

variable {disk after : Disk} {path text : String} {p : Plan}

theorem settle_nothing (h : p.keep = none) : disk.settle p = (p.settle (.ok ()), disk) := by
  unfold settle
  rw [h]

theorem settle_written (h : p.keep = some (path, text))
    (hwrite : disk.write path text = .ok after) : disk.settle p = (p.settle (.ok ()), after) := by
  unfold settle
  rw [h]
  dsimp only
  rw [hwrite]

theorem settle_refused {reason : String} (h : p.keep = some (path, text))
    (hwrite : disk.write path text = .error reason) :
    disk.settle p = (p.settle (.error reason), disk) := by
  unfold settle
  rw [h]
  dsimp only
  rw [hwrite]

/-- The disk stays as it is unless a plan without a fault was carried out. -/
theorem settle_failed (hclean : p.keep ≠ none → p.fault = none)
    (h : (disk.settle p).1.exitCode ≠ 0) : (disk.settle p).2 = disk := by
  cases hkeep : p.keep with
  | none => rw [settle_nothing hkeep]
  | some kept =>
      obtain ⟨path, text⟩ := kept
      cases hwrite : disk.write path text with
      | ok after =>
          rw [settle_written hkeep hwrite] at h
          have hfault : p.fault = none := hclean (hkeep ▸ nofun)
          exact absurd (Plan.exitCode_settle_eq_zero.2 hfault) h
      | error reason => rw [settle_refused hkeep hwrite]

end Disk

/-! ## What a task wants to keep -/

/-- The file in which a task keeps the domain, if any. -/
def Task.snapshot? : Task → Option String
  | .inspect snapshot _ => snapshot
  | .dropGenerated _ snapshot _ => snapshot
  | .healthCheck => none

/-- The configuration without a type filter. -/
def unfiltered (configuration : Configuration) : Configuration :=
  { configuration with generation := { configuration.generation with typeFilter := none } }

/-- The configuration loads, with the type filter in the place of its own, the catalog that it names
opens, and its inspection without any filter gives the domain. -/
structure Inspects (c : Circumstances) (i : Invocation) (filter : Option String)
    (configuration : Configuration) (catalog : CatalogSnapshot) (d : Domain) : Prop where
  loads : ∃ loaded, c.configuration i.configuration = .ok loaded ∧
    withTypeFilter loaded filter = configuration
  opens : configuration.database.openCatalog c.files = .ok catalog
  gives : (inspected (unfiltered configuration) catalog).result = .ok d

/-- The domain that a task wants to keep once nothing has failed, with the configuration it comes
from and the statements that were run by then. -/
inductive Ready (c : Circumstances) (i : Invocation) :
    Configuration → Domain → List String → Prop where
  | inspected {snapshot filter : Option String} {configuration : Configuration}
      {catalog : CatalogSnapshot} {d : Domain} (htask : i.task = .inspect snapshot filter)
      (hd : Inspects c i filter configuration catalog d)
      (hselected : ∀ name, configuration.generation.typeFilter = some name →
        ∃ t ∈ d.types, d.selects name t = true) :
      Ready c i configuration d []
  | planned {previous : String} {snapshot : Option String} {old : DomainSnapshot}
      {configuration : Configuration} {catalog : CatalogSnapshot} {d : Domain} {sqls : List String}
      (htask : i.task = .dropGenerated previous snapshot false)
      (hold : c.domainSnapshot previous = .ok old)
      (hd : Inspects c i none configuration catalog d)
      (hplan : DropPlan.statements old.domain d = .ok sqls) :
      Ready c i configuration d []
  | dropped {previous : String} {snapshot : Option String} {old : DomainSnapshot}
      {configuration : Configuration} {catalog : CatalogSnapshot} {d : Domain}
      {sqls executed : List String} (htask : i.task = .dropGenerated previous snapshot true)
      (hold : c.domainSnapshot previous = .ok old)
      (hd : Inspects c i none configuration catalog d)
      (hplan : DropPlan.statements old.domain d = .ok sqls)
      (hrun : catalog.catalog.Executes [] sqls executed) :
      Ready c i configuration d executed

/-- The plan keeps a snapshot in the file that is named, if one is, and ends without a fault. -/
structure Plan.Keeps (p : Plan) (snapshot : Option String) (s : DomainSnapshot)
    (executed : List String) : Prop where
  keep : p.keep = keepIn snapshot s
  executed : p.executed = executed
  fault : p.fault = none

section Plans

variable {c : Circumstances} {i : Invocation} {configuration : Configuration}
  {catalog : CatalogSnapshot} {d : Domain} {filter snapshot : Option String} {previous : String}
  {execute : Bool} {old : DomainSnapshot}

theorem Inspects.result (h : Inspects c i filter configuration catalog d) :
    (inspected configuration catalog).result = .ok d := h.gives

theorem inspected_executed : (inspected configuration catalog).catalog = [] :=
  Offline.inspect_executed

theorem typesForGeneration_isOk :
    (∃ selected, d.typesForGeneration filter = .ok selected) ↔
      ∀ name, filter = some name → ∃ t ∈ d.types, d.selects name t = true := by
  unfold Domain.typesForGeneration
  cases filter with
  | none => exact iff_of_true ⟨_, rfl⟩ nofun
  | some name =>
      dsimp only
      cases hempty : (d.types.filter (d.selects name)).isEmpty with
      | true =>
          rw [List.isEmpty_iff, List.filter_eq_nil_iff] at hempty
          refine iff_of_false nofun fun h => ?_
          obtain ⟨t, ht, hselects⟩ := h name rfl
          exact hempty t ht hselects
      | false =>
          refine iff_of_true ⟨_, rfl⟩ fun _ hname => ?_
          cases hname
          obtain ⟨t, ht⟩ := List.exists_mem_of_ne_nil _ (List.isEmpty_eq_false_iff.1 hempty)
          exact ⟨t, List.mem_filter.1 ht⟩

/-- What an inspection comes to once the filter has selected something. -/
theorem inspectPlan_ready {selected : List ApplicationType}
    (h : Inspects c i filter configuration catalog d)
    (hselected : d.typesForGeneration configuration.generation.typeFilter = .ok selected) :
    (Plan.ofOutcome (inspectPlan c i snapshot filter)).Keeps snapshot
      (snapshotOf c configuration d) [] := by
  obtain ⟨loaded, hloads, rfl⟩ := h.loads
  simp only [inspectPlan, hloads, h.opens, h.result, hselected, inspected_executed, bind,
    Except.bind]
  exact ⟨rfl, rfl, rfl⟩

/-- An inspection has something to keep, or it fails. -/
theorem inspectPlan_cases (c : Circumstances) (i : Invocation)
    (snapshot filter : Option String) :
    (∃ configuration catalog d selected, Inspects c i filter configuration catalog d ∧
      d.typesForGeneration configuration.generation.typeFilter = .ok selected) ∨
    ∃ log e, Plan.ofOutcome (inspectPlan c i snapshot filter) = .failed log [] e := by
  unfold inspectPlan
  cases hloads : c.configuration i.configuration with
  | error e => exact .inr ⟨[], e, rfl⟩
  | ok loaded =>
      cases hopens : (withTypeFilter loaded filter).database.openCatalog c.files with
      | error e =>
          refine .inr ⟨[], e, ?_⟩
          simp only [hopens, bind, Except.bind]
          rfl
      | ok catalog =>
          simp only [hopens, bind, Except.bind, inspected_executed]
          cases hgives : (inspected (withTypeFilter loaded filter) catalog).result with
          | error e => exact .inr ⟨_, e, rfl⟩
          | ok d =>
              dsimp only
              cases hselected :
                  d.typesForGeneration (withTypeFilter loaded filter).generation.typeFilter with
              | error e => exact .inr ⟨_, e, rfl⟩
              | ok selected =>
                  exact .inl ⟨_, catalog, d, selected, ⟨⟨loaded, hloads, rfl⟩, hopens, hgives⟩,
                    hselected⟩

/-- What dropping comes to once the statements were made, and run if they are to be. -/
theorem dropPlan_ready {sqls executed : List String}
    (hold : c.domainSnapshot previous = .ok old)
    (h : Inspects c i none configuration catalog d)
    (hdrop : dropStatements catalog execute old.domain d [] = (.ok sqls, executed)) :
    (Plan.ofOutcome (dropPlan c i previous snapshot execute)).Keeps snapshot
      (snapshotOf c configuration d) executed := by
  obtain ⟨loaded, hloads, hsame⟩ := h.loads
  have hsame : loaded = configuration := hsame
  subst hsame
  simp only [dropPlan, hloads, hold, h.opens, h.result, hdrop, inspected_executed, bind,
    Except.bind]
  exact ⟨rfl, rfl, rfl⟩

/-- Dropping has something to keep, or it fails. -/
theorem dropPlan_cases (c : Circumstances) (i : Invocation) (previous : String)
    (snapshot : Option String) (execute : Bool) :
    (∃ old configuration catalog d sqls executed, c.domainSnapshot previous = .ok old ∧
      Inspects c i none configuration catalog d ∧
      dropStatements catalog execute old.domain d [] = (.ok sqls, executed)) ∨
    ∃ log executed e, (execute = false → executed = []) ∧
      Plan.ofOutcome (dropPlan c i previous snapshot execute) = .failed log executed e := by
  unfold dropPlan
  cases hloads : c.configuration i.configuration with
  | error e => exact .inr ⟨[], [], e, fun _ => rfl, rfl⟩
  | ok configuration =>
      cases hold : c.domainSnapshot previous with
      | error e => exact .inr ⟨[], [], e, fun _ => rfl, rfl⟩
      | ok old =>
          cases hopens : configuration.database.openCatalog c.files with
          | error e =>
              refine .inr ⟨[], [], e, fun _ => rfl, ?_⟩
              simp only [hopens, bind, Except.bind]
              rfl
          | ok catalog =>
              simp only [hopens, bind, Except.bind, inspected_executed]
              cases hgives : (inspected configuration catalog).result with
              | error e => exact .inr ⟨_, [], e, fun _ => rfl, rfl⟩
              | ok d =>
                  dsimp only
                  rcases hdrop : dropStatements catalog execute old.domain d [] with
                    ⟨e | sqls, executed⟩
                  · refine .inr ⟨_, executed, e, fun hnot => ?_, rfl⟩
                    rw [hnot] at hdrop
                    exact (congrArg Prod.snd hdrop).symm
                  · exact .inl ⟨old, configuration, catalog, d, sqls, executed, rfl,
                      ⟨⟨configuration, hloads, rfl⟩, hopens, hgives⟩, hdrop⟩

/-- A check of the database keeps nothing and runs nothing. -/
theorem healthPlan_idle (c : Circumstances) (i : Invocation) :
    (Plan.ofOutcome (healthPlan c i)).keep = none ∧
      (Plan.ofOutcome (healthPlan c i)).executed = [] := by
  unfold healthPlan
  cases c.configuration i.configuration with
  | error e => exact ⟨rfl, rfl⟩
  | ok loaded =>
      simp only [bind, Except.bind]
      cases loaded.database.openCatalog c.files with
      | error e => exact ⟨rfl, rfl⟩
      | ok catalog => exact ⟨rfl, rfl⟩

/-! ## Plans of a task -/

variable {executed : List String}

/-- What is ready is kept. -/
theorem Ready.keeps (h : Ready c i configuration d executed) :
    (i.plan c).Keeps i.task.snapshot? (snapshotOf c configuration d) executed := by
  unfold Invocation.plan
  cases h with
  | inspected htask hd hselected =>
      obtain ⟨selected, hselected⟩ := typesForGeneration_isOk.2 hselected
      rw [htask]
      exact inspectPlan_ready hd hselected
  | planned htask hold hd hplan =>
      rw [htask]
      exact dropPlan_ready hold hd (congrArg (·, []) hplan)
  | dropped htask hold hd hplan hrun =>
      rw [htask]
      exact dropPlan_ready hold hd (DropPlan.dropGenerated_eq_ok.2 ⟨hplan, hrun⟩)

/-- Either something is ready, or nothing is kept. Then the plan fails unless its task inspects
nothing, and no statement was run unless the task is told to run them. -/
theorem plan_cases (c : Circumstances) (i : Invocation) :
    (∃ configuration d executed, Ready c i configuration d executed) ∨
    (i.plan c).keep = none ∧ (i.task ≠ .healthCheck → (i.plan c).fault ≠ none) ∧
      ((∀ previous snapshot, i.task ≠ .dropGenerated previous snapshot true) →
        (i.plan c).executed = []) := by
  unfold Invocation.plan
  cases hi : i.task with
  | healthCheck =>
      obtain ⟨hkeep, hexecuted⟩ := healthPlan_idle c i
      exact .inr ⟨hkeep, fun h => absurd rfl h, fun _ => hexecuted⟩
  | inspect snapshot filter =>
      rcases inspectPlan_cases c i snapshot filter with
        ⟨configuration, catalog, d, selected, hd, hselected⟩ | ⟨log, e, hfailed⟩
      · exact .inl ⟨_, _, _, .inspected hi hd (typesForGeneration_isOk.1 ⟨selected, hselected⟩)⟩
      · dsimp only
        rw [hfailed]
        exact .inr ⟨rfl, fun _ => nofun, fun _ => rfl⟩
  | dropGenerated previous snapshot execute =>
      rcases dropPlan_cases c i previous snapshot execute with
        ⟨old, configuration, catalog, d, sqls, executed, hold, hd, hdrop⟩ |
          ⟨log, executed, e, hquiet, hfailed⟩
      · cases execute with
        | false => exact .inl ⟨_, _, _, .planned hi hold hd (congrArg Prod.fst hdrop)⟩
        | true =>
            obtain ⟨hplan, hrun⟩ := DropPlan.dropGenerated_eq_ok.1 hdrop
            exact .inl ⟨_, _, _, .dropped hi hold hd hplan hrun⟩
      · dsimp only
        rw [hfailed]
        refine .inr ⟨rfl, fun _ => nofun, fun hnot => hquiet ?_⟩
        cases execute with
        | false => rfl
        | true => exact absurd rfl (hnot previous snapshot)

/-- A plan that keeps something ends without a fault. -/
theorem plan_clean (c : Circumstances) (i : Invocation) (h : (i.plan c).keep ≠ none) :
    (i.plan c).fault = none := by
  rcases plan_cases c i with ⟨configuration, d, executed, hready⟩ | ⟨hkeep, _⟩
  · exact hready.keeps.fault
  · exact absurd hkeep h

theorem plan_unasked (c : Circumstances) (i : Invocation) (h : i.task.snapshot? = none) :
    (i.plan c).keep = none := by
  rcases plan_cases c i with ⟨configuration, d, executed, hready⟩ | ⟨hkeep, _⟩
  · rw [hready.keeps.keep, h]
    rfl
  · exact hkeep

theorem plan_executed (c : Circumstances) (i : Invocation)
    (h : ∀ previous snapshot, i.task ≠ .dropGenerated previous snapshot true) :
    (i.plan c).executed = [] := by
  rcases plan_cases c i with ⟨configuration, d, executed, hready⟩ | ⟨_, _, hquiet⟩
  · rw [hready.keeps.executed]
    cases hready with
    | inspected _ _ _ => rfl
    | planned _ _ _ _ => rfl
    | dropped htold _ _ _ _ => exact absurd htold (h _ _)
  · exact hquiet h

end Plans

/-! ## Command lines -/

/-- The snapshot was kept in the file, and nothing else on the disk has changed. Who loads the file
gets the snapshot back, if it is within the limits of such texts. -/
structure Kept (before : Disk) (path : String) (s : DomainSnapshot) (after : Disk) : Prop where
  wrote : before.Wrote path s.toText after
  loads : before.place? path ≠ some Disk.sink → s.Fits → s.WithinLimits →
    ∀ (c : Circumstances) (same : String), c.files = after.read →
      before.place? same = before.place? path → c.domainSnapshot same = .ok s

/-- What a command line does to the disk on which it runs. When it names a file that can be written,
the whole domain is kept there exactly when it is ready; a command line that fails or names no file
leaves the disk as it is. Statements are run only when they are to be. -/
structure KeepsLast (disk : Disk) (now : Time.Instant) (words : List String) : Prop where
  written : ∀ i path, Request.ofWords? words = some (.perform i) →
    i.task.snapshot? = some path → disk.Writable path →
    ∀ configuration d executed, Ready (disk.circumstances now) i configuration d executed →
      (disk.run now words).1.exitCode = 0 ∧
      Kept disk path ⟨configuration.digest, now, d⟩ (disk.run now words).2
  refused : ∀ i path, Request.ofWords? words = some (.perform i) →
    i.task.snapshot? = some path →
    (disk.Writable path →
      ∀ configuration d executed, ¬Ready (disk.circumstances now) i configuration d executed) →
      (disk.run now words).1.exitCode ≠ 0
  untouched : (disk.run now words).1.exitCode ≠ 0 → (disk.run now words).2 = disk
  unasked : (∀ i, Request.ofWords? words = some (.perform i) → i.task.snapshot? = none) →
    (disk.run now words).2 = disk
  executed : ∀ i, Request.ofWords? words = some (.perform i) →
    (∀ configuration d executed, Ready (disk.circumstances now) i configuration d executed →
      (i.plan (disk.circumstances now)).executed = executed) ∧
    ((∀ previous snapshot, i.task ≠ .dropGenerated previous snapshot true) →
      (i.plan (disk.circumstances now)).executed = [])

section Runs

variable {disk after : Disk} {now : Time.Instant} {words : List String} {i : Invocation}
  {path : String} {s : DomainSnapshot}

/-- Whatever was written by the disk's own writing is kept. -/
theorem kept_of_write (h : disk.write path s.toText = .ok after) : Kept disk path s after where
  wrote := Disk.wrote h
  loads hsink hfits hlimits c same hfiles hsame := by
    have hread : c.files.text same = .ok s.toText := by
      rw [Files.text, hfiles, (Disk.wrote h).text hsink same hsame]
    simp only [Circumstances.domainSnapshot, hread, bind, Except.bind]
    exact DomainSnapshot.ofText_toText hfits hlimits

theorem run_perform (h : Request.ofWords? words = some (.perform i)) :
    disk.run now words = (.ofReport (disk.settle (i.plan (disk.circumstances now))).1,
      (disk.settle (i.plan (disk.circumstances now))).2) := by
  unfold Disk.run
  rw [h]

/-- A command line that asks for no task leaves the disk as it is. -/
theorem run_idle (h : ∀ i, Request.ofWords? words ≠ some (.perform i)) :
    (disk.run now words).2 = disk := by
  unfold Disk.run
  cases hwords : Request.ofWords? words with
  | none => rfl
  | some request =>
      cases request with
      | perform i => exact absurd hwords (h i)
      | help => rfl
      | version => rfl

end Runs

theorem keepsLast (disk : Disk) (now : Time.Instant) (words : List String) :
    KeepsLast disk now words where
  written i path hi hpath hwritable configuration d executed hready := by
    obtain ⟨after, hwrite⟩ :=
      (Disk.write_isOk (snapshotOf (disk.circumstances now) configuration d).toText).2 hwritable
    have hkeeps := hready.keeps
    have hkeep : (i.plan (disk.circumstances now)).keep =
        some (path, (snapshotOf (disk.circumstances now) configuration d).toText) := by
      rw [hkeeps.keep, hpath]
      rfl
    rw [run_perform hi, Disk.settle_written hkeep hwrite]
    exact ⟨Plan.exitCode_settle_eq_zero.2 hkeeps.fault, kept_of_write hwrite⟩
  refused i path hi hpath hnone := by
    have htask : i.task ≠ .healthCheck := by
      intro htask
      rw [htask] at hpath
      cases hpath
    rw [run_perform hi]
    rcases plan_cases (disk.circumstances now) i with
      ⟨configuration, d, executed, hready⟩ | ⟨hkeep, hfault, _⟩
    · -- Something is ready, so the path cannot be written.
      obtain ⟨reason, hwrite⟩ := Disk.write_refused
        (snapshotOf (disk.circumstances now) configuration d).toText
        fun hwritable => hnone hwritable configuration d executed hready
      have hkeep := hready.keeps.keep
      rw [hpath] at hkeep
      rw [Disk.settle_refused hkeep hwrite]
      exact (Fault.io reason).exitCode_ne_zero
    · rw [Disk.settle_nothing hkeep]
      exact mt Plan.exitCode_settle_eq_zero.1 (hfault htask)
  untouched h := by
    by_cases hidle : ∀ i, Request.ofWords? words ≠ some (.perform i)
    · exact run_idle hidle
    · obtain ⟨i, hi⟩ := not_forall_not.1 hidle
      rw [run_perform hi] at h ⊢
      exact Disk.settle_failed (plan_clean _ i) h
  unasked h := by
    by_cases hidle : ∀ i, Request.ofWords? words ≠ some (.perform i)
    · exact run_idle hidle
    · obtain ⟨i, hi⟩ := not_forall_not.1 hidle
      rw [run_perform hi, Disk.settle_nothing (plan_unasked _ i (h i hi))]
  executed i hi :=
    ⟨fun _ _ _ hready => hready.keeps.executed, plan_executed _ i⟩

/-- Whatever the catalog, statements are dropped in order and only when all of them can be made; and
whatever the disk and the command line, a domain is kept last, when nothing can fail any more. -/
theorem kept_last :
    (∀ {σ : Type} (c : Catalog σ) (old new : Domain) (state : σ),
      DropPlan.DropsInOrder c old new state) ∧
    ∀ (disk : Disk) (now : Time.Instant) (words : List String), KeepsLast disk now words :=
  ⟨DropPlan.dropGenerated_inOrder, keepsLast⟩

/-- The snapshot as a catalog that runs a number of statements and refuses every later one. -/
def limitedCatalog (s : CatalogSnapshot) (limit : Nat) : Catalog (List String) :=
  { s.catalog with
    execute := fun sql executed =>
      if executed.length < limit then (.ok 0, executed ++ [sql]) else (.error .postgres, executed) }

/-- A disk with a database of two tables, in a folder far from home where something was kept. -/
def visits : Disk where
  home := ["home", "desk"]
  folders := []
  files :=
    [(["home", "desk", "schemaforge.yaml"],
      "database:\n  provider: memory\n  catalog_file: /srv/clinic/catalog.json\n"),
     (["srv", "clinic", "catalog.json"],
      "\x7b\"provider\":\"postgres\",\"tables\":" ++
        "[\x7b\"schema\":\"public\",\"name\":\"visit\",\"columns\":[]\x7d," ++
        "\x7b\"schema\":\"public\",\"name\":\"room\",\"columns\":[]\x7d]\x7d"),
     (["srv", "clinic", "kept.json"], "")]

/-- The command line that keeps the domain when a filter selects something. -/
def keepVisits (filter : String) : List String :=
  ["inspect", "--snapshot", "/srv/clinic/kept.json", "--type-filter", filter]

/-- The first of three statements is run and the second refused. When the filter names a table, the
whole domain can be loaded by any path to the file, and other files stay; when it names none, what
was kept before stays too. -/
theorem kept_last_visits :
    (∃ old sqls, (run (inspect DropPlan.noteLists.catalog .standard) [] default).result = .ok old ∧
      DropPlan.statements old (.blank .postgres .snakeCase "public") = .ok sqls ∧
      sqls.length = 3 ∧
      (dropGenerated (limitedCatalog DropPlan.noteLists 1) old
        (.blank .postgres .snakeCase "public") []).2 = sqls.take 1 ∧
      ¬∃ last, (limitedCatalog DropPlan.noteLists 1).Executes [] sqls last) ∧
    (∃ after s, (visits.run (.ofUnix 0 0) (keepVisits "visit")).2 = after ∧
      s.domain.types.map ApplicationType.name = ["visit", "room"] ∧
      (after.circumstances (.ofUnix 1 0)).domainSnapshot "/srv/clinic/kept.json" = .ok s ∧
      (after.circumstances (.ofUnix 1 0)).domainSnapshot "../../srv/clinic/./kept.json" =
        .ok s ∧
      after.read "/srv/clinic/catalog.json" = visits.read "/srv/clinic/catalog.json") ∧
    (visits.run (.ofUnix 0 0) (keepVisits "visitor")).2 = visits := by
  obtain ⟨hdrops, hkeeps⟩ := kept_last
  refine ⟨?_, ?_, ?_⟩
  · obtain ⟨old, hold, hsqls, hrefused, hfirst⟩ :
        ∃ old, (run (inspect DropPlan.noteLists.catalog .standard) [] default).result = .ok old ∧
          DropPlan.statements old (.blank .postgres .snakeCase "public") =
            .ok ["DROP FUNCTION IF EXISTS \"public\".\"note_list\"(integer);",
              "DROP FUNCTION IF EXISTS \"public\".\"note_list\"(text);",
              "DROP TYPE IF EXISTS \"public\".\"note\";"] ∧
          (dropGenerated (limitedCatalog DropPlan.noteLists 1) old
            (.blank .postgres .snakeCase "public") []).1.isOk = false ∧
          (dropGenerated (limitedCatalog DropPlan.noteLists 1) old
            (.blank .postgres .snakeCase "public") []).2 =
              ["DROP FUNCTION IF EXISTS \"public\".\"note_list\"(integer);"] := by
      decide +kernel
    refine ⟨old, _, hold, hsqls, rfl, hfirst, fun hall => ?_⟩
    have hdone := ((hdrops _ old _ []).complete _).2 ⟨DropPlan.statements_eq_ok_iff.1 hsqls, hall⟩
    rw [hdone] at hrefused
    cases hrefused
  · have hi : Request.ofWords? (keepVisits "visit") = some (.perform
        ⟨"schemaforge.yaml", false, "info", .inspect "/srv/clinic/kept.json" "visit"⟩) := by
      decide +kernel
    have hwritable : visits.Writable "/srv/clinic/kept.json" := by
      have hplace : Disk.absolute ["srv", "clinic", "kept.json"] = "/srv/clinic/kept.json" := by
        decide +kernel
      rw [← hplace]
      exact Disk.writable_absolute (by decide) (by decide) (by decide) (by decide +kernel)
    -- The filter names one of two tables, and the domain has both.
    obtain ⟨loaded, hloads, catalog, hopens, d, hgives, hnames, hselects, hfits, hlimits⟩ :
        ∃ loaded, (visits.circumstances (.ofUnix 0 0)).configuration "schemaforge.yaml" =
            .ok loaded ∧
          ∃ catalog, (withTypeFilter loaded "visit").database.openCatalog visits.read =
              .ok catalog ∧
            ∃ d, (inspected (unfiltered (withTypeFilter loaded "visit")) catalog).result = .ok d ∧
              d.types.map ApplicationType.name = ["visit", "room"] ∧
              (∃ t ∈ d.types, d.selects "visit" t = true) ∧
              DomainSnapshot.Fits ⟨"", .ofUnix 0 0, d⟩ ∧
              DomainSnapshot.WithinLimits
                ⟨(withTypeFilter loaded "visit").digest, .ofUnix 0 0, d⟩ := by
      decide +kernel
    obtain ⟨_, hkept⟩ := (hkeeps visits (.ofUnix 0 0) (keepVisits "visit")).written _ _ hi rfl
      hwritable _ d [] (.inspected rfl ⟨⟨loaded, hloads, rfl⟩, hopens, hgives⟩
        fun _ hname => by cases hname; exact hselects)
    refine ⟨_, ⟨(withTypeFilter loaded "visit").digest, .ofUnix 0 0, d⟩, rfl, hnames, ?_, ?_, ?_⟩
    · exact hkept.loads (by decide +kernel) hfits hlimits _ _ rfl rfl
    · exact hkept.loads (by decide +kernel) hfits hlimits _ _ rfl (by decide +kernel)
    · exact hkept.wrote.others _ (by decide +kernel)
  · exact (hkeeps visits (.ofUnix 0 0) (keepVisits "visitor")).untouched (by decide +kernel)

end CommandLine

end SchemaModel
