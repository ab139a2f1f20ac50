import SchemaModel.DropPlan
import SchemaModel.Proofs.Inspection.Offline
import SchemaModel.Proofs.Identifier.Quoting
import Mathlib.Data.List.Forall2

/-!
# `SchemaModel.Proofs.DropPlan.Difference` — what a drop plan holds

The plan between two domains has one statement for every generated operation whose name the new
domain has no operation of, and behind these one for every generated composite whose name it has no
result type of. Nothing else is dropped. Since result types are found by name, a shape made of
columns keeps a composite that is gone from being dropped.

## Contents
- **What a domain has.** `HasOperation`, `HasResultType`, and the two kinds of the latter,
  `HasComposite` and `HasShape`. `extended` is a domain with more.
- **Statements in order.** `collect_eq_ok`, `collect_isError`, `collect_sublist`.
- **The texts.** `routineText` and `typeText` are what is written for a name that is not refused;
  `typeText_inj` and `typeText_ne_routineText` tell the statements of different objects apart.
- `DropsOperation`, `DropsType`: what is to be dropped. `plan_difference`: what the plan is, that
  it is empty when nothing changed and shrinks when the new domain has more, and when it fails.
- `dropped_unless_shape`: a composite that is gone is dropped unless a shape goes by its name.
  `replaced_composite_stays` has two inspections of which the second makes such a shape.
-/

namespace SchemaModel

open Inspection Offline

/-! ## What a domain has -/

namespace Domain

/-- Some operation has a name that the engine takes for the given one. -/
def HasOperation (d : Domain) (key : TypeKey) : Prop :=
  ∃ o ∈ d.operations, d.engine.keysEqual o.key key = true

/-- Some result type has a name that the engine takes for the given one. -/
def HasResultType (d : Domain) (key : TypeKey) : Prop :=
  ∃ r ∈ d.resultTypes, d.engine.keysEqual r.key key = true

/-- Some composite of the database has such a name. -/
def HasComposite (d : Domain) (key : TypeKey) : Prop :=
  ∃ r ∈ d.resultTypes, r.isCustomType = true ∧ d.engine.keysEqual r.key key = true

/-- Some shape made of columns has such a name. -/
def HasShape (d : Domain) (key : TypeKey) : Prop :=
  ∃ r ∈ d.resultTypes, r.isCustomType = false ∧ d.engine.keysEqual r.key key = true

instance (d : Domain) (key : TypeKey) : Decidable (d.HasOperation key) :=
  inferInstanceAs (Decidable (∃ o ∈ d.operations, _))

instance (d : Domain) (key : TypeKey) : Decidable (d.HasResultType key) :=
  inferInstanceAs (Decidable (∃ r ∈ d.resultTypes, _))

instance (d : Domain) (key : TypeKey) : Decidable (d.HasComposite key) :=
  inferInstanceAs (Decidable (∃ r ∈ d.resultTypes, _ ∧ _))

theorem findOperations_isEmpty {d : Domain} {key : TypeKey} :
    (d.findOperations key).isEmpty = true ↔ ¬d.HasOperation key := by
  unfold findOperations HasOperation
  simp only [List.isEmpty_iff, List.filter_eq_nil_iff, not_exists, not_and]

theorem findResultType?_isNone {d : Domain} {key : TypeKey} :
    (d.findResultType? key).isNone = true ↔ ¬d.HasResultType key := by
  unfold findResultType? HasResultType
  simp only [Option.isNone_iff_eq_none, List.find?_eq_none, not_exists, not_and]

/-- A result type is a composite or a shape. -/
theorem hasResultType_iff {d : Domain} {key : TypeKey} :
    d.HasResultType key ↔ d.HasComposite key ∨ d.HasShape key := by
  constructor
  · rintro ⟨r, hr, hsame⟩
    cases hcustom : r.isCustomType with
    | true => exact Or.inl ⟨r, hr, hcustom, hsame⟩
    | false => exact Or.inr ⟨r, hr, hcustom, hsame⟩
  · rintro (⟨r, hr, _, hsame⟩ | ⟨r, hr, _, hsame⟩) <;> exact ⟨r, hr, hsame⟩

/-- The domain with more operations and result types. -/
def extended (d : Domain) (operations : List Operation) (resultTypes : List ResultType) : Domain :=
  { d with
    operations := d.operations ++ operations
    resultTypes := d.resultTypes ++ resultTypes }

theorem HasOperation.extended {d : Domain} {key : TypeKey} (h : d.HasOperation key)
    (operations : List Operation) (resultTypes : List ResultType) :
    (d.extended operations resultTypes).HasOperation key := by
  obtain ⟨o, ho, hsame⟩ := h
  exact ⟨o, List.mem_append_left _ ho, hsame⟩

theorem HasResultType.extended {d : Domain} {key : TypeKey} (h : d.HasResultType key)
    (operations : List Operation) (resultTypes : List ResultType) :
    (d.extended operations resultTypes).HasResultType key := by
  obtain ⟨r, hr, hsame⟩ := h
  exact ⟨r, List.mem_append_left _ hr, hsame⟩

theorem hasOperation_self {d : Domain} {o : Operation} (ho : o ∈ d.operations) :
    d.HasOperation o.key :=
  ⟨o, ho, d.engine.keysEqual_refl _⟩

theorem hasResultType_self {d : Domain} {r : ResultType} (hr : r ∈ d.resultTypes) :
    d.HasResultType r.key :=
  ⟨r, hr, d.engine.keysEqual_refl _⟩

end Domain

namespace DropPlan

/-! ## Statements in order -/

section Collect

variable {α : Type} {statement : α → Outcome String}

theorem collect_cons (x : α) (xs : List α) :
    collect statement (x :: xs) =
      statement x >>= fun sql => (collect statement xs).map (sql :: ·) := by
  rw [collect]
  cases statement x <;> rfl

theorem collect_eq_ok {xs : List α} {sqls : List String} :
    collect statement xs = .ok sqls ↔
      List.Forall₂ (fun x sql => statement x = .ok sql) xs sqls := by
  induction xs generalizing sqls with
  | nil =>
      rw [List.forall₂_nil_left_iff]
      exact ⟨fun h => (Except.ok.inj h).symm, fun h => congrArg Except.ok h.symm⟩
  | cons x rest ih =>
      rw [List.forall₂_cons_left_iff, collect_cons, Outcome.bind_eq_ok]
      constructor
      · rintro ⟨sql, hx, h⟩
        cases hrest : collect statement rest with
        | error e =>
            rw [hrest] at h
            cases h
        | ok sqls' =>
            rw [hrest] at h
            exact ⟨sql, sqls', hx, ih.1 hrest, (Except.ok.inj h).symm⟩
      · rintro ⟨sql, sqls', hx, hall, rfl⟩
        exact ⟨sql, hx, by rw [ih.2 hall]; rfl⟩

/-- The statements cannot be collected exactly when one of them cannot be made. -/
theorem collect_isError {xs : List α} :
    (∃ e, collect statement xs = .error e) ↔ ∃ x ∈ xs, ∃ e, statement x = .error e := by
  induction xs with
  | nil => exact iff_of_false nofun nofun
  | cons x rest ih =>
      rw [List.exists_mem_cons_iff, ← ih, collect_cons]
      cases statement x with
      | error e => exact iff_of_true ⟨e, rfl⟩ (Or.inl ⟨e, rfl⟩)
      | ok sql =>
          cases collect statement rest with
          | error e => exact iff_of_true ⟨e, rfl⟩ (Or.inr ⟨e, rfl⟩)
          | ok sqls => exact iff_of_false nofun fun h => h.elim nofun nofun

theorem mem_of_collect {xs : List α} {sqls : List String} {sql : String}
    (h : collect statement xs = .ok sqls) : sql ∈ sqls ↔ ∃ x ∈ xs, statement x = .ok sql := by
  rw [collect_eq_ok] at h
  induction h with
  | nil => exact iff_of_false List.not_mem_nil nofun
  | cons hx _ ih =>
      rw [List.mem_cons, List.exists_mem_cons_iff, ih, hx, Except.ok.injEq]
      exact or_congr_left eq_comm

theorem exists_of_collect {xs : List α} {sqls : List String} {x : α}
    (h : collect statement xs = .ok sqls) (hx : x ∈ xs) : ∃ sql, statement x = .ok sql := by
  by_contra hnone
  obtain ⟨e, he⟩ := collect_isError.2 ⟨x, hx, Outcome.isError_iff.2 hnone⟩
  cases h.symm.trans he

/-- With less to be dropped, the statements are some of those before, in their order. -/
theorem collect_sublist {xs ys : List α} {sqls : List String} (h : ys.Sublist xs)
    (hxs : collect statement xs = .ok sqls) :
    ∃ fewer, collect statement ys = .ok fewer ∧ fewer.Sublist sqls := by
  simp only [collect_eq_ok] at *
  induction h generalizing sqls with
  | slnil => exact ⟨[], .nil, List.nil_sublist _⟩
  | cons x _ ih =>
      cases hxs with
      | cons _ hrest =>
          obtain ⟨fewer, hall, hsub⟩ := ih hrest
          exact ⟨fewer, hall, hsub.cons _⟩
  | cons_cons x _ ih =>
      cases hxs with
      | cons hx hrest =>
          obtain ⟨fewer, hall, hsub⟩ := ih hrest
          exact ⟨_ :: fewer, .cons hx hall, hsub.cons_cons _⟩

end Collect

/-! ## The texts -/

section Texts

variable {engine : Engine} {schema name sql : String}

/-- The word for the kind of routine. -/
def keyword : RoutineKind → String
  | .function => "FUNCTION"
  | .procedure => "PROCEDURE"

/-- The argument types behind a routine's name, where the engine has overloads. -/
def argumentList (engine : Engine) (argumentTypes : List String) : String :=
  match engine with
  | .postgres => "(" ++ Text.joined ", " argumentTypes ++ ")"
  | .sqlServer => ""

/-- What drops a routine of any name. -/
def routineText (engine : Engine) (schema name : String) (kind : RoutineKind)
    (argumentTypes : List String) : String :=
  "DROP " ++ keyword kind ++ " IF EXISTS " ++ Identifier.delimited engine.marks schema name ++
    argumentList engine argumentTypes ++ ";"

/-- What drops a type of any name. -/
def typeText (engine : Engine) (schema name : String) : String :=
  "DROP TYPE IF EXISTS " ++ Identifier.delimited engine.marks schema name ++ ";"

/-- A statement around a qualified name is made unless the check refuses a part of the name. -/
theorem write_eq_ok (write : String → String) :
    (engine.qualify schema name >>= fun target => pure (write target)) = .ok sql ↔
      (¬Identifier.Refused schema ∧ ¬Identifier.Refused name) ∧
        sql = write (Identifier.delimited engine.marks schema name) := by
  unfold Engine.qualify
  rw [Outcome.bind_eq_ok]
  constructor
  · rintro ⟨_, hq, h⟩
    obtain ⟨hnames, rfl⟩ := Identifier.qualify_eq_ok.1 hq
    exact ⟨hnames, (Except.ok.inj h).symm⟩
  · rintro ⟨hnames, rfl⟩
    exact ⟨_, Identifier.qualify_eq_ok.2 ⟨hnames, rfl⟩, rfl⟩

theorem dropRoutine_eq_ok {kind : RoutineKind} {argumentTypes : List String} :
    engine.dropRoutine schema name kind argumentTypes = .ok sql ↔
      (¬Identifier.Refused schema ∧ ¬Identifier.Refused name) ∧
        sql = routineText engine schema name kind argumentTypes :=
  write_eq_ok fun target =>
    "DROP " ++ keyword kind ++ " IF EXISTS " ++ target ++ argumentList engine argumentTypes ++ ";"

theorem dropType_eq_ok :
    engine.dropType schema name = .ok sql ↔
      (¬Identifier.Refused schema ∧ ¬Identifier.Refused name) ∧
        sql = typeText engine schema name :=
  write_eq_ok fun target => "DROP TYPE IF EXISTS " ++ target ++ ";"

/-- A statement that is made unless a name is refused fails exactly when one is. -/
theorem isError_of_eq_ok {statement : Outcome String} {text : String}
    (h : ∀ {sql}, statement = .ok sql ↔
      (¬Identifier.Refused schema ∧ ¬Identifier.Refused name) ∧ sql = text) :
    (∃ e, statement = .error e) ↔ Identifier.Refused schema ∨ Identifier.Refused name := by
  rw [Outcome.isError_iff]
  simp only [h, exists_and_left, exists_eq, and_true]
  rw [not_and_or, Classical.not_not, Classical.not_not]

/-- The statement for a type names no other type. -/
theorem typeText_inj {schema' name' : String}
    (h : typeText engine schema name = typeText engine schema' name') :
    schema = schema' ∧ name = name' := by
  have hchars := congrArg String.toList h
  unfold typeText at hchars
  simp only [String.toList_append, List.append_assoc] at hchars
  have hmark : ";".toList.head? ≠ some engine.marks.closing := by cases engine <;> decide
  obtain ⟨hschema, hname, _⟩ := Identifier.delimited_append_inj Identifier.point_ne_closing
    (List.append_cancel_left hchars) hmark hmark
  exact ⟨hschema, hname⟩

/-- The statement for a type drops no routine. -/
theorem typeText_ne_routineText {schema' name' : String} {kind : RoutineKind}
    {argumentTypes : List String} :
    typeText engine schema name ≠ routineText engine schema' name' kind argumentTypes := by
  intro h
  -- The first letter behind `DROP` already differs.
  have hchars := congrArg (fun s : String => s.toList.take 6) h
  unfold typeText routineText at hchars
  cases kind <;> simp [keyword] at hchars

end Texts

/-! ## What is to be dropped -/

/-- An earlier run made the operation, and the new domain has none of its name. -/
def DropsOperation (new : Domain) (o : Operation) : Prop :=
  o.isGenerated = true ∧ ¬new.HasOperation o.key

/-- An earlier run made the composite, and the new domain has no result type of its name. -/
def DropsType (new : Domain) (r : ResultType) : Prop :=
  (r.isCustomType = true ∧ r.isGenerated = true) ∧ ¬new.HasResultType r.key

instance (new : Domain) (o : Operation) : Decidable (DropsOperation new o) :=
  inferInstanceAs (Decidable (_ ∧ _))

instance (new : Domain) (r : ResultType) : Decidable (DropsType new r) :=
  inferInstanceAs (Decidable (_ ∧ _))

variable {old new : Domain}

theorem goneOperations_eq :
    goneOperations old new = old.operations.filter (DropsOperation new) := by
  unfold goneOperations
  rw [List.filter_filter]
  refine List.filter_congr fun o _ => Bool.eq_iff_iff.2 ?_
  rw [Bool.and_eq_true, Domain.findOperations_isEmpty, decide_eq_true_iff, and_comm]
  rfl

theorem goneTypes_eq : goneTypes old new = old.resultTypes.filter (DropsType new) := by
  unfold goneTypes
  rw [List.filter_filter]
  refine List.filter_congr fun r _ => Bool.eq_iff_iff.2 ?_
  rw [Bool.and_eq_true, Bool.and_eq_true, Domain.findResultType?_isNone, decide_eq_true_iff,
    and_comm]
  rfl

theorem dropOperation_isError {engine : Engine} {o : Operation} :
    (∃ e, dropOperation engine o = .error e) ↔
      Identifier.Refused o.schema ∨ Identifier.Refused o.name :=
  isError_of_eq_ok dropRoutine_eq_ok

theorem dropResultType_isError {engine : Engine} {r : ResultType} :
    (∃ e, dropResultType engine r = .error e) ↔
      Identifier.Refused r.schema ∨ Identifier.Refused r.name :=
  isError_of_eq_ok dropType_eq_ok

/-! ## The plan -/

theorem statements_eq_ok {sqls : List String} :
    statements old new = .ok sqls ↔
      ∃ routines types, sqls = routines ++ types ∧
        collect (dropOperation new.engine) (old.operations.filter (DropsOperation new)) =
          .ok routines ∧
        collect (dropResultType new.engine) (old.resultTypes.filter (DropsType new)) =
          .ok types := by
  unfold statements
  rw [goneOperations_eq, goneTypes_eq, Outcome.bind_eq_ok]
  constructor
  · rintro ⟨routines, hroutines, h⟩
    obtain ⟨types, htypes, h⟩ := Outcome.bind_eq_ok.1 h
    exact ⟨routines, types, (Except.ok.inj h).symm, hroutines, htypes⟩
  · rintro ⟨routines, types, rfl, hroutines, htypes⟩
    exact ⟨routines, hroutines, Outcome.bind_eq_ok.2 ⟨types, htypes, rfl⟩⟩

/-- There is no plan exactly when a name in it is refused. -/
theorem statements_isError :
    (∃ e, statements old new = .error e) ↔
      (∃ o ∈ old.operations, DropsOperation new o ∧
        (Identifier.Refused o.schema ∨ Identifier.Refused o.name)) ∨
      ∃ r ∈ old.resultTypes, DropsType new r ∧
        (Identifier.Refused r.schema ∨ Identifier.Refused r.name) := by
  have hroutines :
      (∃ e, collect (dropOperation new.engine) (old.operations.filter (DropsOperation new)) =
        .error e) ↔ _ := collect_isError
  have htypes :
      (∃ e, collect (dropResultType new.engine) (old.resultTypes.filter (DropsType new)) =
        .error e) ↔ _ := collect_isError
  simp only [dropOperation_isError, dropResultType_isError, List.mem_filter, decide_eq_true_iff,
    and_assoc, Outcome.isError_iff] at hroutines htypes
  -- There is a plan exactly when both of its halves are there.
  rw [← hroutines, ← htypes, Outcome.isError_iff, ← not_and_or, not_iff_not]
  simp only [statements_eq_ok]
  constructor
  · rintro ⟨_, routines, types, _, hroutines, htypes⟩
    exact ⟨⟨routines, hroutines⟩, types, htypes⟩
  · rintro ⟨⟨routines, hroutines⟩, types, htypes⟩
    exact ⟨_, routines, types, rfl, hroutines, htypes⟩

/-- Nothing is dropped when nothing changed. -/
theorem statements_self (d : Domain) : statements d d = .ok [] := by
  have hroutines : d.operations.filter (DropsOperation d) = [] :=
    List.filter_eq_nil_iff.2 fun o ho h => (of_decide_eq_true h).2 (Domain.hasOperation_self ho)
  have htypes : d.resultTypes.filter (DropsType d) = [] :=
    List.filter_eq_nil_iff.2 fun r hr h => (of_decide_eq_true h).2 (Domain.hasResultType_self hr)
  exact statements_eq_ok.2 ⟨[], [], rfl, by rw [hroutines]; rfl, by rw [htypes]; rfl⟩

/-- With more in the new domain, some of the statements stay, in their order. -/
theorem statements_extended {sqls : List String} (h : statements old new = .ok sqls)
    (operations : List Operation) (resultTypes : List ResultType) :
    ∃ fewer, statements old (new.extended operations resultTypes) = .ok fewer ∧
      fewer.Sublist sqls := by
  obtain ⟨routines, types, rfl, hroutines, htypes⟩ := statements_eq_ok.1 h
  have hoperations := List.monotone_filter_right old.operations
    (p := DropsOperation (new.extended operations resultTypes)) (q := DropsOperation new)
    fun o h => decide_eq_true (And.imp_right (mt fun h => h.extended ..) (of_decide_eq_true h))
  have hresults := List.monotone_filter_right old.resultTypes
    (p := DropsType (new.extended operations resultTypes)) (q := DropsType new)
    fun r h => decide_eq_true (And.imp_right (mt fun h => h.extended ..) (of_decide_eq_true h))
  obtain ⟨routines', hroutines', hsubRoutines⟩ := collect_sublist hoperations hroutines
  obtain ⟨types', htypes', hsubTypes⟩ := collect_sublist hresults htypes
  exact ⟨routines' ++ types', statements_eq_ok.2 ⟨routines', types', rfl, hroutines', htypes'⟩,
    hsubRoutines.append hsubTypes⟩

/-- A plan has the statement of every operation that is to be dropped, in their order, and then
that of every type. It is empty when nothing changed, it gets no longer when the new domain has
more, and it fails exactly when a name in it is refused. -/
theorem plan_difference (old new : Domain) :
    (∀ sqls, statements old new = .ok sqls →
      (∃ routines types, sqls = routines ++ types ∧
        List.Forall₂ (fun o sql => dropOperation new.engine o = .ok sql)
          (old.operations.filter (DropsOperation new)) routines ∧
        List.Forall₂ (fun r sql => dropResultType new.engine r = .ok sql)
          (old.resultTypes.filter (DropsType new)) types) ∧
      ∀ operations resultTypes, ∃ fewer,
        statements old (new.extended operations resultTypes) = .ok fewer ∧ fewer.Sublist sqls) ∧
    (∀ d, statements d d = .ok []) ∧
    ((∃ e, statements old new = .error e) ↔
      (∃ o ∈ old.operations, DropsOperation new o ∧
        (Identifier.Refused o.schema ∨ Identifier.Refused o.name)) ∨
      ∃ r ∈ old.resultTypes, DropsType new r ∧
        (Identifier.Refused r.schema ∨ Identifier.Refused r.name)) := by
  refine ⟨fun sqls h => ⟨?_, statements_extended h⟩, statements_self, statements_isError⟩
  obtain ⟨routines, types, hsqls, hroutines, htypes⟩ := statements_eq_ok.1 h
  exact ⟨routines, types, hsqls, collect_eq_ok.1 hroutines, collect_eq_ok.1 htypes⟩

/-- Two overloads and a composite that an earlier run made, and a function that it did not make. -/
def noteLists : CatalogSnapshot where
  engine := .postgres
  tables := []
  routines :=
    [⟨"public", "note_list", some "note_list_1", .function, some "public.note", true, none,
      some "\x7b\"generated\": true\x7d", [⟨"id", "integer", none, false, false, false⟩], []⟩,
     ⟨"public", "note_count", none, .function, some "integer", false, none, none, [], []⟩,
     ⟨"public", "note_list", some "note_list_2", .function, some "public.note", true, none,
      some "\x7b\"generated\": true\x7d", [⟨"author", "text", none, false, false, false⟩], []⟩]
  userTypes :=
    [⟨"public", "note", .composite, none, some "\x7b\"generated\": true\x7d",
      [⟨"id", 1, "integer", false, none⟩, ⟨"body", 2, "text", false, none⟩]⟩]

theorem plan_difference_overloads :
    ∃ old, (run (inspect noteLists.catalog .standard) [] default).result = .ok old ∧
      ∃ sqls, statements old (.blank .postgres .snakeCase "public") = .ok sqls ∧
        sqls = ["DROP FUNCTION IF EXISTS \"public\".\"note_list\"(integer);",
          "DROP FUNCTION IF EXISTS \"public\".\"note_list\"(text);",
          "DROP TYPE IF EXISTS \"public\".\"note\";"] ∧
        ∃ fewer, statements old ((Domain.blank .postgres .snakeCase "public").extended
            (old.operations.take 1) []) = .ok fewer ∧ fewer.Sublist sqls := by
  obtain ⟨old, hold, hsqls⟩ :
      ∃ old, (run (inspect noteLists.catalog .standard) [] default).result = .ok old ∧
        statements old (.blank .postgres .snakeCase "public") =
          .ok ["DROP FUNCTION IF EXISTS \"public\".\"note_list\"(integer);",
            "DROP FUNCTION IF EXISTS \"public\".\"note_list\"(text);",
            "DROP TYPE IF EXISTS \"public\".\"note\";"] := by
    decide +kernel
  exact ⟨old, hold, _, hsqls, rfl, ((plan_difference old _).1 _ hsqls).2 _ _⟩

/-! ## Composites behind shapes -/

/-- A statement for a type of some name is there for a type of that name that is to be dropped. -/
theorem dropsType_of_mem {sqls : List String} {schema name : String}
    (h : statements old new = .ok sqls) (hsql : typeText new.engine schema name ∈ sqls) :
    ∃ r ∈ old.resultTypes, DropsType new r ∧ r.key = ⟨schema, name⟩ := by
  obtain ⟨routines, types, rfl, hroutines, htypes⟩ := statements_eq_ok.1 h
  rw [List.mem_append, mem_of_collect hroutines, mem_of_collect htypes] at hsql
  rcases hsql with ⟨o, _, ho⟩ | ⟨r, hr, hsql⟩
  · exact absurd (dropRoutine_eq_ok.1 ho).2 typeText_ne_routineText
  · obtain ⟨hmem, hdrops⟩ := List.mem_filter.1 hr
    obtain ⟨rfl, rfl⟩ := typeText_inj (dropType_eq_ok.1 hsql).2
    exact ⟨r, hmem, of_decide_eq_true hdrops, rfl⟩

theorem statement_of_dropsType {sqls : List String} {r : ResultType}
    (h : statements old new = .ok sqls) (hr : r ∈ old.resultTypes) (hdrops : DropsType new r) :
    ∃ sql ∈ sqls, dropResultType new.engine r = .ok sql := by
  obtain ⟨_, types, rfl, _, htypes⟩ := statements_eq_ok.1 h
  have hfiltered : r ∈ old.resultTypes.filter (DropsType new) :=
    List.mem_filter.2 ⟨hr, decide_eq_true hdrops⟩
  obtain ⟨sql, hsql⟩ := exists_of_collect htypes hfiltered
  exact ⟨sql, List.mem_append_right _ ((mem_of_collect htypes).2 ⟨r, hfiltered, hsql⟩), hsql⟩

/-- A generated composite of the old domain that the new one has no composite for is dropped unless
the new domain has a shape made of columns that goes by its name. -/
theorem dropped_unless_shape {sqls : List String} {r : ResultType}
    (h : statements old new = .ok sqls) (hr : r ∈ old.resultTypes)
    (hmade : r.isCustomType = true ∧ r.isGenerated = true) (hgone : ¬new.HasComposite r.key) :
    (∃ sql ∈ sqls, dropResultType new.engine r = .ok sql) ↔ ¬new.HasShape r.key := by
  have hdrops : DropsType new r ↔ ¬new.HasShape r.key := by
    unfold DropsType
    rw [Domain.hasResultType_iff, or_iff_right hgone, and_iff_right hmade]
  rw [← hdrops]
  constructor
  · rintro ⟨sql, hsql, htext⟩
    rw [(dropType_eq_ok.1 htext).2] at hsql
    obtain ⟨r', _, ⟨_, hgone'⟩, (hkey : r'.key = r.key)⟩ := dropsType_of_mem h hsql
    exact ⟨hmade, hkey ▸ hgone'⟩
  · exact statement_of_dropsType h hr

/-- The old domain has a generated composite, and the new one has none of its name. -/
def LosesComposite (old new : Domain) : Prop :=
  ∃ r ∈ old.resultTypes, (r.isCustomType = true ∧ r.isGenerated = true) ∧ ¬new.HasComposite r.key

instance (old new : Domain) : Decidable (LosesComposite old new) :=
  inferInstanceAs (Decidable (∃ r ∈ old.resultTypes, _))

/-- A function that returns rows of a composite that an earlier run made. -/
def reportBefore : CatalogSnapshot where
  engine := .postgres
  tables := []
  routines :=
    [⟨"public", "report", none, .function, some "public.report_result", true, none, none, [], []⟩]
  userTypes :=
    [⟨"public", "report_result", .composite, none, some "\x7b\"generated\": true\x7d",
      [⟨"id", 1, "integer", false, none⟩, ⟨"name", 2, "text", false, none⟩]⟩]

/-- The composite is gone, and the function returns columns instead. -/
def reportAfter : CatalogSnapshot where
  engine := .postgres
  tables := []
  routines :=
    [⟨"public", "report", none, .function, some "record", true, none, none, [],
      [⟨"id", 1, "integer", false, none⟩, ⟨"name", 2, "text", false, none⟩]⟩]
  userTypes := []

/-- Nothing is dropped, since the columns go by the name of the composite. -/
theorem replaced_composite_stays :
    ∃ old new, (run (inspect reportBefore.catalog .standard) [] default).result = .ok old ∧
      (run (inspect reportAfter.catalog .standard) [] default).result = .ok new ∧
      old.engine = new.engine ∧ statements old new = .ok [] ∧ LosesComposite old new := by
  obtain ⟨old, hold, new, hnew, hlost⟩ :
      ∃ old, (run (inspect reportBefore.catalog .standard) [] default).result = .ok old ∧
        ∃ new, (run (inspect reportAfter.catalog .standard) [] default).result = .ok new ∧
          old.engine = new.engine ∧ statements old new = .ok [] ∧ LosesComposite old new := by
    decide +kernel
  exact ⟨old, new, hold, hnew, hlost⟩

/-- Without the function, the composite is dropped. -/
theorem composite_dropped_without_shape :
    ∃ old sqls, (run (inspect reportBefore.catalog .standard) [] default).result = .ok old ∧
      statements old (.blank .postgres .snakeCase "public") = .ok sqls ∧
      ∃ r ∈ old.resultTypes, (r.isCustomType = true ∧ r.isGenerated = true) ∧
        ¬(Domain.blank .postgres .snakeCase "public").HasComposite r.key ∧
        ∃ sql ∈ sqls, dropResultType .postgres r = .ok sql := by
  obtain ⟨old, hold, hsqls, r, hr, hmade, hgone⟩ :
      ∃ old, (run (inspect reportBefore.catalog .standard) [] default).result = .ok old ∧
        statements old (.blank .postgres .snakeCase "public") =
          .ok ["DROP TYPE IF EXISTS \"public\".\"report_result\";"] ∧
        LosesComposite old (.blank .postgres .snakeCase "public") := by
    decide +kernel
  exact ⟨old, _, hold, hsqls, r, hr, hmade, hgone,
    (dropped_unless_shape hsqls hr hmade hgone).2 nofun⟩

end DropPlan

end SchemaModel
