import SchemaModel.Proofs.Portable.Returns

/-!
# `SchemaModel.Proofs.Portable.Agreement` — where both engines tell the same about routines

What the two engines make of the routines of a portable database corresponds, with one exception:
where the words before `select` in a routine's name lead to a table with the shape of its rows, and
its annotation does not. PostgreSQL finds that table by the marker in the name. In SQL Server's
spelling there is no marker to be found, so the rows get a result type.

## Contents
- `ReturnTwins`: return shapes that correspond. `Database.OnlyMarked`: the exception.
- `returns_twins`, `returns_apart`: what a routine returns outside the exception and in it.
- `returns_agree`: whole inspections.
- `customers`: a database in which a projection of a table is told to be one by PostgreSQL alone.
-/

namespace SchemaModel.Portable

open Inspection

variable {db : Database} {r : Routine}

/-! ## Return shapes -/

/-- The returns are of one kind, and what they are about corresponds. -/
structure ReturnTwins (a b : OperationReturn) : Prop where
  kind : a.kind = b.kind
  valueType : a.valueType = b.valueType
  typeKey : Option.Rel SameKey a.typeKey b.typeKey
  multiple : a.multiple = b.multiple

/-- A routine with several columns has the shape of the table that the words before `select` in its
name lead to, and its annotation leads to no table of that shape. -/
structure Database.OnlyMarked (db : Database) (r : Routine) (t : TypeOutline) : Prop where
  several : 2 ≤ (db.shape r).length
  annotated : db.annotated? r = none
  marked : db.marked? r = some t

theorem recognized?_postgres (db : Database) (r : Routine) :
    db.recognized? .postgres r = (db.annotated? r).or (db.marked? r) := rfl

theorem recognized?_sqlServer (db : Database) (r : Routine) :
    db.recognized? .sqlServer r = db.annotated? r := Option.or_none

theorem typeReturns_twins (h : db.recognized? .postgres r = db.recognized? .sqlServer r) :
    ReturnTwins (db.typeReturns .postgres r) (db.typeReturns .sqlServer r) := by
  unfold Database.typeReturns
  rw [h]
  cases db.recognized? .sqlServer r with
  | some t => exact ⟨rfl, rfl, .some (sameKey t.name), rfl⟩
  | none => exact ⟨rfl, rfl, .some (sameKey r.resultName), rfl⟩

theorem rowReturns_twins (hrows : db.shape r ≠ []) (h : ¬∃ t, db.OnlyMarked r t) :
    ReturnTwins (db.rowReturns .postgres r) (db.rowReturns .sqlServer r) := by
  by_cases hlength : (db.shape r).length = 1
  · obtain ⟨f, hshape⟩ := List.length_eq_one_iff.1 hlength
    unfold Database.rowReturns
    rw [hshape]
    exact ⟨rfl, rfl, .none, rfl⟩
  · rw [Database.rowReturns_several hlength, Database.rowReturns_several hlength]
    apply typeReturns_twins
    rw [recognized?_postgres, recognized?_sqlServer]
    cases hannotated : db.annotated? r with
    | some t => rfl
    | none =>
        cases hmarked : db.marked? r with
        | none => rfl
        | some t =>
            have hpos := List.length_pos_iff.2 hrows
            exact absurd ⟨t, by omega, hannotated, hmarked⟩ h

/-- Where the name alone does not decide, what the engines read corresponds. -/
theorem returns_twins (hr : r ∈ db.routines) (h : ¬∃ t, db.OnlyMarked r t) :
    ReturnTwins (db.returns .postgres r) (db.returns .sqlServer r) := by
  unfold Database.returns
  cases hout : r.output with
  | values type returnsSet =>
      cases type with
      | none => exact ⟨rfl, rfl, .none, rfl⟩
      | some t => exact ⟨rfl, rfl, .none, rfl⟩
  | rows first rest declares =>
      refine rowReturns_twins ?_ h
      rw [Ne, db.shape_eq_nil hr, hout]
      exact List.cons_ne_nil first rest

/-- Where the name alone decides, it does for PostgreSQL and not for SQL Server. -/
theorem returns_apart (hr : r ∈ db.routines) {t : TypeOutline} (h : db.OnlyMarked r t) :
    db.returns .postgres r = .applicationType (keyOn .postgres t.name) !r.annotation.single ∧
      db.returns .sqlServer r =
        .customType (keyOn .sqlServer r.resultName) !r.annotation.single := by
  have hlength := h.several
  unfold Database.returns
  cases hout : r.output with
  | values type returnsSet =>
      have hnone : db.shape r = [] := by
        rw [db.shape_eq_nil hr, hout]
        rfl
      rw [hnone] at hlength
      cases hlength
  | rows first rest declares =>
      have hseveral : (db.shape r).length ≠ 1 := by omega
      dsimp only
      rw [Database.rowReturns_several hseveral, Database.rowReturns_several hseveral]
      unfold Database.typeReturns
      rw [recognized?_postgres, recognized?_sqlServer, h.annotated, h.marked]
      exact ⟨rfl, rfl⟩

/-- What PostgreSQL makes of a routine and what SQL Server makes of it. -/
structure OperationTwins (db : Database) (r : Routine) (o o' : Operation) : Prop where
  name : SameName o.name o'.name
  about : Option.Rel SameKey o.relatedType o'.relatedType
  alike : (¬∃ t, db.OnlyMarked r t) → ReturnTwins o.returns o'.returns
  apart : ∀ t, db.OnlyMarked r t →
    o.returns = .applicationType (keyOn .postgres t.name) !r.annotation.single ∧
      o'.returns = .customType (keyOn .sqlServer r.resultName) !r.annotation.single

theorem Database.Describes.twins {o o' : Operation} (h : db.Describes .postgres r o)
    (h' : db.Describes .sqlServer r o') (hr : r ∈ db.routines) : OperationTwins db r o o' := by
  constructor
  · rw [h.name, h'.name]
    exact sameName r.name
  · rw [h.related, h'.related]
    unfold Database.aboutKey?
    cases r.mentioned?.bind db.outlineNamed? with
    | none => exact .none
    | some t => exact .some (sameKey t.name)
  · rw [h.returns, h'.returns]
    exact returns_twins hr
  · rw [h.returns, h'.returns]
    intro t ht
    exact returns_apart hr ht

/-! ## Whole inspections -/

theorem exists_of_getElem? {α β : Type} {R : α → β → Prop} {xs : List α} {ys : List β}
    (h : List.Forall₂ R xs ys) {i : Nat} {x : α} (hx : xs[i]? = some x) :
    ∃ y, ys[i]? = some y ∧ R x y := by
  induction h generalizing i with
  | nil =>
      rw [List.getElem?_nil] at hx
      cases hx
  | @cons a b _ _ hab _ ih =>
      cases i with
      | zero =>
          rw [List.getElem?_cons_zero] at hx
          cases hx
          exact ⟨b, rfl, hab⟩
      | succ n => exact ih hx

/-- Both engines read a portable database, and what they make of each routine corresponds, but for
the routines that only the marker in their names leads to a table. -/
theorem returns_agree (db : Database) (settings : Settings) (executed : List String)
    (start : Domain) :
    ∃ p q : Domain,
      (run (inspect (db.snapshot .postgres).catalog (customary settings)) executed start).result =
        .ok p ∧
      (run (inspect (db.snapshot .sqlServer).catalog (customary settings)) executed start).result =
        .ok q ∧
      List.Forall₂ TypeTwins p.types q.types ∧
      p.operations.length = db.routines.length ∧ q.operations.length = db.routines.length ∧
      ∀ (i : Nat) (r : Routine), db.routines[i]? = some r →
        ∃ o o', p.operations[i]? = some o ∧ q.operations[i]? = some o' ∧
          OperationTwins db r o o' := by
  obtain ⟨p, hp, hpreached, hpall⟩ := inspect_stored db .postgres settings executed start
  obtain ⟨q, hq, hqreached, hqall⟩ := inspect_stored db .sqlServer settings executed start
  refine ⟨p, q, hp, hq, ?_, hpall.length_eq.symm, hqall.length_eq.symm, ?_⟩
  · rw [hpreached.sameTypes, hqreached.sameTypes]
    exact forall₂_views TypeOutline.twins db.outlines
  · intro i r hr
    obtain ⟨o, ho, hdescribed⟩ := exists_of_getElem? hpall hr
    obtain ⟨o', ho', hdescribed'⟩ := exists_of_getElem? hqall hr
    exact ⟨o, o', ho, ho', hdescribed.twins hdescribed' (List.mem_of_getElem? hr)⟩

/-! ## An exception -/

namespace Customers

/-- The word `customer`. -/
def customer : Word := ⟨"customer".toList, by decide, by decide, by decide⟩

/-- The word `id`. -/
def id : Word := ⟨"id".toList, by decide, by decide, by decide⟩

/-- The word `name`. -/
def name : Word := ⟨"name".toList, by decide, by decide, by decide⟩

/-- The word `all`. -/
def all : Word := ⟨"all".toList, by decide, by decide, by decide⟩

/-- Customers with an id and a name. -/
def table : Table where
  name := [customer]
  description := none
  columns :=
    [⟨[id], .integer, none, none, none, false, false, false, none⟩,
     ⟨[name], .characters, some 50, none, none, false, false, false, none⟩]
  keys := []
  foreignKeys := []
  separated := by decide
  keyColumns := by decide
  foreignColumns := by decide

/-- Both columns, as rows. -/
def rows : Output :=
  .rows ⟨[id], 1, .integer, false, none⟩ [⟨[name], 2, .characters, false, some 50⟩]
    fun _ => ⟨none, true, none⟩

/-- A routine that returns all customers, without a comment. -/
def selectAll : Routine where
  name := [customer, .select, all]
  specific := fun _ => none
  kind := fun _ => .function
  annotation := ⟨fun _ => none, none, none, false, fun _ => rfl, fun _ => rfl, fun _ => rfl⟩
  inputs := []
  output := rows

/-- A comment that names the table. -/
def comment : Engine → String
  | .postgres => "\x7b\"applicationtype\": \"customer\"\x7d"
  | .sqlServer => "\x7b\"applicationtype\": \"Customer\"\x7d"

/-- A routine that returns all customers, and says so in its comment. -/
def listAll : Routine where
  name := [all, customer]
  specific := fun _ => none
  kind := fun _ => .function
  annotation :=
    { comment := fun engine => some (comment engine)
      about := some ⟨[customer], false, fun h => nomatch h⟩
      result := none
      single := false
      saysAbout := fun engine => by cases engine <;> decide +kernel
      saysResult := fun engine => by cases engine <;> decide +kernel
      saysSingle := fun engine => by cases engine <;> decide +kernel }
  inputs := []
  output := rows

end Customers

/-- A table of customers and two routines that return all of them. -/
def customers : Database where
  tables := [Customers.table]
  separated := by decide
  targets := by decide
  routines := [Customers.selectAll, Customers.listAll]
  mentions := by decide
  routineNames := by decide
  resultNames := by decide
  columnNames := by decide
  overloads := by decide +kernel
  outputs := by decide +kernel

/-- What an engine makes of the routines of the customers. -/
def customerReturns (engine : Engine) : Option (List OperationReturn) :=
  (run (inspect (customers.snapshot engine).catalog .standard) [] default).result.toOption.map
    fun d => d.operations.map Operation.returns

/-- Where the comment names the table, both engines take the rows for its rows. Where the name alone
says it, PostgreSQL does and SQL Server does not. -/
theorem customers_differ :
    customerReturns .postgres =
        some [.applicationType ⟨"public", "customer"⟩ true,
          .applicationType ⟨"public", "customer"⟩ true] ∧
      customerReturns .sqlServer =
        some [.customType ⟨"dbo", "CustomerSelectAllResult"⟩ true,
          .applicationType ⟨"dbo", "Customer"⟩ true] := by
  decide +kernel

end SchemaModel.Portable
