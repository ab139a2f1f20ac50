import SchemaModel.Inspection.Inspector
import SchemaModel.Proofs.DropPlan.Difference

/-!
# `SchemaModel.Proofs.DropPlan.Execution` — running a drop plan

A plan is made in full before its first statement is run, and then run in order until a statement
fails. Any catalog may refuse any statement, so nothing is said about which ones succeed.

## Contents
- `Executes`: a catalog runs statements one after the other. `executeAll_eq_ok` and
  `executeAll_eq_error` say how a run over a list ends.
- `attempts`: the statements that a plan needs, with those that cannot be made.
  `statements_eq_ok_iff` and `statements_eq_error_iff` read the plan off them.
- `DropsInOrder`: what dropping does to the catalog's state. `dropGenerated_inOrder`: it always
  does.
-/

namespace SchemaModel

open Inspection

variable {σ : Type} {c : Catalog σ} {state next last : σ} {sql : String} {sqls : List String}
  {e : Fault}

/-! ## Runs over a list -/

section Reading

variable {α β : Type} {x : Reading σ α} {f : α → Reading σ β}

theorem Reading.bind_ok {a : α} (h : x state = (.ok a, next)) : (x >>= f) state = f a next := by
  show StateT.bind (m := Id) x (ExceptT.bindCont f) state = _
  unfold StateT.bind
  rw [h]
  rfl

theorem Reading.bind_error (h : x state = (.error e, next)) :
    (x >>= f) state = (.error e, next) := by
  show StateT.bind (m := Id) x (ExceptT.bindCont f) state = _
  unfold StateT.bind
  rw [h]
  rfl

end Reading

/-- The catalog runs statements one after the other, and none of them fails. -/
inductive Catalog.Executes (c : Catalog σ) : σ → List String → σ → Prop where
  | done (state : σ) : Executes c state [] state
  | step {sql : String} {rows : Nat} {rest : List String} {state next last : σ}
      (hsql : c.execute sql state = (.ok rows, next)) (hrest : Executes c next rest last) :
      Executes c state (sql :: rest) last

theorem executeAll_eq_ok :
    executeAll c sqls state = (.ok (), last) ↔ c.Executes state sqls last := by
  induction sqls generalizing state with
  | nil =>
      constructor
      · intro h
        cases h
        exact .done _
      · intro h
        cases h
        rfl
  | cons sql rest ih =>
      rcases hsql : c.execute sql state with ⟨e | rows, next⟩
      · rw [executeAll, Reading.bind_error hsql]
        refine iff_of_false nofun fun h => ?_
        cases h with
        | step hrun _ => cases hsql.symm.trans hrun
      · rw [executeAll, Reading.bind_ok hsql, ih]
        constructor
        · exact .step hsql
        · intro h
          cases h with
          | step hrun hrest =>
              cases hsql.symm.trans hrun
              exact hrest

/-- A run fails with the first statement that does, and those behind it are not run. -/
theorem executeAll_eq_error :
    executeAll c sqls state = (.error e, last) ↔
      ∃ done sql rest mid, sqls = done ++ sql :: rest ∧ c.Executes state done mid ∧
        c.execute sql mid = (.error e, last) := by
  induction sqls generalizing state with
  | nil =>
      refine iff_of_false nofun ?_
      rintro ⟨done, _, _, _, hnil, _⟩
      exact List.append_ne_nil_of_right_ne_nil done (List.cons_ne_nil _ _) hnil.symm
  | cons sql rest ih =>
      rcases hsql : c.execute sql state with ⟨e' | rows, next⟩
      · rw [executeAll, Reading.bind_error hsql]
        constructor
        · intro h
          cases h
          exact ⟨[], sql, rest, state, rfl, .done state, hsql⟩
        · rintro ⟨done, sql', rest', mid, hsqls, hdone, hfails⟩
          cases hdone with
          | done =>
              cases hsqls
              cases hsql.symm.trans hfails
              rfl
          | step hrun _ =>
              cases hsqls
              cases hsql.symm.trans hrun
      · -- The first statement succeeds, so it is one of those done in any such division.
        rw [executeAll, Reading.bind_ok hsql, ih]
        constructor
        · rintro ⟨done, sql', rest', mid, rfl, hdone, hfails⟩
          exact ⟨sql :: done, sql', rest', mid, rfl, .step hsql hdone, hfails⟩
        · rintro ⟨done, sql', rest', mid, hsqls, hdone, hfails⟩
          cases hdone with
          | done =>
              cases hsqls
              cases hsql.symm.trans hfails
          | step hrun hrest =>
              cases hsqls
              cases hsql.symm.trans hrun
              exact ⟨_, sql', rest', mid, rfl, hrest, hfails⟩

/-! ## The statements of a plan -/

namespace DropPlan

variable {old new : Domain}

/-- The statements that a plan needs, or why they cannot be made, in the order of the plan. -/
def attempts (old new : Domain) : List (Outcome String) :=
  (goneOperations old new).map (dropOperation new.engine) ++
    (goneTypes old new).map (dropResultType new.engine)

theorem collect_map {α : Type} (statement : α → Outcome String) (xs : List α) :
    collect id (xs.map statement) = collect statement xs := by
  induction xs with
  | nil => rfl
  | cons x rest ih => rw [List.map_cons, collect_cons, collect_cons, ih, id]

theorem collect_append {α : Type} {statement : α → Outcome String} (xs ys : List α) :
    collect statement (xs ++ ys) =
      collect statement xs >>= fun made => (collect statement ys).map (made ++ ·) := by
  induction xs with
  | nil =>
      show collect statement ys = (collect statement ys).map id
      cases collect statement ys <;> rfl
  | cons x rest ih =>
      rw [List.cons_append, collect_cons, collect_cons, ih]
      cases statement x with
      | error e => rfl
      | ok sql =>
          cases collect statement rest with
          | error e => rfl
          | ok made => cases collect statement ys <;> rfl

/-- Collecting fails with the first element that has no statement. -/
theorem collect_eq_error {α : Type} {statement : α → Outcome String} {xs : List α} :
    collect statement xs = .error e ↔
      ∃ before made x rest, xs = before ++ x :: rest ∧ collect statement before = .ok made ∧
        statement x = .error e := by
  constructor
  · intro h
    induction xs with
    | nil => cases h
    | cons x rest ih =>
        rw [collect_cons] at h
        cases hx : statement x with
        | error e' =>
            rw [hx] at h
            cases h
            exact ⟨[], [], x, rest, rfl, rfl, hx⟩
        | ok sql =>
            rw [hx] at h
            cases hrest : collect statement rest with
            | ok sqls =>
                rw [hrest] at h
                cases h
            | error e' =>
                rw [hrest] at h
                cases h
                obtain ⟨before, made, y, after, rfl, hmade, hy⟩ := ih hrest
                refine ⟨x :: before, sql :: made, y, after, rfl, ?_, hy⟩
                rw [collect_cons, hx, hmade]
                rfl
  · rintro ⟨before, made, x, rest, rfl, hmade, hx⟩
    rw [collect_append, hmade, collect_cons, hx]
    rfl

theorem statements_eq_collect : statements old new = collect id (attempts old new) := by
  unfold statements attempts
  rw [collect_append, collect_map, collect_map]
  cases collect (dropOperation new.engine) (goneOperations old new) with
  | error e => rfl
  | ok routines => cases collect (dropResultType new.engine) (goneTypes old new) <;> rfl

theorem collect_id_eq_ok {xs : List (Outcome String)} :
    collect id xs = .ok sqls ↔ xs = sqls.map .ok := by
  rw [collect_eq_ok, ← List.forall₂_eq_eq_eq, List.forall₂_map_right_iff]
  rfl

/-- There is a plan exactly when every statement can be made. -/
theorem statements_eq_ok_iff :
    statements old new = .ok sqls ↔ attempts old new = sqls.map .ok := by
  rw [statements_eq_collect, collect_id_eq_ok]

/-- A plan fails with the first statement that cannot be made. -/
theorem statements_eq_error_iff :
    statements old new = .error e ↔
      ∃ (made : List String) (rest : List (Outcome String)),
        attempts old new = made.map .ok ++ .error e :: rest := by
  rw [statements_eq_collect, collect_eq_error]
  constructor
  · rintro ⟨before, made, x, rest, hall, hmade, hx⟩
    cases hx
    rw [collect_id_eq_ok.1 hmade] at hall
    exact ⟨made, rest, hall⟩
  · rintro ⟨made, rest, hall⟩
    exact ⟨made.map .ok, made, .error e, rest, hall, collect_id_eq_ok.2 rfl, rfl⟩

theorem statements_isError_iff :
    (∃ e, statements old new = .error e) ↔ ∃ e, .error e ∈ attempts old new := by
  rw [statements_eq_collect, collect_isError]
  constructor
  · rintro ⟨x, hx, e, rfl⟩
    exact ⟨e, hx⟩
  · rintro ⟨e, he⟩
    exact ⟨_, he, e, rfl⟩

/-! ## Dropping -/

theorem dropGenerated_unbuilt (h : statements old new = .error e) :
    dropGenerated c old new state = (.error e, state) := by
  unfold dropGenerated
  rw [h]
  rfl

theorem dropGenerated_ok (h : statements old new = .ok sqls)
    (hrun : executeAll c sqls state = (.ok (), last)) :
    dropGenerated c old new state = (.ok sqls, last) := by
  unfold dropGenerated
  rw [h]
  exact Reading.bind_ok hrun

theorem dropGenerated_error (h : statements old new = .ok sqls)
    (hrun : executeAll c sqls state = (.error e, last)) :
    dropGenerated c old new state = (.error e, last) := by
  unfold dropGenerated
  rw [h]
  exact Reading.bind_error hrun

/-- Dropping runs nothing unless every statement can be made. Then it runs them in order up to the
first failure, and gives them back exactly when all of them succeeded. -/
structure DropsInOrder (c : Catalog σ) (old new : Domain) (state : σ) : Prop where
  unbuilt : (∃ e, .error e ∈ attempts old new) →
    ∃ (made : List String) (e : Fault) (rest : List (Outcome String)),
      attempts old new = made.map .ok ++ .error e :: rest ∧
      dropGenerated c old new state = (.error e, state)
  built : ∀ sqls, attempts old new = sqls.map .ok →
    (∃ last, c.Executes state sqls last ∧ dropGenerated c old new state = (.ok sqls, last)) ∨
    ∃ done sql rest mid e last, sqls = done ++ sql :: rest ∧ c.Executes state done mid ∧
      c.execute sql mid = (.error e, last) ∧ dropGenerated c old new state = (.error e, last)
  complete : ∀ sqls, (dropGenerated c old new state).1 = .ok sqls ↔
    attempts old new = sqls.map .ok ∧ ∃ last, c.Executes state sqls last

theorem dropGenerated_eq_ok :
    dropGenerated c old new state = (.ok sqls, last) ↔
      statements old new = .ok sqls ∧ c.Executes state sqls last := by
  cases hplan : statements old new with
  | error e =>
      rw [dropGenerated_unbuilt hplan]
      exact iff_of_false nofun fun h => nomatch h.1
  | ok planned =>
      rw [← executeAll_eq_ok]
      rcases hrun : executeAll c planned state with ⟨e | ⟨⟩, after⟩
      · rw [dropGenerated_error hplan hrun]
        refine iff_of_false nofun ?_
        rintro ⟨hsame, hall⟩
        cases hsame
        cases hrun.symm.trans hall
      · rw [dropGenerated_ok hplan hrun]
        constructor
        · intro h
          cases h
          exact ⟨rfl, hrun⟩
        · rintro ⟨hsame, hall⟩
          cases hsame
          cases hrun.symm.trans hall
          rfl

theorem dropGenerated_inOrder (c : Catalog σ) (old new : Domain) (state : σ) :
    DropsInOrder c old new state where
  unbuilt h := by
    obtain ⟨e, he⟩ := statements_isError_iff.2 h
    obtain ⟨made, rest, hall⟩ := statements_eq_error_iff.1 he
    exact ⟨made, e, rest, hall, dropGenerated_unbuilt he⟩
  built sqls h := by
    have hplan := statements_eq_ok_iff.2 h
    rcases hrun : executeAll c sqls state with ⟨e | ⟨⟩, last⟩
    · obtain ⟨done, sql, rest, mid, hsqls, hdone, hfails⟩ := executeAll_eq_error.1 hrun
      exact .inr ⟨done, sql, rest, mid, e, last, hsqls, hdone, hfails,
        dropGenerated_error hplan hrun⟩
    · exact .inl ⟨last, executeAll_eq_ok.1 hrun, dropGenerated_ok hplan hrun⟩
  complete sqls := by
    rw [← statements_eq_ok_iff]
    constructor
    · intro h
      obtain ⟨hplan, hall⟩ := dropGenerated_eq_ok.1 (Prod.ext h rfl)
      exact ⟨hplan, _, hall⟩
    · rintro ⟨hplan, last, hall⟩
      rw [dropGenerated_eq_ok.2 ⟨hplan, hall⟩]

end DropPlan

end SchemaModel
