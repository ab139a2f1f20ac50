import SchemaModel.Inspection.Progress

/-!
# `SchemaModel.Proofs.Inspection.Build` — what a step does to the domain

An inspection carries the catalog's state and a log beside the domain. No step reads the log, and a
catalog that answers without changing its state answers the same every time, so what such a step
does is a function of the domain alone. This module gives those functions a type and says when one
of them describes a step.

## Contents
- `Build`: steps over the domain alone; the domain they leave stays when they fail. `act`,
  `outcome` and `current` are its single steps.
- **Taking a run apart.** `bind_ok`/`bind_error` compute a sequence; `bind_eq_ok` finds the two runs
  that a successful sequence is made of, `bind_eq_error` the part that a failed one failed in.
- `Yields`: from a domain, a step ends with a result and a domain, whatever the log; the catalog's
  state stays. One rule for each single step, and `Yields.bind` for sequences.
-/

namespace SchemaModel

/-- Steps that may fail over the domain alone. -/
abbrev Build (α : Type) := ExceptT Fault (StateM Domain) α

namespace Build

variable {α β : Type}

/-- A change of the domain. -/
def act (f : Domain → Domain) : Build Unit := fun d => (.ok (), f d)

/-- A result that leaves the domain alone. -/
def outcome (x : Outcome α) : Build α := fun d => (x, d)

/-- The domain as it is. -/
def current : Build Domain := fun d => (.ok d, d)

/-! ## Taking a run apart -/

theorem pure_apply (a : α) (d : Domain) : (pure a : Build α) d = (.ok a, d) := rfl

theorem bind_ok {x : Build α} {f : α → Build β} {d d' : Domain} {a : α}
    (h : x d = (.ok a, d')) : (x >>= f) d = f a d' := by
  show StateT.bind x (ExceptT.bindCont f) d = f a d'
  unfold StateT.bind
  rw [h]
  rfl

theorem bind_error {x : Build α} {f : α → Build β} {d d' : Domain} {e : Fault}
    (h : x d = (.error e, d')) : (x >>= f) d = (.error e, d') := by
  show StateT.bind x (ExceptT.bindCont f) d = (.error e, d')
  unfold StateT.bind
  rw [h]
  rfl

theorem act_bind {f : Domain → Domain} {k : Unit → Build β} {d : Domain} :
    (act f >>= k) d = k () (f d) := bind_ok rfl

theorem bind_unit (x : Build Unit) (d : Domain) : (x >>= fun _ => pure ()) d = x d := by
  rcases h : x d with ⟨e | _, d'⟩
  · exact bind_error h
  · exact bind_ok h

/-- A sequence succeeds exactly when its first part does and the second does from there. -/
theorem bind_eq_ok {x : Build α} {f : α → Build β} {d d'' : Domain} {b : β} :
    (x >>= f) d = (.ok b, d'') ↔ ∃ a d', x d = (.ok a, d') ∧ f a d' = (.ok b, d'') := by
  constructor
  · intro h
    rcases hx : x d with ⟨a | a, d'⟩
    · rw [bind_error hx] at h
      cases h
    · rw [bind_ok hx] at h
      exact ⟨a, d', rfl, h⟩
  · rintro ⟨a, d', hx, hf⟩
    rw [bind_ok hx, hf]

/-- A sequence fails when its first part does, or the second from where the first one ended. -/
theorem bind_eq_error {x : Build α} {f : α → Build β} {d d'' : Domain} {e : Fault} :
    (x >>= f) d = (.error e, d'') ↔
      x d = (.error e, d'') ∨ ∃ a d', x d = (.ok a, d') ∧ f a d' = (.error e, d'') := by
  rcases hx : x d with ⟨e' | a, d'⟩
  · rw [bind_error hx]
    constructor
    · intro h
      cases h
      exact .inl rfl
    · rintro (h | ⟨a, d', h, _⟩)
      · cases h
        rfl
      · cases h
  · rw [bind_ok hx]
    constructor
    · intro h
      exact .inr ⟨a, d', rfl, h⟩
    · rintro (h | ⟨a', d₁, h, hf⟩)
      · cases h
      · cases h
        exact hf

theorem outcome_eq_ok {x : Outcome α} {a : α} {d d' : Domain} :
    outcome x d = (.ok a, d') ↔ x = .ok a ∧ d' = d := by
  unfold outcome
  constructor
  · intro h
    cases h
    exact ⟨rfl, rfl⟩
  · rintro ⟨rfl, rfl⟩
    rfl

theorem pure_eq_ok {a b : α} {d d' : Domain} :
    (pure a : Build α) d = (.ok b, d') ↔ b = a ∧ d' = d := by
  rw [pure_apply]
  constructor
  · intro h
    cases h
    exact ⟨rfl, rfl⟩
  · rintro ⟨rfl, rfl⟩
    rfl

end Build

namespace Inspection

variable {σ α β : Type}

/-! ## Steps that depend on the domain alone -/

/-- Started with the domain `d`, the step ends with the result and the domain `r`, whatever was
reported before. It leaves the catalog's state alone and may add to the log. -/
def Yields (d : Domain) (m : Inspect σ α) (r : Outcome α × Domain) : Prop :=
  ∀ catalog log, ∃ log', m ⟨catalog, log, d⟩ = (r.1, ⟨catalog, log', r.2⟩)

namespace Yields

variable {d : Domain}

theorem pure (a : α) : Yields (σ := σ) d (Pure.pure a) (.ok a, d) :=
  fun _ log => ⟨log, rfl⟩

theorem outcome (x : Outcome α) : Yields (σ := σ) d (Inspect.lift x) (Build.outcome x d) := by
  cases x with
  | ok a => exact pure a
  | error e => exact fun _ log => ⟨log, rfl⟩

theorem throw (e : Fault) : Yields (σ := σ) (α := α) d (MonadExcept.throw e) (.error e, d) :=
  fun _ log => ⟨log, rfl⟩

/-- Sequences yield what the sequence of the described parts yields. -/
theorem bind {m : Inspect σ α} {f : Build α} {k : α → Inspect σ β} {g : α → Build β}
    (hm : Yields d m (f d)) (hk : ∀ a d', f d = (.ok a, d') → Yields d' (k a) (g a d')) :
    Yields d (m >>= k) ((f >>= g) d) := by
  intro catalog log
  obtain ⟨log', hlog'⟩ := hm catalog log
  rcases hf : f d with ⟨e | a, d'⟩
  · refine ⟨log', ?_⟩
    rw [hf] at hlog'
    rw [Build.bind_error hf]
    show StateT.bind m (ExceptT.bindCont k) _ = _
    unfold StateT.bind
    rw [hlog']
    rfl
  · rw [hf] at hlog'
    obtain ⟨log'', hlog''⟩ := hk a d' hf catalog log'
    refine ⟨log'', ?_⟩
    rw [Build.bind_ok hf]
    show StateT.bind m (ExceptT.bindCont k) _ = _
    unfold StateT.bind
    rw [hlog']
    exact hlog''

/-- What a step yields is determined, whatever state of a catalog it is started with. -/
theorem unique {m : Inspect σ α} {r r' : Outcome α × Domain} (h : Yields d m r)
    (h' : Yields d m r') (catalog : σ) : r = r' := by
  obtain ⟨log, hlog⟩ := h catalog []
  obtain ⟨log', hlog'⟩ := h' catalog []
  obtain ⟨hresult, hprogress⟩ := Prod.mk.inj (hlog.symm.trans hlog')
  exact Prod.ext hresult (congrArg Progress.domain hprogress)

/-! ### Single steps in front of others -/

section SingleSteps

variable {r : Outcome β × Domain}

/-- A question that is answered without a look at the catalog's state changes nothing. -/
theorem ask {a : α} {k : α → Inspect σ β} (hk : Yields d (k a) r) :
    Yields d (Inspect.ask (Pure.pure a) >>= k) r := fun catalog log => hk catalog log

theorem warn {w : Warning} {k : Unit → Inspect σ β} (hk : Yields d (k ()) r) :
    Yields d (Inspect.warn w >>= k) r := fun catalog log => hk catalog (log ++ [w])

theorem warnAll {ws : List Warning} {k : Unit → Inspect σ β} (hk : Yields d (k ()) r) :
    Yields d (Inspect.warnAll ws >>= k) r := fun catalog log => hk catalog (log ++ ws)

theorem getDomain {k : Domain → Inspect σ β} (hk : Yields d (k d) r) :
    Yields d (Inspect.getDomain >>= k) r := fun catalog log => hk catalog log

theorem setDomain {d' : Domain} {k : Unit → Inspect σ β} (hk : Yields d' (k ()) r) :
    Yields d (Inspect.setDomain d' >>= k) r := fun catalog log => hk catalog log

theorem change {f : Domain → Domain} {k : Unit → Inspect σ β} (hk : Yields (f d) (k ()) r) :
    Yields d (Inspect.change f >>= k) r := fun catalog log => hk catalog log

theorem lift {a : α} {k : α → Inspect σ β} (hk : Yields d (k a) r) :
    Yields d (Inspect.lift (.ok a) >>= k) r := fun catalog log => hk catalog log

theorem lift_error (e : Fault) (k : α → Inspect σ β) :
    Yields d (Inspect.lift (.error e) >>= k) (.error e, d) := fun _ log => ⟨log, rfl⟩

end SingleSteps

end Yields

end Inspection

end SchemaModel
