import SchemaModel.Proofs.Inspection.Changes
import SchemaModel.Proofs.Inspection.Types
import Mathlib.Data.List.Pairwise

/-!
# `SchemaModel.Proofs.Inspection.Registry` — result types and their users

Result types are registered by name. An operation that arrives at a name which is taken shares what
is there, and every result type lists the operations that share it. While an operation is loaded it
is a user before it is in the domain, so the invariant speaks of a relation of uses; once the
operation is added, the relation is the domain's own.

## Contents
- `Operation.Uses`, `Domain.Uses`: an operation names a result type.
- `Registered uses d`: the invariant. `Change.registered`: every change keeps it, with one more use
  for its label; `Changes.registered`: so does a sequence.
- `inspect_registered`: an inspection gives a domain with the invariant.
- `Domain.Registry`: the invariant for the domain's own operations, and that operations which agree
  on a name share the result type. `inspect_registry`: every inspection gives it.
-/

namespace SchemaModel

open Inspection

/-! ## Uses -/

/-- The operation returns rows of a result type, or takes them as a parameter. -/
def Operation.Uses (o : Operation) (key : TypeKey) : Prop :=
  (o.returns.kind = .customType ∧ o.returns.typeKey = some key) ∨
    ∃ p ∈ o.parameters, p.resultType = some key

theorem Operation.mem_usedKeys {o : Operation} {key : TypeKey} : key ∈ o.usedKeys ↔ o.Uses key := by
  unfold usedKeys Uses OperationReturn.customKey?
  rw [List.mem_append, List.mem_filterMap, Option.mem_toList, or_comm]
  refine or_congr ?_ Iff.rfl
  by_cases hkind : o.returns.kind = .customType
  · rw [if_pos hkind]
    exact (and_iff_right hkind).symm
  · rw [if_neg hkind]
    constructor
    · intro h
      cases h
    · intro h
      exact absurd h.1 hkind

/-- Some operation with the key `k` uses the result type. -/
def Domain.Uses (d : Domain) (k key : TypeKey) : Prop :=
  ∃ o ∈ d.operations, o.key = k ∧ o.Uses key

/-! ## The invariant -/

/-- No two result types have one key, and each lists exactly the operations that use it, once. -/
structure Registered (uses : TypeKey → TypeKey → Prop) (d : Domain) : Prop where
  distinct : (d.resultTypes.map ResultType.key).Pairwise fun a b => d.engine.keysEqual a b = false
  users : ∀ r ∈ d.resultTypes, ∀ k, k ∈ r.operations ↔ uses k r.key
  nodup : ∀ r ∈ d.resultTypes, r.operations.Nodup
  used : ∀ r ∈ d.resultTypes, r.operations ≠ []
  loaded : ∀ k key, uses k key → d.LoadsResultType key

namespace Registered

variable {uses : TypeKey → TypeKey → Prop} {d : Domain}

/-- Of result types that are in the domain, one key belongs to one of them. -/
theorem eq_of_keysEqual (h : Registered uses d) {r r' : ResultType} (hr : r ∈ d.resultTypes)
    (hr' : r' ∈ d.resultTypes) (hkey : d.engine.keysEqual r.key r'.key = true) : r = r' := by
  by_contra hne
  have hpairwise := List.pairwise_map.1 h.distinct
  have hsymm : Std.Symm fun a b : ResultType => d.engine.keysEqual a.key b.key = false :=
    ⟨fun a b hab => (d.engine.keysEqual_comm b.key a.key).trans hab⟩
  have hfalse := hpairwise.forall hr hr' hne
  rw [hkey] at hfalse
  cases hfalse

/-- A result type that is found under a key is the only one under it. -/
theorem unique (h : Registered uses d) {key : TypeKey} {r r' : ResultType}
    (hfind : d.findResultType? key = some r) (hr' : r' ∈ d.resultTypes)
    (hkey : d.engine.keysEqual r'.key key = true) : r' = r := by
  have hr : d.engine.keysEqual r.key key = true := by
    have hfound := List.find?_some hfind
    exact hfound
  refine h.eq_of_keysEqual hr' (List.mem_of_find?_eq_some hfind) ?_
  rw [d.engine.keysEqual_congr hr r'.key]
  exact hkey

/-- A result type is what is found under its key. -/
theorem findResultType? (h : Registered uses d) {r : ResultType} (hr : r ∈ d.resultTypes) :
    d.findResultType? r.key = some r := by
  obtain ⟨found, hfound⟩ := Option.isSome_iff_exists.1 (Domain.findResultType?_isSome_of_mem hr)
  rw [hfound, h.unique hfound hr (d.engine.keysEqual_refl r.key)]

/-- Operations name a result type by literally its key. -/
theorem key_of_uses (h : Registered d.Uses d) {r : ResultType} (hr : r ∈ d.resultTypes)
    {o : Operation} (ho : o ∈ d.operations) {key : TypeKey} (huses : o.Uses key)
    (hkey : d.engine.keysEqual key r.key = true) : key = r.key := by
  obtain ⟨r', hr', rfl⟩ := h.loaded o.key key ⟨o, ho, rfl, huses⟩
  rw [h.eq_of_keysEqual (List.mem_of_find?_eq_some hr') hr hkey]

end Registered

theorem ResultType.mem_addOperation {r : ResultType} {user k : TypeKey} :
    k ∈ (r.addOperation user).operations ↔ k ∈ r.operations ∨ k = user := by
  unfold addOperation
  split
  · rename_i hmem
    constructor
    · exact Or.inl
    · rintro (hk | rfl)
      · exact hk
      · exact List.contains_iff_mem.1 hmem
  · rw [List.mem_append, List.mem_singleton]

theorem ResultType.nodup_addOperation {r : ResultType} {user : TypeKey} (h : r.operations.Nodup) :
    (r.addOperation user).operations.Nodup := by
  unfold addOperation
  split
  · exact h
  · rename_i hmem
    rw [List.contains_iff_mem] at hmem
    refine List.nodup_append.2 ⟨h, List.pairwise_singleton _ user, ?_⟩
    intro k hk k' hk' heq
    rw [List.mem_singleton.1 hk'] at heq
    exact hmem (heq ▸ hk)

/-! ## Steps -/

section Steps

variable {user : TypeKey} {d d' : Domain} {label : Option TypeKey} {labels : List TypeKey}
  {uses : TypeKey → TypeKey → Prop}

/-- The uses after the operation `user` was registered under more keys. -/
def usesWith (uses : TypeKey → TypeKey → Prop) (user : TypeKey) (labels : List TypeKey)
    (k key : TypeKey) : Prop :=
  uses k key ∨ (k = user ∧ key ∈ labels)

/-- Keys that are equal to a third one are equal to each other, so of result types with different
keys one at most is found. -/
theorem Registered.found_once (hd : Registered uses d) (key : TypeKey) :
    d.resultTypes.Pairwise fun a b =>
      d.engine.keysEqual a.key key = true → d.engine.keysEqual b.key key = false := by
  refine (List.pairwise_map.1 hd.distinct).imp ?_
  intro a b hab ha
  cases hb : d.engine.keysEqual b.key key with
  | false => rfl
  | true =>
      have hboth : d.engine.keysEqual a.key b.key = true :=
        d.engine.keysEqual_trans ha ((d.engine.keysEqual_comm key b.key).trans hb)
      rw [hboth] at hab
      cases hab

/-- After a change, a result type is one that was there before, with one more user when it was
registered with, or it is the new one. -/
theorem Change.members (h : Change user d label d') (hd : Registered uses d) :
    ∀ r ∈ d'.resultTypes,
      (∃ r₀ ∈ d.resultTypes, r.key = r₀.key ∧
        r.operations =
          if label = some r₀.key then (r₀.addOperation user).operations else r₀.operations) ∨
      (label = some r.key ∧ d.findResultType? r.key = none ∧ r.operations = [user]) := by
  intro r hr
  cases h with
  | @reused key found hfind =>
      unfold Domain.modifyResultType at hr
      rw [modifyFirst_eq_map (hd.found_once key), List.mem_map] at hr
      obtain ⟨r₀, hr₀, rfl⟩ := hr
      refine Or.inl ⟨r₀, hr₀, ?_⟩
      by_cases hkey : d.engine.keysEqual r₀.key key = true
      · rw [if_pos hkey, hd.unique hfind hr₀ hkey, if_pos rfl]
        exact ⟨found.addOperation_key user, rfl⟩
      · have hne : ¬ some found.key = some r₀.key := by
          intro heq
          have hfound := List.find?_some hfind
          rw [Option.some.inj heq] at hfound
          exact hkey hfound
        rw [if_neg hkey, if_neg hne]
        exact ⟨rfl, rfl⟩
  | added hnew husers _ _ =>
      rcases List.mem_append.1 hr with hold | hlast
      · refine Or.inl ⟨r, hold, rfl, ?_⟩
        rw [if_neg]
        intro heq
        have hsome := Domain.findResultType?_isSome_of_mem hold
        rw [← Option.some.inj heq, hnew] at hsome
        cases hsome
      · rw [List.mem_singleton.1 hlast]
        exact Or.inr ⟨rfl, hnew, husers⟩
  | widened key source =>
      rcases d.widenResult_cases key source with ⟨_, hw⟩ | ⟨t, _, _, _, hw⟩
      · rw [hw] at hr
        exact Or.inl ⟨r, hr, rfl, rfl⟩
      · rw [hw] at hr
        rcases mem_modifyFirst hr with hold | ⟨r₁, hr₁, rfl⟩
        · exact Or.inl ⟨r, hold, rfl, rfl⟩
        · exact Or.inl ⟨r₁, hr₁, rfl, rfl⟩

theorem Change.distinct (h : Change user d label d') (hd : Registered uses d) :
    (d'.resultTypes.map ResultType.key).Pairwise fun a b => d'.engine.keysEqual a b = false := by
  rw [h.frame.engine]
  rcases h.keys with hkeys | ⟨key, _, hnew, hkeys⟩
  · rw [hkeys]
    exact hd.distinct
  · rw [hkeys]
    refine List.pairwise_append.2 ⟨hd.distinct, List.pairwise_singleton _ key, ?_⟩
    intro a ha b hb
    obtain ⟨r, hr, rfl⟩ := List.mem_map.1 ha
    rw [List.mem_singleton.1 hb]
    unfold Domain.findResultType? at hnew
    rw [List.find?_eq_none] at hnew
    exact Bool.eq_false_iff.2 (hnew r hr)

/-- The operation that registers is among the users of what it registered, and of nothing else. -/
theorem Change.users (h : Change user d label d') (hd : Registered uses d) :
    ∀ r ∈ d'.resultTypes, ∀ k, k ∈ r.operations ↔ usesWith uses user label.toList k r.key := by
  intro r hr k
  unfold usesWith
  rw [Option.mem_toList]
  rcases h.members hd r hr with ⟨r₀, hr₀, hkey, hops⟩ | ⟨hlabel, hnew, hops⟩
  · rw [hkey, hops, ← hd.users r₀ hr₀ k]
    split
    · rename_i hlabel
      rw [ResultType.mem_addOperation]
      exact or_congr_right (and_iff_left hlabel).symm
    · rename_i hlabel
      exact (or_iff_left fun h => hlabel h.2).symm
  · rw [hops, List.mem_singleton]
    constructor
    · intro hk
      exact Or.inr ⟨hk, hlabel⟩
    · rintro (huses | ⟨hk, _⟩)
      · obtain ⟨r₁, hr₁, _⟩ := hd.loaded k r.key huses
        rw [hnew] at hr₁
        cases hr₁
      · exact hk

theorem Change.registered (h : Change user d label d') (hd : Registered uses d) :
    Registered (usesWith uses user label.toList) d' where
  distinct := h.distinct hd
  users := h.users hd
  nodup := by
    intro r hr
    rcases h.members hd r hr with ⟨r₀, hr₀, _, hops⟩ | ⟨_, _, hops⟩
    · rw [hops]
      split
      · exact ResultType.nodup_addOperation (hd.nodup r₀ hr₀)
      · exact hd.nodup r₀ hr₀
    · rw [hops]
      exact List.pairwise_singleton _ user
  used := by
    intro r hr hnil
    rcases h.members hd r hr with ⟨r₀, hr₀, _, hops⟩ | ⟨_, _, hops⟩
    · rw [hops] at hnil
      split at hnil
      · have hmem : user ∈ (r₀.addOperation user).operations :=
          ResultType.mem_addOperation.2 (Or.inr rfl)
        rw [hnil] at hmem
        cases hmem
      · exact hd.used r₀ hr₀ hnil
    · rw [hops] at hnil
      cases hnil
  loaded := by
    rintro k key (huses | ⟨_, hlabel⟩)
    · exact h.loadsResultType (hd.loaded k key huses)
    · rw [Option.mem_toList] at hlabel
      subst hlabel
      exact h.loads_label

/-- The invariant depends on the relation of uses only through what it says. -/
theorem Registered.congr {uses' : TypeKey → TypeKey → Prop} (h : Registered uses d)
    (hsame : ∀ k key, uses k key ↔ uses' k key) : Registered uses' d := by
  have heq : uses = uses' := by
    funext k key
    exact propext (hsame k key)
  exact heq ▸ h

theorem Changes.registered (h : Changes user d labels d') (hd : Registered uses d) :
    Registered (usesWith uses user labels) d' := by
  induction h generalizing uses with
  | nil _ =>
      refine hd.congr fun k key => ?_
      exact (or_iff_left fun hlabel => List.not_mem_nil hlabel.2).symm
  | cons head _ ih =>
      refine (ih (head.registered hd)).congr fun k key => ?_
      unfold usesWith
      rw [List.mem_append, and_or_left, or_assoc]

end Steps

/-! ## Whole runs -/

/-- The result types of a domain and the operations that use them. Operations that name result types
under keys which the engine holds for the same share one result type. -/
structure Domain.Registry (d : Domain) : Prop where
  distinct : d.resultTypes.Pairwise fun r r' => d.engine.keysEqual r.key r'.key = false
  users : ∀ r ∈ d.resultTypes, ∀ k, k ∈ r.operations ↔
    ∃ o ∈ d.operations, o.key = k ∧ o.Uses r.key
  nodup : ∀ r ∈ d.resultTypes, r.operations.Nodup
  used : ∀ r ∈ d.resultTypes, r.operations ≠ []
  shared : ∀ o ∈ d.operations, ∀ o' ∈ d.operations, ∀ key key', o.Uses key → o'.Uses key' →
    d.engine.keysEqual key key' = true →
      ∃ r ∈ d.resultTypes, r.key = key ∧ r.key = key' ∧
        ∀ r' ∈ d.resultTypes, d.engine.keysEqual r'.key key = true → r' = r

namespace Offline

variable {s : CatalogSnapshot} {settings : Settings} {executed : List String} {start d d' : Domain}

/-- Once an operation is in the domain, the uses under way are its own. -/
theorem operation_registered {row : RoutineRow} {o : Operation} (h : Loaded row d o d')
    (hd : Registered d.Uses d) :
    Registered (Domain.Uses { d' with operations := d'.operations ++ [o] })
      { d' with operations := d'.operations ++ [o] } := by
  have hregistered := h.changes.registered hd
  have hsame : ∀ k key, usesWith d.Uses o.key o.usedKeys k key ↔
      Domain.Uses { d' with operations := d'.operations ++ [o] } k key := by
    intro k key
    unfold usesWith Domain.Uses
    rw [h.changes.frame.operations, Operation.mem_usedKeys]
    constructor
    · rintro (⟨o', ho', hkey, huses⟩ | ⟨rfl, huses⟩)
      · exact ⟨o', List.mem_append_left _ ho', hkey, huses⟩
      · exact ⟨o, List.mem_append_right _ (List.mem_singleton_self o), rfl, huses⟩
    · rintro ⟨o', ho', hkey, huses⟩
      rcases List.mem_append.1 ho' with hold | hnew
      · exact Or.inl ⟨o', hold, hkey, huses⟩
      · rw [List.mem_singleton.1 hnew] at hkey huses
        exact Or.inr ⟨hkey.symm, huses⟩
  obtain ⟨hdistinct, husers, hnodup, hused, hloaded⟩ := hregistered.congr hsame
  exact ⟨hdistinct, husers, hnodup, hused, hloaded⟩

theorem operationStage_registered {rows : List RoutineRow} (he : d.engine = s.engine)
    (hd : Registered d.Uses d) (h : operationStage s rows d = (.ok (), d')) :
    Registered d'.Uses d' := by
  induction rows generalizing d with
  | nil =>
      obtain ⟨_, rfl⟩ := Build.pure_eq_ok.1 h
      exact hd
  | cons row rest ih =>
      obtain ⟨o, d₁, ho, hrest⟩ := Build.bind_eq_ok.1 h
      rw [Build.act_bind] at hrest
      have hloaded := operation_loaded he ho
      refine ih ?_ (operation_registered hloaded hd) hrest
      exact hloaded.changes.frame.engine.trans he

theorem inspect_registered
    (h : (run (inspect s.catalog settings) executed start).result = .ok d) :
    Registered d.Uses d := by
  obtain ⟨d₀, htypes, hoperations⟩ := inspect_eq_ok.1 h
  obtain ⟨_, hblank⟩ := typeStage_closed htypes
  have hstart : Registered d₀.Uses d₀ := by
    rw [hblank]
    refine ⟨List.Pairwise.nil, ?_, ?_, ?_, ?_⟩
    · intro r hr
      cases hr
    · intro r hr
      cases hr
    · intro r hr
      cases hr
    · rintro k key ⟨o, ho, _⟩
      cases ho
  have hengine : d₀.engine = s.engine := by rw [hblank]; rfl
  exact operationStage_registered hengine hstart hoperations

/-- Whatever the snapshot and the settings, an inspection keeps the register of result types. -/
theorem inspect_registry
    (h : (run (inspect s.catalog settings) executed start).result = .ok d) : d.Registry := by
  have hd := inspect_registered h
  refine ⟨List.pairwise_map.1 hd.distinct, hd.users, hd.nodup, hd.used, ?_⟩
  intro o ho o' ho' key key' huses huses' hkey
  obtain ⟨r, hr, rfl⟩ := hd.loaded o.key key ⟨o, ho, rfl, huses⟩
  obtain ⟨r', hr', rfl⟩ := hd.loaded o'.key key' ⟨o', ho', rfl, huses'⟩
  have hmem := List.mem_of_find?_eq_some hr
  have hsame : r = r' := hd.eq_of_keysEqual hmem (List.mem_of_find?_eq_some hr') hkey
  exact ⟨r, hmem, rfl, congrArg ResultType.key hsame, fun r'' hr'' => hd.unique hr hr''⟩

theorem inspect_registry_orders :
    ∃ d, (run (inspect orders.catalog Settings.standard) [] default).result = .ok d ∧
      d.Registry := by
  obtain ⟨d, h⟩ := orders_inspected
  exact ⟨d, h, inspect_registry h⟩

end Offline

end SchemaModel
