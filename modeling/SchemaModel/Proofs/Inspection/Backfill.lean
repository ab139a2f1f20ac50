import SchemaModel.Proofs.Inspection.Growth
import SchemaModel.Proofs.Inspection.TypeStage

/-!
# `SchemaModel.Proofs.Inspection.Backfill` — which result types learn from the table they are about

A table knows more of a column than a routine says: whether it is part of the key, whether the
database computes it, where it points. When all users of a result type are about one table, its
fields should carry this. They do where the result type is made of output columns, and where some
routine is declared to return it. A composite that routines only take as a parameter, or that they
return under the name of their output columns, keeps the bare columns which the catalog lists.

## Contents
- `Field.FilledFrom`, `ResultType.FilledFrom`: what the table says is on the fields.
  `ResultType.AsListed`: the fields are the catalog's columns and nothing else.
- `Settled`: the invariant, for the result type under one key. Joining the users of a result type
  and adding one keep it; `Settled.of_widened` is the step that fills fields in.
- `operation_settled`, `operationStage_settled`: a routine keeps it, and so do routines one after
  the other.
- `related_fields_filled`: what an inspection makes of the result types whose users are about one
  table.
- `intake`: a database with two composites, one of which no routine is declared to return.
-/

namespace SchemaModel

open Inspection

/-! ## Fields -/

/-- The field carries what only a table knows of the other one. -/
structure Field.FilledFrom (f source : Field) : Prop where
  size : f.size = source.size
  isKey : f.isKey = source.isKey
  isRequired : f.isRequired = source.isRequired
  isComputed : f.isComputed = source.isComputed
  references : f.references = source.references

theorem Field.WidenedBy.filledFrom {f source f' : Field} (h : f.WidenedBy source f') :
    f'.FilledFrom source :=
  ⟨h.size, h.isKey, h.isRequired, h.isComputed, h.references⟩

namespace ResultType

/-- Every field for which the type has one of its name is filled in from the first such one. -/
def FilledFrom (r : ResultType) (engine : Engine) (t : ApplicationType) : Prop :=
  ∀ f ∈ r.fields, ∀ source, Domain.sourceField? engine t f = some source → f.FilledFrom source

/-- The fields are those of the columns that the catalog lists for the composite. -/
def AsListed (r : ResultType) (s : CatalogSnapshot) : Prop :=
  ∃ row, s.compositeAt? r.key = some row ∧
    r.fields = row.columns.map fun c => (resultField s.engine r.key.text c).1

/-- A comparison with the type fills the fields in. -/
theorem filledFrom_widened (engine : Engine) (t : ApplicationType) (r : ResultType) :
    FilledFrom { r with fields := r.fields.map (Domain.widenedField engine t) } engine t := by
  intro f hf source hsource
  obtain ⟨g, _, rfl⟩ := List.mem_map.1 hf
  cases hg : Domain.sourceField? engine t g with
  | none =>
      have hkept : Domain.widenedField engine t g = g := by rw [Domain.widenedField, hg]
      rw [hkept, hg] at hsource
      cases hsource
  | some known =>
      have hwide : Domain.widenedField engine t g = Domain.widenField g known := by
        rw [Domain.widenedField, hg]
      rw [hwide] at hsource ⊢
      -- The field is still compared under the name that it had.
      cases hg.symm.trans hsource
      exact (Domain.widenField_widened g source).filledFrom

end ResultType

/-- A comparison changes the fields of what is found under keys that are the same to the engine. -/
theorem Domain.findResultType?_widened {d : Domain} {t : ApplicationType} {about : TypeKey}
    (ht : d.findType? about = some t) (other key : TypeKey) :
    (Offline.widened d other (some about)).findResultType? key =
      if d.engine.keysEqual other key then
        (d.findResultType? key).map fun r =>
          { r with fields := r.fields.map (widenedField d.engine t) }
      else d.findResultType? key := by
  have hkey : ∀ r : ResultType,
      ({ r with fields := r.fields.map (widenedField d.engine t) } : ResultType).key = r.key :=
    fun _ => rfl
  show (d.widenResult other about).1.findResultType? key = _
  rcases d.widenResult_cases other about with ⟨hmissing, hw⟩ | ⟨t', _, ht', _, hw⟩
  · have hnone : d.findResultType? other = none :=
      hmissing.resolve_left fun hno => absurd (hno.symm.trans ht) nofun
    rw [hw]
    split
    · rename_i hsame
      rw [← findResultType?_congr hsame, hnone]
      rfl
    · rfl
  · cases ht'.symm.trans ht
    rw [hw, findResultType?_modify d other key hkey]

/-! ## The invariant -/

/-- How far the result type under a key has come, if there is one. Made of output columns, or once
a routine was `declared` to return it, it is filled in; before that, a composite is as listed. -/
structure Settled (s : CatalogSnapshot) (t : ApplicationType) (key : TypeKey) (declared : Prop)
    (d : Domain) : Prop where
  present : declared → d.findResultType? key ≠ none
  filled : ∀ r, d.findResultType? key = some r → r.isCustomType = false ∨ declared →
    r.FilledFrom s.engine t
  listed : ∀ r, d.findResultType? key = some r → r.isCustomType = true → ¬declared → r.AsListed s

namespace Settled

variable {s : CatalogSnapshot} {t : ApplicationType} {key other : TypeKey}
  {declared declared' : Prop} {d d' : Domain}

/-- Where nothing is found, no routine was declared to return anything. -/
theorem of_none (hfind : d.findResultType? key = none) : Settled s t key False d where
  present := False.elim
  filled := fun _ hr => absurd (hfind.symm.trans hr) nofun
  listed := fun _ hr => absurd (hfind.symm.trans hr) nofun

theorem congr (h : Settled s t key declared d) (hsame : declared ↔ declared') :
    Settled s t key declared' d :=
  propext hsame ▸ h

/-- Only what is found under the key matters. -/
theorem of_find (h : Settled s t key declared d)
    (hfind : d'.findResultType? key = d.findResultType? key) : Settled s t key declared d' where
  present := hfind ▸ h.present
  filled := hfind ▸ h.filled
  listed := hfind ▸ h.listed

/-- One more user changes no field. -/
theorem reuse (h : Settled s t key declared d) (other user : TypeKey) :
    Settled s t key declared (d.modifyResultType other fun r => r.addOperation user) := by
  by_cases hsame : d.engine.keysEqual other key = true
  · have hfind : (d.modifyResultType other fun r => r.addOperation user).findResultType? key =
        (d.findResultType? key).map fun r => r.addOperation user := by
      rw [Domain.findResultType?_modify d other key fun r => r.addOperation_key user, if_pos hsame]
    -- What is found afterwards differs from what was found in its users alone.
    have hbefore : ∀ r', (d.modifyResultType other fun r => r.addOperation user).findResultType?
        key = some r' → ∃ r users, d.findResultType? key = some r ∧
          r' = { r with operations := users } := by
      intro r' hr'
      rw [hfind] at hr'
      obtain ⟨r, hr, rfl⟩ := Option.map_eq_some_iff.1 hr'
      obtain ⟨users, husers⟩ := r.addOperation_eq user
      exact ⟨r, users, hr, husers⟩
    constructor
    · intro hdeclared
      rw [hfind, ne_eq, Option.map_eq_none_iff]
      exact h.present hdeclared
    · intro r' hr'
      obtain ⟨r, users, hr, rfl⟩ := hbefore r' hr'
      exact h.filled r hr
    · intro r' hr'
      obtain ⟨r, users, hr, rfl⟩ := hbefore r' hr'
      exact h.listed r hr
  · apply h.of_find
    rw [Domain.findResultType?_modify d other key fun r => r.addOperation_key user, if_neg hsame]

/-- A composite that is added is as listed; what is added under another key is not what is found. -/
theorem add (h : Settled s t key declared d) {new : ResultType}
    (hnew : d.findResultType? new.key = none)
    (hlisted : d.engine.keysEqual new.key key = true → new.isCustomType = true ∧ new.AsListed s) :
    Settled s t key declared { d with resultTypes := d.resultTypes ++ [new] } := by
  have hfind := Domain.findResultType?_added (d := d) key hnew
  by_cases hsame : d.engine.keysEqual new.key key = true
  · rw [if_pos hsame] at hfind
    obtain ⟨hcustom, hlist⟩ := hlisted hsame
    -- Nothing was found under the key, so no routine was declared to return it.
    have hnone : ¬declared := fun hdeclared =>
      h.present hdeclared ((Domain.findResultType?_congr hsame).symm.trans hnew)
    constructor
    · exact fun hdeclared => absurd hdeclared hnone
    · intro r hr hdue
      cases hfind.symm.trans hr
      rcases hdue with hshape | hdeclared
      · rw [hcustom] at hshape
        cases hshape
      · exact absurd hdeclared hnone
    · intro r hr _ _
      cases hfind.symm.trans hr
      exact hlist
  · rw [if_neg hsame] at hfind
    exact h.of_find hfind

/-- A comparison with the type that its users are about settles a result type which is due for
it. -/
theorem of_widened {about : TypeKey} {r : ResultType} (he : d.engine = s.engine)
    (ht : d.findType? about = some t) (hsame : d.engine.keysEqual other key = true)
    (hfind : d.findResultType? key = some r) (hdue : r.isCustomType = false ∨ declared) :
    Settled s t key declared (Offline.widened d other (some about)) := by
  have hafter := Domain.findResultType?_widened ht other key
  rw [if_pos hsame, hfind, Option.map_some, he] at hafter
  constructor
  · intro _ hnone
    cases hnone.symm.trans hafter
  · intro r' hr' _
    cases hafter.symm.trans hr'
    exact ResultType.filledFrom_widened s.engine t r
  · intro r' hr' hcustom hnone
    cases hafter.symm.trans hr'
    rcases hdue with hshape | hdeclared
    · cases hshape.symm.trans hcustom
    · exact absurd hdeclared hnone

/-- A comparison of another result type leaves this one as it is. -/
theorem widen_other (h : Settled s t key declared d) (about : Option TypeKey)
    (hother : ¬d.engine.keysEqual other key = true) :
    Settled s t key declared (Offline.widened d other about) := by
  cases about with
  | none => exact h
  | some source =>
      cases hsource : d.findType? source with
      | none =>
          have hsame : (d.widenResult other source).1 = d := by
            rw [Domain.widenResult, hsource]
          exact h.of_find (congrArg (fun d : Domain => d.findResultType? key) hsame)
      | some t' =>
          apply h.of_find
          rw [Domain.findResultType?_widened hsource, if_neg hother]

end Settled

namespace Offline

variable {s : CatalogSnapshot} {t : ApplicationType} {key about user op : TypeKey}
  {declared : Prop} {d d' : Domain}

/-! ## Shapes -/

theorem userShape_settled {wanted : TypeKey} {shape : UserTypeShape} (he : d.engine = s.engine)
    (hd : Settled s t key declared d) (h : userShape s wanted user d = (.ok shape, d')) :
    Settled s t key declared d' := by
  cases userShape_looksUp h with
  | found _ => exact hd.reuse wanted user
  | @composite row hnew hrow hkind =>
      have hsame : d.engine.keysEqual row.key wanted = true :=
        he ▸ CatalogSnapshot.userType?_key hrow
      refine hd.add (findResultType?_none_congr hnew hsame) fun _ => ⟨rfl, row, ?_, ?_⟩
      · exact CatalogSnapshot.compositeAt?_canonical
          (CatalogSnapshot.compositeAt?_eq_some.2 ⟨hrow, hkind⟩)
      · rw [← he]
        exact resultFields_fst _ _ _
  | other _ _ _ => exact hd

theorem parameter_settled {input : ParameterRow} {p : Parameter} (he : d.engine = s.engine)
    (hd : Settled s t key declared d) (h : parameter s op input d = (.ok p, d')) :
    Settled s t key declared d' := by
  unfold parameter at h
  by_cases huser : input.isUserDefined
  · rw [if_pos huser] at h
    obtain ⟨shape, d₁, hshape, hrest⟩ := Build.bind_eq_ok.1 h
    obtain ⟨_, _, rfl⟩ := shapedParameter_eq_ok hrest
    exact userShape_settled he hd hshape
  · rw [if_neg huser] at h
    obtain ⟨_, rfl⟩ := Build.outcome_eq_ok.1 h
    exact hd

theorem parameters_settled {inputs : List ParameterRow} {ps : List Parameter}
    (he : d.engine = s.engine) (hd : Settled s t key declared d)
    (h : parameters s op inputs d = (.ok ps, d')) : Settled s t key declared d' := by
  induction inputs generalizing d ps with
  | nil =>
      obtain ⟨_, rfl⟩ := Build.pure_eq_ok.1 h
      exact hd
  | cons input rest ih =>
      obtain ⟨p, d₁, hp, hrest⟩ := Build.bind_eq_ok.1 h
      obtain ⟨more, d₂, hmore, hlast⟩ := Build.bind_eq_ok.1 hrest
      obtain ⟨_, rfl⟩ := Build.pure_eq_ok.1 hlast
      have he₁ : d₁.engine = s.engine := (parameter_changes he hp).1.frame.engine.trans he
      exact ih he₁ (parameter_settled he hd hp) hmore

/-- The return shape names a result type under a key that is this one to the engine. -/
def ReturnsRows (engine : Engine) (returns : OperationReturn) (key : TypeKey) : Prop :=
  ∃ named, returns.customKey? = some named ∧ engine.keysEqual named key = true

instance (engine : Engine) (returns : OperationReturn) (key : TypeKey) :
    Decidable (ReturnsRows engine returns key) :=
  decidable_of_iff ((returns.customKey?.any fun named => engine.keysEqual named key) = true)
    (by rw [Option.any_eq_true]; rfl)

variable {o : Operation} {returns : OperationReturn}

theorem not_returnsRows {engine : Engine} (h : returns.customKey? = none) :
    ¬ReturnsRows engine returns key := by
  rintro ⟨named, hnamed, _⟩
  rw [h] at hnamed
  cases hnamed

/-- An operation that returns rows of a result type is one of its users. -/
theorem ReturnsRows.uses {r : ResultType} (h : ReturnsRows d.engine o.returns r.key)
    (hd : Registered d.Uses d) (hr : r ∈ d.resultTypes) (ho : o ∈ d.operations) :
    o.Uses r.key := by
  obtain ⟨named, hnamed, hsame⟩ := h
  have huses : o.Uses named :=
    Operation.mem_usedKeys.1 (List.mem_append_right _ (Option.mem_toList.2 hnamed))
  rwa [hd.key_of_uses hr ho huses hsame] at huses

/-- Output columns are filled in as soon as a result type is made of them. Where one is there under
their name, it is taken as it stands. -/
theorem namedRowShape_settled {rows : List ResultColumnRow} (he : d.engine = s.engine)
    (ht : d.findType? about = some t)
    (habout : ReturnsRows s.engine returns key → o.relatedType = some about)
    (hd : Settled s t key declared d) (h : namedRowShape o rows d = (.ok returns, d')) :
    Settled s t key declared d' := by
  unfold namedRowShape at h
  cases hfind : d.findResultType? (rowTypeKey d o) with
  | some existing =>
      simp only [hfind] at h
      cases h
      exact hd.reuse _ _
  | none =>
      simp only [hfind] at h
      cases h
      have hnew : d.findResultType? (synthesized d o rows).key = none := hfind
      by_cases hsame : d.engine.keysEqual (rowTypeKey d o) key = true
      · have hrelated : o.relatedType = some about :=
          habout ⟨rowTypeKey d o, rfl, he ▸ hsame⟩
        rw [hrelated]
        refine Settled.of_widened (r := synthesized d o rows) he ht hsame ?_ (.inl rfl)
        exact (Domain.findResultType?_added key hnew).trans (if_pos hsame)
      · exact (hd.add hnew fun hown => absurd hown hsame).widen_other _ hsame

theorem rowShape_settled {rows : List ResultColumnRow} (he : d.engine = s.engine)
    (ht : d.findType? about = some t)
    (habout : ReturnsRows s.engine returns key → o.relatedType = some about)
    (hd : Settled s t key declared d) (h : rowShape o rows d = (.ok returns, d')) :
    Settled s t key declared d' := by
  rcases rowShape_eq_ok h with ⟨rfl, _, _⟩ | h
  · exact hd
  · exact namedRowShape_settled he ht habout hd h

/-- A result type is filled in when a routine is declared to return it. -/
theorem declaredShape_settled {row : RoutineRow} (he : d.engine = s.engine)
    (ht : d.findType? about = some t)
    (habout : ReturnsRows s.engine returns key → o.relatedType = some about)
    (hd : Settled s t key declared d) (h : declaredShape s o row d = (.ok returns, d')) :
    Settled s t key (declared ∨ ReturnsRows s.engine returns key) d' := by
  rcases declaredShape_eq_ok h with ⟨rfl, hnone, _⟩ | ⟨shape, d₁, hshape, hrest⟩
  · exact hd.congr (or_iff_left (not_returnsRows hnone)).symm
  · have hfirst := userShape_settled he hd hshape
    have hchanges := userShape_changes he hshape
    have he₁ : d₁.engine = s.engine := hchanges.frame.engine.trans he
    cases shape with
    | value valueType =>
        obtain ⟨rfl, rfl⟩ := Build.pure_eq_ok.1 hrest
        exact hfirst.congr (or_iff_left (not_returnsRows rfl)).symm
    | rows named =>
        cases hrest
        by_cases hsame : d₁.engine.keysEqual named key = true
        · have hreturns : ReturnsRows s.engine (.customType named row.returnsSet) key :=
            ⟨named, rfl, he₁ ▸ hsame⟩
          obtain ⟨r, hr, _⟩ := hchanges.loads_labels named (List.mem_singleton_self named)
          have hfind : d₁.findResultType? key = some r :=
            (Domain.findResultType?_congr hsame).symm.trans hr
          rw [habout hreturns]
          exact .of_widened he₁ ((hchanges.frame.findType? about).trans ht) hsame hfind
            (.inr (.inr hreturns))
        · refine (hfirst.widen_other _ hsame).congr (or_iff_left ?_).symm
          rintro ⟨_, hnamed, hown⟩
          cases hnamed
          exact hsame (he₁ ▸ hown)

/-! ## Routines -/

/-- The routine has no output columns, and the type that it is declared to return stands for rows
under a key that is this one to the engine. -/
def DeclaresReturn (s : CatalogSnapshot) (key : TypeKey) (row : RoutineRow) (o : Operation) :
    Prop :=
  s.resultColumnsOf row = [] ∧ ReturnsRows s.engine o.returns key

instance (s : CatalogSnapshot) (key : TypeKey) (row : RoutineRow) (o : Operation) :
    Decidable (DeclaresReturn s key row o) :=
  inferInstanceAs (Decidable (_ ∧ _))

theorem returnShape_settled {row : RoutineRow} (he : d.engine = s.engine)
    (ht : d.findType? about = some t)
    (habout : ReturnsRows s.engine returns key → o.relatedType = some about)
    (hd : Settled s t key declared d) (h : returnShape s o row d = (.ok returns, d')) :
    Settled s t key (declared ∨ s.resultColumnsOf row = [] ∧ ReturnsRows s.engine returns key)
      d' := by
  unfold returnShape at h
  split at h
  · rename_i hempty
    have hnone : s.resultColumnsOf row = [] := List.isEmpty_iff.1 hempty
    refine (declaredShape_settled he ht habout hd h).congr (or_congr_right ?_)
    exact (and_iff_right hnone).symm
  · rename_i hcolumns
    refine (rowShape_settled he ht habout hd h).congr (or_iff_left ?_).symm
    rintro ⟨hnone, _⟩
    exact hcolumns (List.isEmpty_iff.2 hnone)

theorem operation_settled {row : RoutineRow} (he : d.engine = s.engine)
    (ht : d.findType? about = some t)
    (habout : ReturnsRows s.engine o.returns key → o.relatedType = some about)
    (hd : Settled s t key declared d) (h : operation s row d = (.ok o, d')) :
    Settled s t key (declared ∨ DeclaresReturn s key row o) d' := by
  unfold operation operationAbout at h
  obtain ⟨ps, d₁, hps, hrest⟩ := Build.bind_eq_ok.1 h
  obtain ⟨returns, d₂, hreturns, hlast⟩ := Build.bind_eq_ok.1 hrest
  cases hlast
  have hframe := (parameters_changes he hps).1.frame
  obtain ⟨qs, hmatched, _⟩ := matchParameters_eq d'
    { unshaped row ps (Offline.related d row) with returns := returns }
  rw [hmatched] at habout ⊢
  exact returnShape_settled (hframe.engine.trans he) ((hframe.findType? about).trans ht) habout
    (parameters_settled he hd hps) hreturns

/-- Some routine is declared to return rows under the key. -/
def DeclaredAmong (s : CatalogSnapshot) (key : TypeKey) (rows : List RoutineRow)
    (ops : List Operation) : Prop :=
  ∃ p ∈ rows.zip ops, DeclaresReturn s key p.1 p.2

instance (s : CatalogSnapshot) (key : TypeKey) (rows : List RoutineRow) (ops : List Operation) :
    Decidable (DeclaredAmong s key rows ops) :=
  inferInstanceAs (Decidable (∃ p ∈ rows.zip ops, DeclaresReturn s key p.1 p.2))

theorem declaredAmong_cons {row : RoutineRow} {rows : List RoutineRow} {ops : List Operation} :
    DeclaredAmong s key (row :: rows) (o :: ops) ↔
      DeclaresReturn s key row o ∨ DeclaredAmong s key rows ops := by
  unfold DeclaredAmong
  rw [List.zip_cons_cons, List.exists_mem_cons_iff]

theorem operationStage_settled (routines : List StoredRoutine) (he : d.engine = s.engine)
    (ht : d.findType? about = some t) (hd : Settled s t key declared d)
    (h : operationStage s (routines.map StoredRoutine.row) d = (.ok (), d'))
    (habout : ∀ o ∈ d'.operations,
      ReturnsRows s.engine o.returns key → o.relatedType = some about) :
    ∃ ops, d'.operations = d.operations ++ ops ∧
      Settled s t key (declared ∨ DeclaredAmong s key (routines.map StoredRoutine.row) ops) d' := by
  induction routines generalizing d declared with
  | nil =>
      obtain ⟨_, rfl⟩ := Build.pure_eq_ok.1 h
      refine ⟨[], (List.append_nil _).symm, hd.congr (or_iff_left ?_).symm⟩
      rintro ⟨p, hp, _⟩
      cases hp
  | cons r rest ih =>
      obtain ⟨o, d₁, ho, hrest⟩ := Build.bind_eq_ok.1 h
      rw [Build.act_bind] at hrest
      have hframe := (operation_loaded he ho).changes.frame
      have hlater := (operationStage_grows rest hrest).operations
      have hmem : o ∈ d'.operations :=
        hlater.subset (List.mem_append_right _ (List.mem_singleton_self o))
      have hfirst := operation_settled he ht (habout o hmem) hd ho
      -- Where result types are found does not depend on the operations.
      have hpushed : Settled s t key (declared ∨ DeclaresReturn s key r.row o)
          { d₁ with operations := d₁.operations ++ [o] } := hfirst.of_find rfl
      have he₁ : ({ d₁ with operations := d₁.operations ++ [o] } : Domain).engine = s.engine :=
        hframe.engine.trans he
      obtain ⟨ops, hops, hsettled⟩ :=
        ih he₁ ((hframe.findType? about).trans ht) hpushed hrest
      refine ⟨o :: ops, ?_, hsettled.congr ?_⟩
      · rw [hops, hframe.operations, List.append_assoc]
        rfl
      · rw [List.map_cons, declaredAmong_cons, or_assoc]

/-! ## Whole runs -/

/-- The table that an operation is about was there before the operation was loaded. -/
theorem LoadedBetween.loads_related {row : RoutineRow} (he : d.engine = s.engine)
    (h : LoadedBetween s d d' row o) (habout : o.relatedType = some about) :
    d.LoadsType about := by
  obtain ⟨d₁, d₂, hbefore, ho, _⟩ := h
  have hloaded := operation_loaded (hbefore.engine.trans he) ho
  obtain ⟨t, ht, hkey⟩ := hloaded.related about habout
  refine ⟨t, ?_, hkey⟩
  rw [← hbefore.findType?, ← hloaded.changes.frame.findType?]
  exact ht

/-- Where all users of a result type are about one table, its fields carry what that table says of
the columns of their names, if the result type is made of output columns or if some routine is
declared to return it, whichever routine was loaded first. Otherwise it is a composite, and its
fields are the columns which the catalog lists. -/
theorem related_fields_filled {settings : Settings} {executed : List String} {start : Domain}
    (h : (run (inspect s.catalog settings) executed start).result = .ok d) {r : ResultType}
    (hr : r ∈ d.resultTypes)
    (habout : ∀ o ∈ d.operations, o.Uses r.key → o.relatedType = some about) :
    ∃ t, d.findType? about = some t ∧ t.key = about ∧
      (r.isCustomType = false ∨
          DeclaredAmong s r.key (s.routineRows settings.excludedSchemas) d.operations →
        r.FilledFrom d.engine t) ∧
      (r.isCustomType = true →
          ¬DeclaredAmong s r.key (s.routineRows settings.excludedSchemas) d.operations →
        r.AsListed s) := by
  obtain ⟨d₀, htypes, hgrows, hall⟩ := inspect_between h
  obtain ⟨_, htypes', hoperations⟩ := inspect_eq_ok.1 h
  cases htypes.symm.trans htypes'
  obtain ⟨hengine, hnone, hresults⟩ := typeStage_blank htypes
  have hregistered := inspect_registered h
  -- The result type has a user, and the table that it is about was there from the start.
  obtain ⟨k, hk⟩ := List.exists_mem_of_ne_nil _ (hregistered.used r hr)
  obtain ⟨o, ho, _, huses⟩ := (hregistered.users r hr k).1 hk
  obtain ⟨routine, _, hbetween⟩ := exists_of_forall₂ hall.flip ho
  obtain ⟨t, ht, hkey⟩ := LoadedBetween.loads_related hengine hbetween (habout o ho huses)
  have hfind : d₀.findResultType? r.key = none := by
    rw [Domain.findResultType?, hresults, List.find?_nil]
  have hreturning : ∀ o' ∈ d.operations,
      ReturnsRows s.engine o'.returns r.key → o'.relatedType = some about := by
    intro o' ho' hreturns
    rw [← hengine, ← hgrows.engine] at hreturns
    exact habout o' ho' (hreturns.uses hregistered hr ho')
  obtain ⟨ops, hops, hsettled⟩ := operationStage_settled (s.loadedRoutines settings) hengine ht
    (.of_none hfind) hoperations hreturning
  rw [hnone, List.nil_append] at hops
  rw [← hops] at hsettled
  have hfound := hregistered.findResultType? hr
  refine ⟨t, (hgrows.findType? about).trans ht, hkey, ?_, ?_⟩
  · intro hdue
    rw [hgrows.engine, hengine]
    exact hsettled.filled r hfound (hdue.imp_right .inr)
  · intro hcustom hdeclared
    exact hsettled.listed r hfound hcustom fun hd => hd.elim False.elim hdeclared

/-! ## A database with composites -/

/-- A procedure that is about customers and takes rows of a composite. -/
def takesCustomers (name composite : String) : StoredRoutine :=
  ⟨"public", name, none, .procedure, none, false, none,
    some "\x7b\"applicationtype\": \"customer\"\x7d",
    [⟨"item", composite, some "public", true, false, false⟩], []⟩

/-- A table of customers with two composites of its columns. Procedures take rows of either, and a
function is declared to return rows of the second. -/
def intake : CatalogSnapshot where
  engine := .postgres
  tables :=
    [⟨"public", "customer", none,
      [⟨"customer_id", "integer", none, none, none, false, true, false, none, none⟩,
       ⟨"name", "varchar", some 50, none, none, false, false, false, none, none⟩],
      [⟨"customer_pkey", .primary, ["customer_id"]⟩], []⟩]
  routines :=
    [takesCustomers "customer_add" "customer_new",
     takesCustomers "customer_save" "customer_row",
     ⟨"public", "customer_find", none, .function, some "customer_row", true, none,
      some "\x7b\"applicationtype\": \"customer\"\x7d", [], []⟩]
  userTypes :=
    [⟨"public", "customer_new", .composite, none, none,
      [⟨"customer_id", 1, "integer", true, none⟩, ⟨"name", 2, "varchar", true, none⟩]⟩,
     ⟨"public", "customer_row", .composite, none, none,
      [⟨"customer_id", 1, "integer", true, none⟩, ⟨"name", 2, "varchar", true, none⟩]⟩]

/-- Some routine is declared to return the second composite, and no routine the first. Those that
use them are about customers. -/
theorem intake_inspected :
    ∃ d, (run (inspect intake.catalog .standard) [] default).result = .ok d ∧
      (∀ o ∈ d.operations, o.relatedType = some ⟨"public", "customer"⟩) ∧
      (∃ r ∈ d.resultTypes, r.key = ⟨"public", "customer_new"⟩ ∧ r.isCustomType = true ∧
        ¬DeclaredAmong intake r.key (intake.routineRows []) d.operations) ∧
      ∃ r ∈ d.resultTypes, r.key = ⟨"public", "customer_row"⟩ ∧
        DeclaredAmong intake r.key (intake.routineRows []) d.operations := by
  decide +kernel

/-- Rows of the second composite carry what the table knows, though a procedure took them before the
function was loaded. Rows of the first have what the catalog lists for it. -/
theorem intake_fields_filled :
    ∃ d, (run (inspect intake.catalog .standard) [] default).result = .ok d ∧
      (∃ r ∈ d.resultTypes, r.key = ⟨"public", "customer_new"⟩ ∧ r.AsListed intake) ∧
      ∃ r ∈ d.resultTypes, r.key = ⟨"public", "customer_row"⟩ ∧
        ∃ t, d.findType? ⟨"public", "customer"⟩ = some t ∧ r.FilledFrom d.engine t := by
  obtain ⟨d, h, habout, ⟨r, hr, hkey, hcustom, hnone⟩, ⟨r', hr', hkey', hdeclared⟩⟩ :=
    intake_inspected
  refine ⟨d, h, ⟨r, hr, hkey, ?_⟩, ⟨r', hr', hkey', ?_⟩⟩
  · obtain ⟨_, _, _, _, hlisted⟩ := related_fields_filled h hr fun o ho _ => habout o ho
    exact hlisted hcustom hnone
  · obtain ⟨t, ht, _, hfilled, _⟩ := related_fields_filled h hr' fun o ho _ => habout o ho
    exact ⟨t, ht, hfilled (.inr hdeclared)⟩

/-- The first composite is used by operations about customers alone, and the field of its rows that
has the name of the customers' key is not a key. -/
theorem new_customers_not_filled :
    ∃ d, (run (inspect intake.catalog .standard) [] default).result = .ok d ∧
      ∃ r ∈ d.resultTypes, r.operations = [⟨"public", "customer_add"⟩] ∧
        ∃ t ∈ d.types, (∀ o ∈ d.operations, o.relatedType = some t.key) ∧
          ∃ f ∈ r.fields, ∃ source ∈ t.fields,
            d.engine.namesEqual source.name f.name = true ∧
            source.isKey = true ∧ f.isKey = false := by
  decide +kernel

end Offline

end SchemaModel
