import SchemaModel.Model.Domain
import Mathlib.Data.List.Perm.Subperm

/-!
# `SchemaModel.Proofs.Domain.SelectById` — operations that read one row by its key

Such an operation takes the fields of a key as its parameters, in any order, with the id of the
calling user anywhere among them. The test collects the fields one by one, stops at the first that
is no field of the key or comes a second time, and counts them in the end. What it amounts to is
that the fields are those of the key, each once.

## Contents
- `Domain.namedFields`: the fields that parameters carry, those of the calling user left out.
- `matchedKeys_eq_some`: what the test has collected.
- `SelectsById`: the operation returns rows of its related type, changes nothing, and its parameters
  carry the fields of the key, each once. `isSelectById_iff`: the test, whatever the names of the
  key fields; `selects_by_id`: where they are distinct.
- `orderLines`: a table with a key of two fields.
-/

namespace SchemaModel

namespace Domain

/-! ## Collecting fields -/

/-- The field that each parameter carries, without the parameters for the calling user. -/
def namedFields (d : Domain) (ps : List Parameter) : List (Option String) :=
  (ps.filter fun p => !d.isSecurityUser p).map Parameter.relatedField

variable {d : Domain} {keyNames matched all : List String} {p : Parameter} {rest : List Parameter}

theorem namedFields_caller (h : d.isSecurityUser p = true) :
    d.namedFields (p :: rest) = d.namedFields rest := by
  unfold namedFields
  rw [List.filter_cons_of_neg (by simp [h])]

theorem namedFields_other (h : d.isSecurityUser p = false) :
    d.namedFields (p :: rest) = p.relatedField :: d.namedFields rest := by
  unfold namedFields
  rw [List.filter_cons_of_pos (by simp [h]), List.map_cons]

/-! ### The steps of the test -/

theorem matchedKeys_caller (h : d.isSecurityUser p = true) :
    d.matchedKeys keyNames matched (p :: rest) = d.matchedKeys keyNames matched rest := by
  rw [matchedKeys, if_pos h]

theorem matchedKeys_field {name : String} (h : d.isSecurityUser p = false)
    (hfield : p.relatedField = some name) (hkey : name ∈ keyNames) (hnew : name ∉ matched) :
    d.matchedKeys keyNames matched (p :: rest) =
      d.matchedKeys keyNames (matched ++ [name]) rest := by
  have htest : (keyNames.contains name && !matched.contains name) = true := by
    simp [hkey, hnew]
  rw [matchedKeys, if_neg (Bool.eq_false_iff.1 h), hfield]
  exact if_pos htest

theorem matchedKeys_stop (h : d.isSecurityUser p = false)
    (hstop : ∀ name, p.relatedField = some name → name ∈ keyNames → name ∈ matched) :
    d.matchedKeys keyNames matched (p :: rest) = none := by
  rw [matchedKeys, if_neg (Bool.eq_false_iff.1 h)]
  cases hfield : p.relatedField with
  | none => rfl
  | some name =>
      have htest : (keyNames.contains name && !matched.contains name) = false := by
        simpa using hstop name hfield
      exact if_neg (Bool.eq_false_iff.1 htest)

/-- The test collects fields of the key that it has not met before, and fails over everything
else. -/
theorem matchedKeys_eq_some {ps : List Parameter} (hmatched : matched.Nodup) :
    d.matchedKeys keyNames matched ps = some all ↔
      ∃ names : List String, d.namedFields ps = names.map some ∧ names ⊆ keyNames ∧
        (matched ++ names).Nodup ∧ all = matched ++ names := by
  induction ps generalizing matched with
  | nil =>
      rw [matchedKeys, Option.some_inj]
      constructor
      · rintro rfl
        exact ⟨[], rfl, List.nil_subset _, by rwa [List.append_nil], (List.append_nil _).symm⟩
      · rintro ⟨names, hnames, _, _, rfl⟩
        have hnil : names = [] := List.map_eq_nil_iff.1 hnames.symm
        rw [hnil, List.append_nil]
  | cons p rest ih =>
      cases huser : d.isSecurityUser p with
      | true => rw [matchedKeys_caller huser, ih hmatched, namedFields_caller huser]
      | false =>
          rw [namedFields_other huser]
          -- Both sides ask that the field be in the key and not among those met so far.
          by_cases htake : ∃ name, p.relatedField = some name ∧ name ∈ keyNames ∧ name ∉ matched
          · obtain ⟨name, hfield, hkey, hnew⟩ := htake
            have hnext : (matched ++ [name]).Nodup := by
              rw [(List.perm_append_singleton name matched).nodup_iff]
              exact List.nodup_cons.2 ⟨hnew, hmatched⟩
            rw [matchedKeys_field huser hfield hkey hnew, ih hnext, hfield]
            constructor
            · rintro ⟨names, hnames, hkeys, hnodup, rfl⟩
              rw [List.append_assoc] at hnodup ⊢
              exact ⟨name :: names, by rw [hnames, List.map_cons],
                List.cons_subset.2 ⟨hkey, hkeys⟩, hnodup, rfl⟩
            · rintro ⟨names, hnames, hkeys, hnodup, rfl⟩
              obtain ⟨_, more, rfl, hname, hmore⟩ := List.map_eq_cons_iff.1 hnames.symm
              cases hname
              rw [List.append_cons matched name more] at hnodup ⊢
              exact ⟨more, hmore.symm, (List.cons_subset.1 hkeys).2, hnodup, rfl⟩
          · have hstop : ∀ name, p.relatedField = some name → name ∈ keyNames → name ∈ matched := by
              intro name hfield hkey
              by_contra hnew
              exact htake ⟨name, hfield, hkey, hnew⟩
            rw [matchedKeys_stop huser hstop]
            refine iff_of_false nofun ?_
            rintro ⟨names, hnames, hkeys, hnodup, _⟩
            obtain ⟨name, more, rfl, hname, _⟩ := List.map_eq_cons_iff.1 hnames.symm
            have hmet := hstop name hname.symm (hkeys List.mem_cons_self)
            exact (List.nodup_append.1 hnodup).2.2 name hmet name List.mem_cons_self rfl

/-- As many different fields of the key as it has are all of its fields, and those are different. -/
theorem perm_iff_of_length {names : List String} :
    names ⊆ keyNames ∧ names.Nodup ∧ names.length = keyNames.length ↔
      names.Perm keyNames ∧ keyNames.Nodup := by
  constructor
  · rintro ⟨hsubset, hnodup, hlength⟩
    have hperm : names.Perm keyNames :=
      (List.subperm_of_subset hnodup hsubset).perm_of_length_le (Nat.le_of_eq hlength.symm)
    exact ⟨hperm, hperm.nodup hnodup⟩
  · rintro ⟨hperm, hnodup⟩
    exact ⟨hperm.subset, hperm.symm.nodup hnodup, hperm.length_eq⟩

end Domain

/-! ## Operations -/

/-- The operation reads rows of the type under a key, and the parameters that are not for the
calling user carry the key fields of the type, each once and no other. -/
structure Operation.SelectsById (d : Domain) (op : Operation) (key : TypeKey)
    (t : ApplicationType) : Prop where
  related : op.relatedType = some key
  loaded : d.findType? key = some t
  returns : op.returns.kind = .applicationType ∧ op.returns.typeKey = some key
  reads : op.changesData d.naming = false
  keyed : t.keyFields ≠ []
  parameters : ∃ names : List String, d.namedFields op.parameters = names.map some ∧
    names.Perm (t.keyFields.map Field.name)

namespace Domain

variable {d : Domain} {op : Operation}

/-- The parameters pass the test exactly when they carry the fields of a key, each once, and the
fields of the key are different. -/
theorem matchedKeys_all_iff {keyNames : List String} {ps : List Parameter} :
    (∃ all, d.matchedKeys keyNames [] ps = some all ∧ all.length = keyNames.length) ↔
      (∃ names : List String, d.namedFields ps = names.map some ∧ names.Perm keyNames) ∧
        keyNames.Nodup := by
  constructor
  · rintro ⟨all, hall, hlength⟩
    obtain ⟨_, hnames, hsubset, hnodup, rfl⟩ := (matchedKeys_eq_some List.nodup_nil).1 hall
    obtain ⟨hperm, hdistinct⟩ := perm_iff_of_length.1 ⟨hsubset, hnodup, hlength⟩
    exact ⟨⟨_, hnames, hperm⟩, hdistinct⟩
  · rintro ⟨⟨names, hnames, hperm⟩, hdistinct⟩
    obtain ⟨hsubset, hnodup, hlength⟩ := perm_iff_of_length.2 ⟨hperm, hdistinct⟩
    exact ⟨names, (matchedKeys_eq_some List.nodup_nil).2 ⟨names, hnames, hsubset, hnodup, rfl⟩,
      hlength⟩

/-- The test asks for a related type that is there, and about its key for what `SelectsById`
says. -/
theorem isSelectById_iff :
    d.isSelectById op = true ↔
      ∃ key t, op.SelectsById d key t ∧ (t.keyFields.map Field.name).Nodup := by
  unfold isSelectById
  constructor
  · intro h
    cases hrelated : op.relatedType with
    | none =>
        rw [hrelated] at h
        cases h
    | some key =>
        simp only [hrelated, Bool.and_eq_true, beq_iff_eq, Bool.not_eq_true'] at h
        obtain ⟨⟨hreturns, hreads⟩, h⟩ := h
        cases hloaded : d.findType? key with
        | none =>
            rw [hloaded] at h
            cases h
        | some t =>
            simp only [hloaded, Bool.and_eq_true, Bool.not_eq_true', List.isEmpty_eq_false_iff,
              ne_eq, List.map_eq_nil_iff] at h
            obtain ⟨hkeyed, h⟩ := h
            cases hall : d.matchedKeys (t.keyFields.map Field.name) [] op.parameters with
            | none =>
                rw [hall] at h
                cases h
            | some all =>
                simp only [hall, beq_iff_eq] at h
                obtain ⟨hparameters, hdistinct⟩ := matchedKeys_all_iff.1 ⟨all, hall, h⟩
                have hselects : op.SelectsById d key t :=
                  ⟨hrelated, hloaded, hreturns, hreads, hkeyed, hparameters⟩
                exact ⟨key, t, hselects, hdistinct⟩
  · rintro ⟨key, t, h, hdistinct⟩
    obtain ⟨all, hall, hlength⟩ := matchedKeys_all_iff.2 ⟨h.parameters, hdistinct⟩
    have hkeyed : (t.keyFields.map Field.name).isEmpty = false := by
      simpa using h.keyed
    simp only [h.related, h.loaded, h.returns.1, h.returns.2, h.reads, hkeyed, hall, hlength,
      beq_self_eq_true, Bool.not_false, Bool.and_self]

/-- Where the key fields of the related type have different names, an operation reads one row by its
key exactly when it returns rows of that type, changes nothing, and its parameters carry the key
fields: none is missing, none comes twice, and there is no other. -/
theorem selects_by_id
    (hdistinct : ∀ key t, op.relatedType = some key → d.findType? key = some t →
      (t.keyFields.map Field.name).Nodup) :
    d.isSelectById op = true ↔ ∃ key t, op.SelectsById d key t := by
  rw [isSelectById_iff]
  constructor
  · rintro ⟨key, t, h, _⟩
    exact ⟨key, t, h⟩
  · rintro ⟨key, t, h⟩
    exact ⟨key, t, h, hdistinct key t h.related h.loaded⟩

/-- A field of a key. -/
def keyField (name : String) (order : Int) : Field :=
  { Field.blank name order "integer" with
    valueType := some (.of .int32)
    isRequired := true
    isKey := true }

/-- A table whose key has two fields. -/
def orderLine : ApplicationType :=
  ⟨"order_line", "public",
    [keyField "order_id" 1, keyField "line_no" 2, Field.blank "item" 3 "text"], [], none⟩

/-- A database with that table alone. -/
def orderLines : Domain := { Domain.blank .postgres .snakeCase "public" with types := [orderLine] }

/-- An input that carries a field, or none. -/
def input (name : String) (field : Option String) : Parameter :=
  { Parameter.blank name 1 "integer" with
    valueType := some (.of .int32)
    relatedField := field }

/-- A function that returns a row of the table. -/
def lineSelect (inputs : List Parameter) : Operation :=
  ⟨"order_line_select", "public", "order_line_select", .function, inputs,
    .applicationType orderLine.key false, none, some orderLine.key⟩

/-- The key may come in any order and with the calling user in between; a field that comes twice
does not make up for the other. -/
theorem selects_by_id_lines :
    (∃ key t, (lineSelect [input "line_no" (some "line_no"), input "current_user_id" none,
        input "order_id" (some "order_id")]).SelectsById orderLines key t) ∧
      ¬∃ key t, (lineSelect [input "order_id" (some "order_id"),
        input "order_id_param" (some "order_id")]).SelectsById orderLines key t := by
  have hdistinct : ∀ inputs key t, (lineSelect inputs).relatedType = some key →
      orderLines.findType? key = some t → (t.keyFields.map Field.name).Nodup := by
    rintro inputs key t hkey ht
    cases hkey
    have hloaded : orderLines.findType? orderLine.key = some orderLine := rfl
    cases hloaded.symm.trans ht
    decide
  constructor
  · exact (selects_by_id (hdistinct _)).1 (by decide +kernel)
  · rw [← selects_by_id (hdistinct _)]
    decide +kernel

end Domain

end SchemaModel
