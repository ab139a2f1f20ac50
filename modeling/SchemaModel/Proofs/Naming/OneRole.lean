import SchemaModel.Model.Field

/-!
# `SchemaModel.Proofs.Naming.OneRole` — a name plays one role at most

Generated statements act on every role that a field plays, so a column that counted both as the time
of a change and as the user who made it would be written twice. The patterns of the roles overlap in
single words only: each of them admits finitely many lists of words, and no list is admitted twice.

## Contents
- `Role`: what a name may say. `Role.phrases`: the lists of words that say it.
- `NamingStyle.plays_iff`: a name plays a role when its words are one of the role's phrases, one
  lemma for each role. `phrases_disjoint`: no phrase says two things.
- `Field.plays`: the roles of fields. `Field.Editable`: what a field is that can be edited.
- `one_role`: a name plays one role at most, and so does a field.
-/

namespace SchemaModel

/-- What the name of a column or an input may say about it. -/
inductive Role where
  | createdTimestamp
  | modifiedTimestamp
  | createdBy
  | modifiedBy
  | softDelete
  | securityUser
  deriving DecidableEq

/-! ## Phrases -/

namespace Role

/-- A verb followed by a word for a time. -/
def timed (verb : String) : List (List String) :=
  NamingStyle.timestampSuffixes.map fun suffix => [verb, suffix]

/-- The words for the time of a change. -/
def changeTimes : List (List String) :=
  NamingStyle.modifiedWords.flatMap fun verb => [verb] :: ["date", verb] :: timed verb

/-- What may follow `by`. -/
def userEndings : List (List String) := [[], ["user"], ["id"], ["user", "id"]]

/-- A verb followed by `by` and perhaps by words for a user. -/
def byUser (verb : String) : List (List String) :=
  userEndings.map fun ending => verb :: "by" :: ending

/-- The lists of words that say so. -/
def phrases : Role → List (List String)
  | createdTimestamp =>
    ["created"] :: ["date", "created"] :: timed "created" ++
      ["creation", "create"].flatMap fun noun =>
        ["date", "time", "timestamp"].map fun suffix => [noun, suffix]
  | modifiedTimestamp => changeTimes ++ changeTimes.map ("last" :: ·)
  | createdBy => ["owner", "id"] :: byUser "created"
  | modifiedBy => NamingStyle.modifiedWords.flatMap byUser
  | softDelete => ["deleted"] :: ["is", "deleted"] :: timed "deleted"
  | securityUser => [["current", "user", "id"], ["security", "user", "id"]]

/-- No list of words says two things. -/
theorem phrases_disjoint {role role' : Role} {words : List String} (h : words ∈ role.phrases)
    (h' : words ∈ role'.phrases) : role = role' := by
  have hall : ∀ words ∈ role.phrases, words ∈ role'.phrases → role = role' := by
    cases role <;> cases role' <;> decide +kernel
  exact hall words h h'

end Role

/-! ## Names -/

namespace NamingStyle

/-- The name says so. -/
def plays (style : NamingStyle) (name : String) : Role → Bool
  | .createdTimestamp => style.isCreatedTimestamp name
  | .modifiedTimestamp => style.isModifiedTimestamp name
  | .createdBy => style.isCreatedBy name
  | .modifiedBy => style.isModifiedBy name
  | .softDelete => style.isSoftDelete name
  | .securityUser => style.isSecurityUser name

variable {style : NamingStyle} {name : String} {words : List String}

theorem mem_timed {verb suffix : String} (h : timestampSuffixes.contains suffix = true) :
    [verb, suffix] ∈ Role.timed verb :=
  List.mem_map_of_mem (f := fun suffix => [verb, suffix]) (List.contains_iff_mem.1 h)

theorem mem_byUser {verb : String} {rest : List String}
    (h : (rest.isEmpty || isUserSuffix rest) = true) : verb :: "by" :: rest ∈ Role.byUser verb := by
  refine List.mem_map_of_mem (f := fun ending => verb :: "by" :: ending) ?_
  unfold isUserSuffix at h
  split at h
  · decide
  · decide
  · decide
  · rw [Bool.or_false, List.isEmpty_iff] at h
    rw [h]
    decide

theorem mem_changeTimes (h : isModificationTime words = true) : words ∈ Role.changeTimes := by
  unfold isModificationTime at h
  unfold Role.changeTimes
  rw [List.mem_flatMap]
  split at h
  · rename_i verb
    exact ⟨verb, List.contains_iff_mem.1 h, List.mem_cons_self⟩
  · rename_i first second
    rcases Bool.or_eq_true_iff.1 h with htimed | hdated
    · obtain ⟨hverb, hsuffix⟩ := Bool.and_eq_true_iff.1 htimed
      exact ⟨first, List.contains_iff_mem.1 hverb,
        List.mem_cons_of_mem _ (List.mem_cons_of_mem _ (mem_timed hsuffix))⟩
    · obtain ⟨hdate, hverb⟩ := Bool.and_eq_true_iff.1 hdated
      rw [beq_iff_eq.1 hdate]
      exact ⟨second, List.contains_iff_mem.1 hverb, List.mem_cons_of_mem _ List.mem_cons_self⟩
  · cases h

/-! ### One role after the other

That every phrase of a role is accepted is a matter of finitely many cases. -/

theorem isCreatedTimestamp_iff :
    style.isCreatedTimestamp name = true ↔
      style.lowerWords name ∈ Role.createdTimestamp.phrases := by
  unfold isCreatedTimestamp
  generalize style.lowerWords name = words
  constructor
  · intro h
    split at h
    · decide
    · decide
    · exact List.mem_append_left _ (List.mem_cons_of_mem _ (List.mem_cons_of_mem _ (mem_timed h)))
    · simp only [Bool.and_eq_true, Bool.or_eq_true, beq_iff_eq] at h
      obtain ⟨rfl | rfl, (rfl | rfl) | rfl⟩ := h <;> decide
    · cases h
  · revert words
    decide

theorem isModifiedTimestamp_iff :
    style.isModifiedTimestamp name = true ↔
      style.lowerWords name ∈ Role.modifiedTimestamp.phrases := by
  unfold isModifiedTimestamp
  generalize style.lowerWords name = words
  constructor
  · intro h
    split at h
    · exact List.mem_append_right _ (List.mem_map_of_mem (mem_changeTimes h))
    · exact List.mem_append_left _ (mem_changeTimes h)
  · revert words
    decide

theorem isCreatedBy_iff :
    style.isCreatedBy name = true ↔ style.lowerWords name ∈ Role.createdBy.phrases := by
  unfold isCreatedBy
  generalize style.lowerWords name = words
  constructor
  · intro h
    split at h
    · decide
    · exact List.mem_cons_of_mem _ (mem_byUser h)
    · cases h
  · revert words
    decide

theorem isModifiedBy_iff :
    style.isModifiedBy name = true ↔ style.lowerWords name ∈ Role.modifiedBy.phrases := by
  unfold isModifiedBy
  generalize style.lowerWords name = words
  constructor
  · intro h
    split at h
    · rename_i verb rest
      obtain ⟨hverb, hrest⟩ := Bool.and_eq_true_iff.1 h
      exact List.mem_flatMap.2 ⟨verb, List.contains_iff_mem.1 hverb, mem_byUser hrest⟩
    · cases h
  · revert words
    decide

theorem isSoftDelete_iff :
    style.isSoftDelete name = true ↔ style.lowerWords name ∈ Role.softDelete.phrases := by
  unfold isSoftDelete
  generalize style.lowerWords name = words
  constructor
  · intro h
    split at h
    · decide
    · decide
    · exact List.mem_cons_of_mem _ (List.mem_cons_of_mem _ (mem_timed h))
    · cases h
  · revert words
    decide

theorem isSecurityUser_iff :
    style.isSecurityUser name = true ↔ style.lowerWords name ∈ Role.securityUser.phrases := by
  unfold isSecurityUser
  generalize style.lowerWords name = words
  constructor
  · intro h
    split at h
    · decide
    · decide
    · cases h
  · revert words
    decide

theorem plays_iff {role : Role} :
    style.plays name role = true ↔ style.lowerWords name ∈ role.phrases := by
  cases role with
  | createdTimestamp => exact isCreatedTimestamp_iff
  | modifiedTimestamp => exact isModifiedTimestamp_iff
  | createdBy => exact isCreatedBy_iff
  | modifiedBy => exact isModifiedBy_iff
  | softDelete => exact isSoftDelete_iff
  | securityUser => exact isSecurityUser_iff

end NamingStyle

/-! ## Fields -/

namespace Field

/-- The field plays the role. None is an input, so none carries the id of the calling user. -/
def plays (f : Field) (style : NamingStyle) : Role → Bool
  | .createdTimestamp => f.isCreatedTimestamp style
  | .modifiedTimestamp => f.isModifiedTimestamp style
  | .createdBy => f.isCreatedBy style
  | .modifiedBy => f.isModifiedBy style
  | .softDelete => f.isSoftDelete style
  | .securityUser => false

variable {f : Field} {style : NamingStyle}

/-- A role of the field is one of its name. -/
theorem plays_name {role : Role} (h : f.plays style role = true) :
    style.plays f.name role = true := by
  cases role with
  | createdTimestamp => exact (Bool.and_eq_true_iff.1 h).2
  | modifiedTimestamp => exact (Bool.and_eq_true_iff.1 h).2
  | createdBy => exact h
  | modifiedBy => exact h
  | softDelete => exact (Bool.and_eq_true_iff.1 h).2
  | securityUser => cases h

theorem isSystemManaged_of_excluded (h : f.isExcludedFromResults style = true) :
    f.isSystemManaged style = true := by
  unfold isSystemManaged
  rcases Bool.or_eq_true_iff.1 h with hdeleted | hsearch
  · rw [hdeleted, Bool.or_true]
  · rw [hsearch]
    simp only [Bool.or_true, Bool.true_or]

/-- What a field is that can be edited once its row exists. -/
structure Editable (f : Field) (style : NamingStyle) : Prop where
  callerProvided : f.isCallerProvided style = true
  notKey : f.isKey = false
  notGenerated : f.isGenerated = false
  notComputed : f.isComputed = false
  notRowVersion : f.isRowVersion = false
  shown : f.isExcludedFromResults style = false

theorem editable_of_isUserEditable (h : f.isUserEditable style = true) : f.Editable style := by
  obtain ⟨hcaller, hkey⟩ := Bool.and_eq_true_iff.1 h
  rw [Bool.not_eq_true'] at hkey
  have hmanaged : f.isSystemManaged style = false := by
    rwa [isCallerProvided, Bool.not_eq_true'] at hcaller
  have hshown : f.isExcludedFromResults style = false := by
    rw [Bool.eq_false_iff]
    intro hexcluded
    rw [isSystemManaged_of_excluded hexcluded] at hmanaged
    cases hmanaged
  simp only [isSystemManaged, Bool.or_eq_false_iff] at hmanaged
  obtain ⟨⟨⟨⟨⟨⟨hgenerated, hcomputed⟩, hversion⟩, _⟩, _⟩, _⟩, _⟩ := hmanaged
  exact ⟨hcaller, hkey, hgenerated, hcomputed, hversion, hshown⟩

end Field

/-! ## One role -/

/-- In either style, a name plays one role at most, and so does a field. A field that is left out of
results is looked after by the database or by generated statements, and one that can be edited is
left to the caller in every respect. -/
theorem one_role (style : NamingStyle) :
    (∀ name role role', style.plays name role = true → style.plays name role' = true →
      role = role') ∧
    ∀ f : Field,
      (∀ role role', f.plays style role = true → f.plays style role' = true → role = role') ∧
      (f.isExcludedFromResults style = true → f.isSystemManaged style = true) ∧
      (f.isUserEditable style = true → f.Editable style) := by
  have hnames : ∀ name role role', style.plays name role = true →
      style.plays name role' = true → role = role' := by
    intro name role role' h h'
    exact Role.phrases_disjoint (NamingStyle.plays_iff.1 h) (NamingStyle.plays_iff.1 h')
  refine ⟨hnames, fun f => ⟨fun role role' h h' => ?_, Field.isSystemManaged_of_excluded,
    Field.editable_of_isUserEditable⟩⟩
  exact hnames f.name role role' (Field.plays_name h) (Field.plays_name h')

/-- A time of change is nothing else, whatever the style, and a plain text can be edited. -/
theorem one_role_last_changed :
    (∀ role, NamingStyle.pascalCase.plays "LastChangedUtc" role = true →
      role = .modifiedTimestamp) ∧
    (∀ role, NamingStyle.snakeCase.plays "last_changed_utc" role = true →
      role = .modifiedTimestamp) ∧
    (Field.blank "remark" 1 "text").Editable .snakeCase := by
  refine ⟨fun role h => ?_, fun role h => ?_, ?_⟩
  · exact (one_role .pascalCase).1 "LastChangedUtc" role _ h (by decide +kernel)
  · exact (one_role .snakeCase).1 "last_changed_utc" role _ h (by decide +kernel)
  · exact ((one_role .snakeCase).2 (Field.blank "remark" 1 "text")).2.2 (by decide +kernel)

end SchemaModel
