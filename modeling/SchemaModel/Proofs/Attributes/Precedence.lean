import SchemaModel.Proofs.Domain.Widening
import SchemaModel.Proofs.Text.Pieces

/-!
# `SchemaModel.Proofs.Attributes.Precedence` — which of two bags is read

A key with points in it may be spelled in two ways: literally, or as a path through nested objects.
A look-up takes the literal spelling first. A union of bags goes by the keys as they are written, so
the two spellings do not meet in it: what the base says literally stands in front of what the
overrides say by a path. In every other case the overrides win.

## Contents
- `firstSegment`, `laterSegments`: a key as a path. `get?_eq`: the two spellings in a look-up.
- `Shadowed`: the base has a key literally, and the overrides do not. `ReadAlike`: look-ups of every
  kind agree under a key.
- `get?_union_of_not_shadowed`, `get?_union_of_shadowed`, `get?_union_of_absent`: what is read in a
  union.
- `knownKeys`: the keys with an accessor of their own.
- `overrides_win`: which bag the accessors of a union read. `nested_override_lost`: a switch that
  the overrides spell as a path.
-/

namespace SchemaModel

namespace Attributes

/-! ## Look-up -/

/-- The key of the outermost object on the path that a key spells. -/
def firstSegment (key : String) : String := (Text.split '.' key).headD ""

/-- The keys of the objects inside. -/
def laterSegments (key : String) : List String := (Text.split '.' key).tail

theorem split_eq (key : String) :
    Text.split '.' key = firstSegment key :: laterSegments key := by
  have hne : Text.split '.' key ≠ [] := by
    intro hnil
    exact Text.pieces_ne_nil _ _ (List.map_eq_nil_iff.1 hnil)
  obtain ⟨first, rest, hsplit⟩ := List.exists_cons_of_ne_nil hne
  unfold firstSegment laterSegments
  rw [hsplit]
  rfl

/-- A look-up takes the key literally, or it follows the path from the first segment on. -/
theorem get?_eq (a : Attributes) (key : String) :
    a.get? key = (at? (some a) key).or
      ((at? (some a) (firstSegment key)).bind (walk (laterSegments key))) := by
  unfold get? at?
  dsimp only [Option.bind_some]
  rw [split_eq, walk]
  cases Json.Fields.get? key a.fields with
  | some value => rfl
  | none =>
      cases Json.Fields.get? (firstSegment key) a.fields with
      | some value => rfl
      | none => rfl

/-- A key without points is no path. -/
theorem get?_of_plain {key : String} (h : '.' ∉ key.toList) (a : Attributes) :
    a.get? key = at? (some a) key := by
  have hsplit : Text.split '.' key = [key] := by
    rw [Text.split, Text.pieces_eq_splitOn, List.splitOn_eq_singleton h, List.map_singleton,
      String.ofList_toList]
  rw [get?_eq, firstSegment, laterSegments, hsplit]
  change (at? (some a) key).or ((at? (some a) key).bind (walk [])) = at? (some a) key
  cases at? (some a) key with
  | some value => rfl
  | none => rfl

/-! ## Unions -/

/-- The base has the key literally, and the overrides do not. -/
def Shadowed (base overrides : Attributes) (key : String) : Prop :=
  (at? (some base) key).isSome = true ∧ at? (some overrides) key = none

/-- Every kind of look-up gives the same in both bags. -/
structure ReadAlike (a b : Attributes) (key : String) : Prop where
  value : a.get? key = b.get? key
  text : a.text? key = b.text? key
  truth : a.truth? key = b.truth? key
  flag : a.flag key = b.flag key

theorem readAlike_of_get? {a b : Attributes} {key : String} (h : a.get? key = b.get? key) :
    ReadAlike a b key where
  value := h
  text := congrArg (Option.bind · Json.asString?) h
  truth := congrArg (Option.bind · truthOf?) h
  flag := congrArg (fun value => (Option.bind value truthOf?).getD false) h

variable {base overrides : Attributes} {key : String}

theorem at?_union (base overrides : Attributes) (key : String) :
    at? (some (base.union overrides)) key = (at? (some overrides) key).or (at? (some base) key) :=
  at?_merged (some base) (some overrides) key

/-- What the overrides say is read, unless the base says it literally. -/
theorem get?_union_of_not_shadowed {value : Json} (h : overrides.get? key = some value)
    (hshadowed : ¬Shadowed base overrides key) : (base.union overrides).get? key = some value := by
  rw [get?_eq] at h ⊢
  rw [at?_union, at?_union]
  cases hliteral : at? (some overrides) key with
  | some own =>
      rw [hliteral] at h
      exact h
  | none =>
      rw [hliteral, Option.none_or] at h
      have hbase : at? (some base) key = none := by
        cases hbase : at? (some base) key with
        | none => rfl
        | some theirs => exact absurd ⟨by rw [hbase]; rfl, hliteral⟩ hshadowed
      obtain ⟨outer, houter, hinner⟩ := Option.bind_eq_some_iff.1 h
      rw [hbase, Option.none_or, Option.none_or, houter]
      exact hinner

/-- What the base says literally is read, unless the overrides say it literally too. -/
theorem get?_union_of_shadowed (h : Shadowed base overrides key) :
    (base.union overrides).get? key = base.get? key := by
  obtain ⟨hbase, hnone⟩ := h
  obtain ⟨value, hvalue⟩ := Option.isSome_iff_exists.1 hbase
  rw [get?_eq, get?_eq, at?_union, hnone, hvalue]
  rfl

/-- Where the overrides have neither the key nor the first segment of its path, the base is read. -/
theorem get?_union_of_absent (hkey : at? (some overrides) key = none)
    (hfirst : at? (some overrides) (firstSegment key) = none) :
    (base.union overrides).get? key = base.get? key := by
  rw [get?_eq, get?_eq, at?_union, at?_union, hkey, hfirst, Option.none_or, Option.none_or]

/-- A key without points is not spelled as a path, so the overrides have it literally or not at
all. -/
theorem not_shadowed_of_plain (hplain : '.' ∉ key.toList) (h : overrides.contains key = true) :
    ¬Shadowed base overrides key := by
  rintro ⟨_, hnone⟩
  rw [contains, get?_of_plain hplain, hnone] at h
  cases h

/-- Which of two bags a key is read in, once they are united. -/
structure Precedence (base overrides both : Attributes) (key : String) : Prop where
  override : overrides.contains key = true → ¬Shadowed base overrides key →
    ReadAlike both overrides key
  plain : '.' ∉ key.toList → overrides.contains key = true → ¬Shadowed base overrides key
  shadowed : Shadowed base overrides key → ReadAlike both base key
  absent : at? (some overrides) key = none → at? (some overrides) (firstSegment key) = none →
    ReadAlike both base key

theorem precedence_union (base overrides : Attributes) (key : String) :
    Precedence base overrides (base.union overrides) key where
  override := by
    intro hsaid hshadowed
    obtain ⟨value, hvalue⟩ := Option.isSome_iff_exists.1 hsaid
    exact readAlike_of_get? ((get?_union_of_not_shadowed hvalue hshadowed).trans hvalue.symm)
  plain := not_shadowed_of_plain
  shadowed := fun h => readAlike_of_get? (get?_union_of_shadowed h)
  absent := fun hkey hfirst => readAlike_of_get? (get?_union_of_absent hkey hfirst)

/-! ## Known keys -/

/-- What is read under a known key. -/
inductive KnownValue where
  | text (value : Option String)
  | truth (value : Option Bool)
  | flag (value : Bool)

/-- The three ways of reading a key. -/
inductive ReadsKey (key : String) : (Attributes → KnownValue) → Prop where
  | text : ReadsKey key fun a => .text (a.text? key)
  | truth : ReadsKey key fun a => .truth (a.truth? key)
  | flag : ReadsKey key fun a => .flag (a.flag key)

/-- A key with an accessor of its own, which reads that key and no other. -/
structure KnownKey where
  key : String
  read : Attributes → KnownValue
  readsKey : ReadsKey key read

/-- The known keys with their accessors. -/
def knownKeys : List KnownKey :=
  [⟨"applicationtype", fun a => .text a.applicationType?, .text⟩,
   ⟨"single_result", fun a => .flag a.singleResult, .flag⟩,
   ⟨"isResult", fun a => .flag a.isResult, .flag⟩,
   ⟨"security.anon", fun a => .truth a.securityAnonymous?, .truth⟩,
   ⟨"security.user", fun a => .truth a.securityUser?, .truth⟩,
   ⟨"generated", fun a => .flag a.generated, .flag⟩,
   ⟨"result_type", fun a => .text a.resultTypeName?, .text⟩,
   ⟨"name", fun a => .text a.customName?, .text⟩,
   ⟨"security_principal", fun a => .flag a.securityPrincipal, .flag⟩,
   ⟨"reference_data", fun a => .flag a.referenceData, .flag⟩,
   ⟨"paginated", fun a => .truth a.paginated?, .truth⟩,
   ⟨"delete", fun a => .text a.delete?, .text⟩,
   ⟨"display", fun a => .flag a.display, .flag⟩,
   ⟨"search_vector", fun a => .flag a.searchVector, .flag⟩,
   ⟨"changes_data", fun a => .truth a.changesData?, .truth⟩,
   ⟨"creates_new", fun a => .truth a.createsNew?, .truth⟩]

theorem KnownKey.read_eq (known : KnownKey) {a b : Attributes} (h : ReadAlike a b known.key) :
    known.read a = known.read b := by
  obtain ⟨key, read, hreads⟩ := known
  cases hreads with
  | text => exact congrArg KnownValue.text h.text
  | truth => exact congrArg KnownValue.truth h.truth
  | flag => exact congrArg KnownValue.flag h.flag

/-- Two of the known keys are spelled with a point. -/
theorem knownKeys_plain {known : KnownKey} (h : known ∈ knownKeys) :
    '.' ∉ known.key.toList ∨ known.key = "security.anon" ∨ known.key = "security.user" := by
  have hall : ∀ key ∈ knownKeys.map KnownKey.key,
      '.' ∉ key.toList ∨ key = "security.anon" ∨ key = "security.user" := by
    decide +kernel
  exact hall known.key (List.mem_map_of_mem h)

/-! ## Precedence -/

/-- What the overrides say under a key is what every accessor of the union reads, unless the base
spells the key literally and the overrides do not. Then it is what the base says, which can happen
under keys with points alone, and of the known keys under the two switches for security. Where the
overrides have neither the key nor the first segment of its path, the base is read. -/
theorem overrides_win (base overrides : Attributes) :
    ∃ both, merged (some base) (some overrides) = some both ∧
      (∀ key, Precedence base overrides both key) ∧
      ∀ known ∈ knownKeys, overrides.contains known.key = true →
        (¬Shadowed base overrides known.key → known.read both = known.read overrides) ∧
        (Shadowed base overrides known.key →
          known.key = "security.anon" ∨ known.key = "security.user") := by
  refine ⟨base.union overrides, rfl, precedence_union base overrides, ?_⟩
  intro known hknown hsaid
  constructor
  · intro hshadowed
    exact known.read_eq ((precedence_union base overrides known.key).override hsaid hshadowed)
  · intro hshadowed
    rcases knownKeys_plain hknown with hplain | hsecurity
    · exact absurd hshadowed (not_shadowed_of_plain hplain hsaid)
    · exact hsecurity

/-- Whether callers may be anonymous, with the key spelled literally. -/
def literalSwitch (value : Bool) : Attributes := ofFields [("security.anon", .bool value)]

/-- Whether callers may be anonymous, with the key spelled as a path. -/
def nestedSwitch (value : Bool) : Attributes :=
  ofFields [("security", .object [("anon", .bool value)])]

/-- A switch that the overrides spell as a path is not read where the base spells it literally. -/
theorem nested_override_lost :
    ∃ both, merged (some (literalSwitch true)) (some (nestedSwitch false)) = some both ∧
      (nestedSwitch false).get? "security.anon" = some (.bool false) ∧
      both.get? "security.anon" = some (.bool true) ∧
      (nestedSwitch false).securityAnonymous? = some false ∧
      both.securityAnonymous? = some true :=
  ⟨_, rfl, rfl, rfl, rfl, rfl⟩

/-- The other way round it is. -/
theorem overrides_win_switch :
    ¬Shadowed (nestedSwitch true) (literalSwitch false) "security.anon" ∧
      (merged (some (nestedSwitch true)) (some (literalSwitch false))).bind securityAnonymous? =
        some false := by
  have hshadowed : ¬Shadowed (nestedSwitch true) (literalSwitch false) "security.anon" :=
    fun h => absurd h.1 (by decide +kernel)
  obtain ⟨both, hboth, hprecedence, _⟩ := overrides_win (nestedSwitch true) (literalSwitch false)
  have halike := (hprecedence "security.anon").override (by decide +kernel) hshadowed
  refine ⟨hshadowed, ?_⟩
  rw [hboth]
  exact halike.truth.trans (by decide +kernel)

end Attributes

end SchemaModel
