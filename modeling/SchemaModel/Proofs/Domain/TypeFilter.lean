import SchemaModel.Model.Domain
import SchemaModel.Proofs.Text.LetterCase

/-!
# `SchemaModel.Proofs.Domain.TypeFilter` — types selected by a filter

A filter is the name of a type or the text of its key. A name is compared as the engine compares
identifiers, and the text of a key letter by letter, so on SQL Server a name selects in any letter case
and a key only as it is written.

## Contents
- **Texts that are one to the engine.** They are equally long, and keys that are one have such texts.
- `Domain.Selects`, `Domain.SelectAlike`: what a filter selects, and two filters that do the same.
- `Domain.FollowsNames`: which filters select a type, and which do the same. `filter_follows_names`.
- `stock`: a database whose one type is not selected by its key in capitals.
-/

namespace SchemaModel

/-! ## Texts that are one to the engine -/

theorem Text.eqIgnoreAsciiCase_append {a a' b b' : String} (ha : eqIgnoreAsciiCase a a' = true)
    (hb : eqIgnoreAsciiCase b b' = true) : eqIgnoreAsciiCase (a ++ b) (a' ++ b') = true := by
  unfold eqIgnoreAsciiCase at *
  rw [beq_iff_eq] at *
  simp only [String.toList_append, List.map_append, ha, hb]

namespace Engine

variable {engine : Engine} {a b : TypeKey}

theorem length_of_namesEqual {f g : String} (h : engine.namesEqual f g = true) :
    f.toList.length = g.toList.length := by
  have hcase := engine.eqIgnoreAsciiCase_of_namesEqual h
  unfold Text.eqIgnoreAsciiCase at hcase
  have hlength := congrArg List.length (beq_iff_eq.1 hcase)
  rwa [List.length_map, List.length_map] at hlength

theorem namesEqual_text (h : engine.keysEqual a b = true) :
    engine.namesEqual a.text b.text = true := by
  obtain ⟨hschema, hname⟩ := Bool.and_eq_true_iff.1 h
  unfold TypeKey.text qualifiedText
  cases engine with
  | postgres =>
      unfold namesEqual at *
      rw [beq_iff_eq.1 hschema, beq_iff_eq.1 hname]
      exact beq_self_eq_true _
  | sqlServer =>
      refine Text.eqIgnoreAsciiCase_append (Text.eqIgnoreAsciiCase_append hschema ?_) hname
      exact Text.eqIgnoreAsciiCase_refl "."

end Engine

theorem TypeKey.toList_text (key : TypeKey) :
    key.text.toList = key.schema.toList ++ '.' :: key.name.toList := by
  simp [TypeKey.text, qualifiedText]

/-- Keys with one text are the same where their schemas are equally long. -/
theorem TypeKey.eq_of_text {a b : TypeKey} (hlength : a.schema.toList.length = b.schema.toList.length)
    (h : a.text = b.text) : a = b := by
  have hchars := congrArg String.toList h
  rw [toList_text, toList_text] at hchars
  obtain ⟨hschema, hname⟩ := List.append_inj hchars hlength
  rw [TypeKey.mk.injEq]
  exact ⟨String.toList_inj.1 hschema, String.toList_inj.1 (List.cons.inj hname).2⟩

namespace Domain

/-! ## What a filter selects -/

/-- The filter selects the type, among others perhaps. -/
def Selects (d : Domain) (f : String) (t : ApplicationType) : Prop :=
  ∃ types, d.typesForGeneration (some f) = .ok types ∧ t ∈ types

/-- The filters select the same types, or both are refused for selecting none. -/
def SelectAlike (d : Domain) (f g : String) : Prop :=
  (∃ types, d.typesForGeneration (some f) = .ok types ∧
      d.typesForGeneration (some g) = .ok types) ∨
    (d.typesForGeneration (some f) = .error (.typeFilter f) ∧
      d.typesForGeneration (some g) = .error (.typeFilter g))

variable {d : Domain} {f g : String} {t : ApplicationType}

theorem typesForGeneration_eq_ok {types : List ApplicationType} :
    d.typesForGeneration (some f) = .ok types ↔
      d.types.filter (d.selects f) = types ∧ types ≠ [] := by
  unfold typesForGeneration
  by_cases hnone : d.types.filter (d.selects f) = []
  · simp [hnone, eq_comm]
  · simp only [hnone, List.isEmpty_iff, if_false, Except.ok.injEq]
    exact ⟨fun h => ⟨h, h ▸ hnone⟩, And.left⟩

theorem typesForGeneration_eq_error :
    d.typesForGeneration (some f) = .error (.typeFilter f) ↔
      d.types.filter (d.selects f) = [] := by
  unfold typesForGeneration
  by_cases hnone : d.types.filter (d.selects f) = [] <;> simp [hnone]

theorem selects_iff (ht : t ∈ d.types) : d.Selects f t ↔ d.selects f t = true := by
  unfold Selects
  simp only [typesForGeneration_eq_ok]
  constructor
  · rintro ⟨_, ⟨rfl, _⟩, hmem⟩
    exact (List.mem_filter.1 hmem).2
  · intro h
    have hmem : t ∈ d.types.filter (d.selects f) := List.mem_filter.2 ⟨ht, h⟩
    exact ⟨_, ⟨rfl, List.ne_nil_of_mem hmem⟩, hmem⟩

theorem selectAlike_iff_filter :
    d.SelectAlike f g ↔ d.types.filter (d.selects f) = d.types.filter (d.selects g) := by
  unfold SelectAlike
  simp only [typesForGeneration_eq_ok, typesForGeneration_eq_error]
  constructor
  · rintro (⟨types, ⟨hf, _⟩, hg, _⟩ | ⟨hf, hg⟩)
    · rw [hf, hg]
    · rw [hf, hg]
  · intro h
    by_cases hnone : d.types.filter (d.selects f) = []
    · exact Or.inr ⟨hnone, h ▸ hnone⟩
    · exact Or.inl ⟨_, ⟨rfl, hnone⟩, h.symm, hnone⟩

theorem selectAlike_iff :
    d.SelectAlike f g ↔ ∀ t ∈ d.types, d.selects f t = d.selects g t := by
  rw [selectAlike_iff_filter]
  constructor
  · intro h t ht
    have hmem : t ∈ d.types.filter (d.selects f) ↔ t ∈ d.types.filter (d.selects g) := by
      rw [h]
    rw [Bool.eq_iff_iff]
    simpa only [List.mem_filter, ht, true_and] using hmem
  · exact List.filter_congr

/-! ## Filters that are one to the engine -/

/-- Filters compare names as the engine compares identifiers, and the texts of keys letter by letter. -/
structure FollowsNames (d : Domain) : Prop where
  /-- A type is selected by its name in any spelling. -/
  name : ∀ t ∈ d.types, ∀ f, d.engine.namesEqual t.name f = true → d.Selects f t
  /-- Of the keys that are one to the engine with its own, it is selected by its own only. -/
  key : ∀ t ∈ d.types, ∀ key, d.engine.keysEqual t.key key = true →
    (d.Selects key.text t ↔ key = t.key)
  /-- Keys that are one to the engine have texts that are. -/
  keys : ∀ a b, d.engine.keysEqual a b = true → d.engine.namesEqual a.text b.text = true
  /-- Texts that are one to the engine select alike, unless one of them is the text of a key. -/
  alike : ∀ f g, d.engine.namesEqual f g = true →
    (d.SelectAlike f g ↔ f = g ∨ ∀ t ∈ d.types, t.key.text ≠ f ∧ t.key.text ≠ g)

/-- No name is one to the engine with the text of its own key. -/
theorem namesEqual_key (key : TypeKey) (h : d.engine.namesEqual t.name key.name = true) :
    d.engine.namesEqual t.name key.text = false := by
  rw [Bool.eq_false_iff]
  intro htext
  have hname := Engine.length_of_namesEqual h
  have hlength := Engine.length_of_namesEqual htext
  rw [TypeKey.toList_text, List.length_append, List.length_cons] at hlength
  omega

theorem selects_key_iff {key : TypeKey} (h : d.engine.keysEqual t.key key = true) :
    d.selects key.text t = true ↔ key = t.key := by
  obtain ⟨hschema, hname⟩ := Bool.and_eq_true_iff.1 h
  unfold selects
  rw [namesEqual_key key hname, Bool.false_or, beq_iff_eq]
  constructor
  · intro htext
    exact (TypeKey.eq_of_text (Engine.length_of_namesEqual hschema) htext).symm
  · rintro rfl
    rfl

/-- One of two different texts that are one to the engine is the text of a type's key: it selects the
type, and the other does not. -/
theorem selects_congr_iff (h : d.engine.namesEqual f g = true) :
    d.selects f t = d.selects g t ↔ f = g ∨ (t.key.text ≠ f ∧ t.key.text ≠ g) := by
  have hnames : d.engine.namesEqual t.name f = d.engine.namesEqual t.name g := by
    rw [Bool.eq_iff_iff]
    constructor
    · exact fun hf => d.engine.namesEqual_trans hf h
    · exact fun hg => d.engine.namesEqual_trans hg (d.engine.namesEqual_comm f g ▸ h)
  have hown : d.engine.namesEqual t.name t.key.text = false :=
    namesEqual_key t.key (d.engine.namesEqual_refl t.name)
  unfold selects
  constructor
  · intro hselects
    by_cases hfg : f = g
    · exact Or.inl hfg
    · refine Or.inr ⟨?_, ?_⟩
      · rintro rfl
        rw [← hnames, hown] at hselects
        simp [hfg] at hselects
      · rintro rfl
        rw [hnames, hown] at hselects
        simp [Ne.symm hfg] at hselects
  · rintro (rfl | ⟨hf, hg⟩)
    · rfl
    · rw [hnames, beq_eq_false_iff_ne.2 hf, beq_eq_false_iff_ne.2 hg]

/-- A filter that is a name selects a type in every spelling that the engine takes for one, and two
spellings select alike. A filter that is the text of a key is compared letter by letter: of the
spellings of a key the type's own selects it and no other does. -/
theorem filter_follows_names (d : Domain) : d.FollowsNames where
  name t ht f h := by
    rw [selects_iff ht, selects, h, Bool.true_or]
  key t ht key h := by
    rw [selects_iff ht, selects_key_iff h]
  keys a b h := Engine.namesEqual_text h
  alike f g h := by
    rw [selectAlike_iff]
    simp only [selects_congr_iff h]
    by_cases hfg : f = g
    · simp [hfg]
    · simp [hfg]

/-- A database of SQL Server with one type, whose name and schema are not all capitals. -/
def stock : Domain :=
  { Domain.blank .sqlServer .pascalCase "dbo" with
    types := [⟨"Product", "dbo", [Field.blank "Id" 1 "int"], [], none⟩] }

/-- The name selects the type in capitals, and the key does not. -/
theorem filter_follows_names_stock :
    stock.SelectAlike "Product" "PRODUCT" ∧ ¬stock.SelectAlike "dbo.Product" "DBO.PRODUCT" := by
  have hfollows := filter_follows_names stock
  constructor
  · exact (hfollows.alike "Product" "PRODUCT" (by decide)).2 (Or.inr (by decide))
  · rw [hfollows.alike "dbo.Product" "DBO.PRODUCT" (by decide)]
    decide

/-- The key in capitals is the same to the engine and is refused as the name of no type. -/
theorem key_in_capitals_refused :
    Engine.sqlServer.keysEqual ⟨"dbo", "Product"⟩ ⟨"DBO", "PRODUCT"⟩ = true ∧
      stock.typesForGeneration (some "dbo.Product") = .ok stock.types ∧
      stock.typesForGeneration (some "DBO.PRODUCT") = .error (.typeFilter "DBO.PRODUCT") :=
  ⟨by decide, rfl, rfl⟩

end Domain

end SchemaModel
