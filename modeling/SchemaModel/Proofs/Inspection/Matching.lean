import SchemaModel.Proofs.Inspection.Parameters
import SchemaModel.Proofs.Naming.Recomposing

/-!
# `SchemaModel.Proofs.Inspection.Matching` — parameters find their fields

A parameter is matched to the field that has its name, and where there is none, to the field that
the naming style would give a parameter of this name. Both look-ups take the first field that they
meet. They single one out, for two fields whose conventional parameters are one to the engine are
themselves one to it, or the parameter has the name of one of them.

## Contents
- **Conventional parameters.** `parameterName_of_tidy`, `uncapitalized_of_ascii`: what the styles
  make of the name of a field.
- `PlainName`: an ASCII name, which has to be tidy in `snake_case`.
  `namesEqual_of_parameterName`: of two such names with one conventional parameter.
- `PlainlyNamed`: the fields of a type have such names, and the engine tells them apart.
  `carriedField?_of_name`, `carriedField?_of_convention`: what a parameter carries then.
- `parameters_find_fields`: in every inspected domain, so it is for the parameters of an operation
  that is about such a type.
-/

namespace SchemaModel

open Text Inspection

/-! ## Conventional parameters -/

namespace NamingStyle

theorem parameterName_of_words {name : String} (h : snakeCase.words name ≠ []) :
    snakeCase.parameterName name = snakeCase.compose (snakeCase.words name ++ ["param"]) := by
  obtain ⟨first, more, hmore⟩ := List.exists_cons_of_ne_nil h
  unfold parameterName
  dsimp only
  rw [hmore]

/-- The conventional parameter of a tidy name is that name with a word behind it. -/
theorem parameterName_of_tidy {cs : List Char} (hcs : ∀ c ∈ cs, isAscii c = true)
    (h : Tidy (String.ofList cs)) (hne : cs ≠ []) :
    snakeCase.parameterName (String.ofList cs) = String.ofList (cs ++ "_param".toList) := by
  have hwords := snakeWords_of_tidy h hne
  have hparam : snakeCase.words (String.ofList cs) ++ ["param"] =
      (snakeWords cs ++ ["param".toList]).map String.ofList := by
    rw [words_snakeCase, List.map_append]
    rfl
  have hall : ∀ {P : List Char → Prop}, (∀ word ∈ snakeWords cs, P word) → P "param".toList →
      ∀ word ∈ snakeWords cs ++ ["param".toList], P word := by
    intro P hown hlast word hword
    rcases List.mem_append.1 hword with hmem | hmem
    · exact hown word hmem
    · exact List.mem_singleton.1 hmem ▸ hlast
  have hsplit : snakeWords cs ++ ["param".toList] = (cs ++ "_param".toList).splitOn '_' :=
    hwords ▸ (List.splitOn_append_cons_self cs "param".toList).symm
  rw [parameterName_of_words, hparam, ← String.toList_inj, toList_compose_snakeCase,
    List.map_append, smallWords_of_tidy hcs h]
  · show List.intercalate ['_'] (snakeWords cs ++ ["param".toList]) = _
    rw [hsplit, List.intercalate_splitOn]
    exact String.toList_ofList.symm
  · exact hall (fun _ hword => (mem_snakeWords hword).1) (by decide)
  · exact hall (ascii_of_mem_snakeWords hcs) (List.all_eq_true.1 (by decide))
  · rw [words_snakeCase, hwords, ne_eq, List.map_eq_nil_iff]
    exact List.splitOn_ne_nil '_' cs

theorem uncapitalized_of_ascii {c : Char} (h : isAscii c = true) (rest : List Char) :
    uncapitalized (String.ofList (c :: rest)) = String.ofList (asciiLower c :: rest) := by
  unfold uncapitalized
  rw [String.toList_ofList]
  dsimp only
  unfold lowerChar
  rw [if_pos h]
  rfl

/-- Letter case alone tells a name from what it is with a small first letter. -/
theorem eqIgnoreAsciiCase_uncapitalized {f : String} (hf : ∀ c ∈ f.toList, isAscii c = true) :
    eqIgnoreAsciiCase f (uncapitalized f) = true := by
  obtain ⟨cs, rfl⟩ := f.exists_eq_ofList
  rw [String.toList_ofList] at hf
  cases cs with
  | nil => rfl
  | cons c rest =>
      rw [uncapitalized_of_ascii (hf c List.mem_cons_self)]
      unfold eqIgnoreAsciiCase
      rw [String.toList_ofList, String.toList_ofList, List.map_cons, List.map_cons,
        asciiLower_asciiLower]
      exact beq_self_eq_true _

/-- Of two names that differ in the case of the first letter only, one has it small. -/
theorem eq_of_uncapitalized {f g : String} (hf : ∀ c ∈ f.toList, isAscii c = true)
    (hg : ∀ c ∈ g.toList, isAscii c = true) (h : uncapitalized f = uncapitalized g) :
    f = g ∨ uncapitalized f = f ∨ uncapitalized g = g := by
  obtain ⟨cs, rfl⟩ := f.exists_eq_ofList
  obtain ⟨ds, rfl⟩ := g.exists_eq_ofList
  rw [String.toList_ofList] at hf hg
  cases cs with
  | nil => exact Or.inr (Or.inl rfl)
  | cons c rest =>
      cases ds with
      | nil => exact Or.inr (Or.inr rfl)
      | cons d others =>
          rw [uncapitalized_of_ascii (hf c List.mem_cons_self),
            uncapitalized_of_ascii (hg d List.mem_cons_self)] at h ⊢
          rw [String.ofList_inj, List.cons.injEq] at h
          obtain ⟨hletter, rfl⟩ := h
          rcases asciiLower_eq_cases hletter with rfl | hc | hd
          · exact Or.inl rfl
          · exact Or.inr (Or.inl (by rw [hc]))
          · exact Or.inr (Or.inr (by rw [hd]))

/-- A name that the style leaves as it is, up to a first capital. -/
structure PlainName (style : NamingStyle) (name : String) : Prop where
  ascii : ∀ c ∈ name.toList, isAscii c = true
  tidy : style = .snakeCase → Tidy name

instance (style : NamingStyle) (name : String) : Decidable (PlainName style name) :=
  letI : Decidable (∀ c ∈ name.toList, isAscii c = true) := List.decidableBAll _ _
  decidable_of_iff ((∀ c ∈ name.toList, isAscii c = true) ∧ (style = .snakeCase → Tidy name))
    ⟨fun ⟨hascii, htidy⟩ => ⟨hascii, htidy⟩, fun ⟨hascii, htidy⟩ => ⟨hascii, htidy⟩⟩

end NamingStyle

namespace Engine

open NamingStyle

theorem namesEqual_append (engine : Engine) (cs ds tail : List Char) :
    engine.namesEqual (String.ofList (cs ++ tail)) (String.ofList (ds ++ tail)) =
      engine.namesEqual (String.ofList cs) (String.ofList ds) := by
  cases engine with
  | postgres =>
      unfold namesEqual
      dsimp only
      rw [Bool.eq_iff_iff, beq_iff_eq, beq_iff_eq, String.ofList_inj, String.ofList_inj,
        List.append_left_inj]
  | sqlServer =>
      unfold namesEqual eqIgnoreAsciiCase
      dsimp only
      rw [String.toList_ofList, String.toList_ofList, String.toList_ofList, String.toList_ofList,
        List.map_append, List.map_append, Bool.eq_iff_iff, beq_iff_eq, beq_iff_eq,
        List.append_left_inj]

variable {engine : Engine} {f g p : String}

/-- A tidy name is what its conventional parameter is without the last word. -/
theorem namesEqual_of_tidy (hf : PlainName .snakeCase f) (hg : PlainName .snakeCase g)
    (hfp : engine.namesEqual (snakeCase.parameterName f) p = true)
    (hgp : engine.namesEqual (snakeCase.parameterName g) p = true) :
    engine.namesEqual f g = true ∨ engine.namesEqual f p = true ∨
      engine.namesEqual g p = true := by
  obtain ⟨cs, rfl⟩ := f.exists_eq_ofList
  obtain ⟨ds, rfl⟩ := g.exists_eq_ofList
  -- The empty name is its own conventional parameter.
  by_cases hcs : cs = []
  · subst hcs
    exact Or.inr (Or.inl hfp)
  by_cases hds : ds = []
  · subst hds
    exact Or.inr (Or.inr hgp)
  have hf' := String.toList_ofList (l := cs) ▸ hf.ascii
  have hg' := String.toList_ofList (l := ds) ▸ hg.ascii
  rw [parameterName_of_tidy hf' (hf.tidy rfl) hcs] at hfp
  rw [parameterName_of_tidy hg' (hg.tidy rfl) hds, namesEqual_comm] at hgp
  refine Or.inl ?_
  rw [← namesEqual_append engine cs ds "_param".toList]
  exact engine.namesEqual_trans hfp hgp

/-- Two names whose conventional parameters have the same name are the same, or the parameter has
the name of one of them. -/
theorem namesEqual_of_parameterName {style : NamingStyle} (hf : PlainName style f)
    (hg : PlainName style g) (hfp : engine.namesEqual (style.parameterName f) p = true)
    (hgp : engine.namesEqual (style.parameterName g) p = true) :
    engine.namesEqual f g = true ∨ engine.namesEqual f p = true ∨
      engine.namesEqual g p = true := by
  cases style with
  | snakeCase => exact namesEqual_of_tidy hf hg hfp hgp
  | pascalCase =>
      cases engine with
      | sqlServer =>
          have hsmall := eqIgnoreAsciiCase_uncapitalized hf.ascii
          exact Or.inr (Or.inl (eqIgnoreAsciiCase_trans hsmall hfp))
      | postgres =>
          have hfp' : uncapitalized f = p := beq_iff_eq.1 hfp
          have hgp' : uncapitalized g = p := beq_iff_eq.1 hgp
          rcases eq_of_uncapitalized hf.ascii hg.ascii (hfp'.trans hgp'.symm) with rfl | hf | hg
          · exact Or.inl (namesEqual_refl _ f)
          · exact Or.inr (Or.inl (beq_iff_eq.2 (hf.symm.trans hfp')))
          · exact Or.inr (Or.inr (beq_iff_eq.2 (hg.symm.trans hgp')))

end Engine

namespace Offline

variable {s : CatalogSnapshot} {settings : Settings} {d start : Domain} {t : ApplicationType}
  {o : Operation} {p : Parameter} {f : Field}

/-! ## The field that a parameter carries -/

/-- The names of the fields are plain, and the engine tells them apart. -/
structure PlainlyNamed (d : Domain) (t : ApplicationType) : Prop where
  plain : ∀ f ∈ t.fields, d.naming.PlainName f.name
  distinct : t.fields.Pairwise fun f g => d.engine.namesEqual f.name g.name = false

instance (d : Domain) (t : ApplicationType) : Decidable (PlainlyNamed d t) :=
  decidable_of_iff ((∀ f ∈ t.fields, d.naming.PlainName f.name) ∧
      t.fields.Pairwise fun f g => d.engine.namesEqual f.name g.name = false)
    ⟨fun ⟨hplain, hdistinct⟩ => ⟨hplain, hdistinct⟩, fun ⟨hplain, hdistinct⟩ => ⟨hplain, hdistinct⟩⟩

theorem PlainlyNamed.eq (h : PlainlyNamed d t) {f g : Field} (hf : f ∈ t.fields)
    (hg : g ∈ t.fields) (hname : d.engine.namesEqual f.name g.name = true) : f = g := by
  by_contra hne
  have hsymm : Std.Symm fun f g : Field => d.engine.namesEqual f.name g.name = false :=
    ⟨fun f g hfg => (d.engine.namesEqual_comm g.name f.name).trans hfg⟩
  have hother := h.distinct.forall hf hg hne
  rw [hname] at hother
  cases hother

/-- A field is carried by every parameter of its name. -/
theorem carriedField?_of_name (h : PlainlyNamed d t) (hf : f ∈ t.fields)
    (hname : d.engine.namesEqual f.name p.name = true) : carriedField? d t p = some f := by
  have hfind : (t.fields.find? fun g => d.engine.namesEqual g.name p.name) = some f := by
    refine find?_of_unique hf hname fun g hg hgp => h.eq hg hf ?_
    exact d.engine.namesEqual_trans hgp ((d.engine.namesEqual_comm _ _).trans hname)
  unfold carriedField?
  rw [hfind]

/-- A field is carried by its conventional parameter, unless that has the name of another field. -/
theorem carriedField?_of_convention (h : PlainlyNamed d t) (hf : f ∈ t.fields)
    (hname : d.engine.namesEqual (d.naming.parameterName f.name) p.name = true)
    (hother : ∀ g ∈ t.fields, g ≠ f → d.engine.namesEqual g.name p.name = false) :
    carriedField? d t p = some f := by
  by_cases hown : d.engine.namesEqual f.name p.name = true
  · exact carriedField?_of_name h hf hown
  · have hnone : ∀ g ∈ t.fields, d.engine.namesEqual g.name p.name = false := by
      intro g hg
      by_cases hgf : g = f
      · exact hgf ▸ Bool.eq_false_iff.2 hown
      · exact hother g hg hgf
    have hfirst : (t.fields.find? fun g => d.engine.namesEqual g.name p.name) = none :=
      List.find?_eq_none.2 fun g hg => Bool.eq_false_iff.1 (hnone g hg)
    unfold carriedField?
    rw [hfirst]
    refine find?_of_unique hf hname fun g hg hgp => ?_
    rcases Engine.namesEqual_of_parameterName (h.plain g hg) (h.plain f hf) hgp hname with
      hsame | hgname | hfname
    · exact h.eq hg hf hsame
    · rw [hnone g hg] at hgname
      cases hgname
    · exact absurd hfname hown

/-! ## Parameters of inspected operations -/

/-- A parameter that passes a value and is not named like the calling user's id is matched to the
field that it carries. -/
theorem Matched.relatedField {p₀ : Parameter} (h : Matched d t p₀ p)
    (hvalue : p.isResultType = false) (hcaller : p.isCurrentUser d.naming = false)
    (hf : carriedField? d t p = some f) : p.relatedField = some f.name := by
  cases h with
  | rows hrows => exact absurd (hrows.symm.trans hvalue) nofun
  | caller _ huser =>
      have hname : p₀.isCurrentUser d.naming = true := (Bool.and_eq_true_iff.1 huser).1
      exact absurd (hname.symm.trans hcaller) nofun
  | field _ _ hf₀ =>
      have hsame := hf₀.symm.trans hf
      cases hsame
      rfl
  | alone _ _ hnone => exact absurd (hnone.symm.trans hf) nofun

/-- The parameter is matched to the field that it is the conventional parameter of, unless another
field has its name, and to the field that has its name in any case. -/
structure FindsFields (d : Domain) (t : ApplicationType) (p : Parameter) : Prop where
  convention : ∀ f ∈ t.fields,
    d.engine.namesEqual (d.naming.parameterName f.name) p.name = true →
    (∀ g ∈ t.fields, g ≠ f → d.engine.namesEqual g.name p.name = false) →
    p.relatedField = some f.name
  name : ∀ f ∈ t.fields, d.engine.namesEqual f.name p.name = true →
    p.relatedField = some f.name

/-- In every inspected domain, an operation is about a type of the domain. When the fields of this
type are plainly named, the parameters of the operation find them: all that pass values, but those
named like the calling user's id. -/
theorem parameters_find_fields {executed : List String}
    (h : (run (inspect s.catalog settings) executed start).result = .ok d) :
    ∀ o ∈ d.operations, ∀ key, o.relatedType = some key →
      ∃ t, d.findType? key = some t ∧ (PlainlyNamed d t → ∀ p ∈ o.parameters,
        p.isResultType = false → p.isCurrentUser d.naming = false → FindsFields d t p) := by
  intro o ho key hkey
  obtain ⟨r, _, hinputs⟩ := exists_of_forall₂ (inspect_takesInputs h).1.flip ho
  obtain ⟨t, ht, _⟩ := hinputs.related key hkey
  refine ⟨t, ht, fun hplain p hp hvalue hcaller => ?_⟩
  have hmatched : ∃ p₀, Matched d t p₀ p := by
    obtain ⟨_, _, p₀, _, rfl⟩ := exists_of_forall₂ hinputs.parameters.flip hp
    refine ⟨p₀, ?_⟩
    unfold compared
    rw [hkey, Option.bind_some, ht]
    exact matchedParameter_matched d t p₀
  obtain ⟨p₀, hmatched⟩ := hmatched
  constructor
  · intro f hf hname hother
    exact hmatched.relatedField hvalue hcaller
      (carriedField?_of_convention hplain hf hname hother)
  · intro f hf hname
    exact hmatched.relatedField hvalue hcaller (carriedField?_of_name hplain hf hname)

/-- Contacts with a phone number, and a column whose name is that of a parameter for it. -/
def contacts : CatalogSnapshot where
  engine := .postgres
  tables :=
    [⟨"public", "contact", none,
      [⟨"contact_id", "integer", none, none, none, false, true, false, none, none⟩,
       ⟨"phone", "text", some 20, none, none, false, false, false, none, none⟩,
       ⟨"phone_param", "text", some 8, none, none, true, false, false, none, none⟩,
       ⟨"note", "text", some 80, none, none, true, false, false, none, none⟩],
      [⟨"contact_pkey", .primary, ["contact_id"]⟩], []⟩]
  routines :=
    [⟨"public", "contact_add", none, .procedure, none, false, none,
      some "\x7b\"applicationtype\": \"contact\"\x7d",
      [⟨"note_param", "text", none, false, false, false⟩,
       ⟨"phone_param", "text", none, false, false, false⟩], []⟩]
  userTypes := []

/-- One parameter finds its field by convention. The other one has the name of a field, so it is not
matched to the field that it would be the conventional parameter of. -/
theorem parameters_find_fields_contacts :
    ∃ d, (run (inspect contacts.catalog .standard) [] default).result = .ok d ∧
      ∃ o ∈ d.operations,
        (∃ p ∈ o.parameters, p.name = d.naming.parameterName "note" ∧
          p.relatedField = some "note") ∧
        ∃ p ∈ o.parameters, p.name = d.naming.parameterName "phone" ∧
          p.relatedField = some "phone_param" := by
  obtain ⟨d, hd, o, ho, hkey, t, ht, hplain, ⟨p, hp, hpname, hpvalue, hpcaller, f, hf, hfname,
      hconvention, hother⟩, q, hq, hqname, hqvalue, hqcaller, g, hg, hgname, hsame⟩ :
      ∃ d, (run (inspect contacts.catalog .standard) [] default).result = .ok d ∧
        ∃ o ∈ d.operations, o.relatedType = some ⟨"public", "contact"⟩ ∧
          ∃ t ∈ (d.findType? ⟨"public", "contact"⟩).toList, PlainlyNamed d t ∧
            (∃ p ∈ o.parameters, p.name = d.naming.parameterName "note" ∧
              p.isResultType = false ∧ p.isCurrentUser d.naming = false ∧
              ∃ f ∈ t.fields, f.name = "note" ∧
                d.engine.namesEqual (d.naming.parameterName f.name) p.name = true ∧
                ∀ g ∈ t.fields, d.engine.namesEqual g.name p.name = false) ∧
            ∃ p ∈ o.parameters, p.name = d.naming.parameterName "phone" ∧
              p.isResultType = false ∧ p.isCurrentUser d.naming = false ∧
              ∃ f ∈ t.fields, f.name = "phone_param" ∧
                d.engine.namesEqual f.name p.name = true := by
    decide +kernel
  obtain ⟨t', ht', hfinds⟩ := parameters_find_fields hd o ho _ hkey
  obtain rfl : t' = t := Option.some.inj (ht'.symm.trans (Option.mem_toList.1 ht))
  refine ⟨d, hd, o, ho, ⟨p, hp, hpname, ?_⟩, q, hq, hqname, ?_⟩
  · rw [← hfname]
    exact (hfinds hplain p hp hpvalue hpcaller).convention f hf hconvention fun g hg _ =>
      hother g hg
  · rw [← hgname]
    exact (hfinds hplain q hq hqvalue hqcaller).name g hg hsame

end Offline

end SchemaModel
