import SchemaModel.Inspection.Operations
import SchemaModel.Proofs.Naming.Words
import SchemaModel.Proofs.Text.Pieces

/-!
# `SchemaModel.Proofs.Naming.Spellings` — what inspection reads off spelled names

Besides roles, an inspection reads three things off names: what an operation's name says before
`_select_`, the conventional name of a result type, and the type that an override names. For names
made of words, each of them is given here in words again.

## Contents
- **Characters.** What can stand in a spelling. `eqIgnoreAsciiCase_on`: an engine's customary
  spellings that agree up to letter case are the same to it.
- **Before the marker.** `Name.front?`: the words before the first `select` that more words follow.
  The marker finds them in `snake_case`, and finds nothing in `PascalCase`; `until?_on` puts both
  together.
- **Result types.** `resultTypeName_text`: their conventional name has one more word.
- **Names in texts.** `typeNameKey_text`, `typeNameKey_qualified`: the key that a text with or
  without a schema stands for.
-/

namespace SchemaModel

open Text

namespace Word

/-- The word `select`. -/
def select : Word := ⟨"select".toList, by decide, by decide, by decide⟩

/-- The word `result`. -/
def result : Word := ⟨"result".toList, by decide, by decide, by decide⟩

end Word

namespace Name

/-! ## Characters -/

theorem mem_intercalate {words : List (List Char)} {c : Char}
    (h : c ∈ List.intercalate ['_'] words) : c = '_' ∨ ∃ w ∈ words, c ∈ w := by
  induction words with
  | nil => cases h
  | cons w rest ih =>
      cases rest with
      | nil =>
          rw [List.intercalate_singleton] at h
          exact Or.inr ⟨w, List.mem_cons_self, h⟩
      | cons v more =>
          rw [List.intercalate_cons_cons, List.mem_append, List.mem_append] at h
          rcases h with (hw | hsep) | hmore
          · exact Or.inr ⟨w, List.mem_cons_self, hw⟩
          · exact Or.inl (List.mem_singleton.1 hsep)
          · rcases ih hmore with hc | ⟨u, hu, hc⟩
            · exact Or.inl hc
            · exact Or.inr ⟨u, List.mem_cons_of_mem w hu, hc⟩

theorem mem_text_snakeCase {name : Name} {c : Char} (h : c ∈ (name.text .snakeCase).toList) :
    c = '_' ∨ isWordChar c = true := by
  rw [toList_text_snakeCase] at h
  rcases mem_intercalate h with hc | ⟨cs, hcs, hc⟩
  · exact Or.inl hc
  · obtain ⟨w, _, rfl⟩ := List.mem_map.1 hcs
    exact Or.inr (w.isWordChar_of_mem c hc)

theorem mem_text_pascalCase {name : Name} {c : Char} (h : c ∈ (name.text .pascalCase).toList) :
    isWordChar c = true ∨ isAsciiUpper c = true := by
  rw [toList_text_pascalCase, List.mem_flatMap] at h
  obtain ⟨w, _, hc⟩ := h
  exact w.mem_capital c hc

/-- No spelling has a point in it. -/
theorem point_not_mem_text (name : Name) (style : NamingStyle) :
    '.' ∉ (name.text style).toList := by
  intro hpoint
  cases style with
  | snakeCase =>
      rcases mem_text_snakeCase hpoint with h | h
      · cases h
      · cases h
  | pascalCase =>
      rcases mem_text_pascalCase hpoint with h | h
      · cases h
      · cases h

theorem map_asciiLower_text_snakeCase (name : Name) :
    (name.text .snakeCase).toList.map asciiLower = (name.text .snakeCase).toList := by
  conv => rhs; rw [← List.map_id (name.text .snakeCase).toList]
  refine List.map_congr_left fun c hc => ?_
  rcases mem_text_snakeCase hc with rfl | hword
  · rfl
  · exact isWordChar.asciiLower hword

/-- Letter case tells no two customary spellings of an engine apart that are one to the engine. -/
theorem eqIgnoreAsciiCase_on (engine : Engine) (name other : Name) :
    eqIgnoreAsciiCase (name.on engine) (other.on engine) =
      engine.namesEqual (name.on engine) (other.on engine) := by
  cases engine with
  | postgres =>
      unfold eqIgnoreAsciiCase Name.on
      show ((name.text .snakeCase).toList.map asciiLower ==
        (other.text .snakeCase).toList.map asciiLower) =
          (name.text .snakeCase == other.text .snakeCase)
      rw [map_asciiLower_text_snakeCase, map_asciiLower_text_snakeCase, Bool.eq_iff_iff,
        beq_iff_eq, beq_iff_eq, String.toList_inj]
  | sqlServer => rfl

theorem text_ne_empty {name : Name} (h : name ≠ []) (style : NamingStyle) :
    (name.text style).toList ≠ [] := by
  intro hnil
  have hsame : name.text style = Name.text [] style := by
    rw [← String.toList_inj, hnil]
    cases style <;> rfl
  exact h (text_injective hsame)

/-! ## Before the marker -/

/-- The words before the first `select` that has words on both sides. -/
def front? : Name → Option Name
  | w :: v :: x :: rest =>
    if v = .select then some [w] else (front? (v :: x :: rest)).map (w :: ·)
  | _ => none

theorem front?_cons (w v x : Word) (rest : List Word) :
    front? (w :: v :: x :: rest) =
      if v = .select then some [w] else (front? (v :: x :: rest)).map (w :: ·) := rfl

/-- Before the marker stands at least the first word. -/
theorem front?_eq_some {w v : Word} {rest : List Word} {front : Name}
    (h : front? (w :: v :: rest) = some front) : ∃ more, front = w :: more := by
  cases rest with
  | nil => cases h
  | cons x others =>
      rw [front?_cons] at h
      by_cases hv : v = .select
      · rw [if_pos hv] at h
        cases h
        exact ⟨[], rfl⟩
      · rw [if_neg hv] at h
        obtain ⟨more, _, rfl⟩ := Option.map_eq_some_iff.1 h
        exact ⟨more, rfl⟩

/-- The marker's characters. -/
theorem toList_selectMarker :
    Domain.selectMarker.toList = '_' :: (Word.select.chars ++ ['_']) := rfl

/-- The marker begins at an underscore only. -/
theorem until?_marker_append {cs : List Char} (h : '_' ∉ cs) (more : List Char) :
    until? Domain.selectMarker.toList (cs ++ more) =
      (until? Domain.selectMarker.toList more).map (cs ++ ·) := by
  induction cs with
  | nil =>
      rw [List.nil_append]
      exact Option.map_id'.symm
  | cons c rest ih =>
      rw [List.mem_cons, not_or] at h
      have hc : ('_' == c) = false := beq_false_of_ne h.1
      have hstart : Domain.selectMarker.toList.isPrefixOf (c :: (rest ++ more)) = false := by
        rw [toList_selectMarker, List.isPrefixOf_cons_cons, hc, Bool.false_and]
      rw [List.cons_append]
      conv => lhs; unfold until?
      rw [hstart, ih h.2, Option.map_map]
      rfl

theorem until?_marker_plain {cs : List Char} (h : '_' ∉ cs) :
    until? Domain.selectMarker.toList cs = none := by
  have hall := until?_marker_append h []
  rw [List.append_nil] at hall
  rw [hall]
  rfl

theorem isPrefixOf_closed {cs more : List Char} (h : '_' ∉ cs) (w : Word) :
    (w.chars ++ ['_']).isPrefixOf (cs ++ '_' :: more) = decide (cs = w.chars) := by
  have hw := w.underscore_not_mem
  generalize w.chars = ws at hw
  induction ws generalizing cs with
  | nil =>
      cases cs with
      | nil => rfl
      | cons c rest =>
          rw [List.mem_cons, not_or] at h
          rw [List.nil_append, List.cons_append, List.isPrefixOf_cons_cons,
            beq_false_of_ne h.1, Bool.false_and]
          exact (decide_eq_false (List.cons_ne_nil c rest)).symm
  | cons x xs ih =>
      rw [List.mem_cons, not_or] at hw
      cases cs with
      | nil =>
          rw [List.cons_append, List.nil_append, List.isPrefixOf_cons_cons,
            beq_false_of_ne fun hx => hw.1 hx.symm, Bool.false_and]
          exact (decide_eq_false (List.cons_ne_nil x xs).symm).symm
      | cons c rest =>
          rw [List.mem_cons, not_or] at h
          rw [List.cons_append, List.cons_append, List.isPrefixOf_cons_cons, ih h.2 hw.2,
            Bool.eq_iff_iff, Bool.and_eq_true, beq_iff_eq, decide_eq_true_eq, decide_eq_true_eq,
            List.cons.injEq]
          exact and_congr_left fun _ => eq_comm

theorem isPrefixOf_open {cs : List Char} (h : '_' ∉ cs) (w : Word) :
    (w.chars ++ ['_']).isPrefixOf cs = false := by
  rw [Bool.eq_false_iff]
  intro hfront
  have hsub := (List.isPrefixOf_iff_prefix.1 hfront).subset
  exact h (hsub (List.mem_append_right _ (List.mem_singleton_self '_')))

/-- In `snake_case`, what precedes the marker is the spelling of the words before it. -/
theorem until?_snakeCase (name : Name) :
    until? Domain.selectMarker.toList (List.intercalate ['_'] (name.map Word.chars)) =
      name.front?.map fun front => List.intercalate ['_'] (front.map Word.chars) := by
  induction name with
  | nil => rfl
  | cons w rest ih =>
      cases rest with
      | nil =>
          rw [List.map_singleton, List.intercalate_singleton]
          exact until?_marker_plain w.underscore_not_mem
      | cons v more =>
          -- What follows the underscore decides: the marker's word, or not yet.
          rw [intercalate_chars, until?_marker_append w.underscore_not_mem]
          conv => lhs; unfold until?
          rw [toList_selectMarker, List.isPrefixOf_cons_cons, ← toList_selectMarker, ih,
            beq_self_eq_true, Bool.true_and]
          cases more with
          | nil =>
              rw [List.map_singleton, List.intercalate_singleton,
                isPrefixOf_open v.underscore_not_mem]
              rfl
          | cons x others =>
              rw [intercalate_chars, isPrefixOf_closed v.underscore_not_mem, front?_cons]
              by_cases hv : v = .select
              · rw [if_pos hv, hv, decide_eq_true rfl, if_pos rfl, Option.map_some,
                  Option.map_some, List.map_singleton, List.intercalate_singleton, List.append_nil]
              · have hchars : ¬v.chars = Word.select.chars := fun h => hv (Word.ext_chars h)
                rw [if_neg hv, decide_eq_false hchars, if_neg Bool.false_ne_true, Option.map_map,
                  Option.map_map, Option.map_map]
                cases hfront : front? (v :: x :: others) with
                | none => rfl
                | some front =>
                    obtain ⟨rest, rfl⟩ := front?_eq_some hfront
                    rw [Option.map_some, Option.map_some, Function.comp_apply, Function.comp_apply,
                      Function.comp_apply, intercalate_chars]

theorem until?_pascalCase (name : Name) :
    until? Domain.selectMarker.toList (name.text .pascalCase).toList = none := by
  apply until?_marker_plain
  intro hunderscore
  rcases mem_text_pascalCase hunderscore with h | h
  · cases h
  · cases h

/-- The words that an engine finds before the marker. -/
def frontOn? (name : Name) : Engine → Option Name
  | .postgres => name.front?
  | .sqlServer => none

theorem until?_on (name : Name) (engine : Engine) :
    (until? Domain.selectMarker.toList (name.on engine).toList).map String.ofList =
      (name.frontOn? engine).map fun front => front.on engine := by
  cases engine with
  | postgres =>
      show (until? _ (name.text .snakeCase).toList).map _ = name.front?.map _
      rw [toList_text_snakeCase, until?_snakeCase, Option.map_map]
      congr 1
      funext front
      rw [Function.comp_apply, ← toList_text_snakeCase, String.ofList_toList]
      rfl
  | sqlServer =>
      show (until? _ (name.text .pascalCase).toList).map _ = none
      rw [until?_pascalCase]
      rfl

/-! ## Result types -/

/-- The conventional name of a result type is the operation's with one more word. -/
theorem resultTypeName_text (name : Name) (style : NamingStyle) :
    style.resultTypeName (name.text style) = Name.text (name ++ [.result]) style := by
  have hcompose : ∀ words : List Word,
      style.compose ((words.map fun w => String.ofList (w.spelled style)) ++ ["result"]) =
        Name.text (words ++ [.result]) style := by
    intro words
    unfold Name.text
    rw [List.map_append]
    cases style with
    | snakeCase => rfl
    | pascalCase =>
        unfold NamingStyle.compose
        dsimp only
        rw [List.map_append, List.map_append, List.map_map, List.map_map]
        congr 2
        refine List.map_congr_left fun w _ => ?_
        exact w.capitalized_capital.trans w.capitalized_text.symm
  unfold NamingStyle.resultTypeName
  rw [words_text]
  cases name with
  | nil => cases style <;> rfl
  | cons w rest => exact hcompose (w :: rest)

/-! ## Names in texts -/

/-- A spelling by itself stands for a type in the schema at hand. -/
theorem typeNameKey_text (name : Name) (style : NamingStyle) (schema : String) :
    Inspection.typeNameKey (name.text style) schema = ⟨schema, name.text style⟩ := by
  unfold Inspection.typeNameKey Inspection.splitTypeName
  rw [breakAt?_eq_none fun c hc =>
    beq_false_of_ne (ne_of_mem_of_not_mem hc (name.point_not_mem_text style))]
  rfl

/-- A spelling behind a schema stands for a type in that schema. -/
theorem typeNameKey_qualified {name : Name} (hname : name ≠ []) (style : NamingStyle)
    {given : String} (hpoint : '.' ∉ given.toList) (hgiven : given ≠ "")
    (schema : String) :
    Inspection.typeNameKey (qualifiedText given (name.text style)) schema =
      ⟨given, name.text style⟩ := by
  have hlist : (qualifiedText given (name.text style)).toList =
      given.toList ++ '.' :: (name.text style).toList := by
    unfold qualifiedText
    rw [String.toList_append, String.toList_append, List.append_assoc]
    rfl
  have hfull : (given.toList.isEmpty || (name.text style).toList.isEmpty) = false := by
    rw [Bool.or_eq_false_iff, List.isEmpty_eq_false_iff, List.isEmpty_eq_false_iff]
    refine ⟨?_, text_ne_empty hname style⟩
    intro hnil
    apply hgiven
    rw [← String.toList_inj, hnil]
    rfl
  unfold Inspection.typeNameKey Inspection.splitTypeName
  rw [hlist, breakAt?_append (fun c hc => beq_false_of_ne (ne_of_mem_of_not_mem hc hpoint))
    (beq_self_eq_true '.')]
  dsimp only
  rw [hfull, String.ofList_toList, String.ofList_toList]
  rfl

end Name

end SchemaModel
