import SchemaModel.Proofs.NativeType.Tables
import SchemaModel.Proofs.Text.LetterCase
import Mathlib.Logic.Relation

/-!
# `SchemaModel.Proofs.NativeType.Spellings` — one type in several spellings

A catalog may give one type in several spellings. An engine must read them as one type, or a column
in an unusual spelling has no values. The names come to one normal form, with one exception: `setof`
with no type behind it is in no table, and neither is the empty name.

## Contents
- `Respelled`: another letter case, blanks around the name, a leading `setof`, a modifier.
- `Engine.SameType`, `sameType_of_respelled`: an engine reads such names as one type.
- `brackets`, `valueType?_brackets`: the names of arrays.
- `spellings_agree`: the names of the tables, any number of respellings of a name, and its arrays.
-/

namespace SchemaModel

open Text

namespace NativeType

/-! ## Respelled names -/

/-- Two names of one type: the letter case, blanks around the name, a leading `setof` and a modifier
make no difference. -/
inductive Respelled : String → String → Prop
  | letterCase {a b : String} (h : eqIgnoreAsciiCase a b = true) : Respelled a b
  | padded {t front back : String} (hfront : ∀ c ∈ front.toList, isBlank c = true)
      (hback : ∀ c ∈ back.toList, isBlank c = true) : Respelled t (front ++ t ++ back)
  | setOf {t word spaces : String} (htrimmed : trimmed t = t)
      (hplain : ¬ "setof ".toList <+: (lowercase t).toList)
      (hword : eqIgnoreAsciiCase word "setof" = true)
      (hne : spaces ≠ "") (hspaces : ∀ c ∈ spaces.toList, c = ' ') :
      Respelled t (word ++ spaces ++ t)
  | modifier {base spaces inside tail : String} (htrimmed : trimmed base = base) (hne : base ≠ "")
      (hparen : '(' ∉ base.toList) (hword : lowercase base ≠ "setof")
      (hplain : ¬ "setof ".toList <+: (lowercase base).toList)
      (hspaces : ∀ c ∈ spaces.toList, c = ' ') (hinside : ')' ∉ inside.toList)
      (htail : ∀ c ∈ tail.toList.head?, c = ' ' ∨ c = '[') (hopen : '(' ∉ tail.toList) :
      Respelled (base ++ tail) (base ++ spaces ++ "(" ++ inside ++ ")" ++ tail)

theorem normalize_eq_of_letterCase {a b : String} (h : eqIgnoreAsciiCase a b = true) :
    normalize a = normalize b := by
  rw [← normalize_inSmallLetters a, eqIgnoreAsciiCase_iff.1 h, normalize_inSmallLetters]

theorem normalize_padded {t front back : String} (hfront : ∀ c ∈ front.toList, isBlank c = true)
    (hback : ∀ c ∈ back.toList, isBlank c = true) :
    normalize (front ++ t ++ back) = normalize t := by
  unfold normalize trimmed
  rw [String.toList_append, String.toList_append, List.append_assoc, trim_blanks hfront hback]

theorem unpadded_of_trimmed {t : String} (hne : t ≠ "") (h : trimmed t = t) :
    Unpadded t.toList := by
  refine unpadded_of_trim (fun hnil => hne (String.toList_eq_nil_iff.1 hnil)) ?_
  have hchars := congrArg String.toList h
  unfold trimmed at hchars
  rwa [String.toList_ofList] at hchars

theorem toList_lowercase (t : String) : (lowercase t).toList = lowerChars [] t.toList :=
  String.toList_ofList

theorem normalize_unpadded {t : String} (h : Unpadded t.toList) :
    (normalize t).toList = normalizeChars (lowerChars [] t.toList) := by
  rw [toList_normalize, trim_unpadded h]

theorem lowercase_congr {a b : String} (h : eqIgnoreAsciiCase a b = true) :
    lowercase a = lowercase b := by
  rw [← lowercase_inSmallLetters a, eqIgnoreAsciiCase_iff.1 h, lowercase_inSmallLetters]

/-- The word `setof` in any letter case begins with a letter. -/
theorem setOf_word {word : String} (h : eqIgnoreAsciiCase word "setof" = true) :
    ∃ c rest, word.toList = c :: rest ∧ isBlank c = false := by
  have hletters : word.toList.map asciiLower = "setof".toList := by
    rw [← toList_inSmallLetters, eqIgnoreAsciiCase_iff.1 h]
    decide
  obtain ⟨c, rest, heq, hc, _⟩ := List.map_eq_cons_iff.1 hletters
  refine ⟨c, rest, heq, ?_⟩
  rw [← isBlank_asciiLower, hc]
  decide

theorem normalize_setOf {t word spaces : String} (h : Unpadded t.toList)
    (hplain : ¬ "setof ".toList <+: (lowercase t).toList)
    (hword : eqIgnoreAsciiCase word "setof" = true) (hne : spaces ≠ "")
    (hspaces : ∀ c ∈ spaces.toList, c = ' ') : normalize (word ++ spaces ++ t) = normalize t := by
  have hlower : lowerChars [] word.toList = "setof".toList := by
    rw [← toList_lowercase, lowercase_congr hword]
    decide
  have hfirst : ∃ c rest, word.toList ++ (spaces.toList ++ t.toList) = c :: rest ∧
      isBlank c = false := by
    obtain ⟨c, rest, heq, hc⟩ := setOf_word hword
    exact ⟨c, rest ++ (spaces.toList ++ t.toList), by rw [heq, List.cons_append], hc⟩
  obtain ⟨c, more, hmore⟩ := List.exists_cons_of_ne_nil
    fun hnil => hne (String.toList_eq_nil_iff.1 hnil)
  rw [hmore] at hspaces hfirst
  obtain rfl := hspaces c List.mem_cons_self
  have hlast : EndsSolid (word.toList ++ (' ' :: more ++ t.toList)) :=
    EndsSolid.append (EndsSolid.append h.last _) _
  have hspaced : ∀ d ∈ ' ' :: more, isBoundary d = true := by
    intro d hd
    rw [hspaces d hd]
    decide
  have hchars : (word ++ spaces ++ t).toList = word.toList ++ (' ' :: more ++ t.toList) := by
    rw [String.toList_append, String.toList_append, hmore, List.append_assoc]
  rw [← String.toList_inj, toList_normalize, hchars, trim_unpadded ⟨hfirst, hlast⟩,
    lowerChars_append (fun d hd => by cases hd; decide), lowerChars_boundaries hspaced, hlower,
    normalize_unpadded h]
  rw [toList_lowercase] at hplain
  exact normalizeChars_setOf (unpadded_lowerChars h) hplain
    fun d hd => hspaces d (List.mem_cons_of_mem ' ' hd)

theorem isBoundary_of_tail {c : Char} (h : c = ' ' ∨ c = '[') : isBoundary c = true := by
  rcases h with rfl | rfl <;> decide

/-- A name, its modifier and what follows are lower-cased apart. -/
theorem lowerChars_modifier {spaces : List Char} (hspaces : ∀ c ∈ spaces, c = ' ')
    (base inside tail : List Char) :
    lowerChars [] (base ++ spaces ++ '(' :: (inside ++ ')' :: tail)) =
      lowerChars [] base ++
        (spaces ++ '(' :: (lowerChars [] inside ++ ')' :: lowerChars [] tail)) := by
  have hspaced : ∀ c ∈ spaces, isBoundary c = true :=
    fun c hc => isBoundary_of_tail (Or.inl (hspaces c hc))
  rw [lowerChars_boundary (d := '(') (by decide), lowerChars_boundary (d := ')') (by decide),
    lowerChars_append_boundaries hspaced, List.append_assoc]

/-- A name with a modifier is trimmed behind the tail only. -/
theorem trim_modifier {base spaces inside tail : String} (h : Unpadded base.toList) :
    trim (base ++ spaces ++ "(" ++ inside ++ ")" ++ tail).toList =
      base.toList ++ spaces.toList ++ '(' :: (inside.toList ++ ')' :: trimRight tail.toList) := by
  have hbehind : ∀ behind, base.toList ++ spaces.toList ++ '(' :: (inside.toList ++ ')' :: behind) =
      base.toList ++ spaces.toList ++ '(' :: (inside.toList ++ [')']) ++ behind := by
    intro behind
    simp only [List.append_assoc, List.cons_append, List.nil_append]
  have hchars : (base ++ spaces ++ "(" ++ inside ++ ")" ++ tail).toList =
      base.toList ++ spaces.toList ++ '(' :: (inside.toList ++ ')' :: tail.toList) := by
    simp only [String.toList_append, List.append_assoc]
    rfl
  have hclosed : Unpadded (base.toList ++ spaces.toList ++ '(' :: (inside.toList ++ [')'])) := by
    obtain ⟨c, rest, hfirst, hc⟩ := h.first
    rw [hfirst]
    exact ⟨⟨c, _, rfl, hc⟩, _, ')', (List.append_assoc _ ('(' :: inside.toList) [')']).symm,
      by decide⟩
  rw [hchars, hbehind, trim_unpadded_append hclosed, ← hbehind]

theorem normalize_modifier {base spaces inside tail : String} (h : Unpadded base.toList)
    (hparen : '(' ∉ base.toList) (hword : lowercase base ≠ "setof")
    (hplain : ¬ "setof ".toList <+: (lowercase base).toList)
    (hspaces : ∀ c ∈ spaces.toList, c = ' ') (hinside : ')' ∉ inside.toList)
    (htail : ∀ c ∈ tail.toList.head?, c = ' ' ∨ c = '[') (hopen : '(' ∉ tail.toList) :
    normalize (base ++ spaces ++ "(" ++ inside ++ ")" ++ tail) = normalize (base ++ tail) := by
  have hkept : ∀ c ∈ (trimRight tail.toList).head?, c = ' ' ∨ c = '[' :=
    fun c hc => htail c (mem_head?_of_trimRight hc)
  have hbound : ∀ c ∈ (trimRight tail.toList).head?, isBoundary c = true :=
    fun c hc => isBoundary_of_tail (hkept c hc)
  have hopen' : '(' ∉ trimRight tail.toList :=
    fun hin => hopen ((trimRight_begins tail.toList).subset hin)
  have hword' : lowerChars [] base.toList ≠ "setof".toList := by
    rw [← toList_lowercase]
    exact fun heq => hword (String.toList_inj.1 heq)
  rw [toList_lowercase] at hplain
  rw [← String.toList_inj, toList_normalize, toList_normalize, trim_modifier h,
    lowerChars_modifier hspaces, String.toList_append, trim_unpadded_append h,
    lowerChars_append hbound]
  refine normalizeChars_modifier (endsSolid_lowerChars h.last)
    (notMem_lowerChars hparen (by decide)) hword' hplain hspaces
    (notMem_lowerChars hinside (by decide)) ?_ (notMem_lowerChars hopen' (by decide))
  rw [head?_lowerChars hbound]
  exact hkept

end NativeType

/-! ## One type -/

/-- The engine reads both names as the same type. -/
structure Engine.SameType (engine : Engine) (a b : String) : Prop where
  valueType : engine.valueType? a = engine.valueType? b
  dateOnly : engine.isDateOnly a = engine.isDateOnly b
  timeOnly : engine.isTimeOnly a = engine.isTimeOnly b
  rowVersion : NativeType.isRowVersion a = NativeType.isRowVersion b

namespace Engine.SameType

variable {engine : Engine} {a b c : String}

theorem equivalence (engine : Engine) : Equivalence engine.SameType where
  refl _ := ⟨rfl, rfl, rfl, rfl⟩
  symm h := ⟨h.valueType.symm, h.dateOnly.symm, h.timeOnly.symm, h.rowVersion.symm⟩
  trans h h' := ⟨h.valueType.trans h'.valueType, h.dateOnly.trans h'.dateOnly,
    h.timeOnly.trans h'.timeOnly, h.rowVersion.trans h'.rowVersion⟩

theorem of_normalize (h : NativeType.normalize a = NativeType.normalize b) :
    engine.SameType a b := by
  refine ⟨?_, ?_, ?_, ?_⟩
  · unfold valueType? NativeType.postgres? NativeType.sqlServer? NativeType.arrayElement?
    rw [h]
  · unfold isDateOnly NativeType.isDate
    rw [h]
  · unfold isTimeOnly
    rw [h]
  · unfold NativeType.isRowVersion
    rw [h]

end Engine.SameType

namespace NativeType

/-- The word `setof` with no type behind it is no type, like no name at all. -/
theorem sameType_setOf_nothing {word spaces : String} (engine : Engine)
    (hword : eqIgnoreAsciiCase word "setof" = true) (hspaces : ∀ c ∈ spaces.toList, c = ' ') :
    engine.SameType "" (word ++ spaces ++ "") := by
  have hnormal : normalize (word ++ spaces ++ "") = normalize "setof" := by
    have hpadded : normalize ("" ++ word ++ spaces) = normalize word :=
      normalize_padded (fun _ hc => by cases hc) (isBlank_of_space hspaces)
    rw [String.empty_append] at hpadded
    rw [String.append_empty, hpadded, normalize_eq_of_letterCase hword]
  have hword' : engine.SameType "setof" (word ++ spaces ++ "") :=
    Engine.SameType.of_normalize hnormal.symm
  have hempty : engine.SameType "" "setof" := by
    cases engine <;> exact ⟨by decide, by decide, by decide, by decide⟩
  exact (Engine.SameType.equivalence engine).trans hempty hword'

theorem sameType_of_respelled {a b : String} (engine : Engine) (h : Respelled a b) :
    engine.SameType a b := by
  cases h with
  | letterCase h => exact .of_normalize (normalize_eq_of_letterCase h)
  | padded hfront hback => exact .of_normalize (normalize_padded hfront hback).symm
  | setOf htrimmed hplain hword hne hspaces =>
      -- Behind nothing the space is trimmed away, and the word is taken for a name.
      by_cases hempty : a = ""
      · rw [hempty]
        exact sameType_setOf_nothing engine hword hspaces
      · have hsolid := unpadded_of_trimmed hempty htrimmed
        exact .of_normalize (normalize_setOf hsolid hplain hword hne hspaces).symm
  | modifier htrimmed hne hparen hword hplain hspaces hinside htail hopen =>
      have hsolid := unpadded_of_trimmed hne htrimmed
      exact .of_normalize
        (normalize_modifier hsolid hparen hword hplain hspaces hinside htail hopen).symm

/-! ## Arrays -/

/-- Pairs of brackets in a row. -/
def brackets (pairs : Nat) : String := String.ofList (List.replicate pairs ['[', ']']).flatten

theorem toList_brackets (pairs : Nat) :
    (brackets pairs).toList = (List.replicate pairs ['[', ']']).flatten := String.toList_ofList

theorem mem_brackets {pairs : Nat} {c : Char} (h : c ∈ (brackets pairs).toList) :
    c = '[' ∨ c = ']' := by
  rw [toList_brackets] at h
  obtain ⟨pair, hpair, hc⟩ := List.mem_flatten.1 h
  rw [List.eq_of_mem_replicate hpair] at hc
  rcases List.mem_cons.1 hc with rfl | hc
  · exact Or.inl rfl
  · exact Or.inr (List.mem_singleton.1 hc)

theorem endsSolid_brackets (pairs : Nat) : EndsSolid (brackets (pairs + 1)).toList := by
  refine ⟨(brackets pairs).toList ++ ['['], ']', ?_, by decide⟩
  rw [toList_brackets, toList_brackets, List.replicate_succ', List.flatten_append,
    List.flatten_singleton, List.append_assoc]
  rfl

theorem reverse_brackets (pairs : Nat) :
    (brackets pairs).toList.reverse = (List.replicate pairs [']', '[']).flatten := by
  rw [toList_brackets, List.reverse_flatten, List.map_replicate, List.reverse_replicate]
  rfl

theorem dropBracketsBackwards_pairs (pairs : Nat) (cs : List Char) :
    dropBracketsBackwards ((List.replicate pairs [']', '[']).flatten ++ cs) =
      dropBracketsBackwards cs := by
  induction pairs with
  | zero => rfl
  | succ pairs ih =>
      rw [List.replicate_succ, List.flatten_cons, List.append_assoc, List.cons_append,
        List.cons_append, List.nil_append, dropBracketsBackwards, ih]

/-- A name that is no array has no brackets to drop. -/
theorem dropBracketsBackwards_of_scalar {t : String} (h : arrayElement? t = none) :
    dropBracketsBackwards (normalize t).toList.reverse = (normalize t).toList.reverse := by
  unfold arrayElement? at h
  dsimp only at h
  split at h
  · cases h
  · cases h
  · rename_i hbrackets _
    unfold dropBracketsBackwards
    split
    · rename_i rest heq
      exact absurd heq (hbrackets rest)
    · rfl

/-- Brackets behind a name make an array of what the name says. -/
theorem arrayElement?_of_brackets {t array : String} {pairs : Nat}
    (hname : normalize array = normalize t ++ brackets (pairs + 1)) (h : arrayElement? t = none) :
    arrayElement? array = some (normalize t) := by
  have hreverse : (normalize array).toList.reverse = ']' :: '[' ::
      ((List.replicate pairs [']', '[']).flatten ++ (normalize t).toList.reverse) := by
    rw [hname, String.toList_append, List.reverse_append, reverse_brackets, List.replicate_succ]
    rfl
  -- The last pair says that it is an array, the others are dropped with it.
  unfold arrayElement?
  simp only [hreverse]
  rw [dropBracketsBackwards_pairs, dropBracketsBackwards_of_scalar h, List.reverse_reverse,
    String.ofList_toList]

theorem normalize_brackets {t : String} (h : Unpadded t.toList) (hquote : '"' ∉ t.toList)
    (hne : normalize t ≠ "") (pairs : Nat) :
    normalize (t ++ brackets (pairs + 1)) = normalize t ++ brackets (pairs + 1) := by
  have hends := endsSolid_brackets pairs
  have hbound : ∀ c ∈ (brackets (pairs + 1)).toList, isBoundary c = true := by
    intro c hc
    rcases mem_brackets hc with rfl | rfl <;> decide
  have hne' : normalizeChars (lowerChars [] t.toList) ≠ [] := by
    rw [← normalize_unpadded h]
    exact fun hnil => hne (String.toList_eq_nil_iff.1 hnil)
  rw [← String.toList_inj, toList_normalize, String.toList_append, trim_unpadded_append h,
    trimRight_solid hends, lowerChars_append_boundaries hbound, String.toList_append,
    normalize_unpadded h]
  refine normalizeChars_append (endsSolid_lowerChars h.last)
    (notMem_lowerChars hquote (by decide)) hne' hends ?_ ?_
  · intro c hc
    rcases mem_brackets (List.mem_of_mem_head? hc) with rfl | rfl <;> decide
  · intro c hc
    rcases mem_brackets hc with rfl | rfl <;> decide

/-- A type with values of one kind is in the table under its normal form. -/
theorem postgresKind?_of_scalar {t : String} {kind : ValueKind}
    (h : Engine.postgres.valueType? t = some (.of kind)) :
    arrayElement? t = none ∧ postgresKind? (normalize t) = some kind := by
  unfold Engine.valueType? postgres? at h
  dsimp only at h
  cases harray : arrayElement? t with
  | some element =>
      rw [harray] at h
      obtain ⟨_, _, heq⟩ := Option.map_eq_some_iff.1 h
      cases heq
  | none =>
      rw [harray] at h
      obtain ⟨_, hkind, heq⟩ := Option.map_eq_some_iff.1 h
      cases heq
      exact ⟨rfl, hkind⟩

theorem valueType?_brackets {t : String} {kind : ValueKind} (htrimmed : trimmed t = t)
    (hquote : '"' ∉ t.toList) (h : Engine.postgres.valueType? t = some (.of kind)) (pairs : Nat) :
    Engine.postgres.valueType? (t ++ brackets (pairs + 1)) = some (.arrayOf (.of kind)) := by
  have hne : t ≠ "" := by
    rintro rfl
    have hnone : Engine.postgres.valueType? "" = none := by decide
    rw [hnone] at h
    cases h
  obtain ⟨harray, hkind⟩ := postgresKind?_of_scalar h
  have hnamed : normalize t ≠ "" := by
    intro hempty
    have hnone : postgresKind? "" = none := by decide
    rw [hempty, hnone] at hkind
    cases hkind
  have hname := normalize_brackets (unpadded_of_trimmed hne htrimmed) hquote hnamed pairs
  unfold Engine.valueType? postgres?
  dsimp only
  rw [arrayElement?_of_brackets hname harray]
  dsimp only
  rw [hkind, Option.map_some]

/-! ## All spellings -/

/-- The names of the tables have their kinds. Names that differ by any number of respellings are one
type to both engines, and brackets behind the name of a type with values of one kind make an array of
that kind. -/
theorem spellings_agree :
    (∀ (engine : Engine), ∀ entry ∈ engine.typeTable, ∀ name ∈ entry.2,
      engine.valueType? name = some (.of entry.1)) ∧
    (∀ (engine : Engine) (a b : String), Relation.EqvGen Respelled a b → engine.SameType a b) ∧
      ∀ (t : String) (kind : ValueKind) (pairs : Nat), trimmed t = t → '"' ∉ t.toList →
        Engine.postgres.valueType? t = some (.of kind) → 1 ≤ pairs →
        Engine.postgres.valueType? (t ++ brackets pairs) = some (.arrayOf (.of kind)) := by
  refine ⟨fun engine entry hentry name hname => ?_, fun engine a b h => ?_,
    fun t kind pairs htrimmed hquote h hpairs => ?_⟩
  · exact engine.valueType?_of_typeTable hentry hname
  · rw [← (Engine.SameType.equivalence engine).eqvGen_iff]
    exact h.mono fun _ _ => sameType_of_respelled engine
  · obtain ⟨more, rfl⟩ := Nat.exists_eq_add_of_le' hpairs
    exact valueType?_brackets htrimmed hquote h more

/-- The name of a timestamp is padded, a set, in capitals and given a precision. -/
theorem spellings_agree_timestamp :
    Engine.postgres.valueType? "timestamp" = some (.of .dateTime) ∧
      Engine.sqlServer.SameType "timestamp without time zone"
        "  SETOF  Timestamp (3) without time zone\n" ∧
      Engine.postgres.valueType? "SETOF Timestamp(3) without time zone[][]" =
        some (.arrayOf (.of .dateTime)) := by
  obtain ⟨hnames, hsame, harray⟩ := spellings_agree
  refine ⟨?_, ?_, ?_⟩
  · exact hnames .postgres (.dateTime, ["timestamp", "timestamp without time zone"]) (by decide)
      "timestamp" (by decide)
  · have hmodifier : Respelled ("timestamp" ++ " without time zone")
        ("timestamp" ++ " " ++ "(" ++ "3" ++ ")" ++ " without time zone") :=
      .modifier (by decide) (by decide) (by decide) (by decide) (by decide)
        (fun _ hc => List.mem_singleton.1 hc) (by decide)
        (fun _ hc => Or.inl (Option.some.inj hc).symm) (by decide)
    have hcase : Respelled "timestamp (3) without time zone" "Timestamp (3) without time zone" :=
      .letterCase (by decide)
    have hset : Respelled "Timestamp (3) without time zone"
        ("SETOF" ++ "  " ++ "Timestamp (3) without time zone") :=
      .setOf (by decide) (by decide) (by decide) (by decide) fun c hc =>
        List.eq_of_mem_replicate (show c ∈ List.replicate 2 ' ' from hc)
    have hpadded : Respelled "SETOF  Timestamp (3) without time zone"
        ("  " ++ "SETOF  Timestamp (3) without time zone" ++ "\n") :=
      .padded (List.all_eq_true.1 (by decide)) (List.all_eq_true.1 (by decide))
    have hprecise : Relation.EqvGen Respelled "timestamp without time zone"
        "Timestamp (3) without time zone" := .trans _ _ _ (.rel _ _ hmodifier) (.rel _ _ hcase)
    exact hsame .sqlServer _ _
      (.trans _ _ _ (.trans _ _ _ hprecise (.rel _ _ hset)) (.rel _ _ hpadded))
  · exact harray "SETOF Timestamp(3) without time zone" .dateTime 2 (by decide) (by decide)
      (by decide) (by decide)

end NativeType

end SchemaModel
