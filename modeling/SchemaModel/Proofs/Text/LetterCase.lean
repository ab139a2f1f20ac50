import SchemaModel.Inspection.Operations
import SchemaModel.Proofs.Text.Letters
import Mathlib.Data.List.Basic

/-!
# `SchemaModel.Proofs.Text.LetterCase` — texts in another letter case

SQL Server compares names without the case of ASCII letters. A text in another letter case is
trimmed, divided and recognized as a type in the same way, so it comes to the same or to the same in
another letter case.

## Contents
- **Characters.** The classes of characters look through letter case.
- `inSmallLetters`: the text with ASCII letters in lower case. `eqIgnoreAsciiCase_iff`: texts agree
  up to letter case when they are the same in small letters.
- **Functions of texts.** `trimmed`, `lowercase` and `breakAt?` on small letters.
- **Names of types.** `normalize`, `splitTypeName` and the tests on declared types.
-/

namespace SchemaModel

namespace Text

/-! ## Characters -/

theorem isBlank_asciiLower (c : Char) : isBlank (asciiLower c) = isBlank c :=
  asciiLower_congr (by decide +kernel) c

theorem isCased_asciiLower (c : Char) : isCased (asciiLower c) = isCased c :=
  asciiLower_congr (by decide +kernel) c

theorem isCaseIgnorable_asciiLower (c : Char) :
    isCaseIgnorable (asciiLower c) = isCaseIgnorable c :=
  asciiLower_congr (by decide +kernel) c

theorem lowerChar_asciiLower (c : Char) : lowerChar (asciiLower c) = lowerChar c :=
  asciiLower_congr (by decide +kernel) c

/-! ## Texts -/

/-- The text with its ASCII letters in lower case. -/
def inSmallLetters (s : String) : String := String.ofList (s.toList.map asciiLower)

theorem toList_inSmallLetters (s : String) :
    (inSmallLetters s).toList = s.toList.map asciiLower := String.toList_ofList

theorem eqIgnoreAsciiCase_iff {a b : String} :
    eqIgnoreAsciiCase a b = true ↔ inSmallLetters a = inSmallLetters b := by
  unfold eqIgnoreAsciiCase inSmallLetters
  rw [beq_iff_eq, String.ofList_inj]

theorem inSmallLetters_inSmallLetters (s : String) :
    inSmallLetters (inSmallLetters s) = inSmallLetters s := by
  unfold inSmallLetters
  rw [String.toList_ofList, List.map_map]
  congr 2
  exact funext asciiLower_asciiLower

theorem eqIgnoreAsciiCase_inSmallLetters (s : String) :
    eqIgnoreAsciiCase (inSmallLetters s) s = true :=
  eqIgnoreAsciiCase_iff.2 (inSmallLetters_inSmallLetters s)

theorem inSmallLetters_eq_empty (s : String) : (inSmallLetters s == "") = (s == "") := by
  rw [Bool.eq_iff_iff, beq_iff_eq, beq_iff_eq, ← String.toList_eq_nil_iff, toList_inSmallLetters,
    List.map_eq_nil_iff, String.toList_eq_nil_iff]

theorem dropWhile_map_of {p : Char → Bool} {f : Char → Char} (h : ∀ c, p (f c) = p c)
    (cs : List Char) : (cs.map f).dropWhile p = (cs.dropWhile p).map f := by
  rw [List.dropWhile_map]
  congr 2
  exact funext h

theorem trim_map_asciiLower (cs : List Char) :
    trim (cs.map asciiLower) = (trim cs).map asciiLower := by
  unfold trim trimRight dropEndWhile trimLeft
  rw [dropWhile_map_of isBlank_asciiLower, ← List.map_reverse, dropWhile_map_of isBlank_asciiLower,
    List.map_reverse]

theorem trimmed_inSmallLetters (s : String) :
    trimmed (inSmallLetters s) = inSmallLetters (trimmed s) := by
  unfold trimmed
  rw [toList_inSmallLetters, trim_map_asciiLower]
  unfold inSmallLetters
  rw [String.toList_ofList]

theorem meetsCased_map_asciiLower (cs : List Char) :
    meetsCased (cs.map asciiLower) = meetsCased cs := by
  unfold meetsCased
  rw [dropWhile_map_of isCaseIgnorable_asciiLower]
  cases cs.dropWhile isCaseIgnorable with
  | nil => rfl
  | cons c rest => exact isCased_asciiLower c

/-- What stands around a sigma matters as far as it is a letter at all. -/
theorem lowerChars_map_asciiLower (before cs : List Char) :
    lowerChars (before.map asciiLower) (cs.map asciiLower) = lowerChars before cs := by
  induction cs generalizing before with
  | nil => rfl
  | cons c rest ih =>
      have hsigma : (asciiLower c == '\u03a3') = (c == '\u03a3') :=
        asciiLower_congr (f := (· == '\u03a3')) (by decide +kernel) c
      rw [List.map_cons, lowerChars, lowerChars, hsigma, meetsCased_map_asciiLower,
        meetsCased_map_asciiLower, lowerChar_asciiLower, ← List.map_cons, ih]

theorem lowercase_inSmallLetters (s : String) : lowercase (inSmallLetters s) = lowercase s := by
  unfold lowercase
  rw [toList_inSmallLetters]
  exact congrArg String.ofList (lowerChars_map_asciiLower [] s.toList)

theorem breakAt?_map {p : Char → Bool} {f : Char → Char} (h : ∀ c, p (f c) = p c)
    (cs : List Char) :
    breakAt? p (cs.map f) =
      (breakAt? p cs).map fun (front, c, rest) => (front.map f, f c, rest.map f) := by
  induction cs with
  | nil => rfl
  | cons c rest ih =>
      rw [List.map_cons, breakAt?, breakAt?, h, ih]
      cases p c with
      | true => rfl
      | false =>
          simp only [Bool.false_eq_true, if_false, Option.map_map]
          rfl

end Text

open Text

/-! ## Names of types -/

theorem NativeType.normalize_inSmallLetters (nativeType : String) :
    normalize (inSmallLetters nativeType) = normalize nativeType := by
  unfold normalize
  rw [trimmed_inSmallLetters, lowercase_inSmallLetters]

theorem Engine.valueType?_inSmallLetters (nativeType : String) :
    sqlServer.valueType? (inSmallLetters nativeType) = sqlServer.valueType? nativeType := by
  unfold valueType? NativeType.sqlServer?
  rw [NativeType.normalize_inSmallLetters]

theorem Engine.isVoid_inSmallLetters (returnType : Option String) :
    sqlServer.isVoid (returnType.map inSmallLetters) = sqlServer.isVoid returnType := by
  cases returnType with
  | none => rfl
  | some t =>
      show (trimmed (inSmallLetters t) == "") = (trimmed t == "")
      rw [trimmed_inSmallLetters, inSmallLetters_eq_empty]

namespace Inspection

theorem isPseudoType_inSmallLetters (nativeType : String) :
    isPseudoType (inSmallLetters nativeType) = isPseudoType nativeType := by
  unfold isPseudoType
  rw [trimmed_inSmallLetters, lowercase_inSmallLetters]

theorem splitTypeName_inSmallLetters (text : String) :
    splitTypeName (inSmallLetters text) =
      ((splitTypeName text).1.map inSmallLetters, inSmallLetters (splitTypeName text).2) := by
  have hpoint : ∀ c, (asciiLower c == '.') = (c == '.') :=
    asciiLower_congr (f := (· == '.')) (by decide +kernel)
  unfold splitTypeName
  rw [toList_inSmallLetters, breakAt?_map hpoint]
  cases breakAt? (· == '.') text.toList with
  | none => rfl
  | some parts =>
      obtain ⟨schema, _, name⟩ := parts
      simp only [Option.map_some, List.isEmpty_map]
      split
      · rfl
      · unfold inSmallLetters
        simp only [Option.map_some, String.toList_ofList]

/-- A type named in small letters is named by an equal key. -/
theorem typeNameKey_inSmallLetters (text schema : String) :
    Engine.sqlServer.keysEqual (typeNameKey (inSmallLetters text) schema)
      (typeNameKey text schema) = true := by
  unfold typeNameKey
  rw [splitTypeName_inSmallLetters]
  obtain ⟨given, name⟩ := splitTypeName text
  have hschema : eqIgnoreAsciiCase ((given.map inSmallLetters).getD schema)
      (given.getD schema) = true := by
    cases given with
    | none => exact eqIgnoreAsciiCase_refl schema
    | some own => exact eqIgnoreAsciiCase_inSmallLetters own
  exact Bool.and_eq_true_iff.2 ⟨hschema, eqIgnoreAsciiCase_inSmallLetters name⟩

end Inspection

end SchemaModel
