import SchemaModel.Engine
import SchemaModel.Proofs.NativeType.NormalForm

/-!
# `SchemaModel.Proofs.NativeType.Tables` — names that are in normal form already

The tables of the engines are looked up with normal forms, so a name of a table must be one, or it is
never found. A plain name is one, and so is read by its table alone.

## Contents
- `Plain`: a name without capitals, marks and a leading `setof`. `normalize_plain`.
- `Engine.typeTable`, `Engine.valueType?_plain`: what an engine reads a plain name as.
- `Engine.valueType?_of_typeTable`: the engines read the names of their tables.
-/

namespace SchemaModel

open Text

namespace NativeType

/-! ## Plain names -/

/-- A small letter, a digit, a space or an underscore. -/
def isNameChar (c : Char) : Bool := isWordChar c || c == ' ' || c == '_'

/-- A name of such characters with none of the signs that are taken off a name. -/
def Plain (t : String) : Prop :=
  trimmed t = t ∧ t.toList.all isNameChar = true ∧ t.toList.head? ≠ some '_' ∧
    ¬ "setof ".toList <+: t.toList

instance (t : String) : Decidable (Plain t) := inferInstanceAs (Decidable (_ ∧ _))

namespace Plain

variable {t : String} (h : Plain t)

include h

theorem isNameChar {c : Char} (hc : c ∈ t.toList) : isNameChar c = true :=
  List.all_eq_true.1 h.2.1 c hc

theorem notMem {c : Char} (hc : NativeType.isNameChar c = false) : c ∉ t.toList := by
  intro hin
  rw [h.isNameChar hin] at hc
  cases hc

theorem trim : Text.trim t.toList = t.toList := by
  have htrimmed := congrArg String.toList h.1
  unfold trimmed at htrimmed
  rwa [String.toList_ofList] at htrimmed

theorem lowerChars : Text.lowerChars [] t.toList = t.toList := by
  have hcases : ∀ c ∈ t.toList, isAscii c = true ∧ asciiLower c = c := by
    intro c hc
    have hname := h.isNameChar hc
    unfold NativeType.isNameChar at hname
    rw [Bool.or_eq_true, Bool.or_eq_true, beq_iff_eq, beq_iff_eq] at hname
    rcases hname with (hword | rfl) | rfl
    · exact ⟨isWordChar.isAscii hword, isWordChar.asciiLower hword⟩
    · decide
    · decide
  rw [lowerChars_of_ascii fun c hc => (hcases c hc).1,
    List.map_congr_left fun c hc => (hcases c hc).2, List.map_id']

end Plain

variable {t : String}

theorem normalize_plain (h : Plain t) : normalize t = t := by
  rw [← String.toList_inj, toList_normalize, h.trim, h.lowerChars, normalizeChars,
    dropSetOf_eq_self h.2.2.2, dropModifier_eq_self (h.notMem (by decide)),
    filter_quotes (h.notMem (by decide)), h.trim]

/-- A plain name is not one of an array. -/
theorem arrayElement?_plain (h : Plain t) : arrayElement? t = none := by
  unfold arrayElement?
  rw [normalize_plain h]
  dsimp only
  split
  · rename_i rest hreverse
    have hbracket : ']' ∈ t.toList.reverse := by
      rw [hreverse]
      exact List.mem_cons_self
    exact absurd (List.mem_reverse.1 hbracket) (h.notMem (by decide))
  · rename_i rest hname _
    exact absurd (congrArg List.head? hname) h.2.2.1
  · rfl

end NativeType

/-! ## Tables -/

/-- The names that the engine knows, with their kinds. -/
def Engine.typeTable : Engine → List (ValueKind × List String)
  | .postgres => NativeType.postgresTable
  | .sqlServer => NativeType.sqlServerTable

theorem Engine.valueType?_plain (engine : Engine) {t : String} (h : NativeType.Plain t) :
    engine.valueType? t = (NativeType.lookup engine.typeTable t).map .of := by
  cases engine with
  | postgres =>
      show NativeType.postgres? t = _
      unfold NativeType.postgres?
      rw [NativeType.arrayElement?_plain h, NativeType.normalize_plain h]
      rfl
  | sqlServer =>
      show NativeType.sqlServer? t = _
      unfold NativeType.sqlServer?
      rw [NativeType.normalize_plain h]
      rfl

/-- No name of a table stands for two kinds. -/
theorem Engine.lookup_typeTable (engine : Engine) : ∀ entry ∈ engine.typeTable,
    ∀ name ∈ entry.2, NativeType.lookup engine.typeTable name = some entry.1 := by
  cases engine <;> decide +kernel

theorem Engine.plain_typeTable (engine : Engine) : ∀ entry ∈ engine.typeTable,
    ∀ name ∈ entry.2, NativeType.Plain name := by
  cases engine <;> decide +kernel

theorem Engine.valueType?_of_typeTable (engine : Engine) {entry : ValueKind × List String}
    (hentry : entry ∈ engine.typeTable) {name : String} (hname : name ∈ entry.2) :
    engine.valueType? name = some (.of entry.1) := by
  rw [engine.valueType?_plain (engine.plain_typeTable entry hentry name hname),
    engine.lookup_typeTable entry hentry name hname, Option.map_some]

end SchemaModel
