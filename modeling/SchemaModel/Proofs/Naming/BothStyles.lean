import SchemaModel.Model.Operation
import SchemaModel.Proofs.Naming.Roles
import SchemaModel.Proofs.Naming.Spellings

/-!
# `SchemaModel.Proofs.Naming.BothStyles` — a name means the same in both styles

A name is a list of words. What a style reads off its own spelling of the name is those words, and
everything else that a name says is read off the words. Thus both spellings play the same roles,
and an operation with either of them changes the same data.

## Contents
- **Operations.** `Operation.changesData_congr`, `Operation.createsNew_congr`: what the name of an
  operation says about it depends on the words of the name.
- `ReadsBack`: a style finds the words of a name in its own spelling. `SaySame`: two spellings, each
  under its own style, play the same roles.
- `styles_agree`: every name is read back, and its two spellings say the same.
-/

namespace SchemaModel

/-! ## Operations -/

namespace Operation

variable {style style' : NamingStyle} {op op' : Operation}

theorem changesData_congr (hattributes : op.attributes = op'.attributes)
    (hwords : style.lowerWords op.name = style'.lowerWords op'.name) :
    op.changesData style = op'.changesData style' := by
  unfold changesData
  rw [hattributes, hwords]

theorem createsNew_congr (hattributes : op.attributes = op'.attributes)
    (hwords : style.lowerWords op.name = style'.lowerWords op'.name) :
    op.createsNew style = op'.createsNew style' := by
  unfold createsNew
  rw [hattributes, hwords]

end Operation

namespace Name

/-! ## Names and their spellings -/

/-- The style reads the words of the name off its spelling, and off the conventional name of a
result. -/
structure ReadsBack (name : Name) (style : NamingStyle) : Prop where
  words : style.lowerWords (name.text style) = name.map Word.text
  canonical : style.canonical (name.text style) = String.join (name.map Word.text)
  resultWords : style.lowerWords (style.resultTypeName (name.text style)) =
    name.map Word.text ++ ["result"]

/-- Two texts, each read in its own style, play the same roles, and say the same about an operation
that has them as its name. -/
structure SaySame (style style' : NamingStyle) (text text' : String) : Prop where
  isCreatedTimestamp : style.isCreatedTimestamp text = style'.isCreatedTimestamp text'
  isModifiedTimestamp : style.isModifiedTimestamp text = style'.isModifiedTimestamp text'
  isCreatedBy : style.isCreatedBy text = style'.isCreatedBy text'
  isModifiedBy : style.isModifiedBy text = style'.isModifiedBy text'
  isSoftDelete : style.isSoftDelete text = style'.isSoftDelete text'
  isSecurityUser : style.isSecurityUser text = style'.isSecurityUser text'
  changesData : ∀ op : Operation,
    { op with name := text }.changesData style = { op with name := text' }.changesData style'
  createsNew : ∀ op : Operation,
    { op with name := text }.createsNew style = { op with name := text' }.createsNew style'
  resultWords : style.lowerWords (style.resultTypeName text) =
    style'.lowerWords (style'.resultTypeName text')

theorem canonical_text (name : Name) (style : NamingStyle) :
    style.canonical (name.text style) = String.join (name.map Word.text) := by
  unfold NamingStyle.canonical
  rw [lowerWords_text]
  cases name with
  | nil => cases style <;> rfl
  | cons w more => rfl

theorem readsBack (name : Name) (style : NamingStyle) : ReadsBack name style where
  words := lowerWords_text name style
  canonical := canonical_text name style
  resultWords := by
    rw [resultTypeName_text, lowerWords_text, List.map_append]
    rfl

/-- A style finds in its spelling of a name exactly the words of the name. Hence the spellings of
one name in two styles play the same roles. -/
theorem styles_agree (name : Name) :
    (∀ style, ReadsBack name style) ∧
      ∀ style style', SaySame style style' (name.text style) (name.text style') := by
  refine ⟨name.readsBack, fun style style' => ?_⟩
  have hwords : style.lowerWords (name.text style) = style'.lowerWords (name.text style') := by
    rw [lowerWords_text, lowerWords_text]
  exact
    { isCreatedTimestamp := NamingStyle.isCreatedTimestamp_congr hwords
      isModifiedTimestamp := NamingStyle.isModifiedTimestamp_congr hwords
      isCreatedBy := NamingStyle.isCreatedBy_congr hwords
      isModifiedBy := NamingStyle.isModifiedBy_congr hwords
      isSoftDelete := NamingStyle.isSoftDelete_congr hwords
      isSecurityUser := NamingStyle.isSecurityUser_congr hwords
      changesData := fun _ => Operation.changesData_congr rfl hwords
      createsNew := fun _ => Operation.createsNew_congr rfl hwords
      resultWords := by
        rw [(name.readsBack style).resultWords, (name.readsBack style').resultWords] }

end Name

end SchemaModel
