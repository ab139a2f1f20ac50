import SchemaModel.Model.Facts

/-!
# `SchemaModel.Proofs.Naming.Roles` — roles depend on words

What a name says about its owner is read off its words in lower case. Two names that have the same
words, each in its own style, therefore play the same roles, and so do the fields that bear them
when they hold the same kind of value.

## Contents
- **Names.** One lemma for each role of a name.
- `Field.Alike`: two fields, each under its own style, with the same words, the same kind of value
  and the same flags. `Field.Alike.facts`: whatever follows about one follows about the other.
-/

namespace SchemaModel

/-! ## Names -/

namespace NamingStyle

variable {style style' : NamingStyle} {name name' : String}

theorem isCreatedTimestamp_congr (h : style.lowerWords name = style'.lowerWords name') :
    style.isCreatedTimestamp name = style'.isCreatedTimestamp name' := by
  unfold isCreatedTimestamp
  rw [h]

theorem isModifiedTimestamp_congr (h : style.lowerWords name = style'.lowerWords name') :
    style.isModifiedTimestamp name = style'.isModifiedTimestamp name' := by
  unfold isModifiedTimestamp
  rw [h]

theorem isCreatedBy_congr (h : style.lowerWords name = style'.lowerWords name') :
    style.isCreatedBy name = style'.isCreatedBy name' := by
  unfold isCreatedBy
  rw [h]

theorem isModifiedBy_congr (h : style.lowerWords name = style'.lowerWords name') :
    style.isModifiedBy name = style'.isModifiedBy name' := by
  unfold isModifiedBy
  rw [h]

theorem isSoftDelete_congr (h : style.lowerWords name = style'.lowerWords name') :
    style.isSoftDelete name = style'.isSoftDelete name' := by
  unfold isSoftDelete
  rw [h]

theorem isSecurityUser_congr (h : style.lowerWords name = style'.lowerWords name') :
    style.isSecurityUser name = style'.isSecurityUser name' := by
  unfold isSecurityUser
  rw [h]

end NamingStyle

/-! ## Fields -/

namespace Field

/-- The fields have the same words, each in its own style, and agree in everything else that facts
are read off. -/
structure Alike (style style' : NamingStyle) (f g : Field) : Prop where
  words : style.lowerWords f.name = style'.lowerWords g.name
  valueType : f.valueType = g.valueType
  isRequired : f.isRequired = g.isRequired
  size : f.size = g.size
  isKey : f.isKey = g.isKey
  isGenerated : f.isGenerated = g.isGenerated
  isComputed : f.isComputed = g.isComputed
  hasReference : f.hasReference = g.hasReference
  attributes : f.attributes = g.attributes
  searchVector : (NativeType.normalize f.nativeType == "tsvector") =
    (NativeType.normalize g.nativeType == "tsvector")
  rowVersion : NativeType.isRowVersion f.nativeType = NativeType.isRowVersion g.nativeType

namespace Alike

variable {style style' : NamingStyle} {f g : Field}

theorem kindIs (h : Alike style style' f g) (test : ValueKind → Bool) :
    f.kindIs test = g.kindIs test := by
  unfold Field.kindIs
  rw [h.valueType]

/-! ### Tracking -/

theorem isCreatedTimestamp (h : Alike style style' f g) :
    f.isCreatedTimestamp style = g.isCreatedTimestamp style' := by
  unfold Field.isCreatedTimestamp
  rw [h.kindIs, NamingStyle.isCreatedTimestamp_congr h.words]

theorem isModifiedTimestamp (h : Alike style style' f g) :
    f.isModifiedTimestamp style = g.isModifiedTimestamp style' := by
  unfold Field.isModifiedTimestamp
  rw [h.kindIs, NamingStyle.isModifiedTimestamp_congr h.words]

theorem isCreatedBy (h : Alike style style' f g) : f.isCreatedBy style = g.isCreatedBy style' :=
  NamingStyle.isCreatedBy_congr h.words

theorem isModifiedBy (h : Alike style style' f g) : f.isModifiedBy style = g.isModifiedBy style' :=
  NamingStyle.isModifiedBy_congr h.words

theorem isTrackingUser (h : Alike style style' f g) :
    f.isTrackingUser style = g.isTrackingUser style' := by
  unfold Field.isTrackingUser
  rw [h.isCreatedBy, h.isModifiedBy]

theorem isTrackingTimestamp (h : Alike style style' f g) :
    f.isTrackingTimestamp style = g.isTrackingTimestamp style' := by
  unfold Field.isTrackingTimestamp
  rw [h.isCreatedTimestamp, h.isModifiedTimestamp]

theorem isSoftDelete (h : Alike style style' f g) :
    f.isSoftDelete style = g.isSoftDelete style' := by
  unfold Field.isSoftDelete
  rw [h.kindIs, NamingStyle.isSoftDelete_congr h.words]

/-! ### Content -/

theorem isSearchVector (h : Alike style style' f g) : f.isSearchVector = g.isSearchVector := by
  unfold Field.isSearchVector
  rw [h.searchVector, h.attributes]

theorem isRowVersion (h : Alike style style' f g) : f.isRowVersion = g.isRowVersion := by
  unfold Field.isRowVersion
  rw [h.kindIs, h.rowVersion]

theorem isFile (h : Alike style style' f g) : f.isFile = g.isFile := by
  unfold Field.isFile
  rw [h.kindIs, h.rowVersion]

theorem isLargeText (h : Alike style style' f g) : f.isLargeText = g.isLargeText := by
  unfold Field.isLargeText
  rw [h.kindIs, h.isSearchVector, h.size]

theorem lastWord? (h : Alike style style' f g) : f.lastWord? style = g.lastWord? style' :=
  congrArg List.getLast? h.words

theorem isRating (h : Alike style style' f g) : f.isRating style = g.isRating style' := by
  unfold Field.isRating
  rw [h.kindIs, h.lastWord?]

theorem isColor (h : Alike style style' f g) : f.isColor style = g.isColor style' := by
  unfold Field.isColor
  rw [h.kindIs, h.lastWord?]

theorem isDisplay (h : Alike style style' f g) : f.isDisplay = g.isDisplay := by
  unfold Field.isDisplay
  rw [h.attributes]

theorem isExcludedFromResults (h : Alike style style' f g) :
    f.isExcludedFromResults style = g.isExcludedFromResults style' := by
  unfold Field.isExcludedFromResults
  rw [h.isSoftDelete, h.isSearchVector]

/-! ### Origin -/

theorem isNullable (h : Alike style style' f g) : f.isNullable = g.isNullable := by
  unfold Field.isNullable
  rw [h.isRequired]

theorem isAutoAssignedIdentity (h : Alike style style' f g) :
    f.isAutoAssignedIdentity = g.isAutoAssignedIdentity := by
  unfold Field.isAutoAssignedIdentity
  rw [h.isKey, h.isGenerated, h.kindIs]

theorem isSystemManaged (h : Alike style style' f g) :
    f.isSystemManaged style = g.isSystemManaged style' := by
  unfold Field.isSystemManaged
  rw [h.isGenerated, h.isComputed, h.isRowVersion, h.isSearchVector, h.isTrackingTimestamp,
    h.isTrackingUser, h.isSoftDelete]

theorem isCallerProvided (h : Alike style style' f g) :
    f.isCallerProvided style = g.isCallerProvided style' := by
  unfold Field.isCallerProvided
  rw [h.isSystemManaged]

theorem isUserEditable (h : Alike style style' f g) :
    f.isUserEditable style = g.isUserEditable style' := by
  unfold Field.isUserEditable
  rw [h.isCallerProvided, h.isKey]

/-- Every fact about a field is a fact about the fields that are like it. -/
theorem facts (h : Alike style style' f g) : f.facts style = g.facts style' := by
  unfold Field.facts
  rw [h.isNullable, h.hasReference, h.isCreatedTimestamp, h.isModifiedTimestamp, h.isCreatedBy,
    h.isModifiedBy, h.isTrackingUser, h.isTrackingTimestamp, h.isSoftDelete, h.isSearchVector,
    h.isRowVersion, h.isFile, h.isLargeText, h.isRating, h.isColor, h.isDisplay,
    h.isExcludedFromResults, h.isAutoAssignedIdentity, h.isSystemManaged, h.isCallerProvided,
    h.isUserEditable]

end Alike

end Field

end SchemaModel
