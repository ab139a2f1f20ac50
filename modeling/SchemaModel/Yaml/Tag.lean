import SchemaModel.Yaml.Plain

/-!
# `SchemaModel.Yaml.Tag` — scalars with their tags

What a scalar may stand for depends on how it is written and on the tag in front of it, not on its
text alone.

## Contents
- `Tag`: what a tag says of a node. `Tag.ofOctets` reads a tag's full name.
- `Form`, `Scalar`: a scalar's text, how it is written, and its tag.
- `Scalar.allows`, `isVoid`, `isNothing?`: the kinds of value that a scalar may stand for.
-/

namespace SchemaModel.Yaml

/-! ## Tags -/

/-- What a tag says: a name of the text's own, one of the common kinds of scalars, or something that
no reader asks for. -/
inductive Tag where
  | own (name : String)
  | null
  | truth
  | integer
  | other
  deriving DecidableEq, Repr, Inhabited

/-- What the full names of the common kinds begin with. -/
def commonTags : String := "tag:yaml.org,2002:"

/-- The full names of the common kinds. -/
def tagTable : List (List UInt8 × Tag) :=
  [((commonTags ++ "null").toUTF8.toList, .null), ((commonTags ++ "bool").toUTF8.toList, .truth),
   ((commonTags ++ "int").toUTF8.toList, .integer)]

/-- The tag of a full name. An exclamation mark in front makes a name the text's own. -/
def Tag.ofOctets : List UInt8 → Tag
  | 0x21 :: name =>
    match String.fromUTF8? ⟨name.toArray⟩ with
    | some name => .own name
    | none => .other
  | name => (tagTable.lookup name).getD .other

/-! ## Scalars -/

/-- How a scalar is written: without quotes, as a block of lines that are kept, or in another way. -/
inductive Form where
  | plain
  | literal
  | other
  deriving DecidableEq, Repr, Inhabited

/-- A scalar as it is written. -/
structure Scalar where
  text : String
  form : Form
  tag : Option Tag
  deriving DecidableEq, Repr, Inhabited

namespace Scalar

/-- The scalar may stand for a value of a kind: it is written without quotes, or as a block under
the kind's own tag. -/
def allows (kind : Tag) (s : Scalar) : Bool :=
  match s.form with
  | .plain => true
  | .literal => s.tag == some kind
  | _ => false

/-- No character is written, and no quotes. -/
def isVoid (s : Scalar) : Bool := s.form == .plain && s.text == ""

/-- The scalar may stand for nothing once its tag is used up. -/
def isBare (s : Scalar) : Bool := s.form == .plain && Plain.isNull s.text

/-- Whether the scalar stands for nothing. A tag takes that meaning away, except the tag of nothing,
under which no other word may stand. -/
def isNothing? (s : Scalar) : Option Bool :=
  match s.form, s.tag with
  | .plain, none => some (Plain.isNull s.text)
  | .plain, some .null => if Plain.isNullWord s.text then some true else none
  | _, _ => some false

end Scalar

end SchemaModel.Yaml
