import SchemaModel.Json.Basic

/-!
# `SchemaModel.Document.Decode` — taking documents apart

A decoder gives a document the meaning that its place asks for: the same scalar is a number where a
number is wanted and a text where a text is wanted. Only what is asked for is looked at, so that an
alias in a field that nobody wants is never followed.

## Contents
- `Scope`: how deep a document may still nest, whether a record may be written as a list, and what
  aliases stand for.
- `Decoder`: a meaning for documents. The state counts the aliases that may still be followed, for
  a short text with many aliases could name a very long one.
- **Scalars.** `text`, `truth`, `integer`, `int32`, `natural`, `optional`, `word`.
- **Collections.** `list`, and `record`, which finds the fields of a record by their names, or by
  position, and refuses a field given twice.
- `Record`: the fields found, with `required`, `optional` and `defaulted` access.
- `ofJson?`, `ofYaml?`: the meaning of a whole document.
-/

namespace SchemaModel.Decode

/-- The circumstances under which a document is taken apart. -/
structure Scope where
  depth : Nat
  positional : Bool
  targets : List (Nat × Document)

/-- Documents of JSON text. -/
def Scope.json : Scope := ⟨Json.depthLimit, true, []⟩

/-- Documents of YAML text. -/
def Scope.yaml (targets : List (Nat × Document)) : Scope := ⟨Json.depthLimit, false, targets⟩

/-- One level further down; `none` at the limit. -/
def Scope.inner? (s : Scope) : Option Scope :=
  if s.depth = 0 then none else some { s with depth := s.depth - 1 }

/-- A meaning, if there is one, and how many aliases may still be followed after it. -/
abbrev Decoding := StateT Nat Option

/-- What a document means where an `α` is wanted. -/
abbrev Decoder (α : Type) := Scope → Document → Decoding α

/-- The document itself, or the one that an alias stands for. -/
def follow (scope : Scope) : Document → Decoding Document
  | .alias n => fun left =>
    if left = 0 then none else (scope.targets.lookup n).map fun d => (d, left - 1)
  | d => pure d

/-! ## Scalars -/

/-- A meaning that does not depend on what stands inside the document. -/
def leaf {α : Type} (read : Document → Option α) : Decoder α := fun scope d => do
  let d ← follow scope d
  return ← read d

/-- A text; a scalar stands for its own spelling. -/
def text : Decoder String :=
  leaf fun
    | .text s => some s
    | .scalar s => some s.text
    | _ => none

/-- A truth value. -/
def truth : Decoder Bool :=
  leaf fun
    | .bool b => some b
    | .scalar s => if s.allows .truth then Yaml.Plain.truth? s.text else none
    | _ => none

/-- The integer that a document spells. -/
def spelled? : Document → Option Int
  | .number (some (.int n)) => some n
  | .scalar s => if s.allows .integer then Yaml.Plain.integer? s.text else none
  | _ => none

/-- An integer within bounds. -/
def integer (low high : Int) : Decoder Int :=
  leaf fun d => (spelled? d).filter fun n => low ≤ n && n ≤ high

/-- A signed integer of 32 bits. -/
def int32 : Decoder Int := integer (-(Nat.pow 2 31 : Int)) ((Nat.pow 2 31 : Int) - 1)

/-- A scalar with a minus sign in front. -/
def isNegated : Document → Bool
  | .scalar s => s.text.toList.head? == some '-'
  | _ => false

/-- A natural number up to a bound. A scalar may not carry a minus sign, not even for zero. -/
def natural (high : Nat) : Decoder Nat :=
  leaf fun d =>
    if isNegated d then none
    else ((spelled? d).filter fun n => 0 ≤ n && n ≤ (high : Int)).map Int.toNat

/-- A value or nothing. -/
def optional {α : Type} (item : Decoder α) : Decoder (Option α) := fun scope d => do
  let d ← follow scope d
  let isNothing ← match d with
    | .null => pure true
    | .scalar s => s.isNothing?
    | _ => pure false
  if isNothing then return none else return some (← item scope d)

/-- One of a table of words. A scalar names one by its text, or by a tag of its own in front of
nothing. -/
def word {α : Type} (table : List (String × α)) : Decoder α := fun scope =>
  leaf (fun
    | .entries [(.text s, .null)] =>
      if scope.positional && 0 < scope.depth then table.lookup s else none
    | .text s => table.lookup s
    | .scalar s =>
      match s.tag with
      | some (.own name) => if s.isBare then table.lookup name else none
      | _ => table.lookup s.text
    | _ => none) scope

/-! ## Collections -/

/-- The meanings of a list of documents. -/
def all {α : Type} (item : Decoder α) (scope : Scope) : List Document → Decoding (List α)
  | [] => return []
  | d :: rest => return (← item scope d) :: (← all item scope rest)

/-- A list. A scalar without characters is an empty one. -/
def list {α : Type} (item : Decoder α) : Decoder (List α) := fun scope d => do
  match ← follow scope d with
  | .list items => all item (← scope.inner?) items
  | .scalar s => if s.isVoid then return [] else failure
  | _ => failure

/-- The fields of a record by name, with the scope of their contents. -/
structure Record where
  scope : Scope
  fields : List (String × Document)

namespace Record

/-- A field that must be there. -/
def required {α : Type} (r : Record) (key : String) (item : Decoder α) : Decoding α :=
  match r.fields.lookup key with
  | none => failure
  | some d => item r.scope d

/-- A field that may be absent or nothing. -/
def optional {α : Type} (r : Record) (key : String) (item : Decoder α) : Decoding (Option α) :=
  match r.fields.lookup key with
  | none => pure none
  | some d => Decode.optional item r.scope d

/-- A field with a value to take when it is absent. -/
def defaulted {α : Type} (r : Record) (key : String) (item : Decoder α) (otherwise : α) :
    Decoding α :=
  match r.fields.lookup key with
  | none => pure otherwise
  | some d => item r.scope d

end Record

/-- The entries under known names. A known name may come once; an entry under any other name is
passed over. -/
def knownFields (names : List String) (scope : Scope) :
    List (Document × Document) → Decoding (List (String × Document))
  | [] => return []
  | (key, d) :: rest => do
    let k ← text scope key
    let fields ← knownFields names scope rest
    if !names.contains k then return fields
    else if (fields.lookup k).isSome then failure
    else return (k, d) :: fields

/-- A record with the given field names, in order. -/
def record {α : Type} (names : List String) (build : Record → Decoding α) : Decoder α :=
  fun scope d => do
    match ← follow scope d with
    | .entries fields => build ⟨← scope.inner?, ← knownFields names scope fields⟩
    | .list items =>
      if scope.positional && items.length ≤ names.length then
        build ⟨← scope.inner?, names.zip items⟩
      else failure
    | .scalar s => if s.isVoid then build ⟨scope, []⟩ else failure
    | _ => failure

/-! ## Whole documents -/

/-- What a JSON document means. -/
def ofJson? {α : Type} (decode : Decoder α) (d : Document) : Option α :=
  (decode Scope.json d).run' 0

/-- Aliases are followed at most this many times for every part of a document. -/
def repetitionLimit : Nat := 100

/-- What a YAML document means. -/
def ofYaml? {α : Type} (decode : Decoder α) (g : DocumentGraph) : Option α :=
  (decode (Scope.yaml g.targets) g.root).run' (repetitionLimit * g.root.size)

end SchemaModel.Decode
