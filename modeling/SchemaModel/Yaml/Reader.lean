import SchemaModel.Document
import SchemaModel.Yaml.Plain
import SchemaModel.Yaml.Token

/-!
# `SchemaModel.Yaml.Reader` — reading YAML text

A total reader of YAML text that holds one document.

## Contents
- `Anchors`: the names given to documents, each with a number, and the documents of the numbers. An
  alias stands for the last document of the number that its name has where the alias stands.
- `Properties`, `Place`: what stands in front of a node, and where the node stands.
- **Nodes.** `node` and the functions with it read one node off a list of tokens. They share a
  bound on the nesting plus the number of parts; three times the number of tokens is always enough.
- `read?`: the document of a text.
-/

namespace SchemaModel.Yaml

/-! ## Names for documents -/

/-- The names given so far with their numbers, and the documents of the numbers, the one that began
last first. -/
structure Anchors where
  numbers : List (String × Nat)
  targets : List (Nat × Document)

namespace Anchors

/-- No names. -/
def none : Anchors := ⟨[], []⟩

/-- Gives a name to a document that begins. Its number is that of the names given before, so a name
that is given again shares its number with the next new one. -/
def give (anchors : Anchors) (name : String) : Anchors :=
  let number := anchors.numbers.length
  ⟨(name, number) :: anchors.numbers.filter (·.1 != name), (number, .null) :: anchors.targets⟩

/-- Puts in the document that began when so many others had begun. -/
def fill (anchors : Anchors) (position : Nat) (d : Document) : Anchors :=
  let targets := anchors.targets
  { anchors with
    targets := targets.modify (targets.length - 1 - position) fun (number, _) => (number, d) }

end Anchors

/-! ## Nodes -/

/-- What the handles of tags stand for. -/
abbrev Handles := List (String × List UInt8)

/-- The handles that need no directive. -/
def standardHandles : Handles :=
  [("", []), ("!", "!".toUTF8.toList), ("!!", commonTags.toUTF8.toList)]

/-- What stands in front of a node: a tag and a name. -/
structure Properties where
  tag : Option Tag
  anchor : Option String

/-- Nothing stands in front. -/
def Properties.none : Properties := ⟨.none, .none⟩

/-- Something stands in front. -/
def Properties.isSome (own : Properties) : Bool := own.tag.isSome || own.anchor.isSome

/-- The properties in front of the tokens, in either order; `none` when a handle is not known. -/
def properties? (handles : Handles) (ts : List Token) : Option (Properties × List Token) :=
  let tag? := fun handle suffix =>
    (handles.lookup handle).map fun stands => Tag.ofOctets (stands ++ suffix)
  match ts with
  | .anchor name :: .tag handle suffix :: rest =>
    (tag? handle suffix).map fun tag => (⟨some tag, some name⟩, rest)
  | .anchor name :: rest => some (⟨none, some name⟩, rest)
  | .tag handle suffix :: .anchor name :: rest =>
    (tag? handle suffix).map fun tag => (⟨some tag, some name⟩, rest)
  | .tag handle suffix :: rest => (tag? handle suffix).map fun tag => (⟨some tag, none⟩, rest)
  | rest => some (.none, rest)

/-- A node that is not there, under a tag. -/
def missing (tag : Option Tag) : Document := .scalar ⟨"", .plain, tag⟩

/-- A node that is not there. -/
def absent : Document := missing none

/-- A result of reading with the names known after it and the remaining tokens. -/
abbrev Read (α : Type) := Option (α × Anchors × List Token)

/-- The entries of a mapping. -/
abbrev Entries := List (Document × Document)

/-- The circumstances of a node: the handles known, whether indentation may imply collections, and
whether hyphens at the parent's column are a list. -/
structure Place where
  handles : Handles
  block : Bool
  loose : Bool

/-- In a block collection's item. -/
def Place.inItem (p : Place) : Place := ⟨p.handles, true, false⟩

/-- After a block collection's key or colon. -/
def Place.inEntry (p : Place) : Place := ⟨p.handles, true, true⟩

/-- Between brackets. -/
def Place.inFlow (p : Place) : Place := ⟨p.handles, false, false⟩

mutual

/-- A node with its properties, or an alias. -/
def node (fuel : Nat) (p : Place) (anchors : Anchors) (ts : List Token) : Read Document :=
  match fuel with
  | 0 => none
  | fuel + 1 =>
    match ts with
    | .alias name :: rest => (anchors.numbers.lookup name).map fun n => (.alias n, anchors, rest)
    | ts =>
      match properties? p.handles ts with
      | none => none
      | some (own, rest) =>
        match own.anchor with
        | none => content fuel p anchors own rest
        | some name =>
          -- The name is known inside its own document.
          match content fuel p (anchors.give name) own rest with
          | none => none
          | some (d, known, rest) => some (d, known.fill anchors.targets.length d, rest)

/-- A node after its properties. When it has some it may be absent. -/
def content (fuel : Nat) (p : Place) (anchors : Anchors) (own : Properties) (ts : List Token) :
    Read Document :=
  match fuel with
  | 0 => none
  | fuel + 1 =>
    match ts with
    | .scalar text form :: rest => some (.scalar ⟨text, form, own.tag⟩, anchors, rest)
    | .openList :: rest =>
      (flowItems fuel p.inFlow anchors true rest).map fun (items, more) => (.list items, more)
    | .openEntries :: rest =>
      (flowEntries fuel p.inFlow anchors true rest).map fun (es, more) => (.entries es, more)
    | ts =>
      match p.loose, p.block, ts with
      | true, _, .item :: _ =>
        (looseItems fuel p anchors ts).map fun (items, more) => (.list items, more)
      | _, true, .blockList :: rest =>
        (blockItems fuel p anchors rest).map fun (items, more) => (.list items, more)
      | _, true, .blockEntries :: rest =>
        (blockEntries fuel p anchors rest).map fun (es, more) => (.entries es, more)
      | _, _, _ => if own.isSome then some (missing own.tag, anchors, ts) else none

/-- The items of an indented list up to its end. -/
def blockItems (fuel : Nat) (p : Place) (anchors : Anchors) (ts : List Token) :
    Read (List Document) :=
  match fuel with
  | 0 => none
  | fuel + 1 =>
    match ts with
    | .blockEnd :: rest => some ([], anchors, rest)
    | .item :: rest =>
      let first := match rest with
        | .item :: _ | .blockEnd :: _ => some (absent, anchors, rest)
        | _ => node fuel p.inItem anchors rest
      match first with
      | none => none
      | some (d, anchors, rest) =>
        (blockItems fuel p anchors rest).map fun (items, more) => (d :: items, more)
    | _ => none

/-- The items of a list whose hyphens stand at the parent's column. -/
def looseItems (fuel : Nat) (p : Place) (anchors : Anchors) (ts : List Token) :
    Read (List Document) :=
  match fuel with
  | 0 => none
  | fuel + 1 =>
    match ts with
    | .item :: rest =>
      let first := match rest with
        | .item :: _ | .key :: _ | .value :: _ | .blockEnd :: _ => some (absent, anchors, rest)
        | _ => node fuel p.inItem anchors rest
      match first with
      | none => none
      | some (d, anchors, rest) =>
        (looseItems fuel p anchors rest).map fun (items, more) => (d :: items, more)
    | ts => some ([], anchors, ts)

/-- The entries of an indented mapping up to its end. -/
def blockEntries (fuel : Nat) (p : Place) (anchors : Anchors) (ts : List Token) : Read Entries :=
  match fuel with
  | 0 => none
  | fuel + 1 =>
    match ts with
    | .blockEnd :: rest => some ([], anchors, rest)
    | .key :: rest =>
      let key := match rest with
        | .key :: _ | .value :: _ | .blockEnd :: _ => some (absent, anchors, rest)
        | _ => node fuel p.inEntry anchors rest
      match key with
      | none => none
      | some (k, anchors, rest) =>
        let item := match rest with
          | .value :: rest =>
            match rest with
            | .key :: _ | .value :: _ | .blockEnd :: _ => some (absent, anchors, rest)
            | _ => node fuel p.inEntry anchors rest
          | _ => some (absent, anchors, rest)
        match item with
        | none => none
        | some (d, anchors, rest) =>
          (blockEntries fuel p anchors rest).map fun (es, more) => ((k, d) :: es, more)
    | _ => none

/-- The items of a bracketed list up to its end. An item may be a single entry. -/
def flowItems (fuel : Nat) (p : Place) (anchors : Anchors) (first : Bool) (ts : List Token) :
    Read (List Document) :=
  match fuel with
  | 0 => none
  | fuel + 1 =>
    match first, ts with
    | _, .closeList :: rest => some ([], anchors, rest)
    | false, .comma :: .closeList :: rest => some ([], anchors, rest)
    | false, .comma :: rest => flowItem fuel p anchors rest
    | false, _ => none
    | true, ts => flowItem fuel p anchors ts

/-- One item of a bracketed list and those after it. -/
def flowItem (fuel : Nat) (p : Place) (anchors : Anchors) (ts : List Token) :
    Read (List Document) :=
  match fuel with
  | 0 => none
  | fuel + 1 =>
    let item := match ts with
      | .key :: rest => pair fuel p anchors rest
      | ts => node fuel p anchors ts
    match item with
    | none => none
    | some (d, anchors, rest) =>
      (flowItems fuel p anchors false rest).map fun (items, more) => (d :: items, more)

/-- A single entry in a bracketed list, after its key's mark. -/
def pair (fuel : Nat) (p : Place) (anchors : Anchors) (ts : List Token) : Read Document :=
  match fuel with
  | 0 => none
  | fuel + 1 =>
    let key := match ts with
      -- A missing key takes the token in its place along.
      | .value :: _ | .comma :: _ | .closeList :: _ => some (absent, anchors, ts.drop 1)
      | _ => node fuel p anchors ts
    match key with
    | none => none
    | some (k, anchors, rest) =>
      let item := match rest with
        | .value :: rest =>
          match rest with
          | .comma :: _ | .closeList :: _ => some (absent, anchors, rest)
          | _ => node fuel p anchors rest
        | _ => some (absent, anchors, rest)
      item.map fun (d, more) => (.entries [(k, d)], more)

/-- The entries of a braced mapping up to its end. -/
def flowEntries (fuel : Nat) (p : Place) (anchors : Anchors) (first : Bool) (ts : List Token) :
    Read Entries :=
  match fuel with
  | 0 => none
  | fuel + 1 =>
    match first, ts with
    | _, .closeEntries :: rest => some ([], anchors, rest)
    | false, .comma :: .closeEntries :: rest => some ([], anchors, rest)
    | false, .comma :: rest => flowEntry fuel p anchors rest
    | false, _ => none
    | true, ts => flowEntry fuel p anchors ts

/-- One entry of a braced mapping and those after it. A node without a key's mark is a key whose
value is absent. -/
def flowEntry (fuel : Nat) (p : Place) (anchors : Anchors) (ts : List Token) : Read Entries :=
  match fuel with
  | 0 => none
  | fuel + 1 =>
    let entry : Read (Document × Document) := match ts with
      | .key :: rest =>
        let key := match rest with
          | .value :: _ | .comma :: _ | .closeEntries :: _ => some (absent, anchors, rest)
          | _ => node fuel p anchors rest
        match key with
        | none => none
        | some (k, anchors, rest) =>
          let item := match rest with
            | .value :: rest =>
              match rest with
              | .comma :: _ | .closeEntries :: _ => some (absent, anchors, rest)
              | _ => node fuel p anchors rest
            | _ => some (absent, anchors, rest)
          item.map fun (d, more) => ((k, d), more)
      | ts => (node fuel p anchors ts).map fun (k, more) => ((k, absent), more)
    match entry with
    | none => none
    | some (e, anchors, rest) =>
      (flowEntries fuel p anchors false rest).map fun (es, more) => (e :: es, more)

end

/-! ## Documents -/

/-- The directives in front, as the handles that they declare: at most one version, which must be
known, and no handle twice. -/
def directives? (versioned : Bool) (handles : Handles) :
    List Token → Option (Handles × List Token)
  | .version major minor :: rest =>
    if versioned || major != 1 || !(minor == 1 || minor == 2) then none
    else directives? true handles rest
  | .handle name stands :: rest =>
    if (handles.lookup name).isSome then none
    else directives? versioned ((name, stands) :: handles) rest
  | rest => some (handles, rest)

/-- The rest of a text after its document: marks of its end. -/
def endsDocument (ts : List Token) : Bool := ts.all fun t => t == .documentEnd

/-- The document of some tokens. -/
def document? (fuel : Nat) (ts : List Token) : Option DocumentGraph := do
  let (declared, rest) ← directives? false [] ts
  let place : Place := ⟨declared ++ standardHandles, true, false⟩
  let (d, anchors, rest) ← match rest with
    | [] => if ts.isEmpty then some (absent, .none, []) else none
    | .documentStart :: rest =>
      match rest with
      | [] | .documentStart :: _ | .documentEnd :: _ | .version _ _ :: _ | .handle _ _ :: _ =>
        some (absent, .none, rest)
      | _ => node fuel place .none rest
    | _ => if rest.length < ts.length then none else node fuel place .none rest
  if endsDocument rest then some ⟨d, anchors.targets⟩ else none

/-- The document that a YAML text holds. -/
def read? (text : String) : Option DocumentGraph := do
  let ts ← tokens? text
  document? (3 * ts.length + 3) ts

end SchemaModel.Yaml
