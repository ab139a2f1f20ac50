import SchemaModel.Text.Cut

/-!
# `SchemaModel.Naming` — words inside identifiers

A naming style takes identifiers apart into words and puts words together. What a name says about
its owner (a time of creation, the user who changed a row, …) is read off its words in lower case,
so that both styles agree on it.

## Contents
- `NamingStyle`: `snake_case`, words between underscores, and `PascalCase`, words that start with a
  capital.
- **Words.** `words` takes a name apart, `compose` puts one together, `lowerWords` and `canonical`
  forget the letter case.
- **Derived names.** `parameterName`, `resultTypeName`, `securityUserParameter`.
- **Roles.** `isCreatedTimestamp`, `isModifiedTimestamp`, `isCreatedBy`, `isModifiedBy`,
  `isSoftDelete`, `isSecurityUser`.
-/

namespace SchemaModel

/-- How identifiers are cased. -/
inductive NamingStyle where
  | snakeCase
  | pascalCase
  deriving DecidableEq, Repr, Inhabited

namespace NamingStyle

/-- The styles by the words that select them in records. -/
def table : List (String × NamingStyle) :=
  [("snake_case", .snakeCase), ("pascal_case", .pascalCase)]

/-- The word that selects the style in a record. -/
def word : NamingStyle → String
  | .snakeCase => "snake_case"
  | .pascalCase => "pascal_case"

/-- The style as messages name it. -/
def title : NamingStyle → String
  | .snakeCase => "snake_case"
  | .pascalCase => "PascalCase"

/-- The style that a word in any letter case names, with hyphens or underscores. -/
def parse? (s : String) : Option NamingStyle :=
  let key := (Text.lowercase s).toList.map fun c => if c == '-' then '_' else c
  if key = "snake_case".toList || key = "snake".toList then some .snakeCase
  else if key = "pascal_case".toList || key = "pascal".toList then some .pascalCase
  else none

/-! ## Words -/

/-- The non-empty stretches between underscores. -/
def snakeWords (cs : List Char) : List (List Char) :=
  (Text.pieces (· == '_') cs).filter fun piece => !piece.isEmpty

/-- A capital starts a word after a lower-case letter or a digit, and after a capital when a
lower-case letter follows. -/
def startsWord (before c : Char) (next : Option Char) : Bool :=
  Text.isUpper c &&
    (Text.isLower before || Text.isAsciiDigit before ||
      (Text.isUpper before && next.any Text.isLower))

/-- The words of a text after the character `before`; the first piece continues its word. -/
def pascalPieces (before : Char) : List Char → List (List Char)
  | [] => [[]]
  | c :: rest =>
    match pascalPieces c rest with
    | [] => [[c]]
    | piece :: more =>
      if startsWord before c rest.head? then [] :: (c :: piece) :: more
      else (c :: piece) :: more

/-- The words that start at capitals. -/
def pascalWords : List Char → List (List Char)
  | [] => []
  | c :: rest =>
    match pascalPieces c rest with
    | [] => [[c]]
    | piece :: more => (c :: piece) :: more

/-- The words of a name, in order and as spelled. A name without words has none. -/
def words (style : NamingStyle) (name : String) : List String :=
  match style with
  | .snakeCase => (snakeWords name.toList).map String.ofList
  | .pascalCase => (pascalWords name.toList).map String.ofList

/-- The word with its first letter in upper case. -/
def capitalized (word : String) : String :=
  match word.toList with
  | [] => ""
  | c :: rest => String.ofList (Text.upperChar c ++ rest)

/-- The word with its first letter in lower case. -/
def uncapitalized (word : String) : String :=
  match word.toList with
  | [] => ""
  | c :: rest => String.ofList (Text.lowerChar c ++ rest)

/-- The name made of words: in lower case with underscores between, or each capitalized. -/
def compose (style : NamingStyle) (words : List String) : String :=
  match style with
  | .snakeCase =>
    Text.joined "_" ((words.filter fun word => word != "").map Text.lowercase)
  | .pascalCase => String.join (words.map capitalized)

/-- The words of a name in lower case. -/
def lowerWords (style : NamingStyle) (name : String) : List String :=
  (style.words name).map Text.lowercase

/-- The name without letter case and separators. -/
def canonical (style : NamingStyle) (name : String) : String :=
  match style.lowerWords name with
  | [] => Text.lowercase name
  | words => String.join words

/-! ## Derived names -/

/-- The conventional name of the parameter that carries a field. -/
def parameterName (style : NamingStyle) (fieldName : String) : String :=
  match style with
  | .snakeCase =>
    match style.words fieldName with
    | [] => fieldName
    | words => style.compose (words ++ ["param"])
  | .pascalCase => uncapitalized fieldName

/-- The name of the parameter that carries the id of the calling user. -/
def securityUserParameter (style : NamingStyle) : String :=
  style.compose ["current", "user", "id"]

/-- The conventional name of the shape that an operation returns. -/
def resultTypeName (style : NamingStyle) (operationName : String) : String :=
  match style.words operationName with
  | [] => style.compose [operationName, "result"]
  | words => style.compose (words ++ ["result"])

/-! ## Roles -/

/-- Words that may follow a verb in the name of a time. -/
def timestampSuffixes : List String :=
  ["at", "on", "date", "time", "timestamp", "utc", "datetime"]

/-- Words for a change. -/
def modifiedWords : List String := ["modified", "updated", "changed"]

/-- Words that name a user after `by`. -/
def isUserSuffix : List String → Bool
  | ["user"] | ["id"] | ["user", "id"] => true
  | _ => false

/-- The name is that of a time of creation. -/
def isCreatedTimestamp (style : NamingStyle) (name : String) : Bool :=
  match style.lowerWords name with
  | ["created"] => true
  | ["date", "created"] => true
  | ["created", suffix] => timestampSuffixes.contains suffix
  | [first, second] =>
    (first == "creation" || first == "create") &&
      (second == "date" || second == "time" || second == "timestamp")
  | _ => false

/-- The words, without a leading `last`, are those of a time of change. -/
def isModificationTime : List String → Bool
  | [word] => modifiedWords.contains word
  | [first, second] =>
    (modifiedWords.contains first && timestampSuffixes.contains second) ||
      (first == "date" && modifiedWords.contains second)
  | _ => false

/-- The name is that of a time of change. -/
def isModifiedTimestamp (style : NamingStyle) (name : String) : Bool :=
  match style.lowerWords name with
  | "last" :: rest => isModificationTime rest
  | words => isModificationTime words

/-- The name is that of the user who created a row. -/
def isCreatedBy (style : NamingStyle) (name : String) : Bool :=
  match style.lowerWords name with
  | ["owner", "id"] => true
  | "created" :: "by" :: rest => rest.isEmpty || isUserSuffix rest
  | _ => false

/-- The name is that of the user who changed a row. -/
def isModifiedBy (style : NamingStyle) (name : String) : Bool :=
  match style.lowerWords name with
  | word :: "by" :: rest => modifiedWords.contains word && (rest.isEmpty || isUserSuffix rest)
  | _ => false

/-- The name marks rows as deleted. -/
def isSoftDelete (style : NamingStyle) (name : String) : Bool :=
  match style.lowerWords name with
  | ["deleted"] | ["is", "deleted"] => true
  | ["deleted", suffix] => timestampSuffixes.contains suffix
  | _ => false

/-- The name is that of a parameter with the id of the calling user. -/
def isSecurityUser (style : NamingStyle) (name : String) : Bool :=
  match style.lowerWords name with
  | ["current", "user", "id"] | ["security", "user", "id"] => true
  | _ => false

end NamingStyle

end SchemaModel
