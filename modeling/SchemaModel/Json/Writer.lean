import SchemaModel.Json.Basic

/-!
# `SchemaModel.Json.Writer` — writing JSON text

The text of a JSON value, either in one line without spaces or indented by two spaces a level.

## Contents
- `quoted`: a string in quotes. Quotes, backslashes and control characters are escaped; everything
  else stands for itself.
- `compact`: the one-line text.
- `pretty`: the indented text; an empty list or object stays on its line.
-/

namespace SchemaModel.Json

/-! ## Strings -/

/-- A hexadecimal digit, in lower case. -/
def hexDigit (n : Nat) : Char := Nat.digitChar (n % 16)

/-- A character inside quotes. -/
def escape (c : Char) : List Char :=
  if c == '"' then ['\\', '"']
  else if c == '\\' then ['\\', '\\']
  else if c == '\x08' then ['\\', 'b']
  else if c == '\x0c' then ['\\', 'f']
  else if c == '\n' then ['\\', 'n']
  else if c == '\r' then ['\\', 'r']
  else if c == '\t' then ['\\', 't']
  else if c.toNat < 0x20 then
    ['\\', 'u', '0', '0', hexDigit (c.toNat / 16), hexDigit c.toNat]
  else [c]

/-- A text in quotes. -/
def quoted (s : String) : List Char := '"' :: s.toList.flatMap escape ++ ['"']

/-! ## One line -/

mutual

/-- The value on one line, without spaces. -/
def compactChars : Json → List Char
  | .null => ['n', 'u', 'l', 'l']
  | .bool true => ['t', 'r', 'u', 'e']
  | .bool false => ['f', 'a', 'l', 's', 'e']
  | .number n => n.render.toList
  | .string s => quoted s
  | .array items => '[' :: compactItems items ++ [']']
  | .object fields => '\x7b' :: compactFields fields ++ ['\x7d']

/-- The values of a list, separated by commas. -/
def compactItems : List Json → List Char
  | [] => []
  | [item] => compactChars item
  | item :: rest => compactChars item ++ ',' :: compactItems rest

/-- The entries of an object, separated by commas. -/
def compactFields : List (String × Json) → List Char
  | [] => []
  | [(key, item)] => quoted key ++ ':' :: compactChars item
  | (key, item) :: rest => quoted key ++ ':' :: compactChars item ++ ',' :: compactFields rest

end

/-- The value as a text on one line. -/
def compact (j : Json) : String := String.ofList (compactChars j)

/-! ## Indented -/

/-- A line break and the indentation of a level. -/
def newline (level : Nat) : List Char := '\n' :: List.replicate (2 * level) ' '

mutual

/-- The value as it stands at a level of indentation. -/
def prettyChars (level : Nat) : Json → List Char
  | .null => ['n', 'u', 'l', 'l']
  | .bool true => ['t', 'r', 'u', 'e']
  | .bool false => ['f', 'a', 'l', 's', 'e']
  | .number n => n.render.toList
  | .string s => quoted s
  | .array [] => ['[', ']']
  | .array (item :: rest) =>
    '[' :: newline (level + 1) ++ prettyItems (level + 1) (item :: rest) ++ newline level ++ [']']
  | .object [] => ['\x7b', '\x7d']
  | .object (field :: rest) =>
    '\x7b' :: newline (level + 1) ++ prettyFields (level + 1) (field :: rest) ++
      newline level ++ ['\x7d']

/-- The values of a list, each on its own lines. -/
def prettyItems (level : Nat) : List Json → List Char
  | [] => []
  | [item] => prettyChars level item
  | item :: rest => prettyChars level item ++ ',' :: newline level ++ prettyItems level rest

/-- The entries of an object, each on its own lines. -/
def prettyFields (level : Nat) : List (String × Json) → List Char
  | [] => []
  | [(key, item)] => quoted key ++ ':' :: ' ' :: prettyChars level item
  | (key, item) :: rest =>
    quoted key ++ ':' :: ' ' :: prettyChars level item ++ ',' :: newline level ++
      prettyFields level rest

end

/-- The value as an indented text. -/
def pretty (j : Json) : String := String.ofList (prettyChars 0 j)

end SchemaModel.Json
