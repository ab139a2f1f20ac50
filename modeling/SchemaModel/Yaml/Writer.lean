import SchemaModel.Json.Basic
import SchemaModel.Yaml.Plain

/-!
# `SchemaModel.Yaml.Writer` — writing YAML text

Values are written in block style, one entry or item a line. A text is written plain where that
cannot be misread, else between apostrophes; a text of several lines is written as a block of lines;
and what neither can hold stands between double quotes.

## Contents
- **Classes.** `isLineEnd`, `isSeen`: as the writer sees characters.
- `Shape`: what is special about a text, found in one pass.
- `Style`, `styleOf`: the way to write a text.
- `betweenApostrophes`, `betweenQuotes`, `literal`: the ways themselves.
- `render`: a whole value.
-/

namespace SchemaModel.Yaml

/-! ## Classes -/

/-- A character that ends a line. -/
def isLineEnd (c : Char) : Bool :=
  c == '\n' || c == '\r' || c == '\u0085' || c == '\u2028' || c == '\u2029'

/-- A character that can stand in a text as itself. -/
def isSeen (c : Char) : Bool :=
  let n := c.toNat
  c == '\n' || (0x20 ≤ n && n ≤ 0x7e) || (0xa0 ≤ n && n ≤ 0xfffd && n != 0xfeff) || 0x10000 ≤ n

/-- A character between words, or none at all. -/
def separates : Option Char → Bool
  | none => true
  | some c => c == ' ' || c == '\t' || c == '\x00' || isLineEnd c

/-! ## Shape -/

/-- The first character of a plain scalar that would be read as an indicator wherever it stands. -/
def leadingIndicators : List Char :=
  ['#', ',', '[', ']', '\x7b', '\x7d', '&', '*', '!', '|', '>', '\x27', '"', '%', '@', '\x60']

/-- The first character would be read as an indicator before the next one. -/
def leadsAsIndicator (c : Char) (next : Option Char) : Bool :=
  leadingIndicators.contains c || ((c == '?' || c == ':' || c == '-') && separates next)

/-- Behind the first character: a colon before a gap, or a hash after one. -/
def hasIndicator : Char → List Char → Bool
  | _, [] => false
  | before, c :: rest =>
    (c == ':' && separates rest.head?) || (c == '#' && separates (some before)) ||
      hasIndicator c rest

/-- The text begins like a mark of a document's start or end. -/
def startsLikeMark : List Char → Bool
  | '-' :: '-' :: '-' :: _ => true
  | '.' :: '.' :: '.' :: _ => true
  | _ => false

/-- Somewhere a character with one property stands before one with another. -/
def hasPair (p q : Char → Bool) : List Char → Bool
  | c :: d :: rest => (p c && q d) || hasPair p q (d :: rest)
  | _ => false

/-- The space. -/
def isSpace (c : Char) : Bool := c == ' '

/-- The text would be read as something with a structure. -/
def hasIndicators : List Char → Bool
  | [] => false
  | c :: rest => startsLikeMark (c :: rest) || leadsAsIndicator c rest.head? || hasIndicator c rest

/-- Quotes can hold the text only with escapes. -/
def needsEscapes (cs : List Char) : Bool := hasPair isSpace isLineEnd cs || !cs.all isSeen

/-- A property of the first or the last character. -/
def atEnds (p : Char → Bool) (cs : List Char) : Bool := cs.head?.any p || cs.getLast?.any p

/-! ## Style -/

/-- The ways to write a text. -/
inductive Style where
  | plain
  | single
  | double
  | literal
  deriving DecidableEq, Repr

/-- The text can be written without quotes, as far as its characters go. -/
def allowsPlain (cs : List Char) : Bool :=
  !(needsEscapes cs || hasIndicators cs || cs.any isLineEnd || atEnds isSpace cs)

/-- The text can be written between apostrophes. -/
def allowsSingle (cs : List Char) : Bool := !(needsEscapes cs || hasPair isLineEnd isSpace cs)

/-- The text can be written as a block of lines. -/
def allowsLiteral (cs : List Char) : Bool := !(needsEscapes cs || cs.getLast?.any isSpace)

/-- The way to write a text. -/
def styleOf (s : String) : Style :=
  let cs := s.toList
  -- A text of several lines is written as such, whatever its first line could be taken for.
  if cs.contains '\n' then if allowsLiteral cs then .literal else .double
  else if Plain.isText s && allowsPlain cs then .plain
  else if allowsSingle cs then .single
  else .double

/-! ## Texts -/

/-- Spaces up to a column. -/
def margin (column : Nat) : List Char := List.replicate column ' '

/-- The text between apostrophes. After a line's end the next line starts at a column. -/
def singleBody (column : Nat) (broken : Bool) : List Char → List Char
  | [] => if broken then margin column else []
  | c :: rest =>
    if isLineEnd c then c :: singleBody column true rest
    else
      (if broken then margin column else []) ++
        (if c == '\x27' then ['\x27', '\x27'] else [c]) ++ singleBody column false rest

/-- A text between apostrophes. -/
def betweenApostrophes (column : Nat) (cs : List Char) : List Char :=
  '\x27' :: singleBody column false cs ++ ['\x27']

/-- A hexadecimal digit, in upper case. -/
def upperHex (n : Nat) : Char := (Nat.digitChar (n % 16)).toUpper

/-- A number in hexadecimal with a number of digits. -/
def hexDigits (count n : Nat) : List Char :=
  match count with
  | 0 => []
  | count + 1 => hexDigits count (n / 16) ++ [upperHex n]

/-- The escape for a character that cannot be seen. -/
def numericEscape (c : Char) : List Char :=
  let n := c.toNat
  if n ≤ 0xff then '\\' :: 'x' :: hexDigits 2 n
  else if n ≤ 0xffff then '\\' :: 'u' :: hexDigits 4 n
  else '\\' :: 'U' :: hexDigits 8 n

/-- The letter of a one-letter escape. -/
def escapeLetter? (c : Char) : Option Char :=
  if c == '\x00' then some '0'
  else if c == '\x07' then some 'a'
  else if c == '\x08' then some 'b'
  else if c == '\t' then some 't'
  else if c == '\n' then some 'n'
  else if c == '\x0b' then some 'v'
  else if c == '\x0c' then some 'f'
  else if c == '\r' then some 'r'
  else if c == '\x1b' then some 'e'
  else if c == '"' then some '"'
  else if c == '\\' then some '\\'
  else if c == '\u0085' then some 'N'
  else if c == '\u00a0' then some '_'
  else if c == '\u2028' then some 'L'
  else if c == '\u2029' then some 'P'
  else none

/-- A character between double quotes. -/
def doubleChar (c : Char) : List Char :=
  if !isSeen c || isLineEnd c || c == '"' || c == '\\' then
    match escapeLetter? c with
    | some e => ['\\', e]
    | none => numericEscape c
  else [c]

/-- A text between double quotes. -/
def betweenQuotes (cs : List Char) : List Char := '"' :: cs.flatMap doubleChar ++ ['"']

/-- The sign for the line ends behind a text: none for one, a hyphen for none, a plus for more. -/
def chompingSign (cs : List Char) : List Char :=
  match cs.reverse with
  | [] => ['-']
  | [c] => if isLineEnd c then ['+'] else ['-']
  | c :: d :: _ => if !isLineEnd c then ['-'] else if isLineEnd d then ['+'] else []

/-- The lines of a text, each at a column. -/
def literalBody (column : Nat) (fresh : Bool) : List Char → List Char
  | [] => if fresh then [] else ['\n']
  | c :: rest =>
    if isLineEnd c then c :: literalBody column true rest
    else (if fresh then margin column else []) ++ c :: literalBody column false rest

/-- A text as a block of lines. The column is given away when the first line starts with a space or
is empty. -/
def literal (column : Nat) (cs : List Char) : List Char :=
  -- Read back, the margin would otherwise be measured on a line that does not show it.
  let hint := if cs.head?.any fun c => isSpace c || isLineEnd c then ['2'] else []
  '|' :: hint ++ chompingSign cs ++ '\n' :: literalBody column true cs

/-- A text with the end of its line. Lines after the first one start at a column. -/
def scalarLine (column : Nat) (s : String) : List Char :=
  let cs := s.toList
  match styleOf s with
  | .plain => cs ++ ['\n']
  | .single => betweenApostrophes column cs ++ ['\n']
  | .double => betweenQuotes cs ++ ['\n']
  | .literal => literal column cs

/-! ## Values -/

/-- Two columns a level. -/
def levelWidth : Nat := 2

mutual

/-- A value after a key that stands at a column, with its line's end. -/
def afterKey (column : Nat) : Json → List Char
  | .null => " null\n".toList
  | .bool b => (if b then " true\n" else " false\n").toList
  | .number n => ' ' :: n.render.toList ++ ['\n']
  | .string s => ' ' :: scalarLine (column + levelWidth) s
  | .array [] => " []\n".toList
  | .array (item :: rest) => '\n' :: margin column ++ '-' :: afterDash column item ++
      items column rest
  | .object [] => " \x7b\x7d\n".toList
  | .object ((key, v) :: rest) =>
    '\n' :: margin (column + levelWidth) ++ key.toList ++ ':' :: afterKey (column + levelWidth) v ++
      entries (column + levelWidth) rest

/-- A value after a hyphen that stands at a column, with its line's end. -/
def afterDash (column : Nat) : Json → List Char
  | .null => " null\n".toList
  | .bool b => (if b then " true\n" else " false\n").toList
  | .number n => ' ' :: n.render.toList ++ ['\n']
  | .string s => ' ' :: scalarLine (column + levelWidth) s
  | .array [] => " []\n".toList
  | .array (item :: rest) =>
    ' ' :: '-' :: afterDash (column + levelWidth) item ++ items (column + levelWidth) rest
  | .object [] => " \x7b\x7d\n".toList
  | .object ((key, v) :: rest) =>
    ' ' :: key.toList ++ ':' :: afterKey (column + levelWidth) v ++
      entries (column + levelWidth) rest

/-- Items whose hyphens stand at a column. -/
def items (column : Nat) : List Json → List Char
  | [] => []
  | item :: rest => margin column ++ '-' :: afterDash column item ++ items column rest

/-- Entries whose keys stand at a column. -/
def entries (column : Nat) : List (String × Json) → List Char
  | [] => []
  | (key, v) :: rest =>
    margin column ++ key.toList ++ ':' :: afterKey column v ++ entries column rest

end

/-- The text of a record whose keys are plain words. -/
def render (fields : List (String × Json)) : String := String.ofList (entries 0 fields)

end SchemaModel.Yaml
