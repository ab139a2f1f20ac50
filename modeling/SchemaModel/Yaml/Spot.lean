/-!
# `SchemaModel.Yaml.Spot` — characters in their places

YAML gives a meaning to the line and the column of a character, so a text is read as a list of
characters that carry both.

## Contents
- **Classes.** `isBreak`, `isBlank`, `isAllowed`, `isWordChar`, `isOrderMark`.
- `unifyBreaks`: every spelling of a line's end becomes one character.
- `Spot`, `spots?`: a text's characters with their places; `none` for a text with control
  characters.
- **Looking ahead.** `atGap`, `atLineEnd`, `marksDocument`.
-/

namespace SchemaModel.Yaml

/-! ## Classes -/

/-- A character that ends a line, once the spellings of a line's end are unified. -/
def isBreak (c : Char) : Bool := c == '\n' || c == '\u2028' || c == '\u2029'

/-- A space or a tab. -/
def isBlank (c : Char) : Bool := c == ' ' || c == '\t'

/-- A character that may stand in a text at all: no controls but tab and line ends. -/
def isAllowed (c : Char) : Bool :=
  let n := c.toNat
  c == '\t' || c == '\n' || c == '\r' || n == 0x85 || (0x20 ≤ n && n ≤ 0x7e) ||
    (0xa0 ≤ n && n ≤ 0xfffd) || 0x10000 ≤ n

/-- A letter, digit, hyphen or underscore of ASCII. -/
def isWordChar (c : Char) : Bool := c.isAlphanum || c == '_' || c == '-'

/-- The mark of byte order, which may stand in front of a line. -/
def isOrderMark (c : Char) : Bool := c == '\ufeff'

/-- The two marks of a document's start and end. -/
def isDocumentMark (a b c : Char) : Bool :=
  (a == '-' && b == '-' && c == '-') || (a == '.' && b == '.' && c == '.')

/-! ## Places -/

/-- Writes every end of a line as one character: the two separators stay, all others become a line
feed. -/
def unifyBreaks : List Char → List Char
  | '\r' :: '\n' :: rest => '\n' :: unifyBreaks rest
  | c :: rest => (if c == '\r' || c == '\u0085' then '\n' else c) :: unifyBreaks rest
  | [] => []

/-- A character and where it stands; the index counts the octets in front of it. -/
structure Spot where
  char : Char
  index : Nat
  line : Nat
  column : Nat
  deriving Inhabited

/-- The characters with their places, counted from a place on. -/
def spotsFrom (index line column : Nat) : List Char → List Spot
  | [] => []
  | c :: rest =>
    ⟨c, index, line, column⟩ ::
      if isBreak c then spotsFrom (index + c.utf8Size) (line + 1) 0 rest
      else spotsFrom (index + c.utf8Size) line (column + 1) rest

/-- The characters of a text with their places. -/
def spots? (text : String) : Option (List Spot) :=
  let cs := text.toList
  if cs.all isAllowed then some (spotsFrom 0 0 0 (unifyBreaks cs)) else none

/-! ## Looking ahead -/

/-- A line ends here. -/
def atLineEnd : List Spot → Bool
  | [] => true
  | s :: _ => isBreak s.char

/-- A line ends or a blank stands here. -/
def atGap : List Spot → Bool
  | [] => true
  | s :: _ => isBlank s.char || isBreak s.char

/-- The next character is one of the given ones. -/
def atOneOf (cs : List Char) : List Spot → Bool
  | [] => false
  | s :: _ => cs.contains s.char

/-- A mark of a document's start or end stands here, on its own. -/
def marksDocument : List Spot → Bool
  | a :: b :: c :: rest =>
    a.column == 0 && isDocumentMark a.char b.char c.char && atGap rest
  | _ => false

/-- The characters in front that have a property, and the rest. -/
def spanChars (p : Char → Bool) (cs : List Spot) : List Char × List Spot :=
  let (front, rest) := cs.span fun s => p s.char
  (front.map Spot.char, rest)

/-- Drops the blanks in front. -/
def skipBlanks (cs : List Spot) : List Spot := cs.dropWhile fun s => isBlank s.char

/-- Drops what is left of a line. -/
def skipLine (cs : List Spot) : List Spot := cs.dropWhile fun s => !isBreak s.char

end SchemaModel.Yaml
