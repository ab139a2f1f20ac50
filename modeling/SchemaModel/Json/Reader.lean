import SchemaModel.Document

/-!
# `SchemaModel.Json.Reader` — reading JSON text

A total reader of JSON text. It keeps repeated keys, so that whoever takes a document apart can decide
what they mean.

## Contents
- **Lexical parts.** `skipSpace`, `Literal.read?` and `Text.read?` take one lexeme off the front.
- **Strings.** A string is read as pieces, characters and escaped 16-bit units; `Text.joined?`
  pairs the units up. A unit that is half of a pair leaves the string unreadable.
- **Values.** `value`, `members`, `elements` share a bound on the nesting plus the number of parts;
  twice the length of the text is always enough, and `read?` starts from it.
-/

namespace SchemaModel.Json

/-! ## Lexical parts -/

/-- Space, tab, line feed and carriage return. -/
def isSpace (c : Char) : Bool := c == ' ' || c == '\n' || c == '\t' || c == '\r'

/-- Drops the space in front. -/
def skipSpace (cs : List Char) : List Char := cs.dropWhile isSpace

namespace Literal

/-- The digits in front and the rest. -/
def digits (cs : List Char) : List Char × List Char := cs.span Decimal.isDigit

/-- A fraction: a point with at least one digit after it, or nothing. -/
def fraction? : List Char → Option (List Char × List Char)
  | '.' :: cs =>
    let (ds, rest) := digits cs
    if ds.isEmpty then none else some (ds, rest)
  | cs => some ([], cs)

/-- An exponent's sign, `true` for minus. -/
def exponentSign : List Char → Bool × List Char
  | '-' :: cs => (true, cs)
  | '+' :: cs => (false, cs)
  | cs => (false, cs)

/-- An exponent with at least one digit, or nothing. -/
def exponent? : List Char → Option (Option (Bool × List Char) × List Char)
  | c :: cs =>
    if c == 'e' || c == 'E' then
      let (down, cs) := exponentSign cs
      let (ds, rest) := digits cs
      if ds.isEmpty then none else some (some (down, ds), rest)
    else some (none, c :: cs)
  | [] => some (none, [])

/-- A number in front of the text. A whole part of several digits does not start with zero. -/
def read? (cs : List Char) : Option (Literal × List Char) := do
  let (negative, cs) := match cs with
    | '-' :: rest => (true, rest)
    | _ => (false, cs)
  let (whole, cs) := digits cs
  if whole.isEmpty || (1 < whole.length && whole.head? == some '0') then none
  else
    let (fraction, cs) ← fraction? cs
    let (exponent, cs) ← exponent? cs
    return (⟨negative, whole, fraction, exponent⟩, cs)

end Literal

/-! ## Strings -/

namespace Text

/-- A part of a quoted string: a character, or an escaped unit of 16 bits. -/
inductive Piece where
  | char (c : Char)
  | unit (n : Nat)

/-- The character named by a one-letter escape. -/
def escaped? : Char → Option Char
  | '"' => some '"'
  | '\\' => some '\\'
  | '/' => some '/'
  | 'b' => some '\x08'
  | 'f' => some '\x0c'
  | 'n' => some '\n'
  | 'r' => some '\r'
  | 't' => some '\t'
  | _ => none

/-- The pieces of a string up to its closing quote, and the rest. Control characters must be
escaped. -/
def pieces? : List Char → Option (List Piece × List Char)
  | [] => none
  | '"' :: rest => some ([], rest)
  | '\\' :: 'u' :: a :: b :: c :: d :: rest =>
    if [a, b, c, d].all Decimal.isHexDigit then
      (pieces? rest).map fun (ps, tail) => (.unit (Decimal.valueOf 16 [a, b, c, d]) :: ps, tail)
    else none
  | '\\' :: e :: rest =>
    match escaped? e with
    | some c => (pieces? rest).map fun (ps, tail) => (.char c :: ps, tail)
    | none => none
  | c :: rest =>
    -- A backslash here is the last character of the text.
    if c.toNat < 0x20 || c == '\\' then none
    else (pieces? rest).map fun (ps, tail) => (.char c :: ps, tail)

/-- The text of the pieces: a high unit and the low unit after it make one character, and neither
stands alone. -/
def joined? : List Piece → Option (List Char)
  | [] => some []
  | .char c :: rest => (joined? rest).map (c :: ·)
  | [.unit n] => if 0xD800 ≤ n && n < 0xE000 then none else some [Char.ofNat n]
  | .unit n :: .char c :: rest =>
    if 0xD800 ≤ n && n < 0xE000 then none
    else (joined? rest).map (Char.ofNat n :: c :: ·)
  -- Two units: a pair, or a character followed by what the second begins.
  | .unit n :: .unit m :: rest =>
    if 0xD800 ≤ n && n < 0xDC00 then
      if 0xDC00 ≤ m && m < 0xE000 then
        (joined? rest).map (Char.ofNat (0x10000 + (n - 0xD800) * 0x400 + (m - 0xDC00)) :: ·)
      else none
    else if 0xDC00 ≤ n && n < 0xE000 then none
    else (joined? (.unit m :: rest)).map (Char.ofNat n :: ·)

/-- A quoted string after its opening quote. -/
def read? (cs : List Char) : Option (Document × List Char) :=
  (pieces? cs).map fun (ps, rest) =>
    (match joined? ps with
      | some text => .text (String.ofList text)
      | none => .unreadable, rest)

end Text

/-! ## Values -/

/-- One of the three words, with what follows it. -/
def word? (cs : List Char) : Option (Document × List Char) :=
  match cs with
  | 'n' :: 'u' :: 'l' :: 'l' :: rest => some (.null, rest)
  | 't' :: 'r' :: 'u' :: 'e' :: rest => some (.bool true, rest)
  | 'f' :: 'a' :: 'l' :: 's' :: 'e' :: rest => some (.bool false, rest)
  | _ => none

mutual

/-- A value in front of the text. -/
def value : Nat → List Char → Option (Document × List Char)
  | 0, _ => none
  | fuel + 1, cs =>
    match skipSpace cs with
    | '"' :: rest => Text.read? rest
    | '[' :: rest =>
      match skipSpace rest with
      | ']' :: tail => some (.list [], tail)
      | _ => (elements fuel rest).map fun (items, tail) => (.list items, tail)
    | '\x7b' :: rest =>
      match skipSpace rest with
      | '\x7d' :: tail => some (.entries [], tail)
      | _ => (members fuel rest).map fun (fields, tail) => (.entries fields, tail)
    | cs =>
      match word? cs with
      | some found => some found
      | none => (Literal.read? cs).map fun (l, rest) => (.number l.number?, rest)

/-- The elements of a list up to its closing bracket. -/
def elements : Nat → List Char → Option (List Document × List Char)
  | 0, _ => none
  | fuel + 1, cs =>
    match value fuel cs with
    | none => none
    | some (item, rest) =>
      match skipSpace rest with
      | ',' :: rest => (elements fuel rest).map fun (items, tail) => (item :: items, tail)
      | ']' :: tail => some ([item], tail)
      | _ => none

/-- The entries of an object up to its closing brace. -/
def members : Nat → List Char → Option (List (Document × Document) × List Char)
  | 0, _ => none
  | fuel + 1, cs =>
    match skipSpace cs with
    | '"' :: rest =>
      match Text.read? rest with
      | none => none
      | some (key, rest) =>
        match skipSpace rest with
        | ':' :: rest =>
          match value fuel rest with
          | none => none
          | some (item, rest) =>
            match skipSpace rest with
            | ',' :: rest =>
              (members fuel rest).map fun (fields, tail) => ((key, item) :: fields, tail)
            | '\x7d' :: tail => some ([(key, item)], tail)
            | _ => none
        | _ => none
    | _ => none

end

/-- The document that a JSON text holds. -/
def read? (text : String) : Option Document :=
  let cs := text.toList
  match value (2 * cs.length + 2) cs with
  | some (found, rest) => if (skipSpace rest).isEmpty then some found else none
  | none => none

end SchemaModel.Json
