import SchemaModel.Yaml.Scalar
import SchemaModel.Yaml.Tag

/-!
# `SchemaModel.Yaml.Token` — the tokens of a text

Indentation and the colons after keys are made into tokens of their own, so that what comes after
need not look at columns any more.

## Contents
- `Token`: indicators, scalars, and the starts and ends of collections that indentation implies.
- `Lexer`: the rest of a text with the columns of the open collections, and for every level of
  brackets the place where a key may have begun.
- `step?`: takes one token off the front. A key is only known by the colon after it; its token is
  then put in front of it.
- `tokens?`: the tokens of a text.
-/

namespace SchemaModel.Yaml

/-- A token. The starts of collections are those that indentation implies or those of brackets;
`blockEnd` closes the former. -/
inductive Token where
  | version (major minor : Nat)
  | handle (name : String) (stands : List UInt8)
  | documentStart
  | documentEnd
  | blockList
  | blockEntries
  | blockEnd
  | openList
  | closeList
  | openEntries
  | closeEntries
  | comma
  | item
  | key
  | value
  | alias (name : String)
  | anchor (name : String)
  | tag (handle : String) (suffix : List UInt8)
  | scalar (text : String) (form : Form)
  deriving DecidableEq, Repr, Inhabited

/-- A place where a key may have begun: the number of tokens before it, and whether the indentation
allows nothing but a key there. -/
structure PossibleKey where
  position : Nat
  spot : Spot
  required : Bool

/-- The state of taking a text apart. Both lists have the innermost level first; `keys` has one
entry more than there are open brackets. -/
structure Lexer where
  rest : List Spot
  indents : List Nat
  keys : List (Option PossibleKey)
  keyAllowed : Bool
  tokens : Array Token

namespace Lexer

/-- Before the first character. -/
def start (rest : List Spot) : Lexer := ⟨rest, [], [none], true, #[]⟩

/-- Inside brackets. -/
def inFlow (l : Lexer) : Bool := 1 < l.keys.length

/-- The first column that belongs to the innermost open collection's items. -/
def least (l : Lexer) : Nat :=
  match l.indents with
  | [] => 0
  | n :: _ => n + 1

/-- Adds a token. -/
def emit (l : Lexer) (t : Token) : Lexer := { l with tokens := l.tokens.push t }

/-- Drops characters. -/
def skip (l : Lexer) (count : Nat) : Lexer := { l with rest := l.rest.drop count }

/-! ## Indentation -/

/-- Opens a collection at a column when it lies deeper than the open ones. Its token goes to a
position among the tokens. -/
def openBlock (l : Lexer) (column : Nat) (t : Token) (position : Nat) : Lexer :=
  if !l.inFlow && l.least ≤ column then
    { l with
      indents := column :: l.indents
      tokens := l.tokens.insertIdxIfInBounds position t }
  else l

/-- The columns that stay open at a column, and how many are closed. -/
def closing (column : Nat) : List Nat → Nat × List Nat
  | [] => (0, [])
  | n :: more =>
    if column < n then
      let (count, rest) := closing column more
      (count + 1, rest)
    else (0, n :: more)

/-- Ends a number of collections. -/
def emitEnds (l : Lexer) : Nat → Lexer
  | 0 => l
  | count + 1 => emitEnds (l.emit .blockEnd) count

/-- Closes the collections deeper than a column. -/
def closeBlocks (l : Lexer) (column : Nat) : Lexer :=
  if l.inFlow then l
  else
    let (count, indents) := closing column l.indents
    { l with indents := indents }.emitEnds count

/-- Closes every collection. -/
def closeAll (l : Lexer) : Lexer :=
  if l.inFlow then l else { l with indents := [] }.emitEnds l.indents.length

/-! ## Keys -/

/-- A key may begin at most this many octets before its colon. -/
def keyReach : Nat := 1024

/-- The place cannot be a key's any more: the line has ended or is too long. -/
def isStale (spot : Spot) (k : PossibleKey) : Bool :=
  k.spot.line < spot.line || k.spot.index + keyReach < spot.index

/-- Forgets the places that cannot be a key's; one that had to be is an error. -/
def forgetStale? (l : Lexer) (spot : Spot) : Option Lexer :=
  if l.keys.any fun k => k.any fun k => isStale spot k && k.required then none
  else
    some { l with keys := l.keys.map fun k => k.filter fun k => !isStale spot k }

/-- Forgets the place on this level; one that had to be a key's is an error. -/
def forgetKey? (l : Lexer) : Option Lexer :=
  match l.keys with
  | some k :: more => if k.required then none else some { l with keys := none :: more }
  | _ => some l

/-- Remembers that a key may begin here. -/
def markKey? (l : Lexer) (spot : Spot) : Option Lexer :=
  if l.keyAllowed then do
    -- At the column of the open collection nothing but a key of it can stand.
    let required := !l.inFlow && l.indents.head? == some spot.column
    let l ← l.forgetKey?
    return { l with keys := some ⟨l.tokens.size, spot, required⟩ :: l.keys.drop 1 }
  else some l

/-! ## Indicators -/

/-- A bracket that opens. -/
def openFlow? (l : Lexer) (spot : Spot) (t : Token) : Option Lexer := do
  let l ← l.markKey? spot
  return { l.emit t with keys := none :: l.keys, keyAllowed := true }.skip 1

/-- A bracket that closes. -/
def closeFlow? (l : Lexer) (t : Token) : Option Lexer := do
  let l ← l.forgetKey?
  -- A bracket too many closes nothing; the reader of nodes refuses it.
  let keys := if l.inFlow then l.keys.drop 1 else l.keys
  return { l.emit t with keys := keys, keyAllowed := false }.skip 1

/-- A comma between brackets. -/
def comma? (l : Lexer) : Option Lexer := do
  let l ← l.forgetKey?
  return { l.emit .comma with keyAllowed := true }.skip 1

/-- A hyphen in front of a list's item. -/
def item? (l : Lexer) (spot : Spot) : Option Lexer := do
  if !l.inFlow && !l.keyAllowed then none
  else
    let l := l.openBlock spot.column .blockList l.tokens.size
    let l ← l.forgetKey?
    return { l.emit .item with keyAllowed := true }.skip 1

/-- A question mark in front of a key. -/
def key? (l : Lexer) (spot : Spot) : Option Lexer := do
  if !l.inFlow && !l.keyAllowed then none
  else
    let l := l.openBlock spot.column .blockEntries l.tokens.size
    let l ← l.forgetKey?
    return { l.emit .key with keyAllowed := !l.inFlow }.skip 1

/-- A colon. The key that may have begun before it has. -/
def value? (l : Lexer) (spot : Spot) : Option Lexer :=
  match l.keys with
  | some k :: more =>
    -- The mark of the key goes in first, so that the start of a new collection, put at the same
    -- position, comes to stand in front of it.
    let l := { l with tokens := l.tokens.insertIdxIfInBounds k.position .key }
    let l := l.openBlock k.spot.column .blockEntries k.position
    some ({ l.emit .value with keys := none :: more, keyAllowed := false }.skip 1)
  | _ =>
    if !l.inFlow && !l.keyAllowed then none
    else
      let l := l.openBlock spot.column .blockEntries l.tokens.size
      some ({ l.emit .value with keyAllowed := !l.inFlow }.skip 1)

/-- A mark of a document's start or end. -/
def document? (l : Lexer) (t : Token) : Option Lexer := do
  let l ← l.closeAll.forgetKey?
  return { l.emit t with keyAllowed := false }.skip 3

/-! ## Names -/

/-- What may follow the name of an anchor. -/
def afterName : List Char := ['?', ':', ',', ']', '\x7d', '%', '@', '\x60']

/-- An anchor or an alias after its sign. -/
def name? (l : Lexer) (spot : Spot) (t : String → Token) : Option Lexer := do
  let l ← l.markKey? spot
  let (name, rest) := spanChars isWordChar (l.rest.drop 1)
  if name.isEmpty || !(atGap rest || atOneOf afterName rest) then none
  else return { l.emit (t (String.ofList name)) with rest := rest, keyAllowed := false }

/-- A character of a tag's name as it stands. -/
def isTagChar (c : Char) : Bool :=
  isWordChar c ||
    [';', '/', '?', ':', '@', '&', '=', '+', '$', '.', '%', '!', '~', '*', '\x27', '(', ')'].contains
      c

/-- A character of a tag's full name between angle brackets, or of a directive. -/
def isFullTagChar (c : Char) : Bool := isTagChar c || c == ',' || c == '[' || c == ']'

/-- The number of octets that follow the first octet of a character. -/
def followers? (octet : Nat) : Option Nat :=
  if octet < 0x80 then some 0
  else if octet / 0x20 = 0x6 then some 1
  else if octet / 0x10 = 0xe then some 2
  else if octet / 0x8 = 0x1e then some 3
  else none

/-- The octets that a tag's name spells, where a percent sign and two hexadecimal digits stand for
one. Of the character begun, `left` octets are still to come. -/
def octets? (isNameChar : Char → Bool) (left : Nat) :
    List Spot → Option (List UInt8 × List Spot)
  | [] => if left = 0 then some ([], []) else none
  | s :: rest =>
    if s.char == '%' then
      match rest with
      | a :: b :: rest =>
        if !(Decimal.isHexDigit a.char && Decimal.isHexDigit b.char) then none
        else
          let octet := Decimal.digitValue a.char * 16 + Decimal.digitValue b.char
          let left? :=
            if left = 0 then followers? octet
            else if octet / 0x40 = 0x2 then some (left - 1)
            else none
          match left? with
          | some left =>
            (octets? isNameChar left rest).map fun (octets, rest) =>
              (UInt8.ofNat octet :: octets, rest)
          | none => none
      | _ => none
    else if left != 0 then none
    else if isNameChar s.char then
      (octets? isNameChar 0 rest).map fun (octets, rest) =>
        (UInt8.ofNat s.char.toNat :: octets, rest)
    else some ([], s :: rest)

/-- A name ends at an octet of zero. -/
def upToZero (octets : List UInt8) : List UInt8 := octets.takeWhile (· != 0)

/-- A tag that is an exclamation mark alone, or short of a handle. -/
def shortTag (name : List UInt8) : String × List UInt8 :=
  if name.isEmpty then ("", [0x21]) else ("!", name)

/-- A tag after its exclamation mark, with what must follow checked by the caller. -/
def tagName? (cs : List Spot) : Option (String × List UInt8 × List Spot) := do
  if atOneOf ['<'] cs then
    let (name, rest) ← octets? isFullTagChar 0 (cs.drop 1)
    if name.isEmpty || !atOneOf ['>'] rest then none
    else return ("", upToZero name, rest.drop 1)
  else
    let (word, rest) := spanChars isWordChar cs
    if atOneOf ['!'] rest then
      let (suffix, rest) ← octets? isTagChar 0 (rest.drop 1)
      if suffix.isEmpty then none
      else return (String.ofList ('!' :: word ++ ['!']), upToZero suffix, rest)
    else
      -- The word was no handle but the beginning of a name.
      let (name, rest) ← octets? isTagChar 0 cs
      let (handle, suffix) := shortTag (upToZero name)
      return (handle, suffix, rest)

/-- A tag. -/
def tag? (l : Lexer) (spot : Spot) : Option Lexer := do
  let l ← l.markKey? spot
  let (handle, suffix, rest) ← tagName? (l.rest.drop 1)
  if !(atGap rest || (l.inFlow && atOneOf [','] rest)) then none
  else return { l.emit (.tag handle suffix) with rest := rest, keyAllowed := false }

/-! ## Directives -/

/-- The two numbers of a version. -/
def versionNumber? (cs : List Spot) : Option (Token × List Spot) :=
  let (major, rest) := spanChars Decimal.isDigit cs
  if major.isEmpty || 9 < major.length || !atOneOf ['.'] rest then none
  else
    let (minor, rest) := spanChars Decimal.isDigit (rest.drop 1)
    if minor.isEmpty || 9 < minor.length then none
    else some (.version (Decimal.valueOf 10 major) (Decimal.valueOf 10 minor), rest)

/-- A handle and what it stands for. -/
def handle? (cs : List Spot) : Option (Token × List Spot) :=
  if !atOneOf ['!'] cs then none
  else
    let (word, rest) := spanChars isWordChar (cs.drop 1)
    let (name, rest) :=
      if atOneOf ['!'] rest then ('!' :: word ++ ['!'], rest.drop 1) else ('!' :: word, rest)
    if !atGap rest || atLineEnd rest || (name.getLast? != some '!') then none
    else
      match octets? isFullTagChar 0 (skipBlanks rest) with
      | some (stands, rest) =>
        if stands.isEmpty || !atGap rest then none
        else some (.handle (String.ofList name) (upToZero stands), rest)
      | none => none

/-- A directive up to the end of its line. -/
def directive? (l : Lexer) : Option Lexer := do
  let l ← l.closeAll.forgetKey?
  let (name, rest) := spanChars isWordChar (l.rest.drop 1)
  if !atGap rest then none
  else
    let rest := skipBlanks rest
    let (t, rest) ←
      if name == ['Y', 'A', 'M', 'L'] then versionNumber? rest
      else if name == ['T', 'A', 'G'] then handle? rest
      else none
    let rest := skipBlanks rest
    let rest := if atOneOf ['#'] rest then skipLine rest else rest
    if !atLineEnd rest then none
    else return { l.emit t with rest := rest.drop 1, keyAllowed := false }

/-! ## Scalars -/

/-- A quoted scalar. -/
def quoted? (l : Lexer) (spot : Spot) (double : Bool) : Option Lexer := do
  let l ← l.markKey? spot
  let rest := l.rest.drop 1
  let (text, rest) ←
    if double then doubleQuoted [] .nothing .outside rest else singleQuoted [] .nothing false rest
  let l := l.emit (.scalar (String.ofList text) .other)
  return { l with rest := rest, keyAllowed := false }

/-- A plain scalar. Where a line ends after it a key may begin. -/
def plain? (l : Lexer) (spot : Spot) : Option Lexer := do
  let l ← l.markKey? spot
  let p ← plain l.inFlow l.least [] .nothing l.rest
  let l := l.emit (.scalar (String.ofList p.text) .plain)
  return { l with rest := p.rest, keyAllowed := p.broken }

/-- A block scalar. -/
def blockScalar? (l : Lexer) (literal : Bool) : Option Lexer := do
  let l ← l.forgetKey?
  let (text, rest) ← block? literal l.indents.head? (l.rest.drop 1)
  let l := l.emit (.scalar (String.ofList text) (if literal then .literal else .other))
  return { l with rest := rest, keyAllowed := true }

/-! ## Steps -/

/-- Passes over blanks, comments and line ends to the next token, with whether a key may begin
there. A tab counts as a blank where no key may begin, and a mark of byte order where a line
begins. -/
def approach (inFlow comment keyAllowed : Bool) : List Spot → Bool × List Spot
  | [] => (keyAllowed, [])
  | s :: rest =>
    if isBreak s.char then approach inFlow false (keyAllowed || !inFlow) rest
    else if comment then approach inFlow true keyAllowed rest
    else if s.column == 0 && isOrderMark s.char then approach inFlow false keyAllowed rest
    -- A tab may not indent a key.
    else if s.char == ' ' || (s.char == '\t' && (inFlow || !keyAllowed)) then
      approach inFlow false keyAllowed rest
    else if s.char == '#' then approach inFlow true keyAllowed rest
    else (keyAllowed, s :: rest)

/-- The characters that no plain scalar starts with. -/
def indicators : List Char :=
  ['-', '?', ':', ',', '[', ']', '\x7b', '\x7d', '#', '&', '*', '!', '|', '>', '\x27', '"', '%', '@',
    '\x60']

/-- A plain scalar starts with this character before these. -/
def startsPlain (inFlow : Bool) (c : Char) (rest : List Spot) : Bool :=
  !(isBlank c || indicators.contains c) ||
    (c == '-' && !atOneOf [' ', '\t'] rest) ||
    (!inFlow && (c == '?' || c == ':') && !atGap rest)

/-- The token that starts at a character. -/
def take? (l : Lexer) (spot : Spot) (rest : List Spot) : Option Lexer :=
  let c := spot.char
  let apart := atGap rest
  -- The order matters: a hyphen or a colon is an indicator only in front of a gap, and what is left
  -- over begins a plain scalar.
  if spot.column == 0 && c == '%' then l.directive?
  else if marksDocument (spot :: rest) then
    l.document? (if c == '-' then .documentStart else .documentEnd)
  else if c == '[' then l.openFlow? spot .openList
  else if c == '\x7b' then l.openFlow? spot .openEntries
  else if c == ']' then l.closeFlow? .closeList
  else if c == '\x7d' then l.closeFlow? .closeEntries
  else if c == ',' then l.comma?
  else if c == '-' && apart then l.item? spot
  else if c == '?' && (l.inFlow || apart) then l.key? spot
  else if c == ':' && (l.inFlow || apart) then l.value? spot
  else if c == '*' then l.name? spot .alias
  else if c == '&' then l.name? spot .anchor
  else if c == '!' then l.tag? spot
  else if c == '|' && !l.inFlow then l.blockScalar? true
  else if c == '>' && !l.inFlow then l.blockScalar? false
  else if c == '\x27' then l.quoted? spot false
  else if c == '"' then l.quoted? spot true
  else if startsPlain l.inFlow c rest then l.plain? spot
  else none

/-- The next token, or the end of the text, with whether it is the end. -/
def step? (l : Lexer) : Option (Bool × Lexer) :=
  let (keyAllowed, rest) := approach l.inFlow false l.keyAllowed l.rest
  let l := { l with rest := rest, keyAllowed := keyAllowed }
  match rest with
  | [] =>
    if l.keys.any fun k => k.any PossibleKey.required then none else some (true, l.closeAll)
  | spot :: more => do
    -- Keys are forgotten before collections close, for a missing colon is an error of its own.
    let l ← l.forgetStale? spot
    return (false, ← (l.closeBlocks spot.column).take? spot more)

/-- Takes at most a number of tokens. -/
def run? : Nat → Lexer → Option (List Token)
  | 0, _ => none
  | fuel + 1, l =>
    match l.step? with
    | none => none
    | some (true, l) => some l.tokens.toList
    | some (false, l) => run? fuel l

end Lexer

/-- The tokens of a text: every token but the ends of collections takes a character. -/
def tokens? (text : String) : Option (List Token) := do
  let spots ← spots? text
  Lexer.run? (spots.length + 1) (.start spots)

end SchemaModel.Yaml
