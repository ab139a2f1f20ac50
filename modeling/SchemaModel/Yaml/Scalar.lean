import SchemaModel.Yaml.Spot
import SchemaModel.Decimal.Digits

/-!
# `SchemaModel.Yaml.Scalar` — the five ways to write a text

A scalar is written plain, between apostrophes, between double quotes, or as a block of lines that
are kept or folded. Each function takes one scalar off the front and gives its text and the rest.

## Contents
- `Gap`: the blanks or line breaks between two words. A single line break folds to a space; of
  several the first one is dropped.
- `plain`, `singleQuoted`, `doubleQuoted`: the styles that flow over lines.
- `BlockHeader`, `blockHeader?`, `block?`: the styles that keep lines.
-/

namespace SchemaModel.Yaml

/-! ## Gaps -/

/-- What stands between two words, last character first: blanks on one line, line breaks, or an
escaped line break with those after it. -/
inductive Gap where
  | blanks (cs : List Char)
  | breaks (cs : List Char)
  | spliced (cs : List Char)

namespace Gap

/-- Nothing between. -/
def nothing : Gap := .blanks []

/-- There is something between. -/
def isOpen : Gap → Bool
  | .blanks [] => false
  | _ => true

/-- There is an unescaped line break between. -/
def isBroken : Gap → Bool
  | .breaks _ => true
  | _ => false

/-- Adds a blank; next to a line break blanks do not count. -/
def addBlank (c : Char) : Gap → Gap
  | .blanks cs => .blanks (c :: cs)
  | gap => gap

/-- Adds a line break; blanks before it do not count. -/
def addBreak (c : Char) : Gap → Gap
  | .blanks _ => .breaks [c]
  | .breaks cs => .breaks (c :: cs)
  | .spliced cs => .spliced (c :: cs)

/-- Line breaks in order as they are folded. -/
def folded : List Char → List Char
  | ['\n'] => [' ']
  | '\n' :: more => more
  | cs => cs

/-- What the gap stands for. -/
def text : Gap → List Char
  | .blanks cs => cs.reverse
  | .breaks cs => folded cs.reverse
  | .spliced cs => cs.reverse

end Gap

/-! ## Plain scalars -/

/-- A plain scalar: its text, whether a line ended after it, and the rest. -/
structure Plain where
  text : List Char
  broken : Bool
  rest : List Spot

/-- What may not follow a colon inside a bracket. -/
def afterColon : List Char := [',', '?', '[', ']', '\x7b', '\x7d']

/-- What ends a plain scalar inside a bracket. -/
def flowEnds : List Char := [',', '[', ']', '\x7b', '\x7d']

/-- A plain scalar from some of its text and the gap after it. Outside brackets a line must be
indented at least to the column `least` to belong to it. -/
def plain (inFlow : Bool) (least : Nat) (text : List Char) (gap : Gap) :
    List Spot → Option Plain
  | [] => some ⟨text.reverse, gap.isBroken, []⟩
  | s :: rest =>
    if isBlank s.char then
      -- A tab in the margin of a following line is an error, not a blank.
      if gap.isBroken && s.char == '\t' && s.column < least then none
      else plain inFlow least text (gap.addBlank s.char) rest
    else if isBreak s.char then plain inFlow least text (gap.addBreak s.char) rest
    else if gap.isOpen &&
        (s.char == '#' || marksDocument (s :: rest) || (!inFlow && s.column < least)) then
      some ⟨text.reverse, gap.isBroken, s :: rest⟩
    -- Between brackets a colon directly before an indicator could be read in two ways.
    else if inFlow && s.char == ':' && atOneOf afterColon rest then none
    else if (s.char == ':' && atGap rest) || (inFlow && flowEnds.contains s.char) then
      some ⟨text.reverse, gap.isBroken, s :: rest⟩
    else plain inFlow least (s.char :: gap.text.reverse ++ text) .nothing rest

/-! ## Quoted scalars -/

/-- A scalar after its opening apostrophe; a doubled apostrophe stands for one. `closing` says that
the last character was an apostrophe that may close the scalar. -/
def singleQuoted (text : List Char) (gap : Gap) (closing : Bool) :
    List Spot → Option (List Char × List Spot)
  | [] => if closing then some (text.reverse, []) else none
  | s :: rest =>
    if closing then
      if s.char == '\x27' then singleQuoted ('\x27' :: text) .nothing false rest
      else some (text.reverse, s :: rest)
    else if isBlank s.char then singleQuoted text (gap.addBlank s.char) false rest
    else if isBreak s.char then singleQuoted text (gap.addBreak s.char) false rest
    else if marksDocument (s :: rest) then none
    else if s.char == '\x27' then singleQuoted (gap.text.reverse ++ text) .nothing true rest
    else singleQuoted (s.char :: gap.text.reverse ++ text) .nothing false rest

/-- The character that a one-letter escape names. -/
def escaped? : Char → Option Char
  | '0' => some '\x00'
  | 'a' => some '\x07'
  | 'b' => some '\x08'
  | 't' => some '\t'
  | '\t' => some '\t'
  | 'n' => some '\n'
  | 'v' => some '\x0b'
  | 'f' => some '\x0c'
  | 'r' => some '\r'
  | 'e' => some '\x1b'
  | ' ' => some ' '
  | '"' => some '"'
  | '/' => some '/'
  | '\\' => some '\\'
  | 'N' => some '\u0085'
  | '_' => some '\u00a0'
  | 'L' => some '\u2028'
  | 'P' => some '\u2029'
  | _ => none

/-- The number of hexadecimal digits after a numeric escape. -/
def escapeDigits? : Char → Option Nat
  | 'x' => some 2
  | 'u' => some 4
  | 'U' => some 8
  | _ => none

/-- Where the reading of an escape stands: outside, after the backslash, or before the last of some
digits. -/
inductive Escape where
  | outside
  | begun
  | digits (left : Nat) (value : Nat)

/-- A scalar after its opening double quote. -/
def doubleQuoted (text : List Char) (gap : Gap) (escape : Escape) :
    List Spot → Option (List Char × List Spot)
  | [] => none
  | s :: rest =>
    match escape with
    | .outside =>
      if isBlank s.char then doubleQuoted text (gap.addBlank s.char) .outside rest
      else if isBreak s.char then doubleQuoted text (gap.addBreak s.char) .outside rest
      else if marksDocument (s :: rest) then none
      else
        let text := gap.text.reverse ++ text
        if s.char == '"' then some (text.reverse, rest)
        else if s.char == '\\' then doubleQuoted text .nothing .begun rest
        else doubleQuoted (s.char :: text) .nothing .outside rest
    | .begun =>
      if isBreak s.char then doubleQuoted text (.spliced []) .outside rest
      else match escapeDigits? s.char with
        | some n => doubleQuoted text .nothing (.digits n 0) rest
        | none =>
          match escaped? s.char with
          | some c => doubleQuoted (c :: text) .nothing .outside rest
          | none => none
    | .digits left value =>
      if !Decimal.isHexDigit s.char then none
      else
        let value := value * 16 + Decimal.digitValue s.char
        if 1 < left then doubleQuoted text .nothing (.digits (left - 1) value) rest
        else if value.isValidChar then
          doubleQuoted (Char.ofNat value :: text) .nothing .outside rest
        else none

/-! ## Block scalars -/

/-- What becomes of the line breaks at the end: all but the first are dropped, all are, or all
stay. -/
inductive Chomping where
  | clip
  | strip
  | keep
  deriving DecidableEq

/-- What stands after the bar or the arrow: the treatment of the end, and how far the lines are
indented when they do not tell by themselves. -/
structure BlockHeader where
  chomping : Chomping
  indentation : Option Nat

/-- The treatment of the end that a sign asks for. -/
def chomping? (c : Char) : Option Chomping :=
  if c == '-' then some .strip else if c == '+' then some .keep else none

/-- The digit of an indentation, one to nine. -/
def indentation? (c : Char) : Option Nat :=
  if Decimal.isDigit c && c != '0' then some (Decimal.digitValue c) else none

/-- A header's sign and digit in either order. -/
def blockSigns : List Spot → BlockHeader × List Spot
  | [] => (⟨.clip, none⟩, [])
  | s :: rest =>
    match chomping? s.char, indentation? s.char with
    | some chomping, _ =>
      match rest with
      | t :: more =>
        match indentation? t.char with
        | some n => (⟨chomping, some n⟩, more)
        | none => (⟨chomping, none⟩, rest)
      | [] => (⟨chomping, none⟩, [])
    | none, some n =>
      match rest with
      | t :: more =>
        match chomping? t.char with
        | some chomping => (⟨chomping, some n⟩, more)
        | none => (⟨.clip, some n⟩, rest)
      | [] => (⟨.clip, some n⟩, [])
    | none, none => (⟨.clip, none⟩, s :: rest)

/-- A header up to the end of its line, where a comment may stand. -/
def blockHeader? (cs : List Spot) : Option (BlockHeader × List Spot) :=
  let (header, rest) := blockSigns cs
  let rest := skipBlanks rest
  let rest := if atOneOf ['#'] rest then skipLine rest else rest
  if atLineEnd rest then some (header, rest.drop 1) else none

/-- A block scalar as far as it is read: its text, last character first, the break after the last
line, whether that line began with a blank, and the breaks of the empty lines since. -/
structure Block where
  text : List Char
  final : Option Char
  blankBefore : Bool
  breaks : List Char

namespace Block

/-- The text with the break before a new line; a break between two lines that begin with no blank
is folded when lines are. -/
def join (b : Block) (literal blankNow : Bool) : List Char :=
  let front :=
    if !literal && b.final == some '\n' && !b.blankBefore && !blankNow then
      if b.breaks.isEmpty then ' ' :: b.text else b.text
    else b.final.toList ++ b.text
  b.breaks ++ front

/-- The whole text. -/
def finish (b : Block) (chomping : Chomping) : List Char :=
  match chomping with
  | .strip => b.text.reverse
  | .clip => (b.final.toList ++ b.text).reverse
  | .keep => (b.breaks ++ b.final.toList ++ b.text).reverse

end Block

/-- Where the reading of a block stands: before a line's text, having seen at most so many columns
of indentation, or in a line's text. -/
inductive BlockPlace where
  | margin (seen : Nat)
  | line

/-- The lines of a block scalar, indented to a column, or to the one that the first line has and
that is not left of `least`. -/
def blockLines (literal : Bool) (least : Nat) (indent : Option Nat) (b : Block)
    (place : BlockPlace) : List Spot → Option (Block × List Spot)
  | [] => some (b, [])
  | s :: rest =>
    match place with
    | .line =>
      if isBreak s.char then
        blockLines literal least indent { b with final := some s.char, breaks := [] }
          (.margin 0) rest
      else blockLines literal least indent { b with text := s.char :: b.text } .line rest
    | .margin seen =>
      -- Of the margins in front of the first line with text, the widest counts.
      let seen := max seen s.column
      let before := match indent with
        | none => true
        | some n => s.column < n
      if before && s.char == ' ' then blockLines literal least indent b (.margin seen) rest
      else if before && s.char == '\t' then none
      else if isBreak s.char then
        blockLines literal least indent { b with breaks := s.char :: b.breaks } (.margin seen)
          rest
      else
        let column := indent.getD (max seen least)
        if s.column == column then
          let blank := isBlank s.char
          blockLines literal least (some column)
            ⟨s.char :: b.join literal blank, none, blank, []⟩ .line rest
        else some (b, s :: rest)

/-- A block scalar after its bar or arrow. `outer` is the column of the collection around it. -/
def block? (literal : Bool) (outer : Option Nat) (cs : List Spot) :
    Option (List Char × List Spot) := do
  let (header, rest) ← blockHeader? cs
  let least := match outer with
    | some n => n + 1
    | none => 1
  let indent := header.indentation.map fun n => outer.getD 0 + n
  let (b, rest) ← blockLines literal least indent ⟨[], none, false, []⟩ (.margin 0) rest
  return (b.finish header.chomping, rest)

end SchemaModel.Yaml
