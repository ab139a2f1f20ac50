import SchemaModel.Decimal.Digits

/-!
# `SchemaModel.Yaml.Plain` — what a plain scalar may stand for

An unquoted word may name nothing, a truth value or a number. Reading asks what it names where that
is wanted; writing asks whether it would be taken for anything but a text.

## Contents
- `isNullWord`, `isNull`, `truth?`, `integer?`: the words for nothing, truth values and integers.
- `isDigits`: digits that are no number because of a zero in front.
- `isReal`: decimal numbers within the range of doubles, and the words for infinity and no number.
- `isText`: a word that names none of these.
-/

namespace SchemaModel.Yaml.Plain

/-! ## Words -/

/-- The words for nothing. -/
def isNullWord (s : String) : Bool := s == "~" || s == "null" || s == "Null" || s == "NULL"

/-- No word at all, or a word for nothing. -/
def isNull (s : String) : Bool := s == "" || isNullWord s

/-- The words for truth values. -/
def truth? (s : String) : Option Bool :=
  if s == "true" || s == "True" || s == "TRUE" then some true
  else if s == "false" || s == "False" || s == "FALSE" then some false
  else none

/-! ## Integers -/

/-- A non-empty row of digits in a base. -/
def based? (base : Nat) (isDigit : Char → Bool) (cs : List Char) : Option Nat :=
  if cs.isEmpty || !cs.all isDigit then none else some (Decimal.valueOf base cs)

/-- The digits of an integer in base ten: a zero in front stands alone. -/
def decimal? (cs : List Char) : Option Nat :=
  if 1 < cs.length && cs.head? == some '0' then none else Decimal.natural? cs

/-- An integer without its sign: decimal, or in another base after `0x`, `0o` or `0b`. -/
def natural? : List Char → Option Nat
  | '0' :: 'x' :: cs => based? 16 Decimal.isHexDigit cs
  | '0' :: 'o' :: cs => based? 8 Decimal.isOctalDigit cs
  | '0' :: 'b' :: cs => based? 2 Decimal.isBinaryDigit cs
  | cs => decimal? cs

/-- The integer that a word spells. -/
def integer? (s : String) : Option Int :=
  match s.toList with
  | '-' :: cs => (natural? cs).map fun n => -(n : Int)
  | '+' :: cs => (natural? cs).map Int.ofNat
  | cs => (natural? cs).map Int.ofNat

/-- The word spells an integer of at most 128 bits. -/
def isInteger (s : String) : Bool :=
  match integer? s with
  | some n => -(Nat.pow 2 127 : Int) ≤ n && n < (Nat.pow 2 128 : Int)
  | none => false

/-- Drops a sign. -/
def unsigned : List Char → List Char
  | '-' :: cs => cs
  | '+' :: cs => cs
  | cs => cs

/-- Digits that begin with a zero and go on are no number. -/
def isDigits (s : String) : Bool :=
  match unsigned s.toList with
  | '0' :: c :: cs => (c :: cs).all Decimal.isDigit
  | _ => false

/-! ## Real numbers -/

/-- The words for infinity and for no number. -/
def specialReals : List String :=
  [".inf", ".Inf", ".INF", "+.inf", "+.Inf", "+.INF", "-.inf", "-.Inf", "-.INF", ".nan", ".NaN",
   ".NAN"]

/-- The exponent after a significand: its sign, `true` for minus, and its digits. -/
def exponent? : List Char → Option (Bool × List Char)
  | [] => some (false, [])
  | c :: cs =>
    if c == 'e' || c == 'E' then
      let (down, digits) := match cs with
        | '-' :: more => (true, more)
        | '+' :: more => (false, more)
        | more => (false, more)
      if digits.isEmpty || !digits.all Decimal.isDigit then none else some (down, digits)
    else none

/-- From here on numbers round to infinity: halfway between the greatest double and the next power
of two. -/
def realLimit : Nat := Nat.pow 2 1024 - Nat.pow 2 970

/-- A number, digits times a power of ten, lies below the limit. A number of at most 308 digits
before the point does, one of more than 309 does not. -/
def isFinite (digits : List Char) (power : Int) : Bool :=
  let m := Decimal.valueOf 10 digits
  let places := ((Decimal.numeral m).length : Int) + power
  -- The bounds come first: a power of ten with a huge exponent is never computed.
  if m = 0 || places ≤ 308 then true
  else if 309 < places then false
  else if 0 ≤ power then m * Nat.pow 10 power.toNat < realLimit
  else m < realLimit * Nat.pow 10 (-power).toNat

/-- The word spells a decimal number that is not too big. -/
def isDecimal (cs : List Char) : Bool :=
  let (whole, rest) := cs.span Decimal.isDigit
  let (fraction, rest) := match rest with
    | '.' :: more => more.span Decimal.isDigit
    | _ => ([], rest)
  if whole.isEmpty && fraction.isEmpty then false
  else match exponent? rest with
    | none => false
    | some (down, digits) =>
      let e : Int := Decimal.valueOf 10 digits
      isFinite (whole ++ fraction) ((if down then -e else e) - fraction.length)

/-- The word spells a real number. -/
def isReal (s : String) : Bool := specialReals.contains s || isDecimal (unsigned s.toList)

/-! ## Texts -/

/-- Unquoted, the word would be read as the text that it is. -/
def isText (s : String) : Bool :=
  !(isNull s || (truth? s).isSome || isInteger s || isDigits s || isReal s)

end SchemaModel.Yaml.Plain
