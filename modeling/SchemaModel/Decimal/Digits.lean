/-!
# `SchemaModel.Decimal.Digits` — decimal numerals

Digits as characters, and the natural number that a row of digits names.

## Contents
- `numeral n`: the decimal digits of `n`, without leading zeros.
- `digitValue`, `valueOf`: the value of a digit and of a row of digits in a base.
- `isHexDigit`, `isOctalDigit`, `isBinaryDigit`: the digits of other bases.
-/

namespace SchemaModel.Decimal

/-- The decimal digits of a natural number. -/
def numeral (n : Nat) : List Char := Nat.toDigits 10 n

/-- The decimal digits of an integer, with a minus sign in front of a negative one. -/
def signedNumeral (n : Int) : List Char :=
  if n < 0 then '-' :: numeral n.natAbs else numeral n.natAbs

/-- The decimal numeral as a text. -/
def text (n : Nat) : String := String.ofList (numeral n)

/-- The signed decimal numeral as a text. -/
def signedText (n : Int) : String := String.ofList (signedNumeral n)

/-- The digits `0` to `9`. -/
def isDigit (c : Char) : Bool := '0' ≤ c && c ≤ '9'

/-- Digits of base sixteen, in either case. -/
def isHexDigit (c : Char) : Bool :=
  isDigit c || ('a' ≤ c && c ≤ 'f') || ('A' ≤ c && c ≤ 'F')

/-- The digits `0` to `7`. -/
def isOctalDigit (c : Char) : Bool := '0' ≤ c && c ≤ '7'

/-- The digits `0` and `1`. -/
def isBinaryDigit (c : Char) : Bool := c == '0' || c == '1'

/-- The value of a digit of base sixteen or less; zero for any other character. -/
def digitValue (c : Char) : Nat :=
  if isDigit c then c.toNat - 48
  else if 'a' ≤ c && c ≤ 'f' then c.toNat - 87
  else if 'A' ≤ c && c ≤ 'F' then c.toNat - 55
  else 0

/-- The number that a row of digits names in a base. -/
def valueOf (base : Nat) (digits : List Char) : Nat :=
  digits.foldl (fun n c => n * base + digitValue c) 0

/-- A non-empty row of decimal digits and nothing else. -/
def natural? (cs : List Char) : Option Nat :=
  if cs.isEmpty || !cs.all isDigit then none else some (valueOf 10 cs)

/-- At least `width` digits, padded with zeros in front. -/
def padded (width n : Nat) : List Char :=
  let ds := numeral n
  List.replicate (width - ds.length) '0' ++ ds

end SchemaModel.Decimal
