import SchemaModel.Decimal.Shortest

/-!
# `SchemaModel.Json.Number` — numbers of attribute bags

A number is an integer of at most 64 bits or a double.

## Contents
- `Number`: integers from -2^63 to 2^64 - 1, and doubles by their bits.
- `Literal`: a number as it is spelled, sign, whole part, fraction and exponent.
- `Literal.number?`: its value. A spelling without fraction and exponent that fits is an integer;
  every other one is a double, and one too big for a double has no value.
- `Number.render`: the text of a number; doubles by their shortest decimal.
-/

namespace SchemaModel.Json

/-- A number: an integer, or a double given by its bits. -/
inductive Number where
  | int (value : Int)
  | double (bits : UInt64)
  deriving DecidableEq, Repr, Inhabited

/-- A number as spelled: digits of the whole part, of the fraction, and the exponent's sign and
digits. -/
structure Literal where
  negative : Bool
  whole : List Char
  fraction : List Char
  exponent : Option (Bool × List Char)
  deriving DecidableEq, Repr, Inhabited

namespace Literal

/-- Takes up digits while the significand stays below 2^64; the rest is left over. -/
def absorb (significand : Nat) : List Char → Nat × List Char
  | [] => (significand, [])
  | d :: ds =>
    let next := significand * 10 + Decimal.digitValue d
    if next < Nat.pow 2 64 then absorb next ds else (significand, d :: ds)

/-- Ten to a power of at most 308, as a double. -/
def powerOfTen (e : Nat) : Float := Float.ofScientific 1 false e

/-- The significand scaled down by a power of ten, in steps of at most 308 places. -/
def scaleDown (f : Float) (places : Nat) : Float :=
  if _ : places ≤ 308 then f / powerOfTen places
  else if f == 0 then f
  else scaleDown (f / powerOfTen 308) (places - 308)
termination_by places

/-- The significand scaled by a power of ten; `none` when the result is too big. -/
def scale? (significand : Nat) (exponent : Int) : Option Float :=
  let f := significand.toUInt64.toFloat
  if exponent < 0 then some (scaleDown f exponent.natAbs)
  else if exponent ≤ 308 then
    let g := f * powerOfTen exponent.natAbs
    if g.isInf then none else some g
  else if f == 0 then some f else none

/-- The double nearest to the spelling as its leading digits give it. -/
def double? (l : Literal) : Option Number :=
  let (whole, extra) := absorb 0 l.whole
  let (significand, dropped) := absorb whole l.fraction
  -- Digits of the whole part that no longer fit count as zeros; those of the fraction are lost.
  let start : Int := (extra.length : Int) - ((l.fraction.length - dropped.length : Nat) : Int)
  let magnitude : Option Float := match l.exponent with
    | none => scale? significand start
    | some (down, digits) =>
      let e : Int := Decimal.valueOf 10 digits
      if e < (Nat.pow 2 31 : Int) then
        let total := if down then start - e else start + e
        scale? significand (min (max total (-(Nat.pow 2 31 : Int))) ((Nat.pow 2 31 : Int) - 1))
      else if significand == 0 || down then some 0 else none
  magnitude.map fun f => .double (if l.negative then -f else f).toBits

/-- The value of a spelling. -/
def number? (l : Literal) : Option Number :=
  let (significand, extra) := absorb 0 l.whole
  if l.fraction.isEmpty && l.exponent.isNone && extra.isEmpty then
    if !l.negative then some (.int significand)
    -- Minus zero is not among the integers, so it is left to the doubles.
    else if 0 < significand && significand ≤ Nat.pow 2 63 then some (.int (-(significand : Int)))
    else l.double?
  else l.double?

end Literal

/-- Doubles are written positionally from 0.00001 up to, and not including, 10^16. -/
def layout : Decimal.Layout := ⟨-4, 16⟩

/-- The text of a number. -/
def Number.render : Number → String
  | .int n => Decimal.signedText n
  | .double bits => layout.render bits

/-- The number as a signed 64-bit integer, when it is one. -/
def Number.toInt64? : Number → Option Int
  | .int n => if n < (Nat.pow 2 63 : Int) then some n else none
  | .double _ => none

end SchemaModel.Json
