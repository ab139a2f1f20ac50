import SchemaModel.Decimal.Digits

/-!
# `SchemaModel.Decimal.Shortest` — the shortest decimal of a double

A finite double is `m · 2^q`. The reals nearest to it form an interval, closed when `m` is even.
Its shortest decimal is the number with the fewest digits in that interval, and of those the
nearest to the double.

## Contents
- `Binary`: a positive double as significand and exponent, with the spacing below it.
- `Binary.decimal`: digits `d` and place `p` of the shortest decimal `0.d₁d₂… · 10^p`.
- `Layout`: where positional notation ends and how an exponent is written.
- `Layout.render`: the text of a double under a layout.
-/

namespace SchemaModel.Decimal

/-! ## Doubles as integers -/

/-- The positive number `significand · 2^exponent`. `wideBelow` says that the next double below is
as far away as the next one above. -/
structure Binary where
  significand : Nat
  exponent : Int
  wideBelow : Bool

/-- The magnitude of the finite double with the given bits; `none` for zero. -/
def Binary.ofBits? (bits : UInt64) : Option Binary :=
  let fraction := (bits &&& 0xFFFFFFFFFFFFF).toNat
  let biased := ((bits >>> 52) &&& 0x7FF).toNat
  -- Without a leading bit the spacing is even on both sides.
  if biased == 0 then
    if fraction == 0 then none else some ⟨fraction, -1074, true⟩
  else some ⟨fraction + Nat.pow 2 52, (biased : Int) - 1075, fraction != 0 || biased == 1⟩

/-! ## The shortest decimal -/

/-- Both sides of `d · 10^t` against `x · 2^(q - 2)`, scaled to integers: the first factor goes
with `x`, the second with `d`. -/
def Binary.scales (b : Binary) (t : Int) : Nat × Nat :=
  let e := b.exponent - 2
  (Nat.pow 2 e.toNat * Nat.pow 10 (-t).toNat, Nat.pow 2 (-e).toNat * Nat.pow 10 t.toNat)

/-- The greatest `e` with `10^e` not above the number. -/
def Binary.magnitude (b : Binary) : Int :=
  -- 1233 / 4096 is just below the logarithm of two to base ten; the guess is off by one at most.
  let guess : Int := ((Nat.log2 b.significand : Int) + b.exponent) * 1233 / 4096
  let reaches (e : Int) : Bool :=
    let (a, d) := b.scales e
    d ≤ 4 * b.significand * a
  if reaches (guess + 1) then guess + 1
  else if reaches guess then guess
  else guess - 1

/-- The point `d · 10^t` of the grid lies in the interval of the number. -/
def Binary.admits (b : Binary) (t : Int) (d : Nat) : Bool :=
  let (a, u) := b.scales t
  let low := (4 * b.significand - if b.wideBelow then 2 else 1) * a
  let high := (4 * b.significand + 2) * a
  if b.significand % 2 == 0 then low ≤ d * u && d * u ≤ high
  else low < d * u && d * u < high

/-- Of the two neighbours of the number on the grid of `10^t`, the one in its interval; the nearer
one when both are, the even one on a tie. -/
def Binary.onGrid? (b : Binary) (t : Int) : Option Nat :=
  let (a, u) := b.scales t
  let x := 4 * b.significand * a
  let below := x / u
  let above := below + 1
  match b.admits t below, b.admits t above with
  | true, true =>
    let toBelow := x - below * u
    let toAbove := above * u - x
    if toBelow < toAbove then some below
    else if toAbove < toBelow then some above
    else if below % 2 == 0 then some below else some above
  | true, false => some below
  | false, true => some above
  | false, false => none

/-- The first hit on the grids with `count`, `count + 1`, … digits; seventeen always suffice. -/
def Binary.search (b : Binary) (top : Int) : Nat → Nat → Nat × Int
  | 0, count => (4 * b.significand, top - count)
  | fuel + 1, count =>
    let t := top - count + 1
    match b.onGrid? t with
    | some d => if d == 0 then b.search top fuel (count + 1) else (d, t)
    | none => b.search top fuel (count + 1)

/-- Digits without trailing zeros, and the place of the decimal point before the first digit. -/
def Binary.decimal (b : Binary) : List Char × Int :=
  let (d, t) := b.search b.magnitude 17 1
  let ds := numeral d
  ((ds.reverse.dropWhile (· == '0')).reverse, t + ds.length)

/-! ## Writing it out -/

/-- How a double is laid out: the places of the point for which positional notation is used. -/
structure Layout where
  leastPlace : Int
  greatestPlace : Int

/-- A positive decimal `0.d₁d₂… · 10^place` under a layout. A whole number keeps `.0`, and an
exponent always has a sign. -/
def Layout.digits (layout : Layout) (ds : List Char) (place : Int) : List Char :=
  if layout.leastPlace ≤ place && place ≤ layout.greatestPlace then
    if place ≤ 0 then ['0', '.'] ++ List.replicate (-place).toNat '0' ++ ds
    else
      let whole := ds.take place.toNat
      let fraction := ds.drop place.toNat
      whole ++ List.replicate (place.toNat - ds.length) '0' ++ '.' ::
        (if fraction.isEmpty then ['0'] else fraction)
  else
    let exponent := place - 1
    ds.take 1 ++ (if ds.length ≤ 1 then [] else '.' :: ds.drop 1) ++
      'e' :: (if exponent < 0 then '-' else '+') :: numeral exponent.natAbs

/-- The text of a finite double. -/
def Layout.render (layout : Layout) (bits : UInt64) : String :=
  let sign := if bits >>> 63 == 1 then ['-'] else []
  match Binary.ofBits? bits with
  | none => String.ofList (sign ++ ['0', '.', '0'])
  | some b =>
    let (ds, place) := b.decimal
    String.ofList (sign ++ layout.digits ds place)

end SchemaModel.Decimal
