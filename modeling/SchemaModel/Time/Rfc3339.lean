import SchemaModel.Text.Cut
import SchemaModel.Decimal.Digits
import SchemaModel.Time.Instant

/-!
# `SchemaModel.Time.Rfc3339` — times as text

Times are written as `2024-01-02T03:04:05Z`, with as many groups of three fraction digits as they
need, and read in that form and some looser ones: with blanks between the parts, with fewer digits,
and with any offset from UTC.

## Contents
- `write`: the text of an instant.
- `read?`: the instant that a text names. The steps `number?`, `literal?`, `fraction`, `offset?`
  each take one part off the front.
-/

namespace SchemaModel.Time

open Decimal

/-! ## Writing -/

/-- A year: four digits, or a sign and at least four outside of 0 to 9999. -/
def yearText (year : Int) : List Char :=
  if 0 ≤ year && year ≤ 9999 then padded 4 year.natAbs
  else (if year < 0 then '-' else '+') :: padded 4 year.natAbs

/-- The fraction of a second in groups of three digits, as few as are needed. -/
def fractionText (nano : Nat) : List Char :=
  if nano == 0 then []
  else if nano % 1000000 == 0 then '.' :: padded 3 (nano / 1000000)
  else if nano % 1000 == 0 then '.' :: padded 6 (nano / 1000)
  else '.' :: padded 9 nano

/-- The text of an instant, as characters. -/
def writeChars (t : Instant) : List Char :=
  let leap := if t.nano < 1000000000 then 0 else 1
  yearText t.year ++ '-' :: padded 2 t.month ++ '-' :: padded 2 t.day ++ 'T' ::
    padded 2 t.hour ++ ':' :: padded 2 t.minute ++ ':' :: padded 2 (t.second + leap) ++
    fractionText (t.nano - leap * 1000000000) ++ ['Z']

/-- The text of an instant. -/
def write (t : Instant) : String := String.ofList (writeChars t)

/-! ## Reading -/

/-- Digits in front, at most `width` of them, and the rest. -/
def digits : Nat → List Char → List Char × List Char
  | 0, cs => ([], cs)
  | _ + 1, [] => ([], [])
  | width + 1, c :: cs =>
    if isDigit c then
      let (ds, rest) := digits width cs
      (c :: ds, rest)
    else ([], c :: cs)

/-- A number of at least one and at most `width` digits. -/
def number? (width : Nat) (cs : List Char) : Option (Nat × List Char) :=
  let (ds, rest) := digits width cs
  if ds.isEmpty then none else some (valueOf 10 ds, rest)

/-- A number after blanks. -/
def spacedNumber? (width : Nat) (cs : List Char) : Option (Nat × List Char) :=
  number? width (Text.trimLeft cs)

/-- A year after blanks: at most four digits, or any number of them after a sign. -/
def year? (cs : List Char) : Option (Int × List Char) :=
  match Text.trimLeft cs with
  | '-' :: rest => (number? rest.length rest).map fun (n, tail) => (-(n : Int), tail)
  | '+' :: rest => (number? rest.length rest).map fun (n, tail) => ((n : Int), tail)
  | rest => (number? 4 rest).map fun (n, tail) => ((n : Int), tail)

/-- A mark after blanks. -/
def literal? (mark : Char) (cs : List Char) : Option (List Char) :=
  match Text.trimLeft cs with
  | c :: rest => if c == mark then some rest else none
  | [] => none

/-- Nanoseconds after a point, the digits beyond the ninth ignored; zero without a point. -/
def fraction? : List Char → Option (Nat × List Char)
  | '.' :: cs =>
    let (ds, rest) := digits 9 cs
    if ds.isEmpty then none
    else some (valueOf 10 ds * Nat.pow 10 (9 - ds.length), rest.dropWhile isDigit)
  | cs => some (0, cs)

/-- Two digits. -/
def twoDigits? : List Char → Option (Nat × List Char)
  | a :: b :: rest => if isDigit a && isDigit b then some (valueOf 10 [a, b], rest) else none
  | _ => none

/-- Hours and minutes of an offset, with colons or blanks between them, in seconds. -/
def offsetMagnitude? (cs : List Char) : Option (Nat × List Char) := do
  let (hours, cs) ← twoDigits? cs
  let (minutes, cs) ← twoDigits? (cs.dropWhile fun c => c == ':' || Text.isBlank c)
  if minutes < 60 then some (hours * 3600 + minutes * 60, cs) else none

/-- An offset from UTC in seconds: `Z`, `UTC`, or a sign with hours and minutes. -/
def offset? (cs : List Char) : Option (Int × List Char) :=
  if (cs.take 3).map Text.asciiUpper == "UTC".toList then some (0, cs.drop 3)
  else match cs with
    | c :: rest =>
      if c == 'Z' || c == 'z' then some (0, rest)
      else if c == '+' then
        (offsetMagnitude? rest).map fun (n, tail) => ((n : Int), tail)
      else if c == '-' || c == '\u2212' then
        (offsetMagnitude? rest).map fun (n, tail) => (-(n : Int), tail)
      else none
    | [] => none

/-- The instant that a text names, as characters. -/
def readChars? (cs : List Char) : Option Instant := do
  let (year, cs) ← year? cs
  let cs ← literal? '-' cs
  let (month, cs) ← spacedNumber? 2 cs
  let cs ← literal? '-' cs
  let (day, cs) ← spacedNumber? 2 cs
  let cs ← match cs with
    | c :: rest => if c == 'T' || c == 't' || c == ' ' then some rest else none
    | [] => none
  let (hour, cs) ← spacedNumber? 2 cs
  let cs ← literal? ':' cs
  let (minute, cs) ← spacedNumber? 2 cs
  let cs ← literal? ':' cs
  let (second, cs) ← spacedNumber? 2 cs
  let (nano, cs) ← fraction? cs
  let (offset, cs) ← offset? (Text.trimLeft cs)
  if !(Text.trimLeft cs).isEmpty || 86400 ≤ offset.natAbs then none
  else
    let instant ←
      -- A leap second is the last second of its minute, carried in the nanoseconds.
      if second == 60 then Instant.make? year month day hour minute 59 (nano + 1000000000)
      else Instant.make? year month day hour minute second nano
    instant.shifted? (-offset)

/-- The instant that a text names. -/
def read? (s : String) : Option Instant := readChars? s.toList

end SchemaModel.Time
