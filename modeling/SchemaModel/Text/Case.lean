import SchemaModel.Text.CaseData
import SchemaModel.Text.ClassData

/-!
# `SchemaModel.Text.Case` — letters, case and blanks

Character classes and the two case mappings of Unicode text, with ASCII decided by arithmetic.

## Contents
- **Classes.** `isLower`, `isUpper`, `isBlank`: the Unicode properties; `isAsciiLower` and
  friends: the ASCII letters and digits.
- **Mappings.** `lowerChar`, `upperChar` send a character to its lower-case or upper-case form,
  which may be several characters; `lowercase`, `uppercase` map whole texts. A capital sigma that
  ends a word turns into its final form.
- **Folding.** `asciiLower`, `eqIgnoreAsciiCase`: comparison that looks through the case of ASCII
  letters only.
-/

namespace SchemaModel.Text

/-! ## Tables -/

/-- The code point lies in one of the runs `(first, last)`. -/
def inRuns (runs : List (Nat × Nat)) (n : Nat) : Bool :=
  runs.any fun (first, last) => first ≤ n && n ≤ last

/-- The code point lies on one of the runs `(first, last, step)`. -/
def onRuns (runs : List (Nat × Nat × Nat)) (n : Nat) : Bool :=
  runs.any fun (first, last, step) => first ≤ n && n ≤ last && (n - first) % step == 0

/-- The shift of the run `(first, last, step, shift)` that holds the code point. -/
def shiftOf? (runs : List (Nat × Nat × Nat × Int)) (n : Nat) : Option Int :=
  (runs.find? fun (first, last, step, _) =>
    first ≤ n && n ≤ last && (n - first) % step == 0).map fun (_, _, _, shift) => shift

/-! ## Character classes -/

/-- The ASCII letters `a` to `z`. -/
def isAsciiLower (c : Char) : Bool := 'a' ≤ c && c ≤ 'z'

/-- The ASCII letters `A` to `Z`. -/
def isAsciiUpper (c : Char) : Bool := 'A' ≤ c && c ≤ 'Z'

/-- The digits `0` to `9`. -/
def isAsciiDigit (c : Char) : Bool := '0' ≤ c && c ≤ '9'

/-- Characters below U+0080. -/
def isAscii (c : Char) : Bool := c.toNat < 0x80

/-- Lower-case letters of any script. -/
def isLower (c : Char) : Bool :=
  if isAscii c then isAsciiLower c else onRuns lowercaseRuns c.toNat

/-- Upper-case letters of any script. -/
def isUpper (c : Char) : Bool :=
  if isAscii c then isAsciiUpper c else onRuns uppercaseRuns c.toNat

/-- White space: tab to carriage return, the plain space, and its relatives in other scripts. -/
def isBlank (c : Char) : Bool :=
  if isAscii c then c == ' ' || ('\x09' ≤ c && c ≤ '\x0d') else inRuns blankRuns c.toNat

/-- Letters that take part in case distinctions. -/
def isCased (c : Char) : Bool :=
  isLower c || isUpper c || (!isAscii c && inRuns titlecaseRuns c.toNat)

/-- Marks and signs that the search for a neighbouring letter looks through. -/
def isCaseIgnorable (c : Char) : Bool :=
  if isAscii c then c == '\x27' || c == '.' || c == ':' || c == '^' || c == '\x60'
  else inRuns caseIgnorableRuns c.toNat

/-! ## Case mappings -/

/-- The ASCII letters in lower case, every other character unchanged. -/
def asciiLower (c : Char) : Char :=
  if isAsciiUpper c then Char.ofNat (c.toNat + 32) else c

/-- The ASCII letters in upper case, every other character unchanged. -/
def asciiUpper (c : Char) : Char :=
  if isAsciiLower c then Char.ofNat (c.toNat - 32) else c

/-- The code point moved by a shift. -/
def shifted (c : Char) (shift : Int) : Char := Char.ofNat (c.toNat + shift).toNat

/-- The lower-case form of a character standing alone. Only the dotted capital I has two
characters in it. -/
def lowerChar (c : Char) : List Char :=
  if isAscii c then [asciiLower c]
  else if c == '\u0130' then ['i', '\u0307']
  else match shiftOf? toLowerRuns c.toNat with
    | some shift => [shifted c shift]
    | none => [c]

/-- The upper-case form of a character, up to three characters long. -/
def upperChar (c : Char) : List Char :=
  if isAscii c then [asciiUpper c]
  else match toUpperSpecial.find? (fun entry => entry.1 == c.toNat) with
    | some (_, points) => points.map Char.ofNat
    | none => match shiftOf? toUpperRuns c.toNat with
      | some shift => [shifted c shift]
      | none => [c]

/-- Past the ignorable characters stands a cased letter. -/
def meetsCased (cs : List Char) : Bool :=
  match cs.dropWhile isCaseIgnorable with
  | [] => false
  | c :: _ => isCased c

/-- Lower-case form of a text whose preceding characters, nearest first, are `before`. A capital
sigma after a letter and not before one is final. -/
def lowerChars (before : List Char) : List Char → List Char
  | [] => []
  | c :: rest =>
    let mapped :=
      -- The one letter whose lower-case form depends on its neighbours.
      if c == '\u03a3' then
        if meetsCased before && !meetsCased rest then ['\u03c2'] else ['\u03c3']
      else lowerChar c
    mapped ++ lowerChars (c :: before) rest

/-- The text in lower case. -/
def lowercase (s : String) : String := String.ofList (lowerChars [] s.toList)

/-- The text in upper case. -/
def uppercase (s : String) : String := String.ofList (s.toList.flatMap upperChar)

/-! ## Comparison without regard to ASCII case -/

/-- Two texts agree up to the case of ASCII letters. -/
def eqIgnoreAsciiCase (a b : String) : Bool :=
  a.toList.map asciiLower == b.toList.map asciiLower

theorem eqIgnoreAsciiCase_refl (a : String) : eqIgnoreAsciiCase a a = true := by
  simp [eqIgnoreAsciiCase]

theorem eqIgnoreAsciiCase_comm (a b : String) :
    eqIgnoreAsciiCase a b = eqIgnoreAsciiCase b a := by
  simp only [eqIgnoreAsciiCase]
  exact Bool.eq_iff_iff.2 ⟨fun h => beq_iff_eq.2 (beq_iff_eq.1 h).symm,
    fun h => beq_iff_eq.2 (beq_iff_eq.1 h).symm⟩

theorem eqIgnoreAsciiCase_trans {a b c : String} (hab : eqIgnoreAsciiCase a b = true)
    (hbc : eqIgnoreAsciiCase b c = true) : eqIgnoreAsciiCase a c = true := by
  simp only [eqIgnoreAsciiCase, beq_iff_eq] at *
  exact hab.trans hbc

end SchemaModel.Text
