import SchemaModel.Text.Case

/-!
# `SchemaModel.Text.Cut` — trimming, splitting and searching

Operations that cut a text apart, on lists of characters and on strings.

## Contents
- **Trimming.** `trimLeft`, `trimRight`, `trim` drop blanks at the ends.
- **Splitting.** `pieces sep cs` are the stretches between separators, one more than there are
  separators; `split` is the same on strings.
- **Searching.** `after? p cs` is what follows `p` at the front; `occursIn p cs` says that `p`
  stands somewhere and `until? p cs` is what precedes it; `breakAt? p cs` cuts around the first
  character with a property.
- **Replacing.** `double c cs` writes every `c` twice.
-/

namespace SchemaModel.Text

/-! ## Trimming -/

/-- Drops the blanks in front. -/
def trimLeft (cs : List Char) : List Char := cs.dropWhile isBlank

/-- Drops the last characters that have the property. -/
def dropEndWhile (p : Char → Bool) (cs : List Char) : List Char :=
  (cs.reverse.dropWhile p).reverse

/-- Drops the blanks behind. -/
def trimRight (cs : List Char) : List Char := dropEndWhile isBlank cs

/-- Drops the blanks on both sides. -/
def trim (cs : List Char) : List Char := trimRight (trimLeft cs)

/-- The text without blanks at its ends. -/
def trimmed (s : String) : String := String.ofList (trim s.toList)

/-! ## Splitting -/

/-- The stretches between characters that satisfy `sep`; never empty as a list. -/
def pieces (sep : Char → Bool) : List Char → List (List Char)
  | [] => [[]]
  | c :: rest =>
    if sep c then [] :: pieces sep rest
    else match pieces sep rest with
      | [] => [[c]]
      | piece :: more => (c :: piece) :: more

theorem pieces_ne_nil (sep : Char → Bool) (cs : List Char) : pieces sep cs ≠ [] := by
  cases cs with
  | nil => simp [pieces]
  | cons c rest =>
    simp only [pieces]
    split
    · simp
    · split <;> simp

/-- The stretches of a text between occurrences of a character. -/
def split (sep : Char) (s : String) : List String :=
  (pieces (· == sep) s.toList).map String.ofList

/-! ## Searching -/

/-- What follows `front` when the text starts with it. -/
def after? : List Char → List Char → Option (List Char)
  | [], cs => some cs
  | _ :: _, [] => none
  | p :: front, c :: cs => if p == c then after? front cs else none

/-- What precedes `back` when the text ends with it. -/
def before? (back cs : List Char) : Option (List Char) :=
  (after? back.reverse cs.reverse).map List.reverse

/-- The characters stand somewhere in the text, in one stretch. -/
def occursIn (wanted : List Char) : List Char → Bool
  | [] => wanted.isEmpty
  | c :: cs => wanted.isPrefixOf (c :: cs) || occursIn wanted cs

/-- The text around its first character with a property: what stands before, the character, and
what follows. -/
def breakAt? (p : Char → Bool) : List Char → Option (List Char × Char × List Char)
  | [] => none
  | c :: cs =>
    if p c then some ([], c, cs)
    else (breakAt? p cs).map fun (front, d, rest) => (c :: front, d, rest)

/-- What precedes the first occurrence of `wanted`. -/
def until? (wanted : List Char) : List Char → Option (List Char)
  | [] => if wanted.isEmpty then some [] else none
  | c :: cs =>
    if wanted.isPrefixOf (c :: cs) then some []
    else (until? wanted cs).map (c :: ·)

/-! ## Replacing -/

/-- Writes every occurrence of a character twice. -/
def double (mark : Char) : List Char → List Char
  | [] => []
  | c :: cs => if c == mark then c :: c :: double mark cs else c :: double mark cs

/-- Puts a separator between neighbours. -/
def joined (sep : String) (texts : List String) : String := sep.intercalate texts

end SchemaModel.Text
