import SchemaModel.Text.Case

/-!
# `SchemaModel.Text.Quoted` — texts shown in quotes

How a text is shown in a message: in double quotes, with every character that could not be read off
the page written as an escape.

## Contents
- `shown`: the text of one character inside quotes.
- `quoted`: a whole text in quotes.
-/

namespace SchemaModel.Text

/-- The hexadecimal digits of a number, in lower case. -/
def hexNumeral (n : Nat) : List Char := Nat.toDigits 16 n

/-- The character would not be seen as itself: it combines with the one before, is drawn as nothing,
or is a control, format, separator or unassigned character. -/
def needsEscape (c : Char) : Bool :=
  if isAscii c then c.toNat < 0x20 || c.toNat == 0x7f
  else inRuns extendRuns c.toNat || inRuns unprintableRuns c.toNat

/-- A character as shown between double quotes. -/
def shown (c : Char) : List Char :=
  if c == '\x00' then ['\\', '0']
  else if c == '\t' then ['\\', 't']
  else if c == '\n' then ['\\', 'n']
  else if c == '\r' then ['\\', 'r']
  else if c == '"' then ['\\', '"']
  else if c == '\\' then ['\\', '\\']
  else if needsEscape c then ['\\', 'u', '\x7b'] ++ hexNumeral c.toNat ++ ['\x7d']
  else [c]

/-- The text in double quotes. -/
def quoted (s : String) : String := String.ofList ('"' :: s.toList.flatMap shown ++ ['"'])

end SchemaModel.Text
