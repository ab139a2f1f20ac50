/-!
# `SchemaModel.CommandLine.Options` — reading options

Words of a command line are options or plain words. An option is written `--name`, or with a letter
`-n`; one that takes a value has it in the next word or attached (`--name=value`, `-nvalue`,
`-n=value`). A word `--` ends the options.

## Contents
- `OptionSpec`: an option by name and letter, with what it takes.
- `Mark`: how a word is written.
- `Given`, `put?`: the options so far; none is given twice.
- `Options.read`: the options in front of the first plain word, and the words from there on.
-/

namespace SchemaModel.CommandLine

/-- What an option asks for that ends the reading of a command line. -/
inductive Ending where
  | help
  | version
  deriving DecidableEq, Repr

/-- What an option takes. -/
inductive Takes where
  | nothing
  | text
  /-- A text that is not empty. -/
  | path
  /-- Nothing, and no word after it is read. -/
  | ends (what : Ending)
  deriving DecidableEq, Repr

/-- An option. -/
structure OptionSpec where
  name : String
  letter : Option Char
  takes : Takes
  deriving DecidableEq, Repr

/-- How a word is written. -/
inductive Mark where
  | plain
  | endOfOptions
  | long (name : String) (value : Option String)
  | short (letter : Char) (value : Option String)
  deriving DecidableEq, Repr

/-- A value behind an option's letter; an equals sign before it is no part of it. -/
def attached : List Char → Option String
  | [] => none
  | '=' :: value => some (String.ofList value)
  | value => some (String.ofList value)

/-- How a word is written. A single hyphen is a plain word. -/
def Mark.ofWord (word : String) : Mark :=
  match word.toList with
  | ['-', '-'] => .endOfOptions
  | '-' :: '-' :: rest =>
    let (name, value) := rest.span (· != '=')
    .long (String.ofList name) (value.tail?.map String.ofList)
  | '-' :: letter :: rest => .short letter (attached rest)
  | _ => .plain

/-- The option that a word names, with the value attached to it. -/
def Mark.option? (specs : List OptionSpec) : Mark → Option (OptionSpec × Option String)
  | .long name value => (specs.find? fun s => s.name == name).map fun s => (s, value)
  | .short letter value => (specs.find? fun s => s.letter == some letter).map fun s => (s, value)
  | .plain | .endOfOptions => none

/-- Options by name with their values; an option that takes nothing has an empty one. -/
abbrev Given := List (String × String)

/-- Adds an option that is not there yet. -/
def put? (given : Given) (spec : OptionSpec) (value : String) : Option Given :=
  if (given.lookup spec.name).isSome || (spec.takes == .path && value == "") then none
  else some (given ++ [(spec.name, value)])

/-- What the front of a command line says. -/
inductive Options where
  | wrong
  | ended (what : Ending)
  | read (given : Given) (rest : List String)
  deriving DecidableEq, Repr

/-- A long option ends the reading only without a value; a letter does so at once. -/
def endsReading (mark : Mark) : Bool :=
  match mark with
  | .long _ (some _) => false
  | _ => true

/-- Reads options up to the first plain word. An option that waits for its value takes a plain word. -/
def Options.ofWords (specs : List OptionSpec) (waiting : Option OptionSpec) (given : Given) :
    List String → Options
  | [] => if waiting.isSome then .wrong else .read given []
  | word :: rest =>
    let mark := Mark.ofWord word
    match waiting with
    | some spec =>
      if mark == .plain then
        match put? given spec word with
        | some given => ofWords specs none given rest
        | none => .wrong
      else .wrong
    | none =>
      match mark with
      | .plain => .read given (word :: rest)
      -- Behind the mark there are only plain words, and none of them names a task.
      | .endOfOptions => if rest.isEmpty then .read given [] else .wrong
      | mark =>
        match mark.option? specs with
        | none => .wrong
        | some (spec, value) =>
          match spec.takes, value with
          | .ends what, _ => if endsReading mark then .ended what else .wrong
          | .nothing, some _ => .wrong
          | .nothing, none =>
            match put? given spec "" with
            | some given => ofWords specs none given rest
            | none => .wrong
          -- The value is the next word.
          | _, none => ofWords specs (some spec) given rest
          | _, some value =>
            match put? given spec value with
            | some given => ofWords specs none given rest
            | none => .wrong

end SchemaModel.CommandLine
