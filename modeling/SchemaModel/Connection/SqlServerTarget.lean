import SchemaModel.Connection.Database
import SchemaModel.Text.Cut

/-!
# `SchemaModel.Connection.SqlServerTarget` — where a SQL Server is

A connection string overrides the separate settings. It is a list of pairs `key=value` with
semicolons between them; keys are compared in lower case.

## Contents
- `Encryption`, `SqlServerTarget`: the address, the user and the protection.
- **Pairs.** `mark?` reads one mark of a connection string; `pairs?` groups the marks.
- `ofString?`, `ofSettings`: the target of a connection string, and of settings.
-/

namespace SchemaModel

/-- How much of a connection is encrypted. -/
inductive Encryption where
  | all
  | loginOnly
  | nothing
  deriving DecidableEq, Repr, Inhabited

/-- Where a SQL Server is and who asks. -/
structure SqlServerTarget where
  host : String
  port : Nat
  instanceName : Option String
  database : Option String
  user : String
  password : String
  encryption : Encryption
  trustServerCert : Bool
  deriving DecidableEq, Repr, Inhabited

namespace SqlServerTarget

/-! ## Pairs -/

/-- A mark of a connection string: a character, a stretch in quotes or braces, or a separator. -/
inductive Mark where
  | char (c : Char)
  | stretch (cs : List Char)
  | semicolon
  | equals
  | space
  | lineBreak
  deriving DecidableEq, Repr

/-- A stretch up to its closing character, in ASCII. -/
def stretch? (close : Char) : List Char → Option (List Char × List Char)
  | [] => none
  | c :: rest =>
    if c == close then some ([], rest)
    else if !Text.isAscii c then none
    else (stretch? close rest).map fun (cs, tail) => (c :: cs, tail)

/-- The mark in front. Only ASCII may stand in a connection string. -/
def mark? : List Char → Option (Mark × List Char)
  | [] => none
  | c :: rest =>
    if c == '"' || c == '\x27' then (stretch? c rest).map fun (cs, tail) => (.stretch cs, tail)
    else if c == '\x7b' then (stretch? '\x7d' rest).map fun (cs, tail) => (.stretch cs, tail)
    else if c == ';' then some (.semicolon, rest)
    else if c == '=' then some (.equals, rest)
    else if c == '\n' then some (.lineBreak, rest)
    else if c == ' ' then some (.space, rest)
    else if Text.isAscii c then some (.char c, rest)
    else none

/-- The marks of a connection string, at most a number of them. -/
def marks? : Nat → List Char → Option (List Mark)
  | _, [] => some []
  | 0, _ :: _ => none
  | fuel + 1, c :: cs =>
    match mark? (c :: cs) with
    | some (m, rest) => (marks? fuel rest).map (m :: ·)
    | none => none

/-- A key or a value up to a separator, without blanks around it; `text` is what precedes, last
character first. -/
def word (text : List Char) : List Mark → String × List Mark
  | .char c :: rest => word (c :: text) rest
  | .stretch cs :: rest => word (cs.reverse ++ text) rest
  -- Blanks inside a word count; in front of it they do not, and behind it they are cut off.
  | .space :: rest => word (if text.isEmpty then text else ' ' :: text) rest
  | .lineBreak :: rest => word text rest
  | rest => (String.ofList (Text.trimRight text.reverse), rest)

/-- Pairs with semicolons between them, at most a number of them. -/
def pairs? : Nat → List Mark → Option (List (String × String))
  | _, [] => some []
  | 0, _ :: _ => none
  | fuel + 1, m :: ms =>
    let (key, rest) := word [] (m :: ms)
    match rest with
    | .equals :: rest =>
      let (value, rest) := word [] rest
      if key == "" then none
      else match rest with
        | [] => some [(Text.lowercase key, value)]
        | .semicolon :: rest =>
          (pairs? fuel rest).map fun more => (Text.lowercase key, value) :: more
        | _ => none
    | _ => none

/-! ## Options -/

/-- The last value under the first of some keys that has one. -/
def value? (pairs : List (String × String)) (keys : List String) : Option String :=
  keys.findSome? fun key => pairs.reverse.lookup key

/-- A truth value in words. -/
def truth? (s : String) : Option Bool :=
  let word := Text.lowercase (Text.trimmed s)
  if word == "true" || word == "yes" then some true
  else if word == "false" || word == "no" then some false
  else none

/-- What a connection string asks to be encrypted; without a word only the login is. -/
def encryption? (value : Option String) : Option Encryption :=
  match value with
  | none => some .loginOnly
  | some s =>
    match truth? s with
    | some true => some .all
    | some false => some .loginOnly
    | none => if s == "DANGER_PLAINTEXT" then some .nothing else none

/-- A port. -/
def port? (s : String) : Option Nat :=
  let digits := match s.toList with
    | '+' :: cs => cs
    | cs => cs
  (Decimal.natural? digits).filter fun n => n < Nat.pow 2 16

/-- A server: a host, after which a backslash gives an instance and a comma a port. -/
def server? (s : String) : Option (String × Option String × Option Nat) :=
  let cs := (Text.after? "tcp:".toList s.toList).getD s.toList
  let place (front : String) : String × Option String :=
    match Text.split '\\' front with
    | host :: name :: _ => (host, some name)
    | _ => (front, none)
  match Text.split ',' (String.ofList cs) with
  | [front] => some ((place front).1, (place front).2, none)
  | [front, port] => (port? port).map fun n => ((place front).1, (place front).2, some n)
  | _ => none

/-- The target of a connection string. -/
def ofString? (s : String) : Option SqlServerTarget := do
  let ms ← marks? s.toList.length s.toList
  let pairs ← pairs? ms.length ms
  let (host, instanceName, port) ←
    match value? pairs ["server", "data source", "address", "addr", "network address"] with
    | some text => server? text
    | none => some ("localhost", none, none)
  let trust ← match value? pairs ["trustservercertificate"] with
    | some text => truth? text
    | none => some false
  let encryption ← encryption? (value? pairs ["encrypt"])
  return {
    host := host
    -- Who answers for named instances listens on a port of its own.
    port := port.getD (if instanceName.isSome then 1434 else 1433)
    instanceName := instanceName
    database := value? pairs ["database", "initial catalog", "databasename"]
    user := (value? pairs ["uid", "username", "user", "user id"]).getD ""
    password := (value? pairs ["password", "pwd"]).getD ""
    encryption := encryption
    trustServerCert := trust }

/-- The target of settings. -/
def ofSettings (s : DatabaseSettings) : Outcome SqlServerTarget :=
  match s.connectionString with
  | none =>
    .ok {
      host := s.host
      port := s.effectivePort
      instanceName := none
      database := some s.database
      user := s.user
      password := s.password
      encryption := if s.encrypt then .all else .nothing
      trustServerCert := s.encrypt && s.trustServerCert }
  | some text =>
    match ofString? text with
    | some t => .ok t
    | none => .error .sqlServer

end SqlServerTarget

end SchemaModel
