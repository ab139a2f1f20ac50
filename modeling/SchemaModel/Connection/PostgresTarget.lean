import SchemaModel.Connection.Database
import SchemaModel.Text.Cut

/-!
# `SchemaModel.Connection.PostgresTarget` — where a PostgreSQL server is

A connection string overrides the separate settings. It is either a list of words `key=value` or an
address that begins with `postgres://` or `postgresql://`.

## Contents
- `PostgresTarget`: hosts, ports, and who asks for which database; `with?` applies one option.
- **Words.** `Words.parameters?` reads `key=value` pairs. A value stands plain up to the next blank or
  between apostrophes, and a backslash takes the next character as it is.
- **Addresses.** `Address.settings?` takes an address apart into hosts and options; texts in it are
  percent-decoded.
- `ofString?`, `ofSettings`: the target of a connection string, and of settings.
- `endpoints?`: the places to try, in order.
- `reaches`, `satisfied`: a server at a place sees a login, and its plain welcome is enough.
-/

namespace SchemaModel

/-- A host: a directory with the server's socket, whose path is any octets, or a name to look up. -/
inductive Host where
  | directory (path : List UInt8)
  | name (text : String)
  deriving DecidableEq, Repr, Inhabited

/-- A host in octets. Those that start with a slash name a directory; others must be a text. -/
def Host.ofOctets? (octets : List UInt8) : Option Host :=
  if octets.head? == some 0x2f then some (.directory octets)
  else (String.fromUTF8? ⟨octets.toArray⟩).map .name

/-- A text that starts with a slash names a directory. -/
def Host.ofText (s : String) : Host :=
  if s.toList.head? == some '/' then .directory s.toUTF8.toList else .name s

/-- Whether the server is asked for encryption. -/
inductive TlsWish where
  | never
  | ifOffered
  | always
  deriving DecidableEq, Repr, Inhabited

/-- Where a PostgreSQL server is and who asks. The lists of hosts, addresses and ports run in
parallel. A bound channel ties the login to the encryption of the connection. -/
structure PostgresTarget where
  user : Option String
  database : Option String
  options : Option String
  applicationName : Option String
  hosts : List Host
  addresses : List String
  ports : List Nat
  tls : TlsWish
  bindsChannel : Bool
  deriving DecidableEq, Repr, Inhabited

/-- A place to try. -/
structure Endpoint where
  host : Host
  port : Nat
  deriving DecidableEq, Repr, Inhabited

namespace PostgresTarget

/-- Nothing is known yet. -/
def unknown : PostgresTarget := ⟨none, none, none, none, [], [], [], .ifOffered, false⟩

/-! ## Options -/

/-- A whole number with an optional sign, within bounds. -/
def integer? (low high : Int) (s : String) : Option Int :=
  let n := match s.toList with
    | '-' :: cs => (Decimal.natural? cs).map fun n => -(n : Int)
    | '+' :: cs => (Decimal.natural? cs).map Int.ofNat
    | cs => (Decimal.natural? cs).map Int.ofNat
  n.filter fun n => low ≤ n && n ≤ high

/-- A number without a minus sign, below a power of two. -/
def unsigned? (bits : Nat) (s : String) : Option Nat :=
  if s.toList.head? == some '-' then none else (integer? 0 ((Nat.pow 2 bits : Int) - 1) s).map Int.toNat

/-- A signed number of 64 bits. -/
def long? (s : String) : Option Int := 
  integer? (-(Nat.pow 2 63 : Int)) ((Nat.pow 2 63 : Int) - 1) s

/-- One of the numbers between the dots of an address: at most 255, no zero in front. -/
def isOctet (s : String) : Bool :=
  let cs := s.toList
  !cs.isEmpty && cs.length ≤ 3 && cs.all Decimal.isDigit && Decimal.valueOf 10 cs ≤ 255 &&
    !(1 < cs.length && cs.head? == some '0')

/-- Four numbers with dots between. -/
def isDotted (s : String) : Bool :=
  let parts := Text.split '.' s
  parts.length == 4 && parts.all isOctet

/-- Up to four hexadecimal digits. -/
def isGroup (s : String) : Bool :=
  let cs := s.toList
  !cs.isEmpty && cs.length ≤ 4 && cs.all Decimal.isHexDigit

/-- The number of groups that a stretch between colons stands for, the last of which may be a
dotted address when the stretch ends the text. -/
def groupCount? (atEnd : Bool) (s : String) : Option Nat :=
  if s == "" then some 0
  else
    let parts := Text.split ':' s
    if parts.all isGroup then some parts.length
    else match parts.reverse with
      | last :: front =>
        if atEnd && isDotted last && front.all isGroup then some (front.length + 2) else none
      | [] => none

/-- Eight groups, or fewer around one double colon. -/
def isColonAddress (s : String) : Bool :=
  match Text.until? [':', ':'] s.toList with
  | none => groupCount? true s == some 8
  | some front =>
    let back := String.ofList (s.toList.drop (front.length + 2))
    -- The double colon stands for at least one group of zeros.
    match groupCount? false (String.ofList front), groupCount? true back with
    | some m, some n => m + n ≤ 7
    | _, _ => false

/-- A numeric address. -/
def isAddress (s : String) : Bool := isDotted s || isColonAddress s

/-- A port; no text means the usual one. -/
def port? (s : String) : Option Nat := if s == "" then some 5432 else unsigned? 16 s

/-- The words that an option with a fixed choice takes. -/
def choices : List (String × List String) :=
  [("sslnegotiation", ["postgres", "direct"]),
   ("target_session_attrs", ["any", "read-write", "read-only"]),
   ("load_balance_hosts", ["disable", "random"])]

/-- The options that take a signed number. -/
def longOptions : List String :=
  ["connect_timeout", "tcp_user_timeout", "keepalives_idle", "keepalives_interval"]

/-- The words for encryption. -/
def tlsTable : List (String × TlsWish) :=
  [("disable", .never), ("prefer", .ifOffered), ("require", .always)]

/-- The words for a bound channel, which only one of them insists on. -/
def bindingTable : List (String × Bool) :=
  [("disable", false), ("prefer", false), ("require", true)]

/-- Applies an option; `none` when it is unknown or its value is not one. -/
def with? (t : PostgresTarget) (key value : String) : Option PostgresTarget :=
  if key == "user" then some { t with user := some value }
  else if key == "dbname" then some { t with database := some value }
  else if key == "options" then some { t with options := some value }
  else if key == "application_name" then some { t with applicationName := some value }
  else if key == "password" then some t
  else if key == "sslmode" then (tlsTable.lookup value).map fun tls => { t with tls := tls }
  else if key == "channel_binding" then
    (bindingTable.lookup value).map fun binds => { t with bindsChannel := binds }
  else if key == "host" then
    some { t with hosts := t.hosts ++ (Text.split ',' value).map Host.ofText }
  else if key == "hostaddr" then
    let parts := Text.split ',' value
    if parts.all isAddress then some { t with addresses := t.addresses ++ parts } else none
  else if key == "port" then
    ((Text.split ',' value).mapM port?).map fun ports => { t with ports := t.ports ++ ports }
  else if longOptions.contains key then (long? value).map fun _ => t
  else if key == "keepalives" then (unsigned? 64 value).map fun _ => t
  else if key == "keepalives_retries" then (unsigned? 32 value).map fun _ => t
  else match choices.lookup key with
    | some words => if words.contains value then some t else none
    | none => none

/-! ## Words -/

namespace Words

/-- A plain value up to the next blank. -/
def simple : List Char → List Char × List Char
  | [] => ([], [])
  | '\\' :: c :: rest =>
    let (value, tail) := simple rest
    (c :: value, tail)
  | c :: rest =>
    if Text.isBlank c then ([], c :: rest)
    -- A backslash with nothing behind it is dropped.
    else if c == '\\' then ([], rest)
    else
      let (value, tail) := simple rest
      (c :: value, tail)

/-- A value after its opening apostrophe. -/
def enclosed? : List Char → Option (List Char × List Char)
  | [] => none
  | '\x27' :: rest => some ([], rest)
  | '\\' :: c :: rest => (enclosed? rest).map fun (value, tail) => (c :: value, tail)
  | c :: rest => (enclosed? rest).map fun (value, tail) => (c :: value, tail)

/-- A value, which is not empty unless it is enclosed. -/
def value? : List Char → Option (List Char × List Char)
  | '\x27' :: rest => enclosed? rest
  | cs =>
    let (value, rest) := simple cs
    if value.isEmpty then none else some (value, rest)

/-- At most a number of pairs. Where no key stands the list ends. -/
def parameters? : Nat → List Char → Option (List (String × String))
  | 0, _ => none
  | fuel + 1, cs =>
    let (key, rest) := (Text.trimLeft cs).span fun c => !Text.isBlank c && c != '='
    if key.isEmpty then some []
    else match Text.trimLeft rest with
      | '=' :: rest =>
        match value? (Text.trimLeft rest) with
        | some (value, rest) =>
          (parameters? fuel rest).map fun more =>
            (String.ofList key, String.ofList value) :: more
        | none => none
      | _ => none

end Words

/-! ## Addresses -/

namespace Address

/-- The bytes of a text in which a percent sign and two hexadecimal digits stand for one. -/
def bytes : List Char → List UInt8
  | [] => []
  | '%' :: a :: b :: rest =>
    if Decimal.isHexDigit a && Decimal.isHexDigit b then
      UInt8.ofNat (Decimal.digitValue a * 16 + Decimal.digitValue b) :: bytes rest
    else 0x25 :: bytes (a :: b :: rest)
  | c :: rest => (String.singleton c).toUTF8.toList ++ bytes rest

/-- The text, percent-decoded; `none` when the bytes are no text. -/
def decode? (cs : List Char) : Option String := String.fromUTF8? ⟨(bytes cs).toArray⟩

/-- What precedes the first character with a property, and from there on. -/
def upTo (p : Char → Bool) (cs : List Char) : List Char × List Char := cs.span fun c => !p c

/-- What a part of an address sets: one more host, or an option. -/
inductive Setting where
  | host (h : Host)
  | option (key value : String)
  deriving DecidableEq, Repr, Inhabited

/-- Sets a host, which keeps its commas. -/
def hostSetting? (cs : List Char) : Option Setting := (Host.ofOctets? (bytes cs)).map .host

/-- What `user:password` sets. A password may be any bytes. -/
def credentials? (cs : List Char) : Option (List Setting) := do
  let (user, _) := upTo (· == ':') cs
  return [.option "user" (← decode? user)]

/-- What one host with its port sets. -/
def host? (cs : List Char) : Option (List Setting) := do
  let (host, port) ← match cs with
    | '[' :: rest =>
      let (inner, rest) := upTo (· == ']') rest
      match rest with
      -- The bracket closes the host; a port needs a colon right behind it.
      | [_] => some (inner, none)
      | _ :: ':' :: port => some (inner, some port)
      | _ => none
    | cs =>
      match upTo (· == ':') cs with
      | (host, _ :: port) => some (host, some port)
      | (host, []) => some (host, none)
  return [← hostSetting? host, .option "port" (← decode? (port.getD "5432".toList))]

/-- What the pairs after the question mark set. -/
def queries? : Nat → List Char → Option (List Setting)
  | 0, _ => none
  | fuel + 1, cs =>
    if cs.isEmpty then some []
    else match upTo (· == '=') cs with
      | (_, []) => none
      | (key, _ :: rest) => do
        let (value, rest) := upTo (· == '&') rest
        let key ← decode? key
        let setting ←
          if key == "host" then hostSetting? value else (decode? value).map (.option key)
        return setting :: (← queries? fuel (rest.drop 1))

/-- What follows the mark of an address. -/
def body? (s : String) : Option (List Char) :=
  match Text.after? "postgres://".toList s.toList with
  | some rest => some rest
  | none => Text.after? "postgresql://".toList s.toList

/-- What an address sets after its mark. -/
def settings? (cs : List Char) : Option (List Setting) := do
  let (owner, cs) ← match upTo (· == '@') cs with
    | (creds, _ :: rest) => (credentials? creds).map fun owner => (owner, rest)
    | (_, []) => some ([], cs)
  let (places, cs) := upTo (fun c => c == '/' || c == '?') cs
  let hosts ← if places.isEmpty then some [] else (Text.pieces (· == ',') places).mapM host?
  let (database, cs) ← match cs with
    | '/' :: rest =>
      let (name, rest) := upTo (· == '?') rest
      if name.isEmpty then some ([], rest)
      else (decode? name).map fun name => ([.option "dbname" name], rest)
    | cs => some ([], cs)
  let more ← match cs with
    | '?' :: rest => queries? (rest.length + 1) rest
    | _ => some []
  return owner ++ hosts.flatten ++ database ++ more

end Address

/-! ## Targets -/

/-- Applies what a part of an address sets. -/
def set? (t : PostgresTarget) : Address.Setting → Option PostgresTarget
  | .host h => some { t with hosts := t.hosts ++ [h] }
  | .option key value => t.with? key value

/-- The target of a connection string. -/
def ofString? (s : String) : Option PostgresTarget :=
  match Address.body? s with
  | some cs => (Address.settings? cs).bind fun settings => settings.foldlM set? unknown
  | none =>
    (Words.parameters? (s.toList.length + 1) s.toList).bind fun options =>
      options.foldlM (fun t (key, value) => t.with? key value) unknown

/-- The target of settings. -/
def ofSettings (s : DatabaseSettings) : Outcome PostgresTarget :=
  match s.connectionString with
  | none =>
    .ok { unknown with
      user := some s.user
      database := some s.database
      hosts := [.ofText s.host]
      ports := [s.effectivePort] }
  | some text =>
    match ofString? text with
    | some t => .ok t
    | none => Fault.setting .connectionString

/-! ## Endpoints -/

/-- Pairs places with ports: one port serves all places, and none means the usual one. -/
def paired (places : List Host) (ports : List Nat) : List Endpoint :=
  match ports with
  | [] => places.map fun h => ⟨h, 5432⟩
  | [port] => places.map fun h => ⟨h, port⟩
  | ports => (places.zip ports).map fun (h, port) => ⟨h, port⟩

/-- The places to try, unless the target names none or its lists do not match. A numeric address
takes the place of a host. -/
def endpoints? (t : PostgresTarget) : Option (List Endpoint) :=
  let hosts := t.hosts.length
  let addresses := t.addresses.length
  if hosts = 0 && addresses = 0 then none
  else if hosts != 0 && addresses != 0 && hosts != addresses then none
  else
    let places := if addresses = 0 then t.hosts else t.addresses.map Host.name
    if 1 < t.ports.length && t.ports.length != places.length then none
    else some (paired places t.ports)

/-! ## Logging in -/

/-- The texts that open a connection. -/
def greeting (t : PostgresTarget) : List String :=
  [t.user, t.database, t.options, t.applicationName].filterMap id

/-- The text can be sent: a server reads it up to a zero, so there is none in it. -/
def isSendable (s : String) : Bool := !s.toList.contains '\x00'

/-- A server at a place, which offers no encryption, sees a login. -/
def reaches (t : PostgresTarget) (place : Endpoint) : Bool :=
  t.endpoints?.any (·.contains place) && t.tls != .always && t.greeting.all isSendable

/-- The welcome of a server that asks for no proof is enough: a channel without encryption cannot be
bound. -/
def satisfied (t : PostgresTarget) : Bool := !t.bindsChannel

end PostgresTarget

end SchemaModel
