import SchemaModel.Fault
import SchemaModel.Warning
import SchemaModel.Text.Case

/-!
# `SchemaModel.Connection.SslMode` — how a PostgreSQL connection is protected

## Contents
- `SslMode`: plain text, or encryption with different checks of the server. `ofWord` reads the
  setting.
- `Verification`: what is checked about a server.
- `verification`: what a mode checks, with what is worth a warning; `connector` is the same where a
  plain connection is an answer too.
-/

namespace SchemaModel

/-- How a connection is protected. -/
inductive SslMode where
  | disable
  | require
  | verifyCa
  | verifyFull
  deriving DecidableEq, Repr, Inhabited

/-- What is checked about a server before it is trusted. -/
inductive Verification where
  | nothing
  | certificateAndName
  deriving DecidableEq, Repr, Inhabited

namespace SslMode

/-- The modes by their words; no word at all means a plain connection. -/
def table : List (String × SslMode) :=
  [("disable", .disable), ("", .disable), ("require", .require), ("verify-ca", .verifyCa),
   ("verify-full", .verifyFull)]

/-- The mode that a word in any letter case names. -/
def ofWord (s : String) : Outcome SslMode :=
  let key := Text.lowercase s
  match table.lookup key with
  | some mode => .ok mode
  | none => Fault.setting (.unknownSslMode key)

/-- The connection is encrypted. -/
def requiresTls (mode : SslMode) : Bool := mode != .disable

/-- What the mode checks about a server. A plain connection has nothing to check it with. -/
def verification : SslMode → Outcome Verification
  | .disable => Fault.setting .tlsDisabled
  | .require => .ok .nothing
  | .verifyCa | .verifyFull => .ok .certificateAndName

/-- What is worth a warning when a mode is put to use. -/
def warnings : SslMode → List Warning
  | .require => [.unverifiedServer]
  | .verifyCa => [.hostnameVerifiedToo]
  | .disable | .verifyFull => []

/-- What an encrypted connection checks; nothing for a plain one. -/
def connector (mode : SslMode) : Outcome (Option Verification) :=
  if mode.requiresTls then mode.verification.map some else .ok none

end SslMode

end SchemaModel
