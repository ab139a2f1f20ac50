import SchemaModel.Decimal.Digits

/-!
# `SchemaModel.Warning` — what is odd but not fatal

## Contents
- `Warning`: the conditions that are reported while work goes on, as data.
- `Warning.text`: each in words.
-/

namespace SchemaModel

/-- A condition worth reporting that stops nothing. -/
inductive Warning where
  | malformedOverrides (owner : String)
  | unmappedColumn (owner nativeType : String)
  | flagsOfUnknownColumn (table column : String)
  | foreignKeySkipped (name owner target : String)
  | unmappedResultColumn (owner column nativeType : String)
  | incompleteReturns (count : Nat)
  | unmappedDomain (type baseType : String)
  | enumWithoutValueType (type : String)
  | noColumnInformation (operation returnType : String)
  | unknownRelatedType (operation name : String)
  | relatedTypeMissing (source result : String)
  | resultTypeMissing (result : String)
  | resultFieldUntyped (result field nativeType : String)
  | differentConfigurations (own other : String)
  | differentEngines (old new : String)
  | plaintextConnection
  | unverifiedServer
  | hostnameVerifiedToo
  | inconsistency (text : String)
  deriving DecidableEq, Repr

/-- The warning in words. -/
def Warning.text : Warning → String
  | .malformedOverrides owner => "Ignoring malformed JSON annotation on " ++ owner
  | .unmappedColumn owner nativeType =>
    "Column " ++ owner ++ " has unmapped native type '" ++ nativeType ++ "'"
  | .flagsOfUnknownColumn table column =>
    "Column flags for unknown column " ++ table ++ "." ++ column
  | .foreignKeySkipped name owner target =>
    "Foreign key " ++ name ++ " on " ++ owner ++ " references " ++ target ++
      " which is not in the domain; skipping"
  | .unmappedResultColumn owner column nativeType =>
    "Result column " ++ owner ++ "." ++ column ++ " has unmapped native type '" ++ nativeType ++
      "'"
  | .incompleteReturns count =>
    Decimal.text count ++ " operations have an incomplete return shape"
  | .unmappedDomain type baseType =>
    "Domain " ++ type ++ " has unmapped base type '" ++ baseType ++ "'"
  | .enumWithoutValueType type => "Enum type " ++ type ++ " has no value type mapping"
  | .noColumnInformation operation returnType =>
    "Operation " ++ operation ++ " returns '" ++ returnType ++ "' without column information"
  | .unknownRelatedType operation name =>
    "Operation " ++ operation ++ " names unknown application type '" ++ name ++ "'"
  | .relatedTypeMissing source result =>
    "Related type " ++ source ++ " not found for result type " ++ result
  | .resultTypeMissing result => "Result type " ++ result ++ " not found"
  | .resultFieldUntyped result field nativeType =>
    "Result field " ++ result ++ "." ++ field ++ " has no value type (native type '" ++
      nativeType ++ "')"
  | .differentConfigurations own other =>
    "Snapshots were taken with different configurations (" ++ own ++ " vs " ++ other ++ ")"
  | .differentEngines old new =>
    "Comparing domains from different providers (" ++ old ++ " vs " ++ new ++ ")"
  | .plaintextConnection =>
    "PostgreSQL TLS is disabled. Credentials will be transmitted in plaintext."
  | .unverifiedServer =>
    "ssl_mode=require enables TLS but does NOT verify the server certificate; " ++
      "use ssl_mode=verify-full outside development"
  | .hostnameVerifiedToo =>
    "ssl_mode=verify-ca also verifies the hostname (same as verify-full)"
  | .inconsistency text => text

end SchemaModel
