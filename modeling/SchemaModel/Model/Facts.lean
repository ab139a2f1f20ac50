import SchemaModel.Model.Record

/-!
# `SchemaModel.Model.Facts` — what follows from a domain

Generators ask more of a domain than its parts say outright: which fields a caller provides, which
field is the key, which operations change data. This module collects those facts as records.

## Contents
- `Field.facts`, `ApplicationType.facts`, `Operation.facts`, `ResultType.facts`: the facts about a
  part. Truths are given by the names of those that hold.
- `Domain.facts`: the facts about a whole domain, with what does not hang together in it.
-/

namespace SchemaModel

/-- The names of the facts that hold. -/
def holding (facts : List (String × Bool)) : Json :=
  .list .string ((facts.filter Prod.snd).map Prod.fst)

/-- A value that may be missing. -/
def optionJson {α : Type} (write : α → Json) : Option α → Json
  | some a => write a
  | none => .null

/-- A value, or the record of the fault in its place. -/
def outcomeJson {α : Type} (fault : Fault → Json) (write : α → Json) : Outcome α → Json
  | .ok a => write a
  | .error e => fault e

namespace Field

/-- The name of a field as a value. -/
def nameJson (f : Field) : Json := .string f.name

/-- The truths about a field. -/
def facts (style : NamingStyle) (f : Field) : List (String × Bool) :=
  [("nullable", f.isNullable), ("has_reference_type", f.hasReference),
   ("tracking_created_timestamp", f.isCreatedTimestamp style),
   ("tracking_modified_timestamp", f.isModifiedTimestamp style),
   ("tracking_created_by_user", f.isCreatedBy style),
   ("tracking_modified_by_user", f.isModifiedBy style),
   ("tracking_user", f.isTrackingUser style),
   ("tracking_timestamp", f.isTrackingTimestamp style),
   ("soft_delete", f.isSoftDelete style), ("search_vector", f.isSearchVector),
   ("row_version", f.isRowVersion), ("file", f.isFile), ("large_text", f.isLargeText),
   ("rating", f.isRating style), ("color", f.isColor style), ("display", f.isDisplay),
   ("excluded_from_results", f.isExcludedFromResults style),
   ("auto_assigned_identity", f.isAutoAssignedIdentity),
   ("system_managed", f.isSystemManaged style),
   ("caller_provided", f.isCallerProvided style), ("user_editable", f.isUserEditable style)]

end Field

/-- The facts about a type. -/
def ApplicationType.facts (fault : Fault → Json) (style : NamingStyle) (t : ApplicationType) :
    Json :=
  .object
    [("key", .string t.key.text),
     ("fields", .list (fun f : Field => .object
       [("name", f.nameJson), ("kind", optionJson (fun k : ValueKind => .string k.word) f.kind?),
        ("flags", holding (f.facts style))]) t.fields),
     ("flags", holding
       [("security_principal", t.isSecurityPrincipal), ("reference_data", t.isReferenceData),
        ("link_table", t.isLinkTable style), ("attachment", t.isAttachment),
        ("paginated", t.isPaginated)]),
     ("delete_type", .string (t.deleteType style).word),
     ("key_fields", .list Field.nameJson t.keyFields),
     ("key_field", outcomeJson fault Field.nameJson t.keyField),
     ("primary_key", optionJson (fun c : Constraint => .string c.name) t.primaryKey?),
     ("unique", .list (fun c : Constraint => .string c.name) t.uniqueConstraints),
     ("soft_delete_field", optionJson Field.nameJson (t.softDeleteField? style)),
     ("display_fields", .list Field.nameJson t.displayFields),
     ("display_field", optionJson Field.nameJson (t.displayField? style)),
     ("created_by_field", optionJson Field.nameJson (t.createdByField? style))]

/-- The facts about an operation of a domain. -/
def Operation.facts (d : Domain) (op : Operation) : Json :=
  .object
    [("key", .string op.key.text), ("custom_name", .string op.customName),
     ("parameter_types", .list .string op.parameterTypes),
     ("parameters", .list (fun p : Parameter => .object
       [("name", .string p.name),
        ("flags", holding
          [("result_type", p.isResultType), ("current_user", p.isCurrentUser d.naming),
           ("security_user", d.isSecurityUser p)])]) op.parameters),
     ("flags", holding
       [("changes_data", op.changesData d.naming), ("creates_new", op.createsNew d.naming),
        ("generated", op.isGenerated), ("single_result", op.singleResult),
        ("select_by_id", d.isSelectById op),
        ("incomplete_return", op.returns.isIncomplete)])]

/-- The facts about a result type. -/
def ResultType.facts (r : ResultType) : Json :=
  .object [("key", .string r.key.text), ("generated", .bool r.isGenerated)]

/-- The facts about a domain. -/
def Domain.facts (fault : Fault → Json) (d : Domain) : Json :=
  .object
    [("convention", .string d.naming.title),
     ("types", .list (ApplicationType.facts fault d.naming) d.types),
     ("operations", .list (Operation.facts d) d.operations),
     ("result_types", .list ResultType.facts d.resultTypes),
     ("user_type", optionJson (fun t : ApplicationType => .string t.key.text) d.userType?),
     ("user_identity_field", outcomeJson fault (optionJson Field.nameJson) d.userIdentityField),
     ("problems", .list .string d.validateReferences),
     ("warnings", .list .string d.sanityCheck)]

end SchemaModel
