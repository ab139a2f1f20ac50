import SchemaModel.Proofs.Document.Decode

/-!
# `SchemaModel.Proofs.Model.Record` — records are read as they were written

Every part of a domain is found again in the record that it was written as. The numbers of a record
are signed integers of 32 bits; a field that may be absent is always written.

## Contents
- `Field.Fits`, `Parameter.Fits` and their like: the numbers of a part are of 32 bits.
- For every part `reads`: it is read from its record.
- For every part `decode_fits`: what is read from any document has such numbers.
-/

namespace SchemaModel

open Decode

/-! ## Words -/

theorem ValueKind.lookup_word (kind : ValueKind) : table.lookup kind.word = some kind := by
  cases kind <;> rfl

theorem KeyKind.lookup_word (kind : KeyKind) : table.lookup kind.word = some kind := by
  cases kind <;> rfl

theorem ReturnKind.lookup_word (kind : ReturnKind) : table.lookup kind.word = some kind := by
  cases kind <;> rfl

theorem RoutineKind.lookup_word (kind : RoutineKind) : table.lookup kind.word = some kind := by
  cases kind <;> rfl

theorem Engine.lookup_word (engine : Engine) : table.lookup engine.word = some engine := by
  cases engine <;> rfl

theorem NamingStyle.lookup_word (style : NamingStyle) : table.lookup style.word = some style := by
  cases style <;> rfl

/-! ## Numbers -/

/-- The numbers of the field are of 32 bits. -/
structure Field.Fits (f : Field) : Prop where
  order : IsInt32 f.order
  size : ∀ n ∈ f.size, IsInt32 n
  precision : ∀ n ∈ f.precision, IsInt32 n
  scale : ∀ n ∈ f.scale, IsInt32 n

/-- The numbers of the parameter are of 32 bits. -/
structure Parameter.Fits (p : Parameter) : Prop where
  order : IsInt32 p.order
  size : ∀ n ∈ p.size, IsInt32 n

/-- The numbers of the type's fields are of 32 bits. -/
def ApplicationType.Fits (t : ApplicationType) : Prop := ∀ f ∈ t.fields, f.Fits

/-- The numbers of the shape's fields are of 32 bits. -/
def ResultType.Fits (r : ResultType) : Prop := ∀ f ∈ r.fields, f.Fits

/-- The numbers of the operation's parameters are of 32 bits. -/
def Operation.Fits (op : Operation) : Prop := ∀ p ∈ op.parameters, p.Fits

/-- Every number of the domain outside of its bags of attributes is of 32 bits. -/
structure Domain.Fits (d : Domain) : Prop where
  types : ∀ t ∈ d.types, t.Fits
  operations : ∀ op ∈ d.operations, op.Fits
  resultTypes : ∀ r ∈ d.resultTypes, r.Fits

instance (f : Field) : Decidable f.Fits :=
  decidable_of_iff (IsInt32 f.order ∧ (∀ n ∈ f.size, IsInt32 n) ∧ (∀ n ∈ f.precision, IsInt32 n) ∧
      ∀ n ∈ f.scale, IsInt32 n)
    ⟨fun ⟨horder, hsize, hprecision, hscale⟩ => ⟨horder, hsize, hprecision, hscale⟩,
      fun h => ⟨h.order, h.size, h.precision, h.scale⟩⟩

instance (p : Parameter) : Decidable p.Fits :=
  decidable_of_iff (IsInt32 p.order ∧ ∀ n ∈ p.size, IsInt32 n)
    ⟨fun ⟨horder, hsize⟩ => ⟨horder, hsize⟩, fun h => ⟨h.order, h.size⟩⟩

instance (t : ApplicationType) : Decidable t.Fits := inferInstanceAs (Decidable (∀ f ∈ _, _))

instance (r : ResultType) : Decidable r.Fits := inferInstanceAs (Decidable (∀ f ∈ _, _))

instance (op : Operation) : Decidable op.Fits := inferInstanceAs (Decidable (∀ p ∈ _, _))

instance (d : Domain) : Decidable d.Fits :=
  decidable_of_iff ((∀ t ∈ d.types, t.Fits) ∧ (∀ op ∈ d.operations, op.Fits) ∧
      ∀ r ∈ d.resultTypes, r.Fits)
    ⟨fun ⟨htypes, hoperations, hresults⟩ => ⟨htypes, hoperations, hresults⟩,
      fun h => ⟨h.types, h.operations, h.resultTypes⟩⟩

/-! ## Reading what was written -/

theorem ValueType.reads (t : ValueType) : Reads toJson decode t :=
  reads_record rfl rfl (by decide) fun _ h =>
    (h.required (reads_word t.kind.lookup_word) rfl).bind <|
    (h.defaulted (reads_truth _) rfl).bind <|
    (h.defaulted (reads_truth _) rfl).bind <| .pure _

theorem TypeKey.reads (key : TypeKey) : Reads toJson decode key :=
  reads_record rfl rfl (by decide) fun _ h =>
    (h.required (reads_text _) rfl).bind <|
    (h.required (reads_text _) rfl).bind <| .pure _

theorem FieldReference.reads (reference : FieldReference) : Reads toJson decode reference :=
  reads_record rfl rfl (by decide) fun _ h =>
    (h.required (TypeKey.reads _) rfl).bind <|
    (h.required (reads_text _) rfl).bind <| .pure _

theorem Field.reads {f : Field} (hf : f.Fits) : Reads toJson decode f :=
  reads_record rfl rfl (by decide) fun _ h =>
    (h.required (reads_text _) rfl).bind <|
    (h.required (reads_int32 hf.order) rfl).bind <|
    (h.required (reads_text _) rfl).bind <|
    (h.optional (fun t _ => t.reads) rfl).bind <|
    (h.required (reads_truth _) rfl).bind <|
    (h.optional (fun n hn => reads_int32 (hf.size n hn)) rfl).bind <|
    (h.optional (fun n hn => reads_int32 (hf.precision n hn)) rfl).bind <|
    (h.optional (fun n hn => reads_int32 (hf.scale n hn)) rfl).bind <|
    (h.defaulted (reads_truth _) rfl).bind <|
    (h.defaulted (reads_truth _) rfl).bind <|
    (h.defaulted (reads_truth _) rfl).bind <|
    (h.optional (fun s _ => reads_text s) rfl).bind <|
    (h.optional (fun reference _ => reference.reads) rfl).bind <|
    (h.optional (fun a _ => reads_attributes a) rfl).bind <| .pure _

theorem Constraint.reads (c : Constraint) : Reads toJson decode c :=
  reads_record rfl rfl (by decide) fun _ h =>
    (h.required (reads_text _) rfl).bind <|
    (h.required (reads_word c.kind.lookup_word) rfl).bind <|
    (h.required (reads_list fun s _ => reads_text s) rfl).bind <| .pure _

theorem ApplicationType.reads {t : ApplicationType} (ht : t.Fits) : Reads toJson decode t :=
  reads_record rfl rfl (by decide) fun _ h =>
    (h.required (reads_text _) rfl).bind <|
    (h.required (reads_text _) rfl).bind <|
    (h.required (reads_list fun f hf => Field.reads (ht f hf)) rfl).bind <|
    (h.defaulted (reads_list fun c _ => c.reads) rfl).bind <|
    (h.optional (fun a _ => reads_attributes a) rfl).bind <| .pure _

theorem Parameter.reads {p : Parameter} (hp : p.Fits) : Reads toJson decode p :=
  reads_record rfl rfl (by decide) fun _ h =>
    (h.required (reads_text _) rfl).bind <|
    (h.required (reads_int32 hp.order) rfl).bind <|
    (h.required (reads_text _) rfl).bind <|
    (h.optional (fun t _ => t.reads) rfl).bind <|
    (h.required (reads_truth _) rfl).bind <|
    (h.defaulted (reads_truth _) rfl).bind <|
    (h.optional (fun n hn => reads_int32 (hp.size n hn)) rfl).bind <|
    (h.optional (fun s _ => reads_text s) rfl).bind <|
    (h.optional (fun key _ => key.reads) rfl).bind <| .pure _

theorem ResultType.reads {r : ResultType} (hr : r.Fits) : Reads toJson decode r :=
  reads_record rfl rfl (by decide) fun _ h =>
    (h.required (reads_text _) rfl).bind <|
    (h.required (reads_text _) rfl).bind <|
    (h.optional (fun key _ => key.reads) rfl).bind <|
    (h.required (reads_truth _) rfl).bind <|
    (h.required (reads_list fun f hf => Field.reads (hr f hf)) rfl).bind <|
    (h.defaulted (reads_list fun key _ => key.reads) rfl).bind <|
    (h.optional (fun a _ => reads_attributes a) rfl).bind <| .pure _

theorem OperationReturn.reads (t : OperationReturn) : Reads toJson decode t :=
  reads_record rfl rfl (by decide) fun _ h =>
    (h.required (reads_word t.kind.lookup_word) rfl).bind <|
    (h.optional (fun t _ => t.reads) rfl).bind <|
    (h.optional (fun key _ => key.reads) rfl).bind <|
    (h.defaulted (reads_truth _) rfl).bind <| .pure _

theorem Operation.reads {op : Operation} (hop : op.Fits) : Reads toJson decode op :=
  reads_record rfl rfl (by decide) fun _ h =>
    (h.required (reads_text _) rfl).bind <|
    (h.required (reads_text _) rfl).bind <|
    (h.defaulted (reads_text _) rfl).bind <|
    (h.required (reads_word op.kind.lookup_word) rfl).bind <|
    (h.required (reads_list fun p hp => Parameter.reads (hop p hp)) rfl).bind <|
    (h.defaulted op.returns.reads rfl).bind <|
    (h.optional (fun a _ => reads_attributes a) rfl).bind <|
    (h.optional (fun key _ => key.reads) rfl).bind <| .pure _

theorem Domain.reads {d : Domain} (hd : d.Fits) : Reads toJson decode d :=
  reads_record rfl rfl (by decide) fun _ h =>
    (h.required (reads_text _) rfl).bind <|
    (h.required (reads_word d.engine.lookup_word) rfl).bind <|
    (h.required (reads_word d.naming.lookup_word) rfl).bind <|
    (h.required (reads_list fun t ht => ApplicationType.reads (hd.types t ht)) rfl).bind <|
    (h.required (reads_list fun op hop => Operation.reads (hd.operations op hop)) rfl).bind <|
    (h.required (reads_list fun r hr => ResultType.reads (hd.resultTypes r hr)) rfl).bind <|
    .pure _

/-! ## Numbers that were read -/

theorem Field.decode_fits (scope : Scope) (d : Document) : Always (decode scope d) Fits :=
  always_record (fun r =>
    .skip fun _ =>
    (r.always_required always_int32).bind fun _ horder =>
    .skip fun _ => .skip fun _ => .skip fun _ =>
    (r.always_optional always_int32).bind fun _ hsize =>
    (r.always_optional always_int32).bind fun _ hprecision =>
    (r.always_optional always_int32).bind fun _ hscale =>
    .skip fun _ => .skip fun _ => .skip fun _ => .skip fun _ => .skip fun _ => .skip fun _ =>
    .pure ⟨horder, hsize, hprecision, hscale⟩) scope d

theorem Parameter.decode_fits (scope : Scope) (d : Document) : Always (decode scope d) Fits :=
  always_record (fun r =>
    .skip fun _ =>
    (r.always_required always_int32).bind fun _ horder =>
    .skip fun _ => .skip fun _ => .skip fun _ => .skip fun _ =>
    (r.always_optional always_int32).bind fun _ hsize =>
    .skip fun _ => .skip fun _ =>
    .pure ⟨horder, hsize⟩) scope d

theorem ApplicationType.decode_fits (scope : Scope) (d : Document) :
    Always (decode scope d) Fits :=
  always_record (fun r =>
    .skip fun _ => .skip fun _ =>
    (r.always_required (always_list Field.decode_fits)).bind fun _ hfields =>
    .skip fun _ => .skip fun _ =>
    .pure hfields) scope d

theorem ResultType.decode_fits (scope : Scope) (d : Document) : Always (decode scope d) Fits :=
  always_record (fun r =>
    .skip fun _ => .skip fun _ => .skip fun _ => .skip fun _ =>
    (r.always_required (always_list Field.decode_fits)).bind fun _ hfields =>
    .skip fun _ => .skip fun _ =>
    .pure hfields) scope d

theorem Operation.decode_fits (scope : Scope) (d : Document) : Always (decode scope d) Fits :=
  always_record (fun r =>
    .skip fun _ => .skip fun _ => .skip fun _ => .skip fun _ =>
    (r.always_required (always_list Parameter.decode_fits)).bind fun _ hparameters =>
    .skip fun _ => .skip fun _ => .skip fun _ =>
    .pure hparameters) scope d

theorem Domain.decode_fits (scope : Scope) (d : Document) : Always (decode scope d) Fits :=
  always_record (fun r =>
    .skip fun _ => .skip fun _ => .skip fun _ =>
    (r.always_required (always_list ApplicationType.decode_fits)).bind fun _ htypes =>
    (r.always_required (always_list Operation.decode_fits)).bind fun _ hoperations =>
    (r.always_required (always_list ResultType.decode_fits)).bind fun _ hresults =>
    .pure ⟨htypes, hoperations, hresults⟩) scope d

end SchemaModel
