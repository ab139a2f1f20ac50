import SchemaModel.Model.Record
import SchemaModel.Proofs.Json.Documents

/-!
# `SchemaModel.Proofs.Document.Decode` — decoders read what was written

## Contents
- `Gives x a`: the decoding has the meaning `a` and follows no alias. `Gives.bind` chains two.
- `Reads item decode a`: the decoder gives `a` for the document of its JSON value, in every scope
  that is deep enough.
- **Parts.** `reads_text`, `reads_int32`, `reads_word`, `reads_list`, `reads_attributes` and others.
- **Records.** `Holds r fields`: the record has the given fields. `reads_record` reads a record
  whose parts are read, found under their keys by `Holds.required`, `Holds.defaulted` and
  `Holds.optional`.
- `Always x P`: whatever the decoding means has the property. `Always.bind` chains two, and
  `always_record` gives it of a whole record.
-/

namespace SchemaModel.Decode

variable {α β : Type}

/-! ## Decodings -/

/-- The decoding has a meaning, however many aliases may be followed, and follows none. -/
def Gives (x : Decoding α) (a : α) : Prop := ∀ left, x left = some (a, left)

theorem Gives.pure (a : α) : Gives (pure a) a := fun _ => rfl

theorem Gives.bind {x : Decoding α} {f : α → Decoding β} {a : α} {b : β} (hx : Gives x a)
    (hf : Gives (f a) b) : Gives (x >>= f) b := by
  intro left
  show (x left >>= fun (a, left) => f a left) = _
  rw [hx left]
  exact hf left

/-- The decoder reads a value from the document that it was written as, wherever there is room for
it; and it was not written as nothing. -/
structure Reads (item : α → Json) (decode : Decoder α) (a : α) : Prop where
  solid : item a ≠ .null
  read : ∀ scope : Scope, (item a).depth ≤ scope.depth →
    Gives (decode scope (item a).toDocument) a

/-! ## Scalars -/

/-- A leaf that is no alias has the meaning that is read off it. -/
theorem gives_leaf {read : Document → Option α} {scope : Scope} {d : Document} {a : α}
    (hd : follow scope d = pure d) (h : read d = some a) : Gives (leaf read scope d) a := by
  intro left
  unfold leaf
  rw [hd, pure_bind, h]
  rfl

theorem reads_text (s : String) : Reads .string text s := ⟨nofun, fun _ _ => gives_leaf rfl rfl⟩

theorem reads_truth (b : Bool) : Reads .bool truth b := ⟨nofun, fun _ _ => gives_leaf rfl rfl⟩

/-- A signed integer of 32 bits. -/
def IsInt32 (n : Int) : Prop := -(Nat.pow 2 31 : Int) ≤ n ∧ n < (Nat.pow 2 31 : Int)

instance (n : Int) : Decidable (IsInt32 n) := inferInstanceAs (Decidable (_ ∧ _))

theorem reads_int32 {n : Int} (h : IsInt32 n) : Reads .int int32 n := by
  refine ⟨nofun, fun scope _ => gives_leaf rfl ?_⟩
  refine Option.filter_eq_some_iff.2 ⟨rfl, ?_⟩
  rw [Bool.and_eq_true, decide_eq_true_eq, decide_eq_true_eq]
  exact ⟨h.1, Int.le_sub_one_of_lt h.2⟩

theorem reads_word {table : List (String × α)} {word : α → String} {a : α}
    (h : table.lookup (word a) = some a) :
    Reads (fun a => .string (word a)) (Decode.word table) a :=
  ⟨nofun, fun _ _ => gives_leaf rfl h⟩

/-! ## Values that may be missing -/

/-- A value that is there is read, and a missing one is read as missing. -/
theorem gives_optional {item : α → Json} {decode : Decoder α} {a : Option α}
    (h : ∀ b ∈ a, Reads item decode b) {scope : Scope}
    (hdepth : (Json.optional item a).depth ≤ scope.depth) :
    Gives (optional decode scope (Json.optional item a).toDocument) a := by
  cases a with
  | none => exact fun _ => rfl
  | some b =>
      obtain ⟨hsolid, hread⟩ := h b rfl
      have hgives : Gives (decode scope (item b).toDocument) b := hread scope hdepth
      have hsome : Gives (do return some (← decode scope (item b).toDocument)) (some b) :=
        hgives.bind (.pure _)
      intro left
      rw [← hsome left]
      show optional decode scope (item b).toDocument left = _
      cases hitem : item b with
      | null => exact absurd hitem hsolid
      | _ => rfl

/-! ## Lists -/

/-- A list of documents is read one after the other. -/
theorem gives_all {item : α → Json} {decode : Decoder α} {as : List α} {scope : Scope}
    (h : ∀ a ∈ as, Reads item decode a)
    (hdepth : Json.depthAll (as.map item) ≤ scope.depth) :
    Gives (all decode scope (Json.toDocuments (as.map item))) as := by
  induction as with
  | nil => exact .pure []
  | cons a as ih =>
      obtain ⟨hfirst, hrest⟩ := Nat.max_le.1 hdepth
      exact ((h a List.mem_cons_self).read scope hfirst).bind
        ((ih (fun b hb => h b (List.mem_cons_of_mem a hb)) hrest).bind (.pure _))

/-- One level further down there is room for what nests one level less. -/
theorem inner?_of_lt {scope : Scope} {n : Nat} (h : n + 1 ≤ scope.depth) :
    ∃ inner, scope.inner? = some inner ∧ n ≤ inner.depth := by
  refine ⟨{ scope with depth := scope.depth - 1 }, if_neg (by omega), ?_⟩
  exact Nat.le_sub_one_of_lt h

/-- A list is read when its elements are. -/
theorem reads_list {item : α → Json} {decode : Decoder α} {as : List α}
    (h : ∀ a ∈ as, Reads item decode a) : Reads (Json.list item) (list decode) as := by
  refine ⟨nofun, fun scope hdepth left => ?_⟩
  obtain ⟨inner, hinner, hroom⟩ := inner?_of_lt hdepth
  rw [← gives_all h hroom left]
  show (do all decode (← (scope.inner? : Option Scope)) (Json.toDocuments (as.map item)) :
    Decoding (List α)) left = _
  rw [hinner]
  rfl

/-! ## Records -/

/-- The documents of fields, under their keys. -/
def documents (fields : Json.Fields) : List (String × Document) :=
  fields.map fun (key, item) => (key, item.toDocument)

theorem lookup_documents {fields : Json.Fields} {key : String} :
    (documents fields).lookup key = (fields.lookup key).map Json.toDocument := by
  induction fields with
  | nil => rfl
  | cons field rest ih =>
      obtain ⟨k, v⟩ := field
      show List.lookup key ((k, v.toDocument) :: documents rest) = _
      rw [List.lookup_cons, List.lookup_cons, ih]
      split <;> rfl

/-- Entries under distinct known names are all found. -/
theorem gives_knownFields {names : List String} {scope : Scope} {fields : Json.Fields}
    (hknown : ∀ key ∈ fields.map Prod.fst, key ∈ names) (hdistinct : (fields.map Prod.fst).Nodup) :
    Gives (knownFields names scope (Json.toEntries fields)) (documents fields) := by
  induction fields with
  | nil => exact .pure []
  | cons field rest ih =>
      obtain ⟨key, item⟩ := field
      rw [List.map_cons, List.nodup_cons] at hdistinct
      have hmember : names.contains key = true :=
        List.contains_iff_mem.2 (hknown key List.mem_cons_self)
      have hfresh : (documents rest).lookup key = none := by
        rw [lookup_documents, Option.map_eq_none_iff, List.lookup_eq_none_iff]
        intro entry hentry
        rw [bne_iff_ne]
        rintro rfl
        exact hdistinct.1 (List.mem_map.2 ⟨entry, hentry, rfl⟩)
      have hrest := ih (fun k hk => hknown k (List.mem_cons_of_mem key hk)) hdistinct.2
      have hkey : Gives (text scope (.text key)) key := gives_leaf rfl rfl
      rw [Json.toEntries, knownFields]
      refine hkey.bind (hrest.bind ?_)
      rw [hmember, hfresh]
      exact .pure _

/-- The record has the fields, with room for what is in them. -/
def Holds (r : Record) (fields : Json.Fields) : Prop :=
  r.fields = documents fields ∧ Json.depthFields fields ≤ r.scope.depth

section Fields

variable {r : Record} {fields : Json.Fields} {item : α → Json} {decode : Decoder α} {key : String}

theorem Holds.lookup (h : Holds r fields) {j : Json} (hkey : fields.lookup key = some j) :
    r.fields.lookup key = some j.toDocument ∧ j.depth ≤ r.scope.depth := by
  refine ⟨?_, Nat.le_trans (Json.depth_le_of_lookup hkey) h.2⟩
  rw [h.1, lookup_documents, hkey]
  rfl

theorem Holds.required {a : α} (h : Holds r fields) (ha : Reads item decode a)
    (hkey : fields.lookup key = some (item a)) : Gives (r.required key decode) a := by
  obtain ⟨hfound, hroom⟩ := h.lookup hkey
  unfold Record.required
  rw [hfound]
  exact ha.read _ hroom

theorem Holds.defaulted {a otherwise : α} (h : Holds r fields)
    (ha : Reads item decode a) (hkey : fields.lookup key = some (item a)) :
    Gives (r.defaulted key decode otherwise) a := by
  obtain ⟨hfound, hroom⟩ := h.lookup hkey
  unfold Record.defaulted
  rw [hfound]
  exact ha.read _ hroom

theorem Holds.optional {a : Option α} (h : Holds r fields)
    (ha : ∀ b ∈ a, Reads item decode b) (hkey : fields.lookup key = some (Json.optional item a)) :
    Gives (r.optional key decode) a := by
  obtain ⟨hfound, hroom⟩ := h.lookup hkey
  unfold Record.optional
  rw [hfound]
  exact gives_optional ha hroom

end Fields

/-- A record is read when it is built from its fields. -/
theorem reads_record {item : α → Json} {names : List String} {build : Record → Decoding α} {a : α}
    {fields : Json.Fields} (hitem : item a = .object fields) (hnames : fields.map Prod.fst = names)
    (hdistinct : names.Nodup) (hbuild : ∀ r, Holds r fields → Gives (build r) a) :
    Reads item (record names build) a := by
  refine ⟨fun h => (nomatch hitem.symm.trans h), fun scope hdepth left => ?_⟩
  rw [hitem] at hdepth ⊢
  obtain ⟨inner, hinner, hroom⟩ := inner?_of_lt hdepth
  have hfields : Gives (knownFields names scope (Json.toEntries fields)) (documents fields) :=
    gives_knownFields (fun key hkey => hnames ▸ hkey) (hnames ▸ hdistinct)
  have hrecord : Gives (do build ⟨inner, ← knownFields names scope (Json.toEntries fields)⟩) a :=
    hfields.bind (f := fun found => build ⟨inner, found⟩) (hbuild _ ⟨rfl, hroom⟩)
  rw [← hrecord left]
  show (do build ⟨← (scope.inner? : Option Scope),
    ← knownFields names scope (Json.toEntries fields)⟩ : Decoding α) left = _
  rw [hinner]
  rfl

/-! ## Bags of attributes -/

theorem reads_attributes (a : Attributes) : Reads Attributes.toJson Attributes.decode a := by
  refine ⟨nofun, fun scope hdepth left => ?_⟩
  have hfields : Attributes.ofFields a.fields = a :=
    Attributes.ext_fields (Json.normalizeFields_of_normal a.fields [] a.normal.1 a.normal.2)
  unfold Attributes.decode
  rw [Json.ofDocument?_toDocument _ _ hdepth]
  simp only [Attributes.toJson, hfields]
  rfl

/-! ## What decoders always give -/

/-- Whatever the decoding gives has the property. -/
def Always (x : Decoding α) (P : α → Prop) : Prop :=
  ∀ left a left', x left = some (a, left') → P a

section Always

variable {P : α → Prop} {Q : β → Prop} {names : List String} {key : String} {decode : Decoder α}

theorem Always.pure {a : α} (h : P a) : Always (pure a) P := by
  intro left b left' hb
  cases hb
  exact h

theorem Always.failure : Always failure P := nofun

theorem Always.bind {x : Decoding β} {f : β → Decoding α} (hx : Always x Q)
    (hf : ∀ b, Q b → Always (f b) P) : Always (x >>= f) P := by
  intro left a left' ha
  obtain ⟨⟨b, between⟩, hb, ha⟩ := Option.bind_eq_some_iff.1 ha
  exact hf b (hx left b between hb) between a left' ha

/-- What a first part gives does not matter. -/
theorem Always.skip {x : Decoding β} {f : β → Decoding α} (hf : ∀ b, Always (f b) P) :
    Always (x >>= f) P :=
  Always.bind (Q := fun _ => True) (fun _ _ _ _ => trivial) fun b _ => hf b

theorem always_int32 (scope : Scope) (d : Document) : Always (int32 scope d) IsInt32 := by
  refine .skip fun found left n left' hn => ?_
  obtain ⟨m, hm, hn⟩ := Option.bind_eq_some_iff.1 hn
  cases hn
  obtain ⟨_, hbounds⟩ := Option.filter_eq_some_iff.1 hm
  rw [Bool.and_eq_true, decide_eq_true_eq, decide_eq_true_eq] at hbounds
  exact ⟨hbounds.1, Int.lt_of_le_sub_one hbounds.2⟩

theorem always_all (h : ∀ scope d, Always (decode scope d) P) (scope : Scope)
    (ds : List Document) : Always (all decode scope ds) (fun as => ∀ a ∈ as, P a) := by
  induction ds with
  | nil => exact .pure nofun
  | cons d ds ih =>
      exact (h scope d).bind fun a ha => ih.bind fun as has =>
        .pure (List.forall_mem_cons.2 ⟨ha, has⟩)

theorem always_list (h : ∀ scope d, Always (decode scope d) P) (scope : Scope) (d : Document) :
    Always (list decode scope d) (fun as => ∀ a ∈ as, P a) := by
  refine .skip fun found => ?_
  split
  · exact .skip fun inner => always_all h inner _
  · split
    · exact .pure nofun
    · exact .failure
  · exact .failure

theorem always_optional (h : ∀ scope d, Always (decode scope d) P) (scope : Scope) (d : Document) :
    Always (optional decode scope d) (fun a => ∀ b ∈ a, P b) := by
  refine .skip fun found => ?_
  have hrest : ∀ isNothing : Bool, Always
      (if isNothing = true then Pure.pure none else do return some (← decode scope found))
      (fun a => ∀ b ∈ a, P b) := by
    intro isNothing
    split
    · exact .pure nofun
    · exact (h _ _).bind fun a ha => .pure fun b hb => Option.some.inj hb ▸ ha
  dsimp only
  split <;> exact .skip hrest

theorem always_record {build : Record → Decoding α} (h : ∀ r, Always (build r) P) (scope : Scope)
    (d : Document) : Always (record names build scope d) P := by
  refine .skip fun found => ?_
  split
  · exact .skip fun inner => .skip fun fields => h _
  · split
    · exact .skip fun inner => h _
    · exact .failure
  · split
    · exact h _
    · exact .failure
  · exact .failure

theorem Record.always_required (r : Record) (h : ∀ scope d, Always (decode scope d) P) :
    Always (r.required key decode) P := by
  unfold required
  split
  · exact .failure
  · exact h _ _

theorem Record.always_optional (r : Record) (h : ∀ scope d, Always (decode scope d) P) :
    Always (r.optional key decode) (fun a => ∀ b ∈ a, P b) := by
  unfold Record.optional
  split
  · exact .pure nofun
  · exact Decode.always_optional h _ _

end Always

end SchemaModel.Decode
