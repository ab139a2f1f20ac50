import SchemaModel.Document

/-!
# `SchemaModel.Json.Basic` — JSON values

JSON values, and the normal form in which the keys of every object are distinct and in the order
of their code points.

## Contents
- `Json`: the value type. An object is the list of its entries.
- `Json.Fields`: look-up and ordered insertion in a list of entries.
- `Json.Normal`: every object inside has increasing keys; `Json.normalize` reaches that form, the
  last of several entries with one key winning (`normal_normalize`).
- `Json.ofDocument?`: the value of a document, nested at most a given number of levels.
-/

namespace SchemaModel

/-- A JSON value. -/
inductive Json where
  | null
  | bool (value : Bool)
  | number (value : Json.Number)
  | string (value : String)
  | array (items : List Json)
  | object (fields : List (String × Json))
  deriving Inhabited

namespace Json

/-! ## Entries -/

/-- The entries of an object. -/
abbrev Fields := List (String × Json)

/-- The value under a key. -/
def Fields.get? (key : String) : Fields → Option Json
  | [] => none
  | (k, v) :: rest => if k = key then some v else get? key rest

/-- Puts a value under a key: in place of the old one, or before the first greater key. -/
def Fields.insert (key : String) (item : Json) : Fields → Fields
  | [] => [(key, item)]
  | (k, v) :: rest =>
    if key < k then (key, item) :: (k, v) :: rest
    else if key = k then (key, item) :: rest
    else (k, v) :: insert key item rest

/-- Puts one list of entries into another, from the front to the back. -/
def Fields.insertAll (base : Fields) (more : Fields) : Fields :=
  more.foldl (fun fields (key, item) => Fields.insert key item fields) base

/-- The keys stand in increasing order. -/
def Fields.Ordered (fields : Fields) : Prop := (fields.map Prod.fst).Pairwise (· < ·)

theorem Fields.get?_insert_self (key : String) (item : Json) (fields : Fields) :
    Fields.get? key (Fields.insert key item fields) = some item := by
  induction fields with
  | nil => simp [insert, get?]
  | cons entry rest ih =>
    obtain ⟨k, v⟩ := entry
    simp only [insert]
    split
    · simp [get?]
    · split
      · simp [get?]
      · rename_i h
        simp only [get?, if_neg (fun hk : k = key => h hk.symm), ih]

theorem Fields.get?_insert_of_ne {key other : String} (hne : other ≠ key) (item : Json)
    (fields : Fields) :
    Fields.get? other (Fields.insert key item fields) = Fields.get? other fields := by
  induction fields with
  | nil => simp [insert, get?, hne.symm]
  | cons entry rest ih =>
    obtain ⟨k, v⟩ := entry
    simp only [insert]
    split
    · simp [get?, hne.symm]
    · split
      · rename_i h
        subst h
        simp [get?, hne.symm]
      · simp only [get?, ih]

/-- Insertion adds no key but the one inserted. -/
theorem Fields.mem_keys_insert {key k : String} {item : Json} {fields : Fields}
    (h : k ∈ (Fields.insert key item fields).map Prod.fst) :
    k = key ∨ k ∈ fields.map Prod.fst := by
  induction fields with
  | nil => simpa [insert] using h
  | cons entry rest ih =>
    obtain ⟨k', v⟩ := entry
    simp only [insert] at h
    split at h
    · simpa using h
    · split at h <;> simp only [List.map_cons, List.mem_cons] at h ⊢ <;> grind

/-- Insertion keeps the keys in order. -/
theorem Fields.Ordered.insert {fields : Fields} (h : fields.Ordered) (key : String)
    (item : Json) : (Fields.insert key item fields).Ordered := by
  induction fields with
  | nil => simp [Ordered, Fields.insert]
  | cons entry rest ih =>
    obtain ⟨k, v⟩ := entry
    simp only [Ordered, List.map_cons, List.pairwise_cons] at h
    have ih := ih h.2
    simp only [Fields.insert]
    split
    · rename_i hlt
      simp only [Ordered, List.map_cons, List.pairwise_cons, List.mem_cons, forall_eq_or_imp]
      exact ⟨⟨hlt, fun k' hk' => String.lt_trans hlt (h.1 k' hk')⟩, h.1, h.2⟩
    · split
      · rename_i heq
        subst heq
        simpa [Ordered] using h
      · rename_i hlt hne
        simp only [Ordered, List.map_cons, List.pairwise_cons]
        refine ⟨fun k' hk' => ?_, ih⟩
        rcases mem_keys_insert hk' with rfl | hk'
        · grind
        · exact h.1 k' hk'

/-! ## The normal form -/

mutual

/-- Every object inside the value has increasing keys. -/
def Normal : Json → Prop
  | .array items => AllNormal items
  | .object fields => Fields.Ordered fields ∧ FieldsNormal fields
  | _ => True

/-- Every value of a list is normal. -/
def AllNormal : List Json → Prop
  | [] => True
  | item :: rest => Normal item ∧ AllNormal rest

/-- Every value of a list of entries is normal. -/
def FieldsNormal : List (String × Json) → Prop
  | [] => True
  | (_, item) :: rest => Normal item ∧ FieldsNormal rest

end

mutual

/-- The same value with the keys of every object in order, the last entry of a key winning. -/
def normalize : Json → Json
  | .array items => .array (normalizeAll items)
  | .object fields => .object (normalizeFields [] fields)
  | other => other

/-- The values of a list in normal form. -/
def normalizeAll : List Json → List Json
  | [] => []
  | item :: rest => normalize item :: normalizeAll rest

/-- Ordered entries with further ones put in, in normal form. -/
def normalizeFields (done : Fields) : List (String × Json) → Fields
  | [] => done
  | (key, item) :: rest => normalizeFields (Fields.insert key (normalize item) done) rest

end

theorem fieldsNormal_insert {key : String} {item : Json} {fields : Fields} (hi : Normal item)
    (hf : FieldsNormal fields) : FieldsNormal (Fields.insert key item fields) := by
  induction fields with
  | nil => simp [Fields.insert, FieldsNormal, hi]
  | cons entry rest ih =>
    obtain ⟨k, v⟩ := entry
    simp only [FieldsNormal] at hf
    simp only [Fields.insert]
    split
    · simp only [FieldsNormal]; exact ⟨hi, hf⟩
    · split
      · simp only [FieldsNormal]; exact ⟨hi, hf.2⟩
      · simp only [FieldsNormal]; exact ⟨hf.1, ih hf.2⟩

mutual

theorem normal_normalize : (j : Json) → Normal (normalize j)
  | .null => trivial
  | .bool _ => trivial
  | .number _ => trivial
  | .string _ => trivial
  | .array items => by
    simp only [normalize, Normal]
    exact allNormal_normalizeAll items
  | .object fields => by
    simp only [normalize, Normal]
    exact normal_normalizeFields fields [] List.Pairwise.nil trivial

theorem allNormal_normalizeAll : (items : List Json) → AllNormal (normalizeAll items)
  | [] => trivial
  | item :: rest => ⟨normal_normalize item, allNormal_normalizeAll rest⟩

theorem normal_normalizeFields : (fields : List (String × Json)) → (done : Fields) →
    Fields.Ordered done → FieldsNormal done →
    Fields.Ordered (normalizeFields done fields) ∧ FieldsNormal (normalizeFields done fields)
  | [], _, ho, hn => ⟨ho, hn⟩
  | (key, item) :: rest, _, ho, hn =>
    normal_normalizeFields rest _ (ho.insert key _)
      (fieldsNormal_insert (normal_normalize item) hn)

end

/-! ## Reading a document -/

mutual

/-- The value of a document that nests at most `depth` lists and objects. -/
def ofDocument? (depth : Nat) : Document → Option Json
  | .null => some .null
  | .bool b => some (.bool b)
  | .number value => value.map .number
  | .text s => some (.string s)
  | .scalar _ => none
  | .alias _ => none
  | .unreadable => none
  | .list items =>
    if depth = 0 then none else (ofDocuments? (depth - 1) items).map .array
  | .entries fields =>
    if depth = 0 then none else (ofEntries? (depth - 1) fields).map .object

/-- The values of a list of documents. -/
def ofDocuments? (depth : Nat) : List Document → Option (List Json)
  | [] => some []
  | d :: rest =>
    match ofDocument? depth d, ofDocuments? depth rest with
    | some item, some items => some (item :: items)
    | _, _ => none

/-- The values of entries whose keys are texts. -/
def ofEntries? (depth : Nat) : List (Document × Document) → Option (List (String × Json))
  | [] => some []
  | (.text key, d) :: rest =>
    match ofDocument? depth d, ofEntries? depth rest with
    | some item, some fields => some ((key, item) :: fields)
    | _, _ => none
  | _ :: _ => none

end

/-- Lists and objects nest at most this deep. -/
def depthLimit : Nat := 127

mutual

/-- The document that spells a value. -/
def toDocument : Json → Document
  | .null => .null
  | .bool b => .bool b
  | .number n => .number (some n)
  | .string s => .text s
  | .array items => .list (toDocuments items)
  | .object fields => .entries (toEntries fields)

/-- The documents that spell a list of values. -/
def toDocuments : List Json → List Document
  | [] => []
  | item :: rest => toDocument item :: toDocuments rest

/-- The entries that spell the fields of an object. -/
def toEntries : List (String × Json) → List (Document × Document)
  | [] => []
  | (key, item) :: rest => (.text key, toDocument item) :: toEntries rest

end

/-! ## Building values -/

/-- An integer. -/
def int (n : Int) : Json := .number (.int n)

/-- A value, or null. -/
def optional {α : Type} (item : α → Json) : Option α → Json
  | some a => item a
  | none => .null

/-- A list. -/
def list {α : Type} (item : α → Json) (items : List α) : Json := .array (items.map item)

/-! ## Views -/

/-- The text of a string value. -/
def asString? : Json → Option String
  | .string s => some s
  | _ => none

end Json

end SchemaModel
