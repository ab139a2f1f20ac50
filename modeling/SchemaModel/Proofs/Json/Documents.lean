import SchemaModel.Json.Basic

/-!
# `SchemaModel.Proofs.Json.Documents` — the document of a value means the value

## Contents
- `depth`: how deep lists and objects nest in a value.
- `ofDocument?_toDocument`: a value that does not nest too deep is found in its document.
- `normalize_of_normal`: a value in normal form stays as it is.
-/

namespace SchemaModel.Json

/-! ## Depth -/

mutual

/-- How deep lists and objects nest. -/
def depth : Json → Nat
  | .array items => depthAll items + 1
  | .object fields => depthFields fields + 1
  | _ => 0

/-- How deep the values of a list nest. -/
def depthAll : List Json → Nat
  | [] => 0
  | item :: rest => max (depth item) (depthAll rest)

/-- How deep the values of entries nest. -/
def depthFields : List (String × Json) → Nat
  | [] => 0
  | (_, item) :: rest => max (depth item) (depthFields rest)

end

theorem depth_le_of_lookup {fields : Fields} {key : String} {item : Json}
    (h : fields.lookup key = some item) : item.depth ≤ depthFields fields := by
  induction fields with
  | nil => cases h
  | cons field rest ih =>
      obtain ⟨k, v⟩ := field
      rw [List.lookup_cons] at h
      split at h
      · cases h
        exact Nat.le_max_left _ _
      · exact Nat.le_trans (ih h) (Nat.le_max_right _ _)

/-! ## Documents -/

mutual

/-- The document of a value means the value where it may nest as deep. -/
theorem ofDocument?_toDocument : (j : Json) → (room : Nat) → j.depth ≤ room →
    ofDocument? room j.toDocument = some j
  | .null, _, _ => rfl
  | .bool _, _, _ => rfl
  | .number _, _, _ => rfl
  | .string _, _, _ => rfl
  | .array items, room, h => by
    have hroom : room ≠ 0 := Nat.ne_of_gt (Nat.lt_of_lt_of_le (Nat.succ_pos _) h)
    rw [toDocument, ofDocument?, if_neg hroom,
      ofDocuments?_toDocuments items (room - 1) (Nat.le_sub_one_of_lt h)]
    rfl
  | .object fields, room, h => by
    have hroom : room ≠ 0 := Nat.ne_of_gt (Nat.lt_of_lt_of_le (Nat.succ_pos _) h)
    rw [toDocument, ofDocument?, if_neg hroom,
      ofEntries?_toEntries fields (room - 1) (Nat.le_sub_one_of_lt h)]
    rfl

theorem ofDocuments?_toDocuments : (items : List Json) → (room : Nat) → depthAll items ≤ room →
    ofDocuments? room (toDocuments items) = some items
  | [], _, _ => rfl
  | item :: rest, room, h => by
    obtain ⟨hitem, hrest⟩ := Nat.max_le.1 h
    rw [toDocuments, ofDocuments?, ofDocument?_toDocument item room hitem,
      ofDocuments?_toDocuments rest room hrest]

theorem ofEntries?_toEntries : (fields : List (String × Json)) → (room : Nat) →
    depthFields fields ≤ room → ofEntries? room (toEntries fields) = some fields
  | [], _, _ => rfl
  | (key, item) :: rest, room, h => by
    obtain ⟨hitem, hrest⟩ := Nat.max_le.1 h
    rw [toEntries, ofEntries?, ofDocument?_toDocument item room hitem,
      ofEntries?_toEntries rest room hrest]

end

/-! ## The normal form -/

/-- A key that is greater than all others goes behind them. -/
theorem Fields.insert_last {key : String} {item : Json} {fields : Fields}
    (h : ∀ k ∈ fields.map Prod.fst, k < key) :
    Fields.insert key item fields = fields ++ [(key, item)] := by
  induction fields with
  | nil => rfl
  | cons field rest ih =>
      obtain ⟨k, v⟩ := field
      have hk : k < key := h k List.mem_cons_self
      have hafter : ¬key < k := fun hlt => String.lt_irrefl k (String.lt_trans hk hlt)
      have hne : ¬key = k := fun heq => String.lt_irrefl k (heq ▸ hk)
      rw [Fields.insert, if_neg hafter, if_neg hne,
        ih fun k' hk' => h k' (List.mem_cons_of_mem k hk'), List.cons_append]

mutual

/-- A value in normal form stays as it is. -/
theorem normalize_of_normal : (j : Json) → Normal j → normalize j = j
  | .null, _ => rfl
  | .bool _, _ => rfl
  | .number _, _ => rfl
  | .string _, _ => rfl
  | .array items, h => congrArg Json.array (normalizeAll_of_normal items h)
  | .object fields, h => congrArg Json.object (normalizeFields_of_normal fields [] h.1 h.2)

theorem normalizeAll_of_normal : (items : List Json) → AllNormal items → normalizeAll items = items
  | [], _ => rfl
  | item :: rest, h => by
    rw [normalizeAll, normalize_of_normal item h.1, normalizeAll_of_normal rest h.2]

theorem normalizeFields_of_normal : (fields : List (String × Json)) → (done : Fields) →
    Fields.Ordered (done ++ fields) → FieldsNormal fields →
    normalizeFields done fields = done ++ fields
  | [], done, _, _ => (List.append_nil done).symm
  | (key, item) :: rest, done, ho, hn => by
    have hbefore : ∀ k ∈ done.map Prod.fst, k < key := by
      unfold Fields.Ordered at ho
      rw [List.map_append, List.pairwise_append] at ho
      exact fun k hk => ho.2.2 k hk key List.mem_cons_self
    have hassoc : done ++ (key, item) :: rest = done ++ [(key, item)] ++ rest := by
      rw [List.append_assoc, List.singleton_append]
    rw [normalizeFields, normalize_of_normal item hn.1, Fields.insert_last hbefore, hassoc,
      normalizeFields_of_normal rest _ (hassoc ▸ ho) hn.2]

end

end SchemaModel.Json
