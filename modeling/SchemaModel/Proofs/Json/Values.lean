import SchemaModel.Proofs.Json.Lexemes

/-!
# `SchemaModel.Proofs.Json.Values` — JSON texts are read as written

## Contents
- `HasWholeNumbers`: every number inside a value is an integer of at most 64 bits.
- **Steps.** What `value`, `elements` and `members` do with what stands in front: `value_congr` and
  its like pass over space, `value_list`, `elements_more` and the others take one part off.
- `value_pretty`: an indented text is read as the value that was written, with what stands behind
  it left over. `read?_pretty`: so is a whole text.
-/

namespace SchemaModel.Json

/-! ## Values of whole numbers -/

mutual

/-- Every number inside the value is an integer of at most 64 bits. -/
def HasWholeNumbers : Json → Prop
  | .number n => n.Whole
  | .array items => AllWholeNumbers items
  | .object fields => FieldsWholeNumbers fields
  | _ => True

/-- Every number inside values of a list is one. -/
def AllWholeNumbers : List Json → Prop
  | [] => True
  | item :: rest => HasWholeNumbers item ∧ AllWholeNumbers rest

/-- Every number inside values of entries is one. -/
def FieldsWholeNumbers : List (String × Json) → Prop
  | [] => True
  | (_, item) :: rest => HasWholeNumbers item ∧ FieldsWholeNumbers rest

end

instance (n : Number) : Decidable n.Whole :=
  match n with
  | .int _ => inferInstanceAs (Decidable (_ ∧ _))
  | .double _ => inferInstanceAs (Decidable False)

mutual

/-- Whether every number inside the value is one of at most 64 bits. -/
def decideWholeNumbers : (j : Json) → Decidable (HasWholeNumbers j)
  | .null => .isTrue trivial
  | .bool _ => .isTrue trivial
  | .number n => inferInstanceAs (Decidable n.Whole)
  | .string _ => .isTrue trivial
  | .array items => decideAllWholeNumbers items
  | .object fields => decideFieldsWholeNumbers fields

/-- The same for the values of a list. -/
def decideAllWholeNumbers : (items : List Json) → Decidable (AllWholeNumbers items)
  | [] => .isTrue trivial
  | item :: rest => @instDecidableAnd _ _ (decideWholeNumbers item) (decideAllWholeNumbers rest)

/-- The same for the values of entries. -/
def decideFieldsWholeNumbers :
    (fields : List (String × Json)) → Decidable (FieldsWholeNumbers fields)
  | [] => .isTrue trivial
  | (_, item) :: rest =>
    @instDecidableAnd _ _ (decideWholeNumbers item) (decideFieldsWholeNumbers rest)

end

instance (j : Json) : Decidable j.HasWholeNumbers := decideWholeNumbers j

/-! ## Steps of the reader -/

section Steps

variable {fuel : Nat} {cs rest tail : List Char} {d : Document}

theorem skipSpace_newline (level : Nat) (cs : List Char) :
    skipSpace (newline level ++ cs) = skipSpace cs := by
  refine List.dropWhile_append_of_pos fun c hc => ?_
  rcases List.mem_cons.1 hc with rfl | hc
  · rfl
  · rw [List.eq_of_mem_replicate hc]
    rfl

theorem value_congr {cs' : List Char} (h : skipSpace cs = skipSpace cs') :
    value fuel cs = value fuel cs' := by
  cases fuel with
  | zero => rfl
  | succ fuel => rw [value, value, h]

theorem elements_congr {cs' : List Char} (h : skipSpace cs = skipSpace cs') :
    elements fuel cs = elements fuel cs' := by
  cases fuel with
  | zero => rfl
  | succ fuel => rw [elements, elements, value_congr h]

theorem members_congr {cs' : List Char} (h : skipSpace cs = skipSpace cs') :
    members fuel cs = members fuel cs' := by
  cases fuel with
  | zero => rfl
  | succ fuel => rw [members, members, h]

theorem value_space (h : value fuel cs = some (d, rest)) :
    value fuel (' ' :: cs) = some (d, rest) :=
  have hspace : skipSpace (' ' :: cs) = skipSpace cs := rfl
  (value_congr hspace).trans h

theorem value_word (h : word? cs = some (d, rest)) : value (fuel + 1) cs = some (d, rest) := by
  unfold word? at h
  split at h <;> cases h <;> rfl

/-- A number starts with none of the characters that other values start with. -/
theorem value_number {c : Char} (h : Decimal.isDigit c = true ∨ c = '-') (cs : List Char) :
    value (fuel + 1) (c :: cs) =
      (Literal.read? (c :: cs)).map fun (l, rest) => (.number l.number?, rest) := by
  have hne : ∀ other, Decimal.isDigit other = false → other ≠ '-' → c ≠ other := by
    rintro _ hdigit hminus rfl
    rcases h with h | h
    · exact absurd h (Bool.eq_false_iff.1 hdigit)
    · exact hminus h
  have hspace : skipSpace (c :: cs) = c :: cs := by
    refine List.dropWhile_cons_of_neg ?_
    simp [isSpace, hne ' ' rfl, hne '\n' rfl, hne '\t' rfl, hne '\r' rfl]
  have hword : word? (c :: cs) = none := by
    unfold word?
    split
    case h_1 heq => exact absurd (List.cons.inj heq).1 (hne 'n' rfl (by decide))
    case h_2 heq => exact absurd (List.cons.inj heq).1 (hne 't' rfl (by decide))
    case h_3 heq => exact absurd (List.cons.inj heq).1 (hne 'f' rfl (by decide))
    case h_4 => rfl
  rw [value, hspace]
  split
  case h_1 heq => exact absurd (List.cons.inj heq).1 (hne '"' rfl (by decide))
  case h_2 heq => exact absurd (List.cons.inj heq).1 (hne '[' rfl (by decide))
  case h_3 heq => exact absurd (List.cons.inj heq).1 (hne '\x7b' rfl (by decide))
  case h_4 => rw [hword]

theorem value_string (s : String) :
    value (fuel + 1) (quoted s ++ rest) = some (.text s, rest) := by
  rw [quoted, List.append_assoc]
  exact Text.read?_quoted s rest

/-- A list with something in it is read as its elements. -/
theorem value_list (h : (skipSpace cs).head? ≠ some ']') :
    value (fuel + 1) ('[' :: cs) =
      (elements fuel cs).map fun (items, tail) => (.list items, tail) := by
  have hopen : skipSpace ('[' :: cs) = '[' :: cs := rfl
  rw [value]
  simp only [hopen]
  split
  case h_1 hclose => exact absurd (congrArg List.head? hclose) h
  case h_2 => rfl

/-- An object with something in it is read as its members. -/
theorem value_object (h : (skipSpace cs).head? ≠ some '\x7d') :
    value (fuel + 1) ('\x7b' :: cs) =
      (members fuel cs).map fun (fields, tail) => (.entries fields, tail) := by
  have hopen : skipSpace ('\x7b' :: cs) = '\x7b' :: cs := rfl
  rw [value]
  simp only [hopen]
  split
  case h_1 hclose => exact absurd (congrArg List.head? hclose) h
  case h_2 => rfl

theorem elements_last (h : value fuel cs = some (d, rest)) (hrest : skipSpace rest = ']' :: tail) :
    elements (fuel + 1) cs = some ([d], tail) := by
  rw [elements, h]
  simp only [hrest]

theorem elements_more (h : value fuel cs = some (d, ',' :: rest)) :
    elements (fuel + 1) cs = (elements fuel rest).map fun (items, tail) => (d :: items, tail) := by
  rw [elements, h]
  rfl

/-- A key in quotes and a colon are passed over to the value behind them. -/
theorem members_key (key : String) :
    members (fuel + 1) (quoted key ++ ':' :: cs) =
      match value fuel cs with
      | none => none
      | some (item, rest) =>
        match skipSpace rest with
        | ',' :: rest =>
          (members fuel rest).map fun (fields, tail) => ((.text key, item) :: fields, tail)
        | '\x7d' :: tail => some ([(.text key, item)], tail)
        | _ => none := by
  have hopen : skipSpace (quoted key ++ ':' :: cs) = quoted key ++ ':' :: cs := rfl
  have hkey : Text.read? (key.toList.flatMap escape ++ ['"'] ++ ':' :: cs) =
      some (.text key, ':' :: cs) := by
    rw [List.append_assoc]
    exact Text.read?_quoted key _
  rw [members, hopen, quoted, List.cons_append]
  simp only [List.cons_append, hkey]
  rfl

theorem members_last (key : String) (h : value fuel cs = some (d, rest))
    (hrest : skipSpace rest = '\x7d' :: tail) :
    members (fuel + 1) (quoted key ++ ':' :: cs) = some ([(.text key, d)], tail) := by
  rw [members_key, h]
  simp only [hrest]

theorem members_more (key : String) (h : value fuel cs = some (d, ',' :: rest)) :
    members (fuel + 1) (quoted key ++ ':' :: cs) =
      (members fuel rest).map fun (fields, tail) => ((.text key, d) :: fields, tail) := by
  rw [members_key, h]
  rfl

end Steps

/-! ## Texts -/

/-- Space, commas and closing brackets end a number. -/
theorem ends_cons {c : Char} (h : Decimal.isDigit c = false ∧ c ∉ ['.', 'e', 'E'])
    (rest : List Char) : Literal.Ends (c :: rest) := by
  intro d hd
  cases hd
  exact h

theorem ends_newline (level : Nat) (rest : List Char) : Literal.Ends (newline level ++ rest) :=
  ends_cons (by decide) _

/-- The text of an integer starts with a digit or a minus sign. -/
theorem signedNumeral_head (n : Int) :
    ∃ c cs, Decimal.signedNumeral n = c :: cs ∧ (Decimal.isDigit c = true ∨ c = '-') := by
  unfold Decimal.signedNumeral
  split
  · exact ⟨'-', _, rfl, Or.inr rfl⟩
  · obtain ⟨c, cs, hcs⟩ := List.exists_cons_of_ne_nil (Decimal.numeral_ne_nil n.natAbs)
    exact ⟨c, cs, hcs, Or.inl (Decimal.isDigit_of_mem_numeral (hcs ▸ List.mem_cons_self))⟩

/-- The text of a value starts with neither space nor a closing bracket. -/
theorem pretty_head {j : Json} (h : HasWholeNumbers j) (level : Nat) :
    ∃ c cs, prettyChars level j = c :: cs ∧ isSpace c = false ∧ c ≠ ']' := by
  match j, h with
  | .null, _ => exact ⟨'n', _, rfl, rfl, by decide⟩
  | .bool true, _ => exact ⟨'t', _, rfl, rfl, by decide⟩
  | .bool false, _ => exact ⟨'f', _, rfl, rfl, by decide⟩
  | .number (.int n), _ =>
      obtain ⟨c, cs, hcs, hc⟩ := signedNumeral_head n
      have htext : prettyChars level (.number (.int n)) = c :: cs := by
        rw [prettyChars, Number.render, Decimal.signedText, String.toList_ofList, hcs]
      rcases hc with hc | rfl
      · refine ⟨c, cs, htext, ?_, ?_⟩
        · rw [Bool.eq_false_iff]
          intro hspace
          simp only [isSpace, Bool.or_eq_true, beq_iff_eq] at hspace
          rcases hspace with ((rfl | rfl) | rfl) | rfl <;> cases hc
        · rintro rfl
          cases hc
      · exact ⟨'-', cs, htext, rfl, by decide⟩
  | .string s, _ => exact ⟨'"', _, rfl, rfl, by decide⟩
  | .array [], _ => exact ⟨'[', _, rfl, rfl, by decide⟩
  | .array (_ :: _), _ => exact ⟨'[', _, rfl, rfl, by decide⟩
  | .object [], _ => exact ⟨'\x7b', _, rfl, rfl, by decide⟩
  | .object (_ :: _), _ => exact ⟨'\x7b', _, rfl, rfl, by decide⟩

/-- An integer of at most 64 bits is read with what stands behind it left over. -/
theorem value_int {n : Int} (h : Number.Whole (.int n)) {rest : List Char}
    (hrest : Literal.Ends rest) (fuel : Nat) :
    value (fuel + 1) (Decimal.signedNumeral n ++ rest) =
      some (.number (some (.int n)), rest) := by
  obtain ⟨c, cs, hcs, hc⟩ := signedNumeral_head n
  have hread := Literal.read?_signedNumeral n hrest
  rw [hcs, List.cons_append] at hread ⊢
  rw [value_number hc, hread, Option.map_some]
  simp only [Literal.number?_ofInt h]

/-- An indented list is read once its elements are. -/
theorem value_array {item : Json} {items : List Json} (hitem : HasWholeNumbers item)
    {level fuel : Nat} {rest : List Char} {ds : List Document}
    (h : elements fuel (prettyItems (level + 1) (item :: items) ++ newline level ++ ']' :: rest) =
      some (ds, rest)) :
    value (fuel + 1) (prettyChars level (.array (item :: items)) ++ rest) =
      some (.list ds, rest) := by
  have htext : prettyChars level (.array (item :: items)) ++ rest =
      '[' :: (newline (level + 1) ++
        (prettyItems (level + 1) (item :: items) ++ newline level ++ ']' :: rest)) := by
    simp [prettyChars]
  have hstart : ∃ more, prettyItems (level + 1) (item :: items) =
      prettyChars (level + 1) item ++ more := by
    cases items with
    | nil => exact ⟨[], (List.append_nil _).symm⟩
    | cons next items => exact ⟨_, List.append_assoc ..⟩
  obtain ⟨more, hmore⟩ := hstart
  obtain ⟨c, cs, hcs, hspace, hclose⟩ := pretty_head hitem (level + 1)
  rw [htext, value_list, elements_congr (skipSpace_newline _ _), h]
  · rfl
  · rw [skipSpace_newline, hmore, hcs]
    intro hhead
    have hcons : skipSpace (c :: (cs ++ more ++ newline level ++ ']' :: rest)) =
        c :: (cs ++ more ++ newline level ++ ']' :: rest) :=
      List.dropWhile_cons_of_neg (Bool.eq_false_iff.1 hspace)
    simp only [List.cons_append] at hhead
    rw [hcons] at hhead
    exact hclose (Option.some.inj hhead)

/-- An indented object is read once its members are. -/
theorem value_fields {field : String × Json} {fields : List (String × Json)}
    {level fuel : Nat} {rest : List Char} {ds : List (Document × Document)}
    (h : members fuel
      (prettyFields (level + 1) (field :: fields) ++ newline level ++ '\x7d' :: rest) =
      some (ds, rest)) :
    value (fuel + 1) (prettyChars level (.object (field :: fields)) ++ rest) =
      some (.entries ds, rest) := by
  have htext : prettyChars level (.object (field :: fields)) ++ rest =
      '\x7b' :: (newline (level + 1) ++
        (prettyFields (level + 1) (field :: fields) ++ newline level ++ '\x7d' :: rest)) := by
    simp [prettyChars]
  have hstart : ∃ more, prettyFields (level + 1) (field :: fields) = '"' :: more := by
    cases fields <;> exact ⟨_, rfl⟩
  obtain ⟨more, hmore⟩ := hstart
  rw [htext, value_object, members_congr (skipSpace_newline _ _), h]
  · rfl
  · rw [skipSpace_newline, hmore]
    intro hhead
    cases hhead

mutual

/-- The indented text of a value is read as the value, with what stands behind it left over. -/
theorem value_pretty : (j : Json) → (level fuel : Nat) → (rest : List Char) → HasWholeNumbers j →
    (prettyChars level j).length ≤ fuel → Literal.Ends rest →
    value (fuel + 1) (prettyChars level j ++ rest) = some (toDocument j, rest)
  | .null, _, _, _, _, _, _ => value_word rfl
  | .bool true, _, _, _, _, _, _ => value_word rfl
  | .bool false, _, _, _, _, _, _ => value_word rfl
  | .number (.int n), level, fuel, rest, hwhole, _, hrest => by
    rw [prettyChars, Number.render, Decimal.signedText, String.toList_ofList]
    exact value_int hwhole hrest fuel
  | .string s, _, _, _, _, _, _ => value_string s
  | .array [], _, _, _, _, _, _ => rfl
  | .array (item :: items), level, fuel, rest, hwhole, hfuel, _ => by
    have hlength : (prettyItems (level + 1) (item :: items)).length + 2 ≤ fuel := by
      simp only [prettyChars, newline, List.length_append, List.length_cons] at hfuel
      omega
    obtain ⟨fuel, rfl⟩ := Nat.exists_eq_add_of_le' (Nat.le_of_add_left_le hlength)
    exact value_array hwhole.1 (elements_pretty (item :: items) (level + 1) level fuel rest
      (List.cons_ne_nil _ _) hwhole (Nat.le_of_add_le_add_right hlength))
  | .object [], _, _, _, _, _, _ => rfl
  | .object (field :: fields), level, fuel, rest, hwhole, hfuel, _ => by
    have hlength : (prettyFields (level + 1) (field :: fields)).length + 1 ≤ fuel := by
      simp only [prettyChars, newline, List.length_append, List.length_cons] at hfuel
      omega
    obtain ⟨fuel, rfl⟩ := Nat.exists_eq_add_of_le' (Nat.le_of_add_left_le hlength)
    exact value_fields (members_pretty (field :: fields) (level + 1) level fuel rest
      (List.cons_ne_nil _ _) hwhole (Nat.le_of_add_le_add_right hlength))

/-- The elements of a list are read up to its closing bracket. -/
theorem elements_pretty : (items : List Json) → (level outer fuel : Nat) → (tail : List Char) →
    items ≠ [] → AllWholeNumbers items → (prettyItems level items).length ≤ fuel →
    elements (fuel + 2) (prettyItems level items ++ newline outer ++ ']' :: tail) =
      some (toDocuments items, tail)
  | [], _, _, _, _, hne, _, _ => absurd rfl hne
  | [item], level, outer, fuel, tail, _, hwhole, hfuel => by
    rw [prettyItems, List.append_assoc]
    exact elements_last (value_pretty item level fuel _ hwhole.1 hfuel (ends_newline outer _))
      (skipSpace_newline outer _)
  | item :: next :: items, level, outer, fuel, tail, _, hwhole, hfuel => by
    have htext : prettyItems level (item :: next :: items) ++ newline outer ++ ']' :: tail =
        prettyChars level item ++ ',' :: (newline level ++
          (prettyItems level (next :: items) ++ newline outer ++ ']' :: tail)) := by
      simp [prettyItems]
    have hlength : (prettyChars level item).length ≤ fuel ∧
        (prettyItems level (next :: items)).length + 1 ≤ fuel := by
      simp only [prettyItems, newline, List.length_append, List.length_cons] at hfuel ⊢
      omega
    have hitem := value_pretty item level fuel
      (',' ::
        (newline level ++ (prettyItems level (next :: items) ++ newline outer ++ ']' :: tail)))
      hwhole.1 hlength.1 (ends_cons (by decide) _)
    obtain ⟨fuel, rfl⟩ := Nat.exists_eq_add_of_le' (Nat.le_of_add_left_le hlength.2)
    rw [htext, elements_more hitem, elements_congr (skipSpace_newline _ _),
      elements_pretty (next :: items) level outer fuel tail (List.cons_ne_nil _ _) hwhole.2
        (Nat.le_of_add_le_add_right hlength.2)]
    rfl

/-- The members of an object are read up to its closing brace. -/
theorem members_pretty : (fields : List (String × Json)) → (level outer fuel : Nat) →
    (tail : List Char) → fields ≠ [] → FieldsWholeNumbers fields →
    (prettyFields level fields).length ≤ fuel →
    members (fuel + 1) (prettyFields level fields ++ newline outer ++ '\x7d' :: tail) =
      some (toEntries fields, tail)
  | [], _, _, _, _, hne, _, _ => absurd rfl hne
  | [(key, item)], level, outer, fuel, tail, _, hwhole, hfuel => by
    have htext : prettyFields level [(key, item)] ++ newline outer ++ '\x7d' :: tail =
        quoted key ++ ':' :: (' ' :: (prettyChars level item ++
          (newline outer ++ '\x7d' :: tail))) := by
      simp [prettyFields]
    have hlength : (prettyChars level item).length + 1 ≤ fuel := by
      simp only [prettyFields, List.length_append, List.length_cons] at hfuel
      omega
    obtain ⟨fuel, rfl⟩ := Nat.exists_eq_add_of_le' (Nat.le_of_add_left_le hlength)
    have hitem := value_pretty item level fuel (newline outer ++ '\x7d' :: tail) hwhole.1
      (Nat.le_of_add_le_add_right hlength) (ends_newline outer _)
    rw [htext]
    exact members_last key (value_space hitem) (skipSpace_newline outer _)
  | (key, item) :: next :: fields, level, outer, fuel, tail, _, hwhole, hfuel => by
    have htext : prettyFields level ((key, item) :: next :: fields) ++ newline outer ++
          '\x7d' :: tail =
        quoted key ++ ':' :: (' ' :: (prettyChars level item ++ ',' :: (newline level ++
          (prettyFields level (next :: fields) ++ newline outer ++ '\x7d' :: tail)))) := by
      simp [prettyFields]
    have hlength : (prettyChars level item).length + 1 ≤ fuel ∧
        (prettyFields level (next :: fields)).length + 1 ≤ fuel := by
      simp only [prettyFields, newline, List.length_append, List.length_cons] at hfuel ⊢
      omega
    obtain ⟨fuel, rfl⟩ := Nat.exists_eq_add_of_le' (Nat.le_of_add_left_le hlength.1)
    have hitem := value_pretty item level fuel (',' :: (newline level ++
        (prettyFields level (next :: fields) ++ newline outer ++ '\x7d' :: tail))) hwhole.1
      (Nat.le_of_add_le_add_right hlength.1) (ends_cons (by decide) _)
    rw [htext, members_more key (value_space hitem), members_congr (skipSpace_newline _ _),
      members_pretty (next :: fields) level outer fuel tail (List.cons_ne_nil _ _) hwhole.2
        (Nat.le_of_add_le_add_right hlength.2)]
    rfl

end

/-- The text of a value is read as the value. -/
theorem read?_pretty {j : Json} (h : HasWholeNumbers j) : read? j.pretty = some (toDocument j) := by
  have hvalue : value (2 * (prettyChars 0 j).length + 2) (prettyChars 0 j ++ []) =
      some (toDocument j, []) :=
    value_pretty j 0 _ [] h (by omega) nofun
  unfold read? pretty
  rw [String.toList_ofList]
  rw [List.append_nil] at hvalue
  simp only [hvalue]
  rfl

end SchemaModel.Json
