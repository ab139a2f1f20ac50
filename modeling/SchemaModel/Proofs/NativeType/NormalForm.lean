import SchemaModel.NativeType
import SchemaModel.Proofs.Text.Lowering
import Mathlib.Data.List.Infix

/-!
# `SchemaModel.Proofs.NativeType.NormalForm` — the steps to the normal form of a type name

The normal form is found by position: a leading `setof` and the first pair of parentheses are looked
for in the characters that earlier steps left. Each step is described for a name with more text
behind it, since a tail and the brackets of an array must survive all of them.

## Contents
- `dropSetOf_cases`, `dropSetOf_append`: a leading `setof`. `not_setOf_append`: no such word comes
  about where a name and what follows meet.
- `dropModifier_modifier`, `dropModifier_append`: a modifier in parentheses.
- `normalizeChars_setOf`, `normalizeChars_modifier`: both are dropped from the normal form.
  `normalizeChars_append`: what stands behind a name stays behind its normal form.
-/

namespace SchemaModel.NativeType

open Text

/-! ## A leading `setof` -/

section SetOf

variable {cs ds : List Char}

theorem dropSetOf_eq_self (h : ¬ "setof ".toList <+: cs) : dropSetOf cs = cs := by
  unfold dropSetOf
  rw [after?_eq_none h]

theorem dropSetOf_setOf (cs : List Char) : dropSetOf ("setof ".toList ++ cs) = trim cs := by
  unfold dropSetOf
  rw [after?_append]

theorem dropSetOf_sublist (cs : List Char) : (dropSetOf cs).Sublist cs := by
  unfold dropSetOf
  cases hrest : after? "setof ".toList cs with
  | none => exact List.Sublist.refl cs
  | some rest =>
      rw [eq_append_of_after? hrest]
      exact (trim_sublist rest).trans (List.sublist_append_right _ rest)

/-- Text behind a name does not make it begin with `setof`, unless it goes on with a letter of the
word or ends the word. -/
theorem not_setOf_append (hcs : ¬ "setof ".toList <+: cs)
    (hhead : ∀ d ∈ ds.head?, d ∉ "setof".toList ∧ (cs = "setof".toList → d ≠ ' ')) :
    ¬ "setof ".toList <+: cs ++ ds := by
  intro hbegins
  have hbegun : ∀ front ∈ "setof ".toList.inits,
      ("setof ".toList.drop front.length).head?.all fun d =>
        d ∈ "setof".toList ∨ (front = "setof".toList ∧ d = ' ') := by decide
  rcases List.prefix_or_prefix_of_prefix hbegins (List.prefix_append cs ds) with hin | hin
  · exact hcs hin
  -- The name is the front of the word, and the text behind it must bring the letter that is next.
  · have hd := hbegun cs (List.mem_inits cs _ |>.2 hin)
    obtain ⟨rest, hrest⟩ := hin
    have hmissing : rest = "setof ".toList.drop cs.length := by rw [← hrest, List.drop_left]
    cases rest with
    | nil => exact hcs ⟨[], by rw [← hrest, List.append_nil, List.append_nil]⟩
    | cons d more =>
        rw [← hrest, List.prefix_append_right_inj] at hbegins
        obtain ⟨behind, hbehind⟩ := hbegins
        rw [← hmissing, List.head?_cons, Option.all_some, decide_eq_true_eq] at hd
        obtain ⟨hletter, hend⟩ := hhead d (by rw [← hbehind]; rfl)
        rcases hd with hd | ⟨hword, hd⟩
        · exact hletter hd
        · exact hend hword hd

/-- What a set holds is named behind the word. -/
theorem dropSetOf_cases (h : EndsSolid cs) :
    (¬ "setof ".toList <+: cs ∧ dropSetOf cs = cs) ∨
      ∃ rest, cs = "setof ".toList ++ rest ∧ EndsSolid rest ∧ dropSetOf cs = trim rest := by
  by_cases hbegins : "setof ".toList <+: cs
  · obtain ⟨rest, rfl⟩ := hbegins
    refine Or.inr ⟨rest, rfl, h.of_append ?_, dropSetOf_setOf rest⟩
    rintro rfl
    -- The word alone ends with its space.
    obtain ⟨front, c, heq, hc⟩ := h
    have hlast : some ' ' = some c := List.getLast?_eq_some_iff.2 ⟨front, heq⟩
    cases hlast
    exact absurd hc (by decide)
  · exact Or.inl ⟨hbegins, dropSetOf_eq_self hbegins⟩

theorem endsSolid_dropSetOf (h : EndsSolid cs) : EndsSolid (dropSetOf cs) := by
  rcases dropSetOf_cases h with ⟨_, heq⟩ | ⟨rest, _, hrest, heq⟩
  · rwa [heq]
  · rw [heq, trim_solid hrest]
    exact solid_trimLeft hrest

/-- What stands behind a name stays there when a leading `setof` is dropped. -/
theorem dropSetOf_append (h : EndsSolid cs) (hds : EndsSolid ds)
    (hhead : ∀ d ∈ ds.head?, d ∉ "setof ".toList) : dropSetOf (cs ++ ds) = dropSetOf cs ++ ds := by
  rcases dropSetOf_cases h with ⟨hnot, heq⟩ | ⟨rest, rfl, hrest, heq⟩
  · rw [heq, dropSetOf_eq_self (not_setOf_append hnot fun d hd => ⟨?_, ?_⟩)]
    · exact fun hin => hhead d hd (List.mem_append_left [' '] hin)
    · rintro _ rfl
      exact hhead ' ' hd (by decide)
  · rw [heq, List.append_assoc, dropSetOf_setOf, trim_solid_append hrest hds]

end SetOf

/-! ## A modifier in parentheses -/

section Modifier

variable {front inside tail back cs : List Char}

theorem beq_eq_false_of_notMem {d : Char} (h : d ∉ cs) : ∀ c ∈ cs, (c == d) = false := by
  intro c hc
  rw [beq_eq_false_iff_ne]
  rintro rfl
  exact h hc

theorem dropModifier_eq_self (h : '(' ∉ cs) : dropModifier cs = cs := by
  unfold dropModifier
  rw [breakAt?_eq_none (beq_eq_false_of_notMem h)]

theorem dropModifier_modifier (hfront : '(' ∉ front) (hinside : ')' ∉ inside) :
    dropModifier (front ++ '(' :: (inside ++ ')' :: tail)) = trimRight front ++ tail := by
  unfold dropModifier
  rw [breakAt?_append (beq_eq_false_of_notMem hfront) (beq_self_eq_true '(')]
  dsimp only
  rw [breakAt?_append (beq_eq_false_of_notMem hinside) (beq_self_eq_true ')')]

/-- What stands behind a name stays there when its modifier is dropped. -/
theorem dropModifier_append (hopen : '(' ∉ back) (hclose : ')' ∉ back) (cs : List Char) :
    dropModifier (cs ++ back) = dropModifier cs ++ back := by
  unfold dropModifier
  rw [breakAt?_append_back (beq_eq_false_of_notMem hopen)]
  cases breakAt? (· == '(') cs with
  | none => rfl
  | some parts =>
      obtain ⟨front, _, rest⟩ := parts
      simp only [Option.map_some]
      rw [breakAt?_append_back (beq_eq_false_of_notMem hclose)]
      cases breakAt? (· == ')') rest with
      | none => rfl
      | some parts => exact (List.append_assoc (trimRight front) parts.2.2 back).symm

/-- A modifier leaves no blanks behind when it is dropped from the end. -/
theorem endsSolid_dropModifier (h : EndsSolid cs) :
    dropModifier cs = [] ∨ EndsSolid (dropModifier cs) := by
  unfold dropModifier
  cases hopen : breakAt? (· == '(') cs with
  | none => exact Or.inr h
  | some parts =>
      obtain ⟨front, paren, rest⟩ := parts
      dsimp only
      cases hclose : breakAt? (· == ')') rest with
      | none => exact Or.inr h
      | some parts =>
          obtain ⟨inside, close, tail⟩ := parts
          dsimp only
          have htext := eq_append_of_breakAt? hopen
          rw [eq_append_of_breakAt? hclose] at htext
          by_cases htail : tail = []
          · rw [htail, List.append_nil]
            exact solid_trimRight front
          · have hends : EndsSolid ((front ++ paren :: (inside ++ [close])) ++ tail) := by
              rwa [List.append_assoc, List.cons_append, List.append_assoc, List.singleton_append,
                ← htext]
            exact Or.inr ((hends.of_append htail).append _)

theorem dropModifier_sublist (cs : List Char) : (dropModifier cs).Sublist cs := by
  unfold dropModifier
  cases hopen : breakAt? (· == '(') cs with
  | none => exact List.Sublist.refl cs
  | some parts =>
      obtain ⟨front, paren, rest⟩ := parts
      dsimp only
      cases hclose : breakAt? (· == ')') rest with
      | none => exact List.Sublist.refl cs
      | some parts =>
          obtain ⟨inside, close, tail⟩ := parts
          rw [eq_append_of_breakAt? hopen, eq_append_of_breakAt? hclose]
          refine (trimRight_begins front).sublist.append (List.Sublist.cons paren ?_)
          exact (List.sublist_cons_self close tail).trans (List.sublist_append_right inside _)

end Modifier

/-! ## Normal forms -/

section Normal

variable {cs spaces inside tail back : List Char}

theorem toList_normalize (t : String) :
    (normalize t).toList = normalizeChars (lowerChars [] (trim t.toList)) := by
  unfold normalize lowercase trimmed
  simp only [String.toList_ofList]

theorem isBlank_of_space (h : ∀ c ∈ spaces, c = ' ') : ∀ c ∈ spaces, isBlank c = true := by
  intro c hc
  rw [h c hc]
  decide

theorem filter_quotes (h : '"' ∉ cs) : cs.filter (· != '"') = cs := by
  rw [List.filter_eq_self]
  intro c hc
  rw [bne, beq_eq_false_of_notMem h c hc]
  rfl

theorem normalizeChars_setOf (h : Unpadded cs) (hplain : ¬ "setof ".toList <+: cs)
    (hspaces : ∀ c ∈ spaces, c = ' ') :
    normalizeChars ("setof ".toList ++ (spaces ++ cs)) = normalizeChars cs := by
  have hpadded : trim (spaces ++ (cs ++ [])) = cs :=
    trim_padded (isBlank_of_space hspaces) (fun _ hc => by cases hc) h
  rw [List.append_nil] at hpadded
  unfold normalizeChars
  rw [dropSetOf_setOf, hpadded, dropSetOf_eq_self hplain]

theorem normalizeChars_modifier (h : EndsSolid cs) (hparen : '(' ∉ cs)
    (hword : cs ≠ "setof".toList) (hplain : ¬ "setof ".toList <+: cs)
    (hspaces : ∀ c ∈ spaces, c = ' ') (hinside : ')' ∉ inside)
    (htail : ∀ c ∈ tail.head?, c = ' ' ∨ c = '[') (hopen : '(' ∉ tail) :
    normalizeChars (cs ++ (spaces ++ '(' :: (inside ++ ')' :: tail))) =
      normalizeChars (cs ++ tail) := by
  have hspaced : '(' ∉ cs ++ spaces :=
    List.not_mem_append hparen fun hin => absurd (hspaces _ hin) (by decide)
  have hkept : '(' ∉ cs ++ tail := List.not_mem_append hparen hopen
  have hshort : ¬ "setof ".toList <+: cs ++ tail := by
    refine not_setOf_append hplain fun d hd => ⟨?_, fun heq => absurd heq hword⟩
    rcases htail d hd with rfl | rfl <;> decide
  have hlong : ¬ "setof ".toList <+: cs ++ (spaces ++ '(' :: (inside ++ ')' :: tail)) := by
    refine not_setOf_append hplain fun d hd => ⟨?_, fun heq => absurd heq hword⟩
    cases spaces with
    | nil =>
        cases hd
        decide
    | cons c more =>
        rw [← Option.some.inj hd, hspaces c List.mem_cons_self]
        decide
  unfold normalizeChars
  rw [dropSetOf_eq_self hlong, dropSetOf_eq_self hshort, dropModifier_eq_self hkept,
    ← List.append_assoc, dropModifier_modifier hspaced hinside,
    trimRight_append_blanks (isBlank_of_space hspaces), trimRight_solid h]

/-- What stands behind a name without quotes stays behind its normal form. -/
theorem normalizeChars_append (h : EndsSolid cs) (hquote : '"' ∉ cs) (hne : normalizeChars cs ≠ [])
    (hback : EndsSolid back) (hhead : ∀ d ∈ back.head?, d ∉ "setof ".toList)
    (hmarks : ∀ d ∈ back, isMark d = false) :
    normalizeChars (cs ++ back) = normalizeChars cs ++ back := by
  have hnot : ∀ d, isMark d = true → d ∉ back := by
    intro d hd hin
    rw [hmarks d hin] at hd
    cases hd
  have hkept : '"' ∉ dropModifier (dropSetOf cs) := fun hin =>
    hquote ((dropSetOf_sublist cs).subset ((dropModifier_sublist _).subset hin))
  unfold normalizeChars at hne ⊢
  rw [dropSetOf_append h hback hhead, dropModifier_append (hnot _ (by decide)) (hnot _ (by decide)),
    List.filter_append, filter_quotes hkept, filter_quotes (hnot _ (by decide))]
  rw [filter_quotes hkept] at hne
  rcases endsSolid_dropModifier (endsSolid_dropSetOf h) with hnil | hsolid
  · -- Such a name is a modifier and nothing else, so its normal form is empty.
    rw [hnil] at hne
    exact absurd rfl hne
  · exact trim_solid_append hsolid hback

end Normal

end SchemaModel.NativeType
