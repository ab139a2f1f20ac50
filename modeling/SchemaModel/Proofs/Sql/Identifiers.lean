import SchemaModel.Proofs.Identifier.Quoting
import SchemaModel.Proofs.Text.Letters
import SchemaModel.Proofs.Text.LetterCase
import SchemaModel.Proofs.Text.Pieces
import Mathlib.Data.List.TakeWhile

/-!
# `SchemaModel.Proofs.Sql.Identifiers` — how an engine reads an escaped name

An engine takes a name between marks as it stands. A bare name has to begin and to go on with the
engine's characters and must not be a reserved word, and PostgreSQL folds it to small letters.
Escaped for PostgreSQL, every valid name is read back. For SQL Server only reserved words and names
with a space get brackets, so of the others those are read back that are regular identifiers; a name
with a point in it becomes two.

## Contents
- **Rules.** `Alphabet`, `Rules`: what an engine knows about identifiers.
- **Reading.** `identifier?` reads one identifier, `qualified?` a schema and a name.
- `Stands`: a text that a name can stand as. `identifier?_stands` and `stands_of_identifier?`: these
  are the texts that it is read from.
- `spelled_unique`: a text has one place only where the schema ends.
- `qualified?_escaped`: when an escaped schema and name are read back. `point_misread` has a name
  that is not.
-/

namespace SchemaModel.Sql

open Identifier Text

/-! ## Rules -/

/-- The characters that a server counts as letters and as digits. Which ones beyond ASCII they are
depends on the Unicode tables that it was built with. -/
structure Alphabet where
  letter : Char → Bool
  digit : Char → Bool
  letter_ascii : ∀ c, isAscii c = true → letter c = (isAsciiLower c || isAsciiUpper c)
  digit_ascii : ∀ c, isAscii c = true → digit c = isAsciiDigit c

/-- Letters and digits of ASCII alone. -/
def Alphabet.ascii : Alphabet where
  letter c := isAsciiLower c || isAsciiUpper c
  digit := isAsciiDigit
  letter_ascii _ _ := rfl
  digit_ascii _ _ := rfl

/-- Signs are neither letters nor digits. -/
theorem Alphabet.sign (alphabet : Alphabet) {c : Char} (hascii : isAscii c = true)
    (h : (isAsciiLower c || isAsciiUpper c || isAsciiDigit c) = false) :
    alphabet.letter c = false ∧ alphabet.digit c = false := by
  rw [alphabet.letter_ascii c hascii, alphabet.digit_ascii c hascii]
  exact Bool.or_eq_false_iff.1 h

/-- What an engine knows about identifiers: the marks around a delimited one, the characters of a
bare one, what becomes of these, and the words that cannot stand bare. -/
structure Rules where
  marks : Marks
  starts : Char → Bool
  continues : Char → Bool
  fold : Char → Char
  reserved : List String
  opening : starts marks.opening = false
  closing : continues marks.closing = false
  point : continues '.' = false
  closing_ne_point : marks.closing ≠ '.'
  continues_of_starts : ∀ c, starts c = true → continues c = true

/-- The rules of each engine. -/
def Alphabet.rules (alphabet : Alphabet) : Engine → Rules
  | .postgres => {
      marks := .double
      starts := fun c => alphabet.letter c || c == '_'
      continues := fun c => alphabet.letter c || alphabet.digit c || c == '_' || c == '$'
      fold := asciiLower
      reserved := Reserved.postgresWords
      opening := by simp [Marks.double, alphabet.sign (c := '"') rfl rfl]
      closing := by simp [Marks.double, alphabet.sign (c := '"') rfl rfl]
      point := by simp [alphabet.sign (c := '.') rfl rfl]
      closing_ne_point := by decide
      continues_of_starts := by
        intro c hc
        rcases Bool.or_eq_true_iff.1 hc with h | h <;> simp [h] }
  | .sqlServer => {
      marks := .bracket
      starts := fun c => alphabet.letter c || ['_', '@', '#'].contains c
      continues := fun c => alphabet.letter c || alphabet.digit c || ['_', '@', '#', '$'].contains c
      fold := id
      reserved := Reserved.sqlServerWords
      opening := by simp [Marks.bracket, alphabet.sign (c := '[') rfl rfl]
      closing := by simp [Marks.bracket, alphabet.sign (c := ']') rfl rfl]
      point := by simp [alphabet.sign (c := '.') rfl rfl]
      closing_ne_point := by decide
      continues_of_starts := by
        intro c hc
        rcases Bool.or_eq_true_iff.1 hc with h | h
        · simp [h]
        · have hsign := List.contains_iff_mem.1 h
          simp only [List.mem_cons, List.not_mem_nil, or_false] at hsign
          rcases hsign with rfl | rfl | rfl <;> simp }

/-! ## Reading -/

section Reading

variable (rules : Rules)

/-- The identifier at the front of a text, and what stands behind it. -/
def identifier? : List Char → Option (String × List Char)
  | [] => none
  | c :: rest =>
    if c = rules.marks.opening then
      match unwrap? rules.marks.closing rest with
      | some (first :: more, behind) => some (String.ofList (first :: more), behind)
      | _ => none
    else if rules.starts c then
      let name := String.ofList ((c :: rest.takeWhile rules.continues).map rules.fold)
      if rules.reserved.contains (inSmallLetters name) then none
      else some (name, rest.dropWhile rules.continues)
    else none

/-- The schema and the name when the text is two identifiers with a point between them. -/
def qualified? (text : String) : Option (String × String) := do
  let (schema, behind) ← identifier? rules text.toList
  let (name, behind) ← identifier? rules (← after? ['.'] behind)
  if behind.isEmpty then some (schema, name) else none

/-- The name is made of the characters of a bare identifier. -/
def Regular (name : String) : Prop :=
  name.toList.head?.any rules.starts = true ∧ ∀ c ∈ name.toList, rules.continues c = true

theorem Regular.first {name : String} (h : Regular rules name) :
    ∃ c rest, rules.starts c = true ∧ name.toList = c :: rest := by
  obtain ⟨hstart, _⟩ := h
  cases hname : name.toList with
  | nil =>
      rw [hname] at hstart
      cases hstart
  | cons c rest =>
      rw [hname] at hstart
      exact ⟨c, rest, hstart, rfl⟩

theorem Regular.last {name : String} (h : Regular rules name) :
    ∃ c rest, rules.continues c = true ∧ name.toList = rest ++ [c] := by
  obtain ⟨first, more, _, hname⟩ := h.first
  have hne : name.toList ≠ [] := hname ▸ List.cons_ne_nil first more
  obtain ⟨rest, c, hlast⟩ := (List.eq_nil_or_concat' name.toList).resolve_left hne
  exact ⟨c, rest, h.2 c (hlast ▸ List.mem_concat_self), hlast⟩

/-- A text that the name can stand as: the name between marks, or the name itself when it is a
regular identifier that is not folded and not reserved. -/
inductive Stands (name : String) : String → Prop
  | marked (hname : name ≠ "") : Stands name (wrap rules.marks name)
  | bare (hregular : Regular rules name) (hfold : ∀ c ∈ name.toList, rules.fold c = c)
      (hfree : inSmallLetters name ∉ rules.reserved) : Stands name name

end Reading

variable {rules : Rules} {schema name text : String} {behind : List Char}

/-- Nothing more of the identifier stands here: the text ends or goes on with a point. -/
def Ends (behind : List Char) : Prop := behind = [] ∨ ∃ rest, behind = '.' :: rest

theorem takeWhile_ends {front : List Char} (hfront : ∀ c ∈ front, rules.continues c = true)
    (hbehind : Ends behind) :
    (front ++ behind).takeWhile rules.continues = front ∧
      (front ++ behind).dropWhile rules.continues = behind := by
  rw [List.takeWhile_append_of_pos hfront, List.dropWhile_append_of_pos hfront]
  rcases hbehind with rfl | ⟨rest, rfl⟩
  · exact ⟨List.append_nil _, rfl⟩
  · have hpoint := Bool.eq_false_iff.1 rules.point
    rw [List.takeWhile_cons_of_neg hpoint, List.dropWhile_cons_of_neg hpoint, List.append_nil]
    exact ⟨rfl, rfl⟩

/-- A name is read back from a text that it can stand as. -/
theorem identifier?_stands (h : Stands rules name text) (hbehind : Ends behind) :
    identifier? rules (text.toList ++ behind) = some (name, behind) := by
  cases h with
  | marked hname =>
      have hlone : behind.head? ≠ some rules.marks.closing := by
        rcases hbehind with rfl | ⟨rest, rfl⟩
        · exact nofun
        · exact fun hhead => rules.closing_ne_point (Option.some.inj hhead).symm
      rw [toList_wrap, List.append_assoc, List.cons_append, List.singleton_append, identifier?,
        if_pos rfl, unwrap?_double hlone]
      cases hchars : name.toList with
      | nil => exact absurd (String.toList_eq_nil_iff.1 hchars) hname
      | cons first more =>
          show some (String.ofList (first :: more), behind) = some (name, behind)
          rw [← hchars, String.ofList_toList]
  | bare hregular hfold hfree =>
      obtain ⟨c, rest, hstart, hname⟩ := hregular.first
      have hchars := hregular.2
      have hrun : String.ofList (name.toList.map rules.fold) = name := by
        rw [List.map_congr_left hfold, List.map_id', String.ofList_toList]
      rw [hname] at hchars hrun
      have hopening : c ≠ rules.marks.opening := by
        rintro rfl
        exact Bool.eq_false_iff.1 rules.opening hstart
      obtain ⟨htake, hdrop⟩ :=
        takeWhile_ends (fun d hd => hchars d (List.mem_cons_of_mem c hd)) hbehind
      rw [hname, List.cons_append, identifier?, if_neg hopening, if_pos hstart, htake, hdrop]
      dsimp only
      rw [hrun, if_neg fun hmem => hfree (List.contains_iff_mem.1 hmem)]

/-- Without folding, what a name is read from is a text that it can stand as. -/
theorem stands_of_identifier? (hfold : ∀ c, rules.fold c = c) {cs : List Char}
    (h : identifier? rules cs = some (name, behind)) :
    ∃ text : String, cs = text.toList ++ behind ∧ Stands rules name text := by
  cases cs with
  | nil => cases h
  | cons c rest =>
      rw [identifier?] at h
      split_ifs at h with hopening hstart
      · split at h
        case h_2 => cases h
        case h_1 first more _ hread =>
          cases h
          obtain ⟨hrest, _⟩ := eq_double_of_unwrap? hread
          refine ⟨_, ?_, .marked (by simp)⟩
          rw [toList_wrap, String.toList_ofList, hrest, hopening]
          simp
      · have hrun : (c :: rest.takeWhile rules.continues).map rules.fold =
            c :: rest.takeWhile rules.continues := by
          rw [List.map_congr_left fun d _ => hfold d, List.map_id']
        dsimp only at h
        rw [hrun] at h
        split_ifs at h with hreserved
        cases h
        refine ⟨String.ofList (c :: rest.takeWhile rules.continues), ?_, .bare ⟨?_, ?_⟩ ?_ ?_⟩
        · rw [String.toList_ofList, List.cons_append, List.takeWhile_append_dropWhile]
        · rw [String.toList_ofList]
          exact hstart
        · rw [String.toList_ofList, List.forall_mem_cons]
          exact ⟨rules.continues_of_starts c hstart, fun d hd => List.mem_takeWhile_imp hd⟩
        · exact fun d _ => hfold d
        · exact fun hmem => hreserved (List.contains_iff_mem.2 hmem)

/-! ## Two names in a row -/

theorem qualified?_eq_some :
    qualified? rules text = some (schema, name) ↔
      ∃ behind, identifier? rules text.toList = some (schema, '.' :: behind) ∧
        identifier? rules behind = some (name, []) := by
  unfold qualified?
  simp only [bind, Option.bind_eq_some_iff, Prod.exists, Option.ite_none_right_eq_some,
    List.isEmpty_iff, Option.some.injEq, Prod.mk.injEq]
  constructor
  · rintro ⟨_, _, hschema, rest, hpoint, _, _, hname, rfl, rfl, rfl⟩
    rw [eq_append_of_after? hpoint] at hschema
    exact ⟨rest, hschema, hname⟩
  · rintro ⟨behind, hschema, hname⟩
    exact ⟨_, _, hschema, behind, after?_append ['.'] behind, _, _, hname, rfl, rfl, rfl⟩

/-- Texts that the names can stand as, with a point between, are read as the names. -/
theorem qualified?_stands {front back : String} (hschema : Stands rules schema front)
    (hname : Stands rules name back) :
    qualified? rules (front ++ "." ++ back) = some (schema, name) := by
  have htext : (front ++ "." ++ back).toList = front.toList ++ '.' :: back.toList := by simp
  have hback := identifier?_stands hname (Or.inl rfl)
  rw [List.append_nil] at hback
  rw [qualified?_eq_some, htext]
  exact ⟨back.toList, identifier?_stands hschema (Or.inr ⟨_, rfl⟩), hback⟩

/-- The text is the name itself or the name between marks. -/
def Spells (marks : Marks) (name text : String) : Prop := text = name ∨ text = wrap marks name

theorem Stands.spells (h : Stands rules name text) : Spells rules.marks name text := by
  cases h with
  | marked => exact Or.inr rfl
  | bare => exact Or.inl rfl

theorem length_double (mark : Char) (cs : List Char) : cs.length ≤ (double mark cs).length := by
  induction cs with
  | nil => exact Nat.le_refl _
  | cons c cs ih =>
      by_cases hc : c = mark
      · rw [hc, double_cons_self]
        exact Nat.le_succ_of_le (Nat.succ_le_succ ih)
      · rw [double_cons_of_ne hc]
        exact Nat.succ_le_succ ih

theorem length_wrap (marks : Marks) (name : String) :
    name.toList.length + 2 ≤ (wrap marks name).toList.length := by
  have hdouble := length_double marks.closing name.toList
  rw [toList_wrap, List.length_append, List.length_cons, List.length_singleton]
  omega

theorem Spells.length {marks : Marks} (h : Spells marks name text) :
    name.toList.length ≤ text.toList.length := by
  rcases h with rfl | rfl
  · exact Nat.le_refl _
  · exact Nat.le_of_add_right_le (length_wrap marks name)

/-- A text that spells a schema and a name, and that the two can stand as, has one place only where
the schema ends. -/
theorem spelled_unique {front back front' back' : String}
    (hfront : Spells rules.marks schema front) (hback : Spells rules.marks name back)
    (hschema : Stands rules schema front') (hname : Stands rules name back')
    (h : front.toList ++ '.' :: back.toList = front'.toList ++ '.' :: back'.toList) :
    front = front' ∧ back = back' := by
  have hends : front = front' → front = front' ∧ back = back' := by
    rintro rfl
    exact ⟨rfl, String.toList_inj.1 (List.cons.inj (List.append_cancel_left h)).2⟩
  have hlengths := congrArg List.length h
  rw [List.length_append, List.length_append, List.length_cons, List.length_cons] at hlengths
  rcases hfront with rfl | rfl <;> cases hschema
  case inl.marked =>
    -- The name would stand bare at the end of a text that its closing mark ends.
    have hlong := length_wrap rules.marks front
    rcases hback with rfl | rfl
    · have hshort := hname.spells.length
      omega
    · cases hname with
      | marked => omega
      | bare hregular =>
          obtain ⟨d, rest, hd, hlast⟩ := hregular.last
          rw [toList_wrap, toList_wrap, hlast] at h
          simp only [← List.cons_append, ← List.append_assoc] at h
          rw [← List.singleton_inj.1 (List.append_inj' h rfl).2, rules.closing] at hd
          cases hd
  case inl.bare => exact hends rfl
  case inr.marked => exact hends rfl
  case inr.bare hregular _ _ =>
    -- A bare schema does not begin with the opening mark.
    obtain ⟨c, rest, hc, hchars⟩ := hregular.first
    rw [toList_wrap, hchars] at h
    rw [← (List.cons.inj h).1, rules.opening] at hc
    cases hc

/-- Where nothing is folded, a spelled schema and name are read back exactly when both can stand as
they are spelled. -/
theorem qualified?_spelled {front back : String} (hfold : ∀ c, rules.fold c = c)
    (hfront : Spells rules.marks schema front) (hback : Spells rules.marks name back) :
    qualified? rules (front ++ "." ++ back) = some (schema, name) ↔
      Stands rules schema front ∧ Stands rules name back := by
  constructor
  · intro h
    obtain ⟨behind, hschema, hname⟩ := qualified?_eq_some.1 h
    obtain ⟨front', hfront', hstands⟩ := stands_of_identifier? hfold hschema
    obtain ⟨back', hback', hstands'⟩ := stands_of_identifier? hfold hname
    rw [List.append_nil] at hback'
    obtain ⟨rfl, rfl⟩ := spelled_unique hfront hback hstands hstands' (by
      rw [← hback', ← hfront']
      simp)
    exact ⟨hstands, hstands'⟩
  · rintro ⟨hschema, hname⟩
    exact qualified?_stands hschema hname

/-! ## Escaped names -/

theorem spells_escapeName (engine : Engine) (name : String) :
    Spells engine.marks name (engine.escapeName name) := by
  unfold Engine.escapeName
  dsimp only
  split_ifs
  · exact Or.inl rfl
  · exact Or.inr rfl

theorem isAscii_reservedWords (engine : Engine) :
    (engine.reservedWords.all fun word => word.toList.all isAscii) = true := by
  cases engine <;> decide +kernel

theorem lowercase_of_ascii (h : ∀ c ∈ text.toList, isAscii c = true) :
    lowercase text = inSmallLetters text := by
  unfold lowercase inSmallLetters
  rw [lowerChars_of_ascii h]

/-- A name that the engine does not reserve is none of its words, in any letter case. -/
theorem not_mem_reservedWords {engine : Engine} (h : engine.isReserved name = false) :
    inSmallLetters name ∉ engine.reservedWords := by
  intro hmem
  have hascii : ∀ c ∈ (inSmallLetters name).toList, isAscii c = true :=
    List.all_eq_true.1 (List.all_eq_true.1 (isAscii_reservedWords engine) _ hmem)
  have hsame : lowercase name = inSmallLetters name := by
    rw [← lowercase_inSmallLetters, lowercase_of_ascii hascii, inSmallLetters_inSmallLetters]
  rw [Engine.isReserved, Reserved.isReserved, hsame, List.contains_iff_mem.2 hmem] at h
  cases h

theorem Alphabet.letter_of_lower (alphabet : Alphabet) {c : Char} (h : isAsciiLower c = true) :
    alphabet.letter c = true := by
  rw [alphabet.letter_ascii c (isWordChar.isAscii (isAsciiLower.isWordChar h)), h, Bool.true_or]

theorem Alphabet.digit_of_ascii (alphabet : Alphabet) {c : Char} (h : isAsciiDigit c = true) :
    alphabet.digit c = true := by
  have hword : isWordChar c = true := by rw [isWordChar, h, Bool.or_true]
  rw [alphabet.digit_ascii c (isWordChar.isAscii hword), h]

/-- A plain character goes on with a bare name and is not folded. -/
theorem continues_of_isPlainChar (alphabet : Alphabet) {c : Char}
    (h : Engine.isPlainChar c = true) :
    (alphabet.rules .postgres).continues c = true ∧ asciiLower c = c := by
  simp only [Engine.isPlainChar, Bool.or_eq_true, beq_iff_eq] at h
  rcases h with ((hlower | hdigit) | rfl) | rfl
  · exact ⟨by simp [Alphabet.rules, alphabet.letter_of_lower hlower],
      isWordChar.asciiLower (isAsciiLower.isWordChar hlower)⟩
  · exact ⟨by simp [Alphabet.rules, alphabet.digit_of_ascii hdigit],
      isWordChar.asciiLower (by rw [isWordChar, hdigit, Bool.or_true])⟩
  · exact ⟨by simp [Alphabet.rules], rfl⟩
  · exact ⟨by simp [Alphabet.rules], rfl⟩

theorem regular_of_isPlain (alphabet : Alphabet) (h : Engine.isPlain name = true) :
    Regular (alphabet.rules .postgres) name ∧ ∀ c ∈ name.toList, asciiLower c = c := by
  unfold Engine.isPlain at h
  unfold Regular
  cases hname : name.toList with
  | nil =>
      rw [hname] at h
      cases h
  | cons first rest =>
      rw [hname] at h
      obtain ⟨hstart, hchars⟩ := Bool.and_eq_true_iff.1 h
      have hplain : ∀ c ∈ first :: rest, _ := fun c hc =>
        continues_of_isPlainChar alphabet (List.all_eq_true.1 hchars c hc)
      refine ⟨⟨?_, fun c hc => (hplain c hc).1⟩, fun c hc => (hplain c hc).2⟩
      rcases Bool.or_eq_true_iff.1 hstart with hlower | hline
      · simp [Alphabet.rules, alphabet.letter_of_lower hlower]
      · simp [Alphabet.rules, beq_iff_eq.1 hline]

/-- Every valid name stands as PostgreSQL's escaped form of it. -/
theorem stands_escapeName_postgres (alphabet : Alphabet) (hname : Valid name) :
    Stands (alphabet.rules .postgres) name (Engine.postgres.escapeName name) := by
  unfold Engine.escapeName
  dsimp only
  split_ifs with hsafe
  · obtain ⟨hplain, hfree⟩ := Bool.and_eq_true_iff.1 hsafe
    obtain ⟨hregular, hfold⟩ := regular_of_isPlain alphabet hplain
    exact .bare hregular hfold (not_mem_reservedWords (by simpa using hfree))
  · exact .marked hname.1

/-- SQL Server reads the name back: it is put between brackets, as a reserved word or for a space,
or it is a regular identifier. -/
def Readable (alphabet : Alphabet) (name : String) : Prop :=
  (Engine.sqlServer.isReserved name = true ∨ ' ' ∈ name.toList) ∨
    Regular (alphabet.rules .sqlServer) name

/-- A name that stands as itself is regular. -/
theorem Stands.regular (h : Stands rules name text) (htext : text = name) :
    Regular rules name := by
  cases h with
  | marked =>
      have hlong := length_wrap rules.marks name
      rw [htext] at hlong
      omega
  | bare hregular => exact hregular

theorem stands_escapeName_sqlServer (alphabet : Alphabet) (hname : Valid name) :
    Stands (alphabet.rules .sqlServer) name (Engine.sqlServer.escapeName name) ↔
      Readable alphabet name := by
  unfold Engine.escapeName Readable
  dsimp only
  split_ifs with hsafe
  · simp only [Bool.and_eq_true, Bool.not_eq_true', List.contains_eq_mem, decide_eq_false_iff_not]
      at hsafe
    obtain ⟨hfree, hspace⟩ := hsafe
    constructor
    · exact fun h => Or.inr (h.regular rfl)
    · rintro ((hreserved | hspace') | hregular)
      · exact absurd (hfree.symm.trans hreserved) Bool.false_ne_true
      · exact absurd hspace' hspace
      · exact .bare hregular (fun _ _ => rfl) (not_mem_reservedWords hfree)
  · refine iff_of_true (.marked hname.1) (Or.inl ?_)
    by_contra hneither
    rw [not_or, Bool.not_eq_true] at hneither
    apply hsafe
    simp [hneither]

/-- For PostgreSQL, every escaped schema and name are read back. For SQL Server they are exactly
when both are readable. -/
theorem qualified?_escaped (alphabet : Alphabet) (hschema : Valid schema) (hname : Valid name) :
    qualified? (alphabet.rules .postgres) (Engine.postgres.escapeQualified schema name) =
        some (schema, name) ∧
      (qualified? (alphabet.rules .sqlServer) (Engine.sqlServer.escapeQualified schema name) =
          some (schema, name) ↔ Readable alphabet schema ∧ Readable alphabet name) := by
  constructor
  · exact qualified?_stands (stands_escapeName_postgres alphabet hschema)
      (stands_escapeName_postgres alphabet hname)
  · rw [← stands_escapeName_sqlServer alphabet hschema,
      ← stands_escapeName_sqlServer alphabet hname]
    exact qualified?_spelled (fun _ => rfl) (spells_escapeName .sqlServer schema)
      (spells_escapeName .sqlServer name)

theorem qualified?_escaped_brackets :
    Valid "dbo" ∧ Valid "Order Details]" ∧
      qualified? (Alphabet.ascii.rules .postgres) "dbo.\"Order Details]\"" =
        some ("dbo", "Order Details]") ∧
      qualified? (Alphabet.ascii.rules .sqlServer) "dbo.[Order Details]]]" =
        some ("dbo", "Order Details]") := by
  have hschema : Valid "dbo" := by decide
  have hname : Valid "Order Details]" := by decide
  have hread := qualified?_escaped Alphabet.ascii hschema hname
  have hspace : ' ' ∈ "Order Details]".toList := by decide
  have hregular : Regular (Alphabet.ascii.rules .sqlServer) "dbo" :=
    ⟨by decide, List.all_eq_true.1 (by decide)⟩
  exact ⟨hschema, hname, hread.1, hread.2.2 ⟨Or.inr hregular, Or.inl (Or.inr hspace)⟩⟩

/-- A point is not a reason for brackets, so the name comes out as two. -/
theorem point_misread :
    Valid "dbo" ∧ Valid "Order.Line" ∧
      Engine.sqlServer.escapeQualified "dbo" "Order.Line" = "dbo.Order.Line" ∧
      qualified? (Alphabet.ascii.rules .sqlServer) "dbo.Order.Line" = none := by
  decide +kernel

end SchemaModel.Sql
