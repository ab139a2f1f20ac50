import SchemaModel.Catalog.TableSignature
import SchemaModel.Proofs.Identifier.Quoting
import SchemaModel.Proofs.Text.LetterCase
import SchemaModel.Proofs.Text.Pieces

/-!
# `SchemaModel.Proofs.Catalog.TableSignature` — declared columns are read back

A signature lists columns between parentheses. A name stands plainly or between double quotes, and
then it may hold every character that otherwise ends a column; a type may hold commas as long as
they stand between parentheses or quotes of its own. Such a list is read back column by column.

## Contents
- **Columns as they are declared.** `IsPlain` names, `Balanced` texts, `DeclaredColumn`.
- **Splitting.** `splitFrom_cons`: what the scan does with one character. `splitFrom_double`,
  `splitFrom_balanced`: quoted names and balanced texts stay whole; `splitTopLevel_declared`: a list
  of columns comes apart where one column ends.
- **Columns.** `column?_declared`: a column is read back with its place in the list.
- `parse?_declared`: the whole signature, in any letter case and with blanks around it.
-/

namespace SchemaModel.TableSignature

open Identifier Text

/-! ## Columns as they are declared -/

/-- A name that needs no quotes in a signature. -/
def IsPlain (name : String) : Prop :=
  name ≠ "" ∧ ∀ c ∈ name.toList, isBlank c = false ∧ c ∉ ['"', '(', ')', ',']

instance (name : String) : Decidable (IsPlain name) :=
  @instDecidableAnd _ _ inferInstance (List.decidableBAll _ name.toList)

/-- Parentheses and double quotes come in pairs, and commas stand between them only. What stands
between double quotes is not looked at. `inside` says that there are parentheses around the text. -/
inductive Balanced : (inside : Bool) → List Char → Prop
  | nil {inside : Bool} : Balanced inside []
  | char {inside : Bool} {c : Char} {cs : List Char} (hc : c ∉ ['"', '(', ')'])
      (hcomma : c = ',' → inside = true) (rest : Balanced inside cs) : Balanced inside (c :: cs)
  | quotes {inside : Bool} {text cs : List Char} (htext : '"' ∉ text) (rest : Balanced inside cs) :
      Balanced inside ('"' :: (text ++ '"' :: cs))
  | parentheses {inside : Bool} {text cs : List Char} (inner : Balanced true text)
      (rest : Balanced inside cs) : Balanced inside ('(' :: (text ++ ')' :: cs))

/-- Characters without quotes and parentheses in front of a balanced text. -/
theorem Balanced.chars {inside : Bool} (front : List Char) {cs : List Char}
    (h : ∀ c ∈ front, c ∉ ['"', '(', ')'] ∧ (c = ',' → inside = true)) (rest : Balanced inside cs) :
    Balanced inside (front ++ cs) := by
  induction front with
  | nil => exact rest
  | cons c front ih =>
      obtain ⟨hc, hcomma⟩ := h c List.mem_cons_self
      exact .char hc hcomma (ih fun d hd => h d (List.mem_cons_of_mem c hd))

theorem Balanced.only {inside : Bool} (cs : List Char)
    (h : ∀ c ∈ cs, c ∉ ['"', '(', ')'] ∧ (c = ',' → inside = true)) : Balanced inside cs := by
  have hchars := Balanced.chars cs h .nil
  rwa [List.append_nil] at hchars

theorem IsPlain.balanced {name : String} (h : IsPlain name) : Balanced false name.toList := by
  refine .only name.toList fun c hc => ?_
  have hplain := (h.2 c hc).2
  simp only [List.mem_cons, List.not_mem_nil, or_false, not_or] at hplain ⊢
  exact ⟨⟨hplain.1, hplain.2.1, hplain.2.2.1⟩, fun hcomma => absurd hcomma hplain.2.2.2⟩

/-- A text that can stand for a type: something, without blanks at its ends, and balanced. -/
structure IsType (text : String) : Prop where
  ne_empty : text ≠ ""
  trimmed : Text.trimmed text = text
  balanced : Balanced false text.toList

theorem IsType.toList_ne_nil {text : String} (h : IsType text) : text.toList ≠ [] :=
  fun hnil => h.ne_empty (String.toList_eq_nil_iff.1 hnil)

theorem IsType.trim {text : String} (h : IsType text) : Text.trim text.toList = text.toList := by
  have htrimmed := congrArg String.toList h.trimmed
  rwa [Text.trimmed, String.toList_ofList] at htrimmed

/-- A column of a signature. Its name stands between double quotes unless it is plain. -/
structure DeclaredColumn where
  name : String
  isQuoted : Bool
  nativeType : String
  isPlain : isQuoted = false → IsPlain name
  isType : IsType nativeType

namespace DeclaredColumn

/-- The name as it stands in the signature. -/
def nameText (column : DeclaredColumn) : String :=
  if column.isQuoted then wrap .double column.name else column.name

/-- The column as it stands in the signature. -/
def text (column : DeclaredColumn) : String := column.nameText ++ " " ++ column.nativeType

/-- What is known of the column at a place in the list. -/
def row (column : DeclaredColumn) (place : Nat) : ResultColumnRow :=
  ⟨column.name, place, column.nativeType, true, typeSize? column.nativeType.toList⟩

end DeclaredColumn

/-- The rows of columns, counted from 1. -/
def rows (columns : List DeclaredColumn) : List ResultColumnRow :=
  (columns.zipIdx 1).map fun (column, place) => column.row place

/-! ## Splitting -/

theorem splitFrom_cons (depth : Nat) (inQuotes : Bool) (c : Char) (rest : List Char) :
    splitFrom depth inQuotes (c :: rest) =
      if c == ',' && !inQuotes && depth == 0 then [] :: splitFrom depth inQuotes rest
      else onto [c] (splitFrom
        (if inQuotes then depth else if c == '(' then depth + 1 else if c == ')' then depth - 1
          else depth)
        (if c == '"' then !inQuotes else inQuotes) rest) := by
  rw [onto_singleton]
  rfl

theorem splitFrom_ne_nil (depth : Nat) (inQuotes : Bool) (cs : List Char) :
    splitFrom depth inQuotes cs ≠ [] := by
  cases cs with
  | nil => exact List.cons_ne_nil _ _
  | cons c rest =>
      rw [splitFrom_cons]
      split
      · exact List.cons_ne_nil _ _
      · exact onto_ne_nil _ _

/-- A doubled text stays whole up to the quote that closes it. -/
theorem splitFrom_double (depth : Nat) (cs rest : List Char) :
    splitFrom depth true (double '"' cs ++ '"' :: rest) =
      onto (double '"' cs ++ ['"']) (splitFrom depth false rest) := by
  induction cs with
  | nil =>
      rw [double, List.nil_append, List.nil_append, splitFrom_cons]
      rfl
  | cons c cs ih =>
      by_cases hc : c = '"'
      · subst hc
        rw [double_cons_self, List.cons_append, List.cons_append, splitFrom_cons]
        simp [splitFrom_cons, ih]
      · rw [double_cons_of_ne hc, List.cons_append, splitFrom_cons]
        simp [hc, ih]

/-- A balanced text stays whole. -/
theorem splitFrom_balanced {inside : Bool} {cs : List Char} (h : Balanced inside cs) {depth : Nat}
    (hdepth : inside = true → 0 < depth) (rest : List Char) :
    splitFrom depth false (cs ++ rest) = onto cs (splitFrom depth false rest) := by
  induction h generalizing depth rest with
  | nil => exact (onto_nil (splitFrom_ne_nil _ _ _)).symm
  | @char inside c cs hc hcomma _ ih =>
      have hnone : (c == ',' && !false && depth == 0) = false := by
        by_cases hcomma' : c = ','
        · have hpos := hdepth (hcomma hcomma')
          simp [Nat.ne_of_gt hpos]
        · simp [hcomma']
      simp only [List.mem_cons, List.not_mem_nil, or_false, not_or] at hc
      rw [List.cons_append, splitFrom_cons, hnone]
      simp [hc, ih hdepth]
  | @quotes inside text cs htext _ ih =>
      have hstretch := splitFrom_double depth text (cs ++ rest)
      rw [double_of_not_mem htext, ih hdepth, onto_onto] at hstretch
      rw [List.cons_append, splitFrom_cons, List.append_assoc, List.cons_append]
      simp [hstretch]
  | @parentheses inside text cs _ _ ihinner ih =>
      have hinner := ihinner (fun _ => Nat.succ_pos depth) (')' :: (cs ++ rest))
      have hclosing : splitFrom (depth + 1) false (')' :: (cs ++ rest)) =
          onto (')' :: cs) (splitFrom depth false rest) := by
        rw [splitFrom_cons]
        simp [ih hdepth]
      rw [List.cons_append, splitFrom_cons, List.append_assoc, List.cons_append]
      simp [hinner, hclosing]

/-- So does one that is balanced by itself, outside of all parentheses. -/
theorem splitFrom_outside {cs : List Char} (h : Balanced false cs) (rest : List Char) :
    splitFrom 0 false (cs ++ rest) = onto cs (splitFrom 0 false rest) :=
  splitFrom_balanced h (fun hinside => absurd hinside Bool.false_ne_true) rest

/-! ## Lists of columns -/

theorem toList_text (column : DeclaredColumn) :
    column.text.toList = column.nameText.toList ++ ' ' :: column.nativeType.toList := by
  simp [DeclaredColumn.text]

theorem splitFrom_nameText (column : DeclaredColumn) (rest : List Char) :
    splitFrom 0 false (column.nameText.toList ++ rest) =
      onto column.nameText.toList (splitFrom 0 false rest) := by
  unfold DeclaredColumn.nameText
  cases hquoted : column.isQuoted with
  | false => exact splitFrom_outside (column.isPlain hquoted).balanced rest
  | true =>
      rw [if_pos rfl, toList_wrap, List.append_assoc, List.cons_append, splitFrom_cons]
      simp [Marks.double, splitFrom_double]

theorem splitFrom_text (column : DeclaredColumn) (rest : List Char) :
    splitFrom 0 false (column.text.toList ++ rest) =
      onto column.text.toList (splitFrom 0 false rest) := by
  rw [toList_text, List.append_assoc, splitFrom_nameText, List.cons_append, splitFrom_cons]
  simp [splitFrom_outside column.isType.balanced]

/-- A column has no blank at either end. -/
theorem DeclaredColumn.unpadded_text (column : DeclaredColumn) : Unpadded column.text.toList where
  first := by
    rw [toList_text]
    unfold DeclaredColumn.nameText
    cases hquoted : column.isQuoted with
    | false =>
        obtain ⟨hne, hchars⟩ := column.isPlain hquoted
        cases hname : column.name.toList with
        | nil => exact absurd (String.toList_eq_nil_iff.1 hname) hne
        | cons c rest =>
            exact ⟨c, _, by rw [if_neg Bool.false_ne_true, hname, List.cons_append],
              (hchars c (hname ▸ List.mem_cons_self)).1⟩
    | true => exact ⟨'"', _, by rw [if_pos rfl, toList_wrap, List.cons_append]; rfl, rfl⟩
  last := by
    obtain ⟨rest, c, hlast, hc⟩ :=
      (unpadded_of_trim column.isType.toList_ne_nil column.isType.trim).last
    exact ⟨column.nameText.toList ++ ' ' :: rest, c, by rw [toList_text, hlast]; simp, hc⟩

/-- The columns of a list, in the order of declaration. Each but the first has a blank in front. -/
theorem splitTopLevel_declared (column : DeclaredColumn) (columns : List DeclaredColumn) :
    splitTopLevel (joined ", " ((column :: columns).map DeclaredColumn.text)).toList =
      column.text.toList :: columns.map fun next => ' ' :: next.text.toList := by
  unfold splitTopLevel joined
  rw [String.toList_intercalate]
  induction columns generalizing column with
  | nil =>
      have hend := splitFrom_text column []
      rw [List.append_nil] at hend
      rw [List.map_singleton, List.map_singleton, List.intercalate_singleton, hend]
      exact congrArg (fun text => [text]) (List.append_nil _)
  | cons next columns ih =>
      have hmore := ih next
      rw [List.map_cons, List.map_cons, List.map_cons, List.map_cons, List.intercalate_cons_cons,
        List.append_assoc, splitFrom_text]
      rw [List.map_cons, List.map_cons] at hmore
      have hcomma : ∀ rest, splitFrom 0 false (", ".toList ++ rest) =
          [] :: onto [' '] (splitFrom 0 false rest) := by
        intro rest
        show splitFrom 0 false (',' :: ' ' :: rest) = _
        rw [splitFrom_cons, splitFrom_cons]
        rfl
      rw [hcomma, hmore, onto_cons, onto_cons, List.append_nil]
      rfl

/-! ## Reading columns -/

theorem quotedIdentifier?_eq (cs : List Char) : quotedIdentifier? cs = unwrap? '"' cs := by
  fun_induction quotedIdentifier? cs with
  | case1 => rfl
  | case2 rest ih => rw [ih, unwrap?_twice]
  | case3 c rest htwice hc =>
      cases beq_iff_eq.1 hc
      have hlone : rest.head? ≠ some '"' := by
        intro hhead
        obtain ⟨behind, rfl⟩ := List.head?_eq_some_iff.1 hhead
        exact htwice behind rfl rfl
      exact (unwrap?_closing hlone).symm
  | case4 c rest _ hc ih =>
      rw [ih, unwrap?_cons_of_ne fun heq => hc (beq_iff_eq.2 heq)]

/-- A plain name ends at the first blank. -/
theorem nameAndType?_plain {name : String} (h : IsPlain name) (rest : List Char) :
    nameAndType? (name.toList ++ ' ' :: rest) = some (name.toList, trim (' ' :: rest)) := by
  obtain ⟨hne, hchars⟩ := h
  have hbreak := breakAt?_append (p := isBlank) (fun c hc => (hchars c hc).1)
    (show isBlank ' ' = true from rfl) rest
  cases hname : name.toList with
  | nil => exact absurd (String.toList_eq_nil_iff.1 hname) hne
  | cons c cs =>
      rw [hname, List.cons_append] at hbreak
      have hquote : (c == '"') = false := by
        refine beq_false_of_ne fun hc => (hchars c (hname ▸ List.mem_cons_self)).2 ?_
        exact hc ▸ List.mem_cons_self
      rw [List.cons_append, nameAndType?, hquote, hbreak]
      rfl

/-- A name between double quotes ends at the quote that stands alone. -/
theorem nameAndType?_quoted (name : String) (rest : List Char) :
    nameAndType? ((wrap .double name).toList ++ ' ' :: rest) =
      some (name.toList, trim (' ' :: rest)) := by
  have hlone : (' ' :: rest).head? ≠ some '"' := by
    intro hhead
    cases hhead
  rw [toList_wrap, List.append_assoc, List.cons_append, List.singleton_append, nameAndType?,
    if_pos (by decide), quotedIdentifier?_eq, Marks.double, unwrap?_double hlone]
  rfl

theorem column?_declared (column : DeclaredColumn) (place : Nat) :
    column? place column.text.toList = some (column.row place) := by
  have hread : nameAndType? column.text.toList =
      some (column.name.toList, column.nativeType.toList) := by
    have htype : trim (' ' :: column.nativeType.toList) = column.nativeType.toList :=
      (trim_cons_blank rfl _).trans column.isType.trim
    rw [toList_text]
    unfold DeclaredColumn.nameText
    cases hquoted : column.isQuoted with
    | false =>
        rw [if_neg Bool.false_ne_true, nameAndType?_plain (column.isPlain hquoted), htype]
    | true => rw [if_pos rfl, nameAndType?_quoted, htype]
  have hne : column.nativeType.toList.isEmpty = false :=
    List.isEmpty_eq_false_iff.2 column.isType.toList_ne_nil
  rw [column?, hread]
  simp [hne, DeclaredColumn.row]

theorem columnsFrom_declared (columns : List DeclaredColumn) (place : Nat) :
    columnsFrom place (columns.map fun column => column.text.toList) =
      (columns.zipIdx place).map fun (column, place) => column.row place := by
  induction columns generalizing place with
  | nil => rfl
  | cons column columns ih =>
      rw [List.map_cons, columnsFrom, column?_declared, List.zipIdx_cons, List.map_cons]
      exact congrArg _ (ih (place + 1))

/-! ## Signatures -/

/-- The signature of columns. -/
def signature (keyword : String) (columns : List DeclaredColumn) : String :=
  keyword ++ "(" ++ joined ", " (columns.map DeclaredColumn.text) ++ ")"

/-- Behind the key word, in any letter case, stands the list of columns. -/
theorem inner?_padded {front keyword back : String} {inside : List Char}
    (hfront : ∀ c ∈ front.toList, isBlank c = true) (hback : ∀ c ∈ back.toList, isBlank c = true)
    (hkeyword : eqIgnoreAsciiCase keyword "TABLE" = true) :
    inner? (front.toList ++ (keyword.toList ++ '(' :: (inside ++ [')']) ++ back.toList)) =
      some inside := by
  have hlower : keyword.toList.map asciiLower = "table".toList := beq_iff_eq.1 hkeyword
  have hlength : keyword.toList.length = 5 := by
    have hsame := congrArg List.length hlower
    rwa [List.length_map] at hsame
  have hunpadded : Unpadded (keyword.toList ++ '(' :: (inside ++ [')'])) := by
    constructor
    · cases hchars : keyword.toList with
      | nil =>
          rw [hchars] at hlength
          cases hlength
      | cons c rest =>
          rw [hchars] at hlower
          refine ⟨c, _, rfl, ?_⟩
          rw [← isBlank_asciiLower, (List.cons.inj hlower).1]
          rfl
    · exact ⟨keyword.toList ++ '(' :: inside, ')', by simp, rfl⟩
  have hlist : trimLeft ('(' :: (inside ++ [')'])) = ['('] ++ (inside ++ [')']) := rfl
  rw [inner?, trim_padded hfront hback hunpadded, List.take_left' hlength, List.drop_left' hlength,
    hlower, if_pos (beq_self_eq_true _), hlist, after?_append]
  exact before?_append inside [')']

/-- Trimmed, the pieces of the list are the columns. -/
theorem trimmed_pieces (columns : List DeclaredColumn) :
    ((splitTopLevel (joined ", " (columns.map DeclaredColumn.text)).toList).map trim).filter
        (fun part => !part.isEmpty) = columns.map fun column => column.text.toList := by
  have htrim : ∀ column : DeclaredColumn, trim column.text.toList = column.text.toList := by
    intro column
    have hpadded : trim ([] ++ (column.text.toList ++ [])) = column.text.toList :=
      trim_padded nofun nofun column.unpadded_text
    rwa [List.nil_append, List.append_nil] at hpadded
  have hne : ∀ part ∈ columns.map fun column => column.text.toList, (!part.isEmpty) = true := by
    intro part hpart
    obtain ⟨column, _, rfl⟩ := List.mem_map.1 hpart
    obtain ⟨c, rest, htext, _⟩ := column.unpadded_text.first
    rw [htext]
    rfl
  cases columns with
  | nil => rfl
  | cons column columns =>
      have hpieces : (splitTopLevel
          (joined ", " ((column :: columns).map DeclaredColumn.text)).toList).map trim =
            (column :: columns).map fun column => column.text.toList := by
        rw [splitTopLevel_declared, List.map_cons, List.map_cons, List.map_map, htrim]
        congr 1
        refine List.map_congr_left fun next _ => ?_
        exact (trim_cons_blank rfl _).trans (htrim next)
      rw [hpieces, List.filter_eq_self.2 hne]

/-- A signature is read back, in any letter case of its key word and with blanks around it. -/
theorem parse?_declared {front keyword back : String}
    (hfront : ∀ c ∈ front.toList, isBlank c = true) (hback : ∀ c ∈ back.toList, isBlank c = true)
    (hkeyword : eqIgnoreAsciiCase keyword "TABLE" = true) (columns : List DeclaredColumn) :
    parse? (front ++ signature keyword columns ++ back) = some (rows columns) := by
  have htext : (front ++ signature keyword columns ++ back).toList =
      front.toList ++ (keyword.toList ++ '(' ::
        ((joined ", " (columns.map DeclaredColumn.text)).toList ++ [')']) ++ back.toList) := by
    simp [signature]
  rw [parse?, htext, inner?_padded hfront hback hkeyword, Option.map_some, trimmed_pieces]
  exact congrArg some (columnsFrom_declared columns 1)

/-- A plain column, one whose name looks like the end of a column and of the list, and one whose
type is a quoted name with a comma and an open parenthesis. -/
def invoiceColumns : List DeclaredColumn :=
  [⟨"id", false, "character varying(50)", fun _ => by decide, {
      ne_empty := by decide
      trimmed := by decide
      balanced := .chars "character varying".toList (by simp)
        (.parentheses (.only "50".toList (by simp)) .nil) }⟩,
    ⟨"say \"hi\", (then) go", true, "numeric(10,2)", nofun, {
      ne_empty := by decide
      trimmed := by decide
      balanced := .chars "numeric".toList (by simp)
        (.parentheses (.only "10,2".toList (by simp)) .nil) }⟩,
    ⟨"", true, "\"Part, (old\"[]", nofun, {
      ne_empty := by decide
      trimmed := by decide
      balanced := @Balanced.quotes false "Part, (old".toList _ (by decide)
        (.only "[]".toList (by simp)) }⟩]

theorem parse?_declared_invoice :
    ((∀ c ∈ "\n ".toList, isBlank c = true) ∧ (∀ c ∈ " ".toList, isBlank c = true) ∧
      eqIgnoreAsciiCase "Table" "TABLE" = true) ∧
    signature "Table" invoiceColumns =
      "Table(id character varying(50), \"say \"\"hi\"\", (then) go\" numeric(10,2), " ++
        "\"\" \"Part, (old\"[])" ∧
    parse? ("\n " ++ signature "Table" invoiceColumns ++ " ") =
      some [⟨"id", 1, "character varying(50)", true, some 50⟩,
        ⟨"say \"hi\", (then) go", 2, "numeric(10,2)", true, none⟩,
        ⟨"", 3, "\"Part, (old\"[]", true, none⟩] := by
  have hfront : ∀ c ∈ "\n ".toList, isBlank c = true := List.all_eq_true.1 (by decide)
  have hback : ∀ c ∈ " ".toList, isBlank c = true := List.all_eq_true.1 (by decide)
  have hkeyword : eqIgnoreAsciiCase "Table" "TABLE" = true := by decide
  refine ⟨⟨hfront, hback, hkeyword⟩, by decide, ?_⟩
  rw [parse?_declared hfront hback hkeyword]
  decide

end SchemaModel.TableSignature
