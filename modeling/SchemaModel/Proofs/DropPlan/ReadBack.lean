import SchemaModel.Proofs.Sql.Lexemes
import SchemaModel.Proofs.DropPlan.Difference

/-!
# `SchemaModel.Proofs.DropPlan.ReadBack` — what PostgreSQL reads in a plan

A statement that drops a routine has the routine's name between quotes and the types of its
parameters as they were recorded. Whatever those types are, the name is read back. The types are
read back when each of them is contained, that is, keeps to its place in the list; a composite is
read back when, besides, its name can stand bare. A name with a capital or a sign can not, and such
names are recorded from the catalog without quotes.

## Contents
- **Reading.** `readDrop?` takes one statement that drops a routine, with nothing behind it, into
  its target and the entries of its argument list.
- `Contained`: a text that stays one entry wherever it stands; `entries_joined` has them in a row.
- `target_read`: the target of a statement, whatever the types. `arguments_read`: all of it.
- `ReadAs`: what is read in a statement that drops an operation, by `readAs_of_dropOperation`.
- `routines_read_back`: every statement of a plan. `order_statements_misread` has two routines whose
  composites are not read back.
-/

namespace SchemaModel

open Inspection Offline

namespace Sql

/-! ## Reading a statement -/

/-- What a lexeme does to a list of arguments. -/
inductive Role where
  | opens
  | closes
  | parts
  | stops
  | plain
  deriving DecidableEq

/-- Parentheses nest, a comma parts and a semicolon stops; what is not read stops as well. -/
def Lexeme.role : Lexeme → Role
  | .mark c =>
    if c = '(' then .opens
    else if c = ')' then .closes
    else if c = ',' then .parts
    else if c = ';' then .stops
    else .plain
  | .unread _ => .stops
  | _ => .plain

/-- An entry of an argument list, those behind it, and what stands behind the list. -/
abbrev Entries := List Lexeme × List (List Lexeme) × List Lexeme

/-- Lexemes in front of the first entry. -/
def prepend (front : List Lexeme) : Entries → Entries
  | (entry, entries, behind) => (front ++ entry, entries, behind)

/-- An empty entry in front of the others. -/
def part : Entries → Entries
  | (entry, entries, behind) => ([], entry :: entries, behind)

/-- The depth of parentheses behind a lexeme that belongs to an entry; there is none when the entry
ends with the lexeme. -/
def within? : Role → Nat → Option Nat
  | .opens, depth => some (depth + 1)
  | .closes, outer + 1 => some outer
  | .parts, outer + 1 => some (outer + 1)
  | .plain, depth => some depth
  | _, _ => none

/-- The entries up to the parenthesis that closes the list, parted by the commas that are in no
further parentheses. -/
def entries? : Nat → List Lexeme → Option Entries
  | _, [] => none
  | depth, l :: rest =>
    match within? l.role depth with
    | some depth' => (entries? depth' rest).map (prepend [l])
    | none =>
      if l.role = .closes then some ([], [], rest)
      else if l.role = .parts then (entries? 0 rest).map part
      else none

/-- The entries of a list of arguments, of which there may be none, and what stands behind it. -/
def arguments? : List Lexeme → Option (List (List Lexeme) × List Lexeme)
  | [] => none
  | l :: rest =>
    if l.role = .closes then some ([], rest)
    else (entries? 0 (l :: rest)).map fun (entry, entries, behind) => (entry :: entries, behind)

/-- A statement that drops a routine. -/
structure DropRoutine where
  kind : RoutineKind
  schema : String
  name : String
  arguments : List (List Lexeme)
  deriving DecidableEq

/-- The lexeme of a routine's kind. -/
def kindLexeme : RoutineKind → Lexeme
  | .function => .name "function"
  | .procedure => .name "procedure"

/-- The kind of routine that a lexeme names. -/
def kind? (l : Lexeme) : Option RoutineKind :=
  [RoutineKind.function, .procedure].find? fun kind => kindLexeme kind = l

/-- The lexemes of exactly one statement that drops a routine. -/
def readDrop? : List Lexeme → Option DropRoutine
  | drop :: kind :: cond :: exist :: schema :: point :: name :: paren :: rest => do
    guard ([drop, cond, exist] = [.name "drop", .name "if", .name "exists"])
    guard ([point, paren] = [.mark '.', .mark '('])
    let (arguments, behind) ← arguments? rest
    guard (behind = [.mark ';'])
    return ⟨← kind? kind, ← schema.name?, ← name.name?, arguments⟩
  | _ => none

/-! ## Types that keep to their place -/

/-- Every parenthesis is closed again, and nothing outside of them parts or stops a list. -/
def isClosed : Nat → List Lexeme → Bool
  | depth, [] => depth == 0
  | depth, l :: rest => (within? l.role depth).any fun depth' => isClosed depth' rest

/-- A text that is one entry of an argument list and leaves the rest of the statement alone. -/
def Contained (text : String) : Prop :=
  lexemes text ≠ [] ∧ isClosed 0 (lexemes text) = true

instance (text : String) : Decidable (Contained text) := inferInstanceAs (Decidable (_ ∧ _))

theorem map_prepend_prepend (l : Lexeme) (front : List Lexeme) (read : Option Entries) :
    (read.map (prepend front)).map (prepend [l]) = read.map (prepend (l :: front)) := by
  cases read <;> rfl

theorem isClosed_cons {l : Lexeme} {rest : List Lexeme} {depth : Nat} :
    isClosed depth (l :: rest) = true ↔
      ∃ depth', within? l.role depth = some depth' ∧ isClosed depth' rest = true := by
  rw [isClosed, Option.any_eq_true]

/-- Closed lexemes are the start of the entry that goes on behind them. -/
theorem entries_append {front : List Lexeme} {depth : Nat} (h : isClosed depth front = true)
    (back : List Lexeme) :
    entries? depth (front ++ back) = (entries? 0 back).map (prepend front) := by
  induction front generalizing depth with
  | nil =>
      cases beq_iff_eq.1 h
      exact Option.map_id'.symm
  | cons l front ih =>
      obtain ⟨depth', hdepth, hrest⟩ := isClosed_cons.1 h
      rw [List.cons_append, entries?, hdepth, ← map_prepend_prepend l front]
      exact congrArg (Option.map (prepend [l])) (ih hrest)

theorem role_of_isClosed {ls : List Lexeme} {depth : Nat} (h : isClosed depth ls = true)
    {l : Lexeme} (hl : l ∈ ls) : l.role ≠ .stops := by
  induction ls generalizing depth with
  | nil => cases hl
  | cons first rest ih =>
      obtain ⟨depth', hdepth, hrest⟩ := isClosed_cons.1 h
      rcases List.mem_cons.1 hl with rfl | hl
      · intro hrole
        rw [hrole] at hdepth
        cases hdepth
      · exact ih hrest hl

theorem Contained.read {text : String} (h : Contained text) {l : Lexeme} (hl : l ∈ lexemes text) :
    l.isUnread = false := by
  have hrole := role_of_isClosed h.2 hl
  cases l with
  | unread => exact absurd rfl hrole
  | _ => rfl

/-! ## Argument lists -/

/-- A contained text and the comma behind it are an entry. -/
theorem entries_comma {text : String} (h : Contained text) (back : List Char) :
    entries? 0 (lex .between (text.toList ++ ',' :: ' ' :: back)) =
      ((entries? 0 (lex .between back)).map part).map (prepend (lexemes text)) := by
  rw [lexemes_append (by decide) (fun _ => h.read), entries_append h.2]
  rfl

/-- A contained text and the closing parenthesis are the last entry. -/
theorem entries_close {text : String} (h : Contained text) (back : List Char) :
    entries? 0 (lex .between (text.toList ++ ')' :: back)) =
      some (lexemes text, [], lex .between back) := by
  rw [lexemes_append (by decide) (fun _ => h.read), entries_append h.2]
  exact congrArg (fun entry => some (entry, [], lex .between back)) (List.append_nil _)

/-- Contained texts in a row are the entries of the list. -/
theorem entries_joined {text : String} {texts : List String}
    (h : ∀ t ∈ text :: texts, Contained t) (back : List Char) :
    entries? 0 (lex .between ((Text.joined ", " (text :: texts)).toList ++ ')' :: back)) =
      some (lexemes text, texts.map lexemes, lex .between back) := by
  have hjoined : ∀ ts,
      (Text.joined ", " ts).toList = [',', ' '].intercalate (ts.map String.toList) :=
    fun ts => String.toList_intercalate
  induction texts generalizing text with
  | nil =>
      rw [hjoined, List.map_singleton, List.intercalate_singleton,
        entries_close (h text List.mem_cons_self)]
      rfl
  | cons next texts ih =>
      have hrow : (Text.joined ", " (text :: next :: texts)).toList ++ ')' :: back =
          text.toList ++
            ',' :: ' ' :: ((Text.joined ", " (next :: texts)).toList ++ ')' :: back) := by
        simp [hjoined, List.intercalate_cons_cons]
      rw [hrow, entries_comma (h text List.mem_cons_self),
        ih fun t ht => h t (List.mem_cons_of_mem _ ht)]
      exact congrArg (fun entry => some (entry, lexemes next :: texts.map lexemes,
        lex .between back)) (List.append_nil _)

/-- An argument list of contained texts has them as its entries. -/
theorem arguments_joined {texts : List String} (h : ∀ t ∈ texts, Contained t) (back : List Char) :
    arguments? (lex .between ((Text.joined ", " texts).toList ++ ')' :: back)) =
      some (texts.map lexemes, lex .between back) := by
  cases texts with
  | nil => rfl
  | cons text texts =>
      have hread := entries_joined h back
      cases hlex : lex .between ((Text.joined ", " (text :: texts)).toList ++ ')' :: back) with
      | nil =>
          rw [hlex] at hread
          cases hread
      | cons l rest =>
          rw [hlex] at hread
          have hrole : l.role ≠ .closes := by
            -- Else the list would have no first entry.
            intro hrole
            rw [entries?, hrole] at hread
            have hfirst : some (([], [], rest) : Entries) = some (lexemes text, _) := hread
            exact (h text List.mem_cons_self).1 (Prod.mk.inj (Option.some.inj hfirst)).1.symm
          rw [arguments?, if_neg hrole, hread]
          rfl

/-! ## Statements -/

/-- The lexemes of a statement up to its argument list. -/
def header (kind : RoutineKind) (schema name : String) : List Lexeme :=
  [.name "drop", kindLexeme kind, .name "if", .name "exists", .quoted schema, .mark '.',
    .quoted name, .mark '(']

theorem kind?_kindLexeme (kind : RoutineKind) : kind? (kindLexeme kind) = some kind := by
  cases kind <;> rfl

/-- Behind its header, a statement is read when its argument list is and a semicolon ends it. -/
theorem readDrop?_header {kind : RoutineKind} {schema name : String} {rest : List Lexeme}
    {arguments : List (List Lexeme)} (h : arguments? rest = some (arguments, [.mark ';'])) :
    readDrop? (header kind schema name ++ rest) = some ⟨kind, schema, name, arguments⟩ := by
  have hread : readDrop? (header kind schema name ++ rest) =
      (arguments? rest).bind fun read =>
        (guard (read.2 = [Lexeme.mark ';']) : Option Unit).bind fun _ =>
          (kind? (kindLexeme kind)).bind fun kind => some ⟨kind, schema, name, read.1⟩ := rfl
  rw [hread, h, kind?_kindLexeme]
  rfl

end Sql

namespace DropPlan

open Sql

variable {schema name : String} {kind : RoutineKind} {types : List String}

/-- The target of a statement is read back, whatever the types of the parameters are. -/
theorem target_read (hschema : ¬Identifier.Refused schema) (hname : ¬Identifier.Refused name) :
    lexemes (routineText .postgres schema name kind types) =
      header kind schema name ++ lex .between ((Text.joined ", " types).toList ++ [')', ';']) := by
  have htext : (routineText .postgres schema name kind types).toList =
      ("DROP " ++ keyword kind ++ " IF EXISTS").toList ++ ' ' ::
        ((Identifier.wrap .double schema).toList ++ '.' ::
          ((Identifier.wrap .double name).toList ++ '(' ::
            ((Text.joined ", " types).toList ++ [')', ';']))) := by
    simp [routineText, Identifier.delimited, argumentList, Engine.marks]
  have hwords : lexemes ("DROP " ++ keyword kind ++ " IF EXISTS") =
      [.name "drop", kindLexeme kind, .name "if", .name "exists"] := by
    cases kind <;> decide
  have hread : ∀ l ∈ lexemes ("DROP " ++ keyword kind ++ " IF EXISTS"), l.isUnread = false := by
    rw [hwords]
    cases kind <;> decide
  have hspace : ∀ back, lex .between (' ' :: back) = lex .between back := fun _ => rfl
  have hpoint : ∀ back, lex .between ('.' :: back) = .mark '.' :: lex .between back := fun _ => rfl
  rw [lexemes, htext, lexemes_append (by decide) hread, hwords, hspace,
    lex_wrap (Identifier.not_refused_iff.1 hschema).1 (by decide), hpoint,
    lex_wrap (Identifier.not_refused_iff.1 hname).1 (by decide)]
  rfl

/-- A statement whose types are contained is read as one statement, with one entry for each. -/
theorem arguments_read (hschema : ¬Identifier.Refused schema) (hname : ¬Identifier.Refused name)
    (htypes : ∀ t ∈ types, Contained t) :
    readDrop? (lexemes (routineText .postgres schema name kind types)) =
      some ⟨kind, schema, name, types.map lexemes⟩ := by
  rw [target_read hschema hname]
  exact readDrop?_header (arguments_joined htypes [';'])

/-- The entry that stands for a composite is its type's name as it was recorded. -/
def ReadsComposite (p : Parameter) (entry : List Lexeme) : Prop :=
  p.isResultType = true → nameOf? entry = some p.nativeType

instance (p : Parameter) (entry : List Lexeme) : Decidable (ReadsComposite p entry) :=
  inferInstanceAs (Decidable (_ → _))

/-- The statement is read as the one that drops the operation: one entry stands for each parameter,
and those of composites are their names. -/
def ReadsBack (o : Operation) (sql : String) : Prop :=
  ∃ read, readDrop? (lexemes sql) = some read ∧
    (read.kind = o.kind ∧ read.schema = o.schema ∧ read.name = o.name) ∧
    List.Forall₂ ReadsComposite o.parameters read.arguments

/-- The names of the operation's composite parameters can stand bare. -/
def HasBareComposites (o : Operation) : Prop :=
  ∀ p ∈ o.parameters, p.isResultType = true → Bare p.nativeType

theorem readsBack_iff {o : Operation} {sql : String}
    (hread : readDrop? (lexemes sql) =
      some ⟨o.kind, o.schema, o.name, o.parameterTypes.map lexemes⟩) :
    ReadsBack o sql ↔ HasBareComposites o := by
  unfold ReadsBack HasBareComposites
  simp only [hread, Option.some.injEq, exists_eq_left', true_and, Operation.parameterTypes,
    List.map_map, List.forall₂_map_right_iff, List.forall₂_same, Function.comp_apply,
    ReadsComposite, nameOf?_lexemes, and_self]

/-- What PostgreSQL reads in a statement that drops the operation. Whatever the types of its
parameters are, the target is the operation's name. When these are contained, the statement is a
single one and has an entry for each of them; it then reads back exactly when the names of its
composites can stand bare. -/
structure ReadAs (o : Operation) (sql : String) : Prop where
  target : ∃ behind, lexemes sql = header o.kind o.schema o.name ++ behind
  entries : (∀ t ∈ o.parameterTypes, Contained t) →
    readDrop? (lexemes sql) = some ⟨o.kind, o.schema, o.name, o.parameterTypes.map lexemes⟩
  composites : (∀ t ∈ o.parameterTypes, Contained t) → (ReadsBack o sql ↔ HasBareComposites o)

theorem readAs_of_dropOperation {o : Operation} {sql : String}
    (h : dropOperation .postgres o = .ok sql) : ReadAs o sql := by
  obtain ⟨⟨hschema, hname⟩, rfl⟩ := dropRoutine_eq_ok.1 h
  exact {
    target := ⟨_, target_read hschema hname⟩
    entries := arguments_read hschema hname
    composites := fun hcontained => readsBack_iff (arguments_read hschema hname hcontained) }

/-- A plan for PostgreSQL has one statement for each routine that is to be dropped, read as one that
drops it, and behind these one for each type. -/
theorem routines_read_back {old new : Domain} {sqls : List String}
    (hengine : new.engine = .postgres) (h : statements old new = .ok sqls) :
    ∃ routines types, sqls = routines ++ types ∧
      List.Forall₂ ReadAs (old.operations.filter (DropsOperation new)) routines ∧
      List.Forall₂ (fun r sql => dropResultType .postgres r = .ok sql)
        (old.resultTypes.filter (DropsType new)) types := by
  obtain ⟨routines, types, hsqls, hroutines, htypes⟩ := statements_eq_ok.1 h
  rw [hengine] at hroutines htypes
  exact ⟨routines, types, hsqls, (collect_eq_ok.1 hroutines).imp fun _ _ => readAs_of_dropOperation,
    collect_eq_ok.1 htypes⟩

/-- Three procedures that an earlier run made, each with rows of a composite: the name of the first
can stand bare, that of the second has capitals, and that of the third closes the list. -/
def orderCalls : CatalogSnapshot where
  engine := .postgres
  tables := []
  routines :=
    [⟨"public", "order_find", none, .procedure, none, false, none,
      some "\x7b\"generated\": true\x7d",
      [⟨"size", "integer", none, false, false, false⟩,
       ⟨"filter", "order_filter", some "public", true, false, false⟩], []⟩,
     ⟨"public", "order_add", none, .procedure, none, false, none,
      some "\x7b\"generated\": true\x7d",
      [⟨"line", "OrderLine", some "public", true, false, false⟩], []⟩,
     ⟨"public", "order_note", none, .procedure, none, false, none,
      some "\x7b\"generated\": true\x7d",
      [⟨"note", "note); DROP TABLE orders; --", some "public", true, false, false⟩], []⟩]
  userTypes :=
    [⟨"public", "order_filter", .composite, none, none, [⟨"day", 1, "date", false, none⟩]⟩,
     ⟨"public", "OrderLine", .composite, none, none, [⟨"item", 1, "integer", false, none⟩]⟩,
     ⟨"public", "note); DROP TABLE orders; --", .composite, none, none,
      [⟨"body", 1, "text", false, none⟩]⟩]

/-- The statements that drop the procedures. -/
def orderStatements : List String :=
  ["DROP PROCEDURE IF EXISTS \"public\".\"order_find\"(integer, order_filter);",
   "DROP PROCEDURE IF EXISTS \"public\".\"order_add\"(OrderLine);",
   "DROP PROCEDURE IF EXISTS \"public\".\"order_note\"(note); DROP TABLE orders; --);"]

theorem routines_read_back_orders :
    ∃ old, (run (inspect orderCalls.catalog .standard) [] default).result = .ok old ∧
      statements old (.blank .postgres .snakeCase "public") = .ok orderStatements ∧
      ∃ routines types, orderStatements = routines ++ types ∧
        List.Forall₂ ReadAs (old.operations.filter
          (DropsOperation (.blank .postgres .snakeCase "public"))) routines ∧
        List.Forall₂ (fun r sql => dropResultType .postgres r = .ok sql)
          (old.resultTypes.filter (DropsType (.blank .postgres .snakeCase "public"))) types := by
  obtain ⟨old, hold, hsqls⟩ :
      ∃ old, (run (inspect orderCalls.catalog .standard) [] default).result = .ok old ∧
        statements old (.blank .postgres .snakeCase "public") = .ok orderStatements := by
    decide +kernel
  exact ⟨old, hold, hsqls, routines_read_back rfl hsqls⟩

instance (o : Operation) (sql : String) : Decidable (ReadsBack o sql) :=
  decidable_of_iff ((readDrop? (lexemes sql)).any fun read =>
      decide ((read.kind = o.kind ∧ read.schema = o.schema ∧ read.name = o.name) ∧
        List.Forall₂ ReadsComposite o.parameters read.arguments)) (by
    simp only [Option.any_eq_true, decide_eq_true_eq, ReadsBack])

/-- The first statement is read back. The second names another type, and the third is three
statements, since neither of their types stands between quotes. -/
theorem order_statements_misread :
    ∃ old, (run (inspect orderCalls.catalog .standard) [] default).result = .ok old ∧
      old.engine = .postgres ∧
      statements old (.blank .postgres .snakeCase "public") = .ok orderStatements ∧
      ¬List.Forall₂ ReadsBack
        (old.operations.filter (DropsOperation (.blank .postgres .snakeCase "public")))
        orderStatements ∧
      (old.operations.zip orderStatements).map (fun (o, sql) => decide (ReadsBack o sql)) =
        [true, false, false] := by
  decide +kernel

end DropPlan

end SchemaModel
