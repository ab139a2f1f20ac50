import SchemaModel.Proofs.Identifier.Quoting
import SchemaModel.Proofs.Text.Letters
import Mathlib.Tactic.SplitIfs

/-!
# `SchemaModel.Proofs.Sql.Lexemes` — how PostgreSQL reads a statement

A statement is a row of lexemes. A name between double quotes is taken verbatim, with two quotes in
it for one; a bare name is folded to lower case; every other character stands for itself. String
constants, comments and escaped forms have no place in the statements of a drop plan: the characters
that could begin one are kept apart as unread, so that nothing is claimed about a text with one.

## Contents
- **Characters and lexemes.** `Lexeme`, and `Mode`, where a reader stands inside one.
- `lexemes`: the lexemes of a text. `lexemes_append`: a separator behind a text that leaves no quote
  open ends its last lexeme, so what stands before and behind it is read apart.
- `lex_wrap`: a name between double quotes is one lexeme, whatever is in it.
- **Names that stand bare.** `Bare` names are written without capitals and signs.
  `nameOf?_lexemes`: they are those that are read back when they stand without quotes.
-/

namespace SchemaModel.Sql

/-! ## Characters and lexemes -/

/-- White space between lexemes. -/
def isSpace (c : Char) : Bool := c == ' ' || ('\x09' ≤ c && c ≤ '\x0d')

/-- A character of a bare name or a number: letters, digits, `_`, `$` and all beyond ASCII. -/
def isRunChar (c : Char) : Bool :=
  Text.isAsciiLower c || Text.isAsciiUpper c || Text.isAsciiDigit c || c == '_' || c == '$' ||
    !Text.isAscii c

/-- A character that a bare name can start with. -/
def isNameStart (c : Char) : Bool := isRunChar c && !Text.isAsciiDigit c && c != '$'

/-- A character that could begin a string constant, a comment or an escaped form. -/
def isUnread (c : Char) : Bool := ['\x27', '-', '/', '&', '\\'].contains c

/-- The smallest parts of a statement. -/
inductive Lexeme where
  /-- A bare name or a key word, in lower case. -/
  | name (text : String)
  /-- A name between double quotes. -/
  | quoted (text : String)
  | number (digits : String)
  | mark (c : Char)
  /-- What no statement of a plan is made of, an open quote among it. -/
  | unread (text : String)
  deriving DecidableEq, Repr

/-- Where a reader stands, with the characters seen of the lexeme that it is in. -/
inductive Mode where
  | between
  | run (seen : List Char)
  | quoted (seen : List Char)
  /-- Behind a double quote that closes the name unless another one follows. -/
  | closing (seen : List Char)

/-! ## Reading -/

/-- The lexeme of a stretch of letters, digits and their like. -/
def runLexeme (seen : List Char) : Lexeme :=
  if seen.head?.any isNameStart then .name (String.ofList (seen.map Text.asciiLower))
  else if seen.all Text.isAsciiDigit then .number (String.ofList seen)
  else .unread (String.ofList seen)

/-- The lexeme of a name between double quotes, which must not be empty. -/
def quotedLexeme (seen : List Char) : Lexeme :=
  if seen = [] then .unread "" else .quoted (String.ofList seen)

/-- The lexeme that ends with the text. -/
def Mode.finish : Mode → List Lexeme
  | .between => []
  | .run seen => [runLexeme seen]
  | .quoted seen => [.unread (String.ofList seen)]
  | .closing seen => [quotedLexeme seen]

/-- What a character between lexemes is or begins. -/
def enter (c : Char) : List Lexeme × Mode :=
  if isRunChar c then ([], .run [c])
  else if isSpace c then ([], .between)
  else if c = '"' then ([], .quoted [])
  else if isUnread c then ([.unread (String.singleton c)], .between)
  else ([.mark c], .between)

/-- The lexeme that the reader is in goes on with the character. -/
def Mode.extend? : Mode → Char → Option Mode
  | .between, _ => none
  | .run seen, c => if isRunChar c then some (.run (seen ++ [c])) else none
  | .quoted seen, c => some (if c = '"' then .closing seen else .quoted (seen ++ [c]))
  | .closing seen, c => if c = '"' then some (.quoted (seen ++ [c])) else none

/-- The lexemes that a character ends or is, and where the reader stands behind it. -/
def step (mode : Mode) (c : Char) : List Lexeme × Mode :=
  match mode.extend? c with
  | some longer => ([], longer)
  | none => (mode.finish ++ (enter c).1, (enter c).2)

/-- The lexemes of the characters that follow. -/
def lex : Mode → List Char → List Lexeme
  | mode, [] => mode.finish
  | mode, c :: cs => (step mode c).1 ++ lex (step mode c).2 cs

/-- The lexemes of a text. -/
def lexemes (text : String) : List Lexeme := lex .between text.toList

/-- The name that a lexeme is. -/
def Lexeme.name? : Lexeme → Option String
  | .name text | .quoted text => some text
  | _ => none

/-- The lexeme could not be read. -/
def Lexeme.isUnread : Lexeme → Bool
  | .unread _ => true
  | _ => false

@[simp] theorem lex_nil (mode : Mode) : lex mode [] = mode.finish := rfl

theorem lex_cons (mode : Mode) (c : Char) (cs : List Char) :
    lex mode (c :: cs) = (step mode c).1 ++ lex (step mode c).2 cs := rfl

theorem lex_of_extend {mode longer : Mode} {c : Char} (h : mode.extend? c = some longer)
    (cs : List Char) : lex mode (c :: cs) = lex longer cs := by
  rw [lex_cons, step, h, List.nil_append]

theorem lex_of_not_extend {mode : Mode} {c : Char} (h : mode.extend? c = none) (cs : List Char) :
    lex mode (c :: cs) = mode.finish ++ lex .between (c :: cs) := by
  rw [lex_cons, step, h]
  exact List.append_assoc ..

theorem extend_run {seen : List Char} {c : Char} (h : isRunChar c = true) :
    (Mode.run seen).extend? c = some (.run (seen ++ [c])) := if_pos h

theorem extend_closing {seen : List Char} :
    (Mode.closing seen).extend? '"' = some (.quoted (seen ++ ['"'])) := rfl

/-- The ways in which a lexeme goes on. -/
theorem extend_cases {mode longer : Mode} {c : Char} (h : mode.extend? c = some longer) :
    (∃ seen, mode = .run seen ∧ isRunChar c = true ∧ longer = .run (seen ++ [c])) ∨
    (∃ seen, mode = .quoted seen ∧ longer = .closing seen) ∨
    (∃ seen, (mode = .quoted seen ∨ mode = .closing seen) ∧ longer = .quoted (seen ++ [c])) := by
  cases mode with
  | between => cases h
  | run seen =>
      obtain ⟨hc, hlonger⟩ := Option.ite_none_right_eq_some.1 h
      exact Or.inl ⟨seen, rfl, hc, (Option.some.inj hlonger).symm⟩
  | quoted seen =>
      have hlonger := (Option.some.inj h).symm
      by_cases hc : c = '"'
      · rw [if_pos hc] at hlonger
        exact Or.inr (Or.inl ⟨seen, rfl, hlonger⟩)
      · rw [if_neg hc] at hlonger
        exact Or.inr (Or.inr ⟨seen, Or.inl rfl, hlonger⟩)
  | closing seen =>
      obtain ⟨_, hlonger⟩ := Option.ite_none_right_eq_some.1 h
      exact Or.inr (Or.inr ⟨seen, Or.inr rfl, (Option.some.inj hlonger).symm⟩)

/-! ## Separators -/

/-- The character is neither part of a bare name nor a double quote. -/
def Separates (c : Char) : Prop := isRunChar c = false ∧ c ≠ '"'

instance (c : Char) : Decidable (Separates c) := inferInstanceAs (Decidable (_ ∧ _))

/-- Unless a quote is open, a separator ends the lexeme that the reader is in. -/
theorem lex_separator {mode : Mode} {c : Char} (hc : Separates c) (cs : List Char)
    (hread : ∀ l ∈ mode.finish, l.isUnread = false) :
    lex mode (c :: cs) = mode.finish ++ lex .between (c :: cs) := by
  apply lex_of_not_extend
  cases mode with
  | between => rfl
  | run seen => rw [Mode.extend?, if_neg (Bool.eq_false_iff.1 hc.1)]
  | quoted seen => exact nomatch hread _ (List.mem_singleton_self _)
  | closing seen => rw [Mode.extend?, if_neg hc.2]

/-- What stands before a separator is read as if nothing followed. -/
theorem lex_append {c : Char} (hc : Separates c) {mode : Mode} {front : List Char}
    (hread : ∀ l ∈ lex mode front, l.isUnread = false) (back : List Char) :
    lex mode (front ++ c :: back) = lex mode front ++ lex .between (c :: back) := by
  induction front generalizing mode with
  | nil => exact lex_separator hc back hread
  | cons d front ih =>
      rw [List.cons_append, lex_cons, lex_cons, List.append_assoc]
      congr 1
      exact ih fun l hl => hread l (lex_cons mode d front ▸ List.mem_append_right _ hl)

theorem lexemes_append {c : Char} (hc : Separates c) {text : String}
    (hread : ∀ l ∈ lexemes text, l.isUnread = false) (back : List Char) :
    lex .between (text.toList ++ c :: back) = lexemes text ++ lex .between (c :: back) :=
  lex_append hc hread back

/-! ## Names between quotes -/

/-- A doubled text is taken in up to the quote that closes it. -/
theorem lex_double (cs seen back : List Char) :
    lex (.quoted seen) (Text.double '"' cs ++ '"' :: back) = lex (.closing (seen ++ cs)) back := by
  induction cs generalizing seen with
  | nil => rw [Text.double, List.nil_append, lex_of_extend rfl, if_pos rfl, List.append_nil]
  | cons c cs ih =>
      have hlonger : seen ++ [c] ++ cs = seen ++ c :: cs := by
        rw [List.append_assoc, List.singleton_append]
      by_cases hc : c = '"'
      · subst hc
        rw [Identifier.double_cons_self, List.cons_append, List.cons_append, lex_of_extend rfl,
          if_pos rfl, lex_of_extend extend_closing, ih, hlonger]
      · rw [Identifier.double_cons_of_ne hc, List.cons_append, lex_of_extend rfl, if_neg hc, ih,
          hlonger]

/-- A name between double quotes is one lexeme when no further quote follows. -/
theorem lex_wrap {name : String} (hname : name ≠ "") {c : Char} (hc : Separates c)
    (back : List Char) :
    lex .between ((Identifier.wrap .double name).toList ++ c :: back) =
      .quoted name :: lex .between (c :: back) := by
  have hseen : name.toList ≠ [] := fun h => hname (String.toList_inj.1 h)
  have henter : step .between Identifier.Marks.double.opening = ([], .quoted []) := rfl
  have hlexeme : quotedLexeme name.toList = .quoted name := by
    rw [quotedLexeme, if_neg hseen, String.ofList_toList]
  rw [Identifier.toList_wrap, List.append_assoc, List.cons_append, lex_cons, henter,
    List.nil_append, List.singleton_append, Identifier.Marks.double, lex_double, List.nil_append]
  rw [lex_separator hc]
  · rw [Mode.finish, hlexeme, List.singleton_append]
  · rw [Mode.finish, hlexeme]
    exact fun l hl => List.mem_singleton.1 hl ▸ rfl

/-! ## Names that stand bare -/

/-- The name that a lone lexeme is. -/
def nameOf? : List Lexeme → Option String
  | [l] => l.name?
  | _ => none

/-- A name that is read back when it stands without quotes: it starts like a name, goes on like one
and has no capital ASCII letter. -/
def Bare (name : String) : Prop :=
  name.toList.head?.any isNameStart = true ∧
    ∀ c ∈ name.toList, isRunChar c = true ∧ Text.isAsciiUpper c = false

instance (name : String) : Decidable (Bare name) := inferInstanceAs (Decidable (_ ∧ _))

/-- Folding leaves a character alone or gives a small letter. -/
theorem asciiLower_eq_or (c : Char) :
    (Text.isAsciiUpper c = false ∧ Text.asciiLower c = c) ∨
      Text.isAsciiLower (Text.asciiLower c) = true := by
  unfold Text.asciiLower
  cases hupper : Text.isAsciiUpper c with
  | false => exact Or.inl ⟨rfl, rfl⟩
  | true =>
      right
      rw [isAsciiUpper_iff] at hupper
      rw [if_pos rfl, isAsciiLower_iff, toNat_ofNat (by omega)]
      omega

theorem isAsciiLower.isNameStart {c : Char} (h : Text.isAsciiLower c = true) :
    isNameStart c = true := by
  have hdigit : Text.isAsciiDigit c = false := by
    rw [Bool.eq_false_iff, Ne, isAsciiDigit_iff]
    rw [isAsciiLower_iff] at h
    omega
  have hdollar : c ≠ '$' := by
    rintro rfl
    cases h
  simp [Sql.isNameStart, isRunChar, h, hdigit, hdollar]

theorem isAsciiUpper_of_lower {c : Char} (h : Text.isAsciiLower c = true) :
    Text.isAsciiUpper c = false := by
  rw [Bool.eq_false_iff, Ne, isAsciiUpper_iff]
  rw [isAsciiLower_iff] at h
  omega

theorem isNameStart.isRunChar {c : Char} (h : isNameStart c = true) : isRunChar c = true := by
  simp only [Sql.isNameStart, Bool.and_eq_true] at h
  exact h.1.1

/-- A folded run is a bare name when it starts like one. -/
theorem bare_of_run {seen : List Char} (hrun : ∀ c ∈ seen, isRunChar c = true)
    (hstart : seen.head?.any isNameStart = true) :
    Bare (String.ofList (seen.map Text.asciiLower)) := by
  unfold Bare
  rw [String.toList_ofList, List.head?_map, Option.any_map]
  constructor
  · cases seen with
    | nil => exact hstart
    | cons c rest =>
        rcases asciiLower_eq_or c with ⟨_, hc⟩ | hc
        · exact (congrArg isNameStart hc).trans hstart
        · exact isAsciiLower.isNameStart hc
  · intro d hd
    obtain ⟨c, hc, rfl⟩ := List.mem_map.1 hd
    rcases asciiLower_eq_or c with ⟨hupper, heq⟩ | hlower
    · rw [heq]
      exact ⟨hrun c hc, hupper⟩
    · exact ⟨isNameStart.isRunChar (isAsciiLower.isNameStart hlower), isAsciiUpper_of_lower hlower⟩

/-- Letters, digits and their like are one lexeme. -/
theorem lex_run {seen cs : List Char} (h : ∀ c ∈ cs, isRunChar c = true) :
    lex (.run seen) cs = [runLexeme (seen ++ cs)] := by
  induction cs generalizing seen with
  | nil => rw [List.append_nil, lex_nil, Mode.finish]
  | cons c cs ih =>
      rw [lex_of_extend (extend_run (h c List.mem_cons_self)),
        ih fun d hd => h d (List.mem_cons_of_mem _ hd), List.append_assoc, List.singleton_append]

/-- A bare name is one lexeme, the name itself. -/
theorem lexemes_of_bare {name : String} (h : Bare name) : lexemes name = [.name name] := by
  obtain ⟨hstart, hchars⟩ := h
  have hfold : ∀ c ∈ name.toList, Text.asciiLower c = c := by
    intro c hc
    rw [Text.asciiLower, (hchars c hc).2]
    rfl
  have hrun : runLexeme name.toList = .name name := by
    rw [runLexeme, if_pos hstart, List.map_congr_left hfold, List.map_id', String.ofList_toList]
  unfold lexemes
  cases hname : name.toList with
  | nil =>
      rw [hname] at hstart
      cases hstart
  | cons c rest =>
      rw [hname] at hchars hrun
      have henter : step .between c = ([], .run [c]) := if_pos (hchars c List.mem_cons_self).1
      rw [lex_cons, henter, List.nil_append,
        lex_run fun d hd => (hchars d (List.mem_cons_of_mem _ hd)).1, List.singleton_append, hrun]

/-! ### What a lexeme can be -/

/-- The characters seen of a bare name are such characters. -/
def Mode.Sound : Mode → Prop
  | .run seen => ∀ c ∈ seen, isRunChar c = true
  | _ => True

theorem enter_sound (c : Char) : (enter c).2.Sound ∧ ∀ t, .name t ∉ (enter c).1 := by
  unfold enter
  split_ifs with hrun <;> simp [Mode.Sound, *]

theorem bare_of_runLexeme {seen : List Char} {t : String} (hrun : ∀ c ∈ seen, isRunChar c = true)
    (h : runLexeme seen = .name t) : Bare t := by
  unfold runLexeme at h
  split_ifs at h with hstart
  cases h
  exact bare_of_run hrun hstart

theorem bare_of_finish {mode : Mode} (hmode : mode.Sound) {t : String}
    (h : .name t ∈ mode.finish) : Bare t := by
  cases mode with
  | between => cases h
  | run seen => exact bare_of_runLexeme hmode (List.mem_singleton.1 h).symm
  | quoted seen => cases List.mem_singleton.1 h
  | closing seen =>
      have hlexeme := List.mem_singleton.1 h
      unfold quotedLexeme at hlexeme
      split_ifs at hlexeme

theorem Mode.Sound.extend {mode longer : Mode} (hmode : mode.Sound) {c : Char}
    (h : mode.extend? c = some longer) : longer.Sound := by
  obtain ⟨seen, rfl, hc, rfl⟩ | ⟨seen, _, rfl⟩ | ⟨seen, _, rfl⟩ := extend_cases h
  · intro d hd
    rcases List.mem_append.1 hd with hd | hd
    · exact hmode d hd
    · exact List.mem_singleton.1 hd ▸ hc
  · trivial
  · trivial

/-- Whatever text a bare name was read from, it is bare. -/
theorem bare_of_mem_lex {mode : Mode} (hmode : mode.Sound) {cs : List Char} {t : String}
    (h : .name t ∈ lex mode cs) : Bare t := by
  induction cs generalizing mode with
  | nil => exact bare_of_finish hmode h
  | cons c cs ih =>
      cases hextend : mode.extend? c with
      | some longer =>
          rw [lex_of_extend hextend] at h
          exact ih (hmode.extend hextend) h
      | none =>
          obtain ⟨hsound, hnone⟩ := enter_sound c
          rw [lex_of_not_extend hextend] at h
          rcases List.mem_append.1 h with h | h
          · exact bare_of_finish hmode h
          · exact ih hsound ((List.mem_append.1 h).resolve_left (hnone t))

/-- The number of characters that an open name took at least, its quotes among them. -/
def Mode.width : Mode → Nat
  | .quoted seen => seen.length + 1
  | .closing seen => seen.length + 2
  | _ => 0

theorem enter_width (c : Char) : (enter c).2.width ≤ 1 ∧ ∀ t, .quoted t ∉ (enter c).1 := by
  unfold enter
  split_ifs <;> simp [Mode.width]

theorem width_of_finish {mode : Mode} {t : String} (h : .quoted t ∈ mode.finish) :
    t.length + 2 ≤ mode.width := by
  cases mode with
  | between => cases h
  | run seen =>
      have hlexeme := List.mem_singleton.1 h
      unfold runLexeme at hlexeme
      split_ifs at hlexeme
  | quoted seen => cases List.mem_singleton.1 h
  | closing seen =>
      have hlexeme := List.mem_singleton.1 h
      unfold quotedLexeme at hlexeme
      split_ifs at hlexeme
      cases hlexeme
      exact Nat.le_of_eq (congrArg (· + 2) String.length_ofList)

theorem width_of_extend {mode longer : Mode} {c : Char} (h : mode.extend? c = some longer) :
    longer.width ≤ mode.width + 1 := by
  obtain ⟨seen, rfl, _, rfl⟩ | ⟨seen, rfl, rfl⟩ | ⟨seen, rfl | rfl, rfl⟩ := extend_cases h <;>
    simp [Mode.width]

/-- A name between quotes is shorter than the text that it was read from. -/
theorem length_of_mem_lex {mode : Mode} {cs : List Char} {t : String}
    (h : .quoted t ∈ lex mode cs) : t.length + 2 ≤ mode.width + cs.length := by
  induction cs generalizing mode with
  | nil => exact width_of_finish h
  | cons c cs ih =>
      rw [List.length_cons]
      cases hextend : mode.extend? c with
      | some longer =>
          rw [lex_of_extend hextend] at h
          have hlonger := width_of_extend hextend
          have hrest := ih h
          omega
      | none =>
          obtain ⟨(hwidth : (step .between c).2.width ≤ 1), hnone⟩ := enter_width c
          rw [lex_of_not_extend hextend] at h
          rcases List.mem_append.1 h with h | h
          · have hends := width_of_finish h
            omega
          · have hrest := ih ((List.mem_append.1 h).resolve_left (hnone t))
            omega

/-- A text is read as the name that it is exactly when the name can stand bare. -/
theorem nameOf?_lexemes {name : String} : nameOf? (lexemes name) = some name ↔ Bare name := by
  constructor
  · intro h
    unfold nameOf? at h
    split at h
    case h_2 => cases h
    case h_1 l hl =>
      have hmem : l ∈ lexemes name := hl ▸ List.mem_singleton_self l
      cases l with
      | name t =>
          have hsound : Mode.between.Sound := trivial
          exact Option.some.inj h ▸ bare_of_mem_lex hsound hmem
      | quoted t =>
          -- With its quotes the name would be longer than itself.
          cases Option.some.inj h
          have hlength : name.length + 2 ≤ 0 + name.toList.length := length_of_mem_lex hmem
          rw [String.length_toList] at hlength
          omega
      | number | mark | unread => cases h
  · intro h
    rw [lexemes_of_bare h]
    rfl

end SchemaModel.Sql
