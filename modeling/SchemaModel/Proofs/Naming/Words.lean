import SchemaModel.Engine
import SchemaModel.Proofs.Naming.Recomposing

/-!
# `SchemaModel.Proofs.Naming.Words` — names that both styles can spell

A list of words in small letters and digits has a spelling in either style, and either style reads
the same words off its own spelling. What the model derives from words is therefore the same for
both spellings of one name.

## Contents
- `Word`: a word of at least two small letters or digits, the first one a letter. `Name`: a list of
  them.
- `Name.text`: the spelling of a name in a style; `toList_text_snakeCase` and
  `toList_text_pascalCase` give its characters.
- `lowerWords_text`: a style reads off a spelling the words it was made of.
- **Comparison.** `text_injective`: in `snake_case` different names have different spellings.
  `Separated`: names that stay different without the borders of words; for those,
  `namesEqual_on` says that either engine tells them apart.
-/

namespace SchemaModel

open Text

/-! ## Words and names -/

/-- A word of small letters and digits. Both styles can spell it: it starts with a letter, and is
long enough for its capital to be told from the next one. -/
structure Word where
  chars : List Char
  long : 2 ≤ chars.length
  starts : chars.head?.any isAsciiLower = true
  plain : chars.all isWordChar = true
  deriving DecidableEq

namespace Word

/-- The word as a text. -/
def text (w : Word) : String := String.ofList w.chars

/-- The characters of a word with the first one in upper case. -/
def capital (w : Word) : List Char :=
  match w.chars with
  | [] => []
  | c :: rest => asciiUpper c :: rest

theorem ext_chars {w v : Word} (h : w.chars = v.chars) : w = v := by
  cases w
  cases v
  cases h
  rfl

theorem isWordChar_of_mem (w : Word) : ∀ c ∈ w.chars, isWordChar c = true :=
  List.all_eq_true.1 w.plain

theorem underscore_not_mem (w : Word) : '_' ∉ w.chars := by
  intro hmem
  have hword := w.isWordChar_of_mem '_' hmem
  cases hword

/-- A word is a letter and at least one more character. -/
theorem chars_cases (w : Word) :
    ∃ c d rest, w.chars = c :: d :: rest ∧ isAsciiLower c = true ∧
      ∀ x ∈ d :: rest, isWordChar x = true := by
  have hplain := w.isWordChar_of_mem
  have hstarts := w.starts
  have hlong := w.long
  rcases hchars : w.chars with _ | ⟨c, _ | ⟨d, rest⟩⟩
  · rw [hchars] at hlong
    cases hlong
  · rw [hchars] at hlong
    cases hlong with
    | step h => cases h
  · rw [hchars] at hplain hstarts
    refine ⟨c, d, rest, rfl, hstarts, ?_⟩
    intro x hx
    exact hplain x (List.mem_cons_of_mem c hx)

theorem chars_ne_nil (w : Word) : w.chars ≠ [] := by
  obtain ⟨c, d, rest, hchars, _⟩ := w.chars_cases
  rw [hchars]
  exact List.cons_ne_nil c _

theorem text_injective {w v : Word} (h : w.text = v.text) : w = v := by
  apply ext_chars
  have hchars := congrArg String.toList h
  unfold text at hchars
  rw [String.toList_ofList, String.toList_ofList] at hchars
  exact hchars

theorem lowercase_text (w : Word) : lowercase w.text = w.text := by
  unfold lowercase text
  rw [String.toList_ofList,
    lowerChars_of_ascii fun c hc => isWordChar.isAscii (w.isWordChar_of_mem c hc),
    map_asciiLower_of_word w.isWordChar_of_mem]

theorem capital_cases (w : Word) :
    ∃ c d rest, w.capital = asciiUpper c :: d :: rest ∧ isAsciiLower c = true ∧
      ∀ x ∈ d :: rest, isWordChar x = true := by
  obtain ⟨c, d, rest, hchars, hc, hrest⟩ := w.chars_cases
  refine ⟨c, d, rest, ?_, hc, hrest⟩
  unfold capital
  rw [hchars]

theorem map_asciiLower_capital (w : Word) : w.capital.map asciiLower = w.chars := by
  obtain ⟨c, d, rest, hchars, hc, hrest⟩ := w.chars_cases
  unfold capital
  rw [hchars, List.map_cons, asciiLower_asciiUpper hc, map_asciiLower_of_word hrest]

theorem mem_capital (w : Word) :
    ∀ c ∈ w.capital, isWordChar c = true ∨ isAsciiUpper c = true := by
  obtain ⟨c, d, rest, hcapital, hc, hrest⟩ := w.capital_cases
  rw [hcapital]
  intro x hx
  rcases List.mem_cons.1 hx with rfl | hx
  · exact Or.inr (isAsciiUpper_asciiUpper hc)
  · exact Or.inl (hrest x hx)

theorem isAscii_capital (w : Word) : ∀ c ∈ w.capital, isAscii c = true := by
  intro c hc
  rcases w.mem_capital c hc with hword | hupper
  · exact isWordChar.isAscii hword
  · exact isAsciiUpper.isAscii hupper

theorem lowercase_capital (w : Word) : lowercase (String.ofList w.capital) = w.text := by
  unfold lowercase text
  rw [String.toList_ofList, lowerChars_of_ascii w.isAscii_capital, w.map_asciiLower_capital]

/-- The characters of the word in the spelling of a style. -/
def spelled (w : Word) : NamingStyle → List Char
  | .snakeCase => w.chars
  | .pascalCase => w.capital

theorem lowercase_spelled (w : Word) (style : NamingStyle) :
    lowercase (String.ofList (w.spelled style)) = w.text := by
  cases style with
  | snakeCase => exact w.lowercase_text
  | pascalCase => exact w.lowercase_capital

theorem capitalized_text (w : Word) : NamingStyle.capitalized w.text = String.ofList w.capital := by
  obtain ⟨c, d, rest, hchars, hc, _⟩ := w.chars_cases
  have hascii := isWordChar.isAscii (isAsciiLower.isWordChar hc)
  unfold text capital
  rw [hchars]
  exact NamingStyle.capitalized_of_ascii hascii (d :: rest)

/-- A capital stays what it is when it is capitalized again. -/
theorem capitalized_capital (w : Word) :
    NamingStyle.capitalized (String.ofList w.capital) = String.ofList w.capital := by
  obtain ⟨c, d, rest, hcapital, hc, _⟩ := w.capital_cases
  have hupper := isAsciiUpper_asciiUpper hc
  rw [hcapital, NamingStyle.capitalized_of_ascii (isAsciiUpper.isAscii hupper),
    isAsciiUpper.asciiUpper hupper]

end Word

/-- A name: its words in order. -/
abbrev Name := List Word

namespace Name

/-- The spelling of a name in a style. -/
def text (name : Name) (style : NamingStyle) : String := style.compose (name.map Word.text)

/-- The characters of a name without the borders of its words. -/
def letters (name : Name) : List Char := name.flatMap Word.chars

theorem toList_text_snakeCase (name : Name) :
    (name.text .snakeCase).toList = List.intercalate ['_'] (name.map Word.chars) := by
  have hchars : name.map Word.text = (name.map Word.chars).map String.ofList := by
    rw [List.map_map]
    rfl
  unfold text
  rw [hchars, NamingStyle.toList_compose_snakeCase]
  · rw [List.map_map]
    congr 1
    exact List.map_congr_left fun w _ => map_asciiLower_of_word w.isWordChar_of_mem
  · intro word hword
    obtain ⟨w, _, rfl⟩ := List.mem_map.1 hword
    exact w.chars_ne_nil
  · intro word hword c hc
    obtain ⟨w, _, rfl⟩ := List.mem_map.1 hword
    exact isWordChar.isAscii (w.isWordChar_of_mem c hc)

theorem toList_text_pascalCase (name : Name) :
    (name.text .pascalCase).toList = name.flatMap Word.capital := by
  unfold text NamingStyle.compose
  dsimp only
  rw [String.toList_join, List.map_map, List.flatMap_map]
  congr 1
  funext w
  rw [Function.comp_apply, w.capitalized_text, String.toList_ofList]

/-! ## Reading words off a spelling -/

/-- Words with underscores between, the first one taken off. -/
theorem intercalate_chars (w v : Word) (rest : List Word) :
    List.intercalate ['_'] ((w :: v :: rest).map Word.chars) =
      w.chars ++ '_' :: List.intercalate ['_'] ((v :: rest).map Word.chars) := by
  rw [List.map_cons, List.map_cons, List.intercalate_cons_cons, List.append_assoc,
    List.singleton_append]

theorem snakeWords_text (name : Name) :
    NamingStyle.snakeWords (List.intercalate ['_'] (name.map Word.chars)) =
      name.map Word.chars := by
  apply NamingStyle.snakeWords_intercalate
  intro word hword
  obtain ⟨w, _, rfl⟩ := List.mem_map.1 hword
  exact ⟨w.chars_ne_nil, w.underscore_not_mem⟩

/-- Small letters and digits continue the word that they stand in. -/
theorem pascalPieces_append {cs more : List Char} {pieces : List (List Char)}
    (hcs : ∀ c ∈ cs, isWordChar c = true)
    (hmore : ∀ b, isWordChar b = true → NamingStyle.pascalPieces b more = [] :: pieces)
    {before : Char} (hbefore : cs = [] → isWordChar before = true) :
    NamingStyle.pascalPieces before (cs ++ more) = cs :: pieces := by
  induction cs generalizing before with
  | nil => exact hmore before (hbefore rfl)
  | cons c rest ih =>
      have hc := hcs c List.mem_cons_self
      have hstarts : ∀ next, NamingStyle.startsWord before c next = false := by
        intro next
        unfold NamingStyle.startsWord
        rw [isWordChar.isUpper hc, Bool.false_and]
      rw [List.cons_append]
      unfold NamingStyle.pascalPieces
      rw [ih (fun d hd => hcs d (List.mem_cons_of_mem c hd)) fun _ => hc, hstarts]
      rfl

/-- After a character that ends a word, every capital starts the next one. -/
theorem pascalPieces_flatMap (name : Name) :
    ∀ b, isWordChar b = true →
      NamingStyle.pascalPieces b (name.flatMap Word.capital) = [] :: name.map Word.capital := by
  induction name with
  | nil => exact fun _ _ => rfl
  | cons w more ih =>
      intro b hb
      obtain ⟨c, d, rest, hcapital, hc, hrest⟩ := w.capital_cases
      have hstarts : ∀ next, NamingStyle.startsWord b (asciiUpper c) next = true := by
        intro next
        unfold NamingStyle.startsWord
        rw [isUpper_asciiUpper hc, isWordChar.endsWord hb]
        rfl
      rw [List.flatMap_cons, List.map_cons, hcapital, List.cons_append]
      unfold NamingStyle.pascalPieces
      have hne : d :: rest ≠ [] := List.cons_ne_nil d rest
      rw [pascalPieces_append hrest ih fun hnil => absurd hnil hne, hstarts]
      rfl

theorem pascalWords_flatMap (name : Name) :
    NamingStyle.pascalWords (name.flatMap Word.capital) = name.map Word.capital := by
  cases name with
  | nil => rfl
  | cons w more =>
      obtain ⟨c, d, rest, hcapital, _, hrest⟩ := w.capital_cases
      rw [List.flatMap_cons, List.map_cons, hcapital, List.cons_append]
      have hne : d :: rest ≠ [] := List.cons_ne_nil d rest
      unfold NamingStyle.pascalWords
      dsimp only
      rw [pascalPieces_append hrest (pascalPieces_flatMap more) fun hnil => absurd hnil hne]

/-- Each style takes its own spelling of a name apart into the words as it spells them. -/
theorem words_text (name : Name) (style : NamingStyle) :
    style.words (name.text style) = name.map fun w => String.ofList (w.spelled style) := by
  cases style with
  | snakeCase =>
      unfold NamingStyle.words
      dsimp only
      rw [toList_text_snakeCase, snakeWords_text, List.map_map]
      rfl
  | pascalCase =>
      unfold NamingStyle.words
      dsimp only
      rw [toList_text_pascalCase, pascalWords_flatMap, List.map_map]
      rfl

/-- Each style reads off its own spelling of a name the words that the name is made of. -/
theorem lowerWords_text (name : Name) (style : NamingStyle) :
    style.lowerWords (name.text style) = name.map Word.text := by
  unfold NamingStyle.lowerWords
  rw [words_text, List.map_map]
  exact List.map_congr_left fun w _ => w.lowercase_spelled style

/-! ## Comparison -/

theorem map_text_injective {name other : Name}
    (h : name.map Word.text = other.map Word.text) : name = other :=
  (List.map_inj_right fun _ _ => Word.text_injective).1 h

/-- Each style spells different names differently. -/
theorem text_injective {name other : Name} {style : NamingStyle}
    (h : name.text style = other.text style) : name = other := by
  apply map_text_injective
  rw [← lowerWords_text name style, ← lowerWords_text other style, h]

theorem map_asciiLower_text_pascalCase (name : Name) :
    (name.text .pascalCase).toList.map asciiLower = name.letters := by
  rw [toList_text_pascalCase, List.map_flatMap]
  unfold letters
  congr 1
  funext w
  exact w.map_asciiLower_capital

end Name

/-- The customary spelling of a name in an engine. -/
def Name.on (name : Name) (engine : Engine) : String := name.text engine.defaultNaming

/-- Names that differ in their words differ in their letters as well. -/
def Separated (names : List Name) : Prop :=
  ∀ a ∈ names, ∀ b ∈ names, a.letters = b.letters → a = b

instance (names : List Name) : Decidable (Separated names) :=
  inferInstanceAs (Decidable (∀ a ∈ names, ∀ b ∈ names, a.letters = b.letters → a = b))

/-- Of separated names, either engine tells any two apart in its customary spelling. -/
theorem namesEqual_on {names : List Name} (h : Separated names) (engine : Engine) {a b : Name}
    (ha : a ∈ names) (hb : b ∈ names) :
    engine.namesEqual (a.on engine) (b.on engine) = decide (a = b) := by
  rw [Bool.eq_iff_iff, decide_eq_true_eq]
  constructor
  · intro hsame
    cases engine with
    | postgres => exact Name.text_injective (beq_iff_eq.1 hsame)
    | sqlServer =>
        unfold Engine.namesEqual eqIgnoreAsciiCase at hsame
        rw [beq_iff_eq] at hsame
        apply h a ha b hb
        rw [← Name.map_asciiLower_text_pascalCase a, ← Name.map_asciiLower_text_pascalCase b]
        exact hsame
  · rintro rfl
    exact engine.namesEqual_refl _

end SchemaModel
