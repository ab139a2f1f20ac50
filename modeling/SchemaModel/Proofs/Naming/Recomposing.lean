import SchemaModel.Naming
import SchemaModel.Proofs.Text.Letters
import SchemaModel.Proofs.Text.Pieces
import Mathlib.Data.List.Infix

/-!
# `SchemaModel.Proofs.Naming.Recomposing` — names taken apart and put together again

A style takes every name apart, also one that it would not have made. Put together again, the words
give a name that the style would have made: `snake_case` drops empty words and capitals, and
`PascalCase` gives the first word a capital. A second time changes nothing, and what the name says
without letter case and separators stays.

## Contents
- **Words at underscores.** `mem_snakeWords`, `snakeWords_intercalate`: they are neither empty nor
  divided further, and are found again where they are joined.
- **Words at capitals.** `flatten_pascalWords`: no character is lost; `startsUpper_of_mem_tail`:
  every word but the first starts with a capital.
- **Composing.** The characters that each style makes of words.
- `recomposed`: a name taken apart and put together again. `Tidy`: a name that `snake_case` leaves
  as it is. `recomposed_stable`: what holds of all names of ASCII characters.
-/

namespace SchemaModel

open Text

namespace NamingStyle

/-! ## Words at underscores -/

theorem snakeWords_eq_splitOn (cs : List Char) :
    snakeWords cs = (cs.splitOn '_').filter fun piece => !piece.isEmpty := by
  unfold snakeWords
  rw [pieces_eq_splitOn]

theorem mem_snakeWords {cs word : List Char} (h : word ∈ snakeWords cs) :
    word ≠ [] ∧ ∀ c ∈ word, c ∈ cs ∧ c ≠ '_' := by
  obtain ⟨hpiece, hne⟩ := List.mem_filter.1 h
  refine ⟨List.isEmpty_eq_false_iff.1 (Bool.not_eq_true' _ ▸ hne), fun c hc => ?_⟩
  obtain ⟨hmem, hsep⟩ := mem_of_mem_pieces hpiece hc
  exact ⟨hmem, ne_of_beq_false hsep⟩

theorem snakeWords_intercalate {words : List (List Char)}
    (h : ∀ word ∈ words, word ≠ [] ∧ '_' ∉ word) :
    snakeWords (List.intercalate ['_'] words) = words := by
  cases words with
  | nil => rfl
  | cons first more =>
      rw [snakeWords_eq_splitOn,
        List.splitOn_intercalate '_' (fun word hword => (h word hword).2) (List.cons_ne_nil _ _),
        List.filter_eq_self]
      intro word hword
      rw [Bool.not_eq_true', List.isEmpty_eq_false_iff]
      exact (h word hword).1

/-! ## Words at capitals -/

theorem pascalPieces_ne_nil (before : Char) (cs : List Char) : pascalPieces before cs ≠ [] := by
  cases cs with
  | nil => exact List.cons_ne_nil _ _
  | cons c rest =>
      unfold pascalPieces
      split
      · exact List.cons_ne_nil _ _
      · split <;> exact List.cons_ne_nil _ _

theorem pascalPieces_cons (before c : Char) (rest : List Char) :
    pascalPieces before (c :: rest) =
      if startsWord before c rest.head? then [] :: onto [c] (pascalPieces c rest)
      else onto [c] (pascalPieces c rest) := by
  obtain ⟨piece, more, hmore⟩ := List.exists_cons_of_ne_nil (pascalPieces_ne_nil c rest)
  rw [pascalPieces, hmore]
  rfl

theorem pascalWords_cons (c : Char) (rest : List Char) :
    pascalWords (c :: rest) = onto [c] (pascalPieces c rest) := by
  exact (onto_singleton c (pascalPieces c rest)).symm

theorem flatten_pascalPieces (before : Char) (cs : List Char) :
    (pascalPieces before cs).flatten = cs := by
  induction cs generalizing before with
  | nil => rfl
  | cons c rest ih =>
      have honto : (onto [c] (pascalPieces c rest)).flatten = c :: rest := by
        rw [flatten_onto, ih]
        rfl
      rw [pascalPieces_cons]
      split
      · exact honto
      · exact honto

/-- Put side by side, the words are the name. -/
theorem flatten_pascalWords (cs : List Char) : (pascalWords cs).flatten = cs := by
  cases cs with
  | nil => rfl
  | cons c rest =>
      rw [pascalWords_cons, flatten_onto, flatten_pascalPieces]
      rfl

/-- Every piece but the first starts with a capital. -/
theorem startsUpper_of_mem_tail {before : Char} {cs piece : List Char}
    (h : piece ∈ (pascalPieces before cs).tail) :
    ∃ c rest, piece = c :: rest ∧ isUpper c = true := by
  induction cs generalizing before with
  | nil => cases h
  | cons c rest ih =>
      obtain ⟨first, more, hmore⟩ := List.exists_cons_of_ne_nil (pascalPieces_ne_nil c rest)
      have hlater : piece ∈ more → ∃ c rest, piece = c :: rest ∧ isUpper c = true := by
        intro hpiece
        have htail : piece ∈ (pascalPieces c rest).tail := by
          rw [hmore]
          exact hpiece
        exact ih htail
      rw [pascalPieces_cons, hmore, onto_cons] at h
      split at h
      · rename_i hstarts
        rcases List.mem_cons.1 h with rfl | hpiece
        · exact ⟨c, first, rfl, (Bool.and_eq_true_iff.1 hstarts).1⟩
        · exact hlater hpiece
      · exact hlater h

/-- The words of a name that is not empty: the first one starts like the name, and the others with
capitals. -/
theorem exists_pascalWords (c : Char) (rest : List Char) :
    ∃ first more, pascalWords (c :: rest) = (c :: first) :: more ∧ first ++ more.flatten = rest ∧
      ∀ word ∈ more, ∃ d others, word = d :: others ∧ isUpper d = true := by
  obtain ⟨first, more, hmore⟩ := List.exists_cons_of_ne_nil (pascalPieces_ne_nil c rest)
  refine ⟨first, more, ?_, ?_, fun word hword => ?_⟩
  · rw [pascalWords_cons, hmore]
    rfl
  · rw [← List.flatten_cons, ← hmore, flatten_pascalPieces]
  · have htail : word ∈ (pascalPieces c rest).tail := by
      rw [hmore]
      exact hword
    exact startsUpper_of_mem_tail htail

theorem pascalWords_ne_nil {cs word : List Char} (h : word ∈ pascalWords cs) : word ≠ [] := by
  cases cs with
  | nil => cases h
  | cons c rest =>
      obtain ⟨first, more, hwords, _, hmore⟩ := exists_pascalWords c rest
      rw [hwords] at h
      rcases List.mem_cons.1 h with rfl | hword
      · exact List.cons_ne_nil c first
      · obtain ⟨d, others, rfl, _⟩ := hmore word hword
        exact List.cons_ne_nil d others

/-! ## Composing -/

section Composing

variable {words : List (List Char)}

theorem map_lowercase_ofList (hascii : ∀ word ∈ words, ∀ c ∈ word, isAscii c = true) :
    (words.map String.ofList).map lowercase =
      (words.map (List.map asciiLower)).map String.ofList := by
  rw [List.map_map, List.map_map]
  exact List.map_congr_left fun word hword => lowercase_ofList (hascii word hword)

theorem map_toList_ofList (words : List (List Char)) :
    (words.map String.ofList).map String.toList = words := by
  rw [List.map_map]
  exact (List.map_congr_left fun _ _ => String.toList_ofList).trans (List.map_id words)

theorem toList_compose_snakeCase (hne : ∀ word ∈ words, word ≠ [])
    (hascii : ∀ word ∈ words, ∀ c ∈ word, isAscii c = true) :
    (snakeCase.compose (words.map String.ofList)).toList =
      List.intercalate ['_'] (words.map (List.map asciiLower)) := by
  have hall : (words.map String.ofList).filter (fun word => word != "") =
      words.map String.ofList := by
    rw [List.filter_eq_self]
    intro text htext
    obtain ⟨word, hword, rfl⟩ := List.mem_map.1 htext
    rw [bne_iff_ne]
    intro hempty
    exact hne word hword (by rw [← String.toList_ofList (l := word), hempty]; rfl)
  unfold compose joined
  dsimp only
  rw [hall, String.toList_intercalate, map_lowercase_ofList hascii, map_toList_ofList]
  rfl

theorem toList_capitalized (c : Char) (rest : List Char) :
    (capitalized (String.ofList (c :: rest))).toList = upperChar c ++ rest := by
  unfold capitalized
  rw [String.toList_ofList]
  exact String.toList_ofList

theorem upperChar_of_ascii {c : Char} (h : isAscii c = true) : upperChar c = [asciiUpper c] := by
  unfold upperChar
  rw [if_pos h]

theorem asciiUpper_of_not_lower {c : Char} (h : isAsciiLower c = false) : asciiUpper c = c := by
  unfold asciiUpper
  rw [if_neg (Bool.eq_false_iff.1 h)]

theorem isAsciiLower_asciiUpper (c : Char) : isAsciiLower (asciiUpper c) = false := by
  by_cases h : isAsciiLower c = true
  · have hvalue := toNat_asciiUpper h
    rw [isAsciiLower_iff] at h
    rw [Bool.eq_false_iff, ne_eq, isAsciiLower_iff]
    omega
  · rw [asciiUpper_of_not_lower (Bool.eq_false_iff.2 h)]
    exact Bool.eq_false_iff.2 h

theorem isAscii_asciiUpper (c : Char) : isAscii (asciiUpper c) = isAscii c := by
  rw [← isAscii_asciiLower (asciiUpper c), asciiLower_asciiUpper_eq, isAscii_asciiLower]

theorem capitalized_of_ascii {c : Char} (h : isAscii c = true) (rest : List Char) :
    capitalized (String.ofList (c :: rest)) = String.ofList (asciiUpper c :: rest) := by
  rw [← String.toList_inj, toList_capitalized, upperChar_of_ascii h, String.toList_ofList]
  rfl

theorem asciiUpper_of_isUpper {c : Char} (hascii : isAscii c = true) (h : isUpper c = true) :
    asciiUpper c = c := by
  unfold isUpper at h
  rw [if_pos hascii] at h
  exact isAsciiUpper.asciiUpper h

/-- Words at capitals are put side by side, and only the first one can change. -/
theorem compose_pascalWords {cs : List Char} (hascii : ∀ c ∈ cs, isAscii c = true) :
    pascalCase.compose ((pascalWords cs).map String.ofList) = capitalized (String.ofList cs) := by
  rw [← String.toList_inj]
  unfold compose
  dsimp only
  rw [String.toList_join, List.map_map, List.flatMap_map]
  cases cs with
  | nil => rfl
  | cons c rest =>
      obtain ⟨first, more, hwords, hrest, hmore⟩ := exists_pascalWords c rest
      have hsame : ∀ word ∈ more, (capitalized (String.ofList word)).toList = word := by
        intro word hword
        obtain ⟨d, others, rfl, hd⟩ := hmore word hword
        have hmem : d ∈ first ++ more.flatten :=
          List.mem_append_right _ (List.mem_flatten_of_mem hword List.mem_cons_self)
        have hd' : isAscii d = true := hascii d (List.mem_cons_of_mem c (hrest ▸ hmem))
        rw [capitalized_of_ascii hd', String.toList_ofList, asciiUpper_of_isUpper hd' hd]
      have hothers : more.flatMap (fun word => (capitalized (String.ofList word)).toList) =
          more.flatten := by
        rw [List.flatMap_def, List.map_congr_left hsame, List.map_id']
      rw [hwords, List.flatMap_cons, Function.comp_def, toList_capitalized, toList_capitalized,
        List.append_assoc, hothers, hrest]

/-- Without letter case, words put side by side are the name without letter case. -/
theorem join_lowercase (hascii : ∀ word ∈ words, ∀ c ∈ word, isAscii c = true) :
    String.join ((words.map String.ofList).map lowercase) =
      String.ofList (words.flatten.map asciiLower) := by
  rw [map_lowercase_ofList hascii, ← String.toList_inj, String.toList_join, String.toList_ofList,
    List.map_flatten, List.flatMap_def, map_toList_ofList]

end Composing

/-! ## Names taken apart and put together again -/

/-- The name that the words of a name make. -/
def recomposed (style : NamingStyle) (name : String) : String := style.compose (style.words name)

theorem canonical_eq_join {style : NamingStyle} {name : String} (h : style.words name ≠ []) :
    style.canonical name = String.join (style.lowerWords name) := by
  unfold canonical lowerWords
  obtain ⟨first, more, hmore⟩ := List.exists_cons_of_ne_nil h
  rw [hmore]
  rfl

section Ascii

variable {cs : List Char} (hcs : ∀ c ∈ cs, isAscii c = true)

include hcs

/-! ### At capitals -/

theorem recomposed_pascalCase :
    pascalCase.recomposed (String.ofList cs) = capitalized (String.ofList cs) := by
  unfold recomposed words
  rw [String.toList_ofList]
  exact compose_pascalWords hcs

theorem canonical_pascalCase :
    pascalCase.canonical (String.ofList cs) = String.ofList (cs.map asciiLower) := by
  have hascii : ∀ word ∈ pascalWords cs, ∀ c ∈ word, isAscii c = true := by
    intro word hword c hc
    apply hcs
    rw [← flatten_pascalWords cs]
    exact List.mem_flatten_of_mem hword hc
  cases cs with
  | nil => rfl
  | cons c rest =>
      have hwords : pascalCase.words (String.ofList (c :: rest)) =
          (pascalWords (c :: rest)).map String.ofList := by
        unfold words
        rw [String.toList_ofList]
      rw [canonical_eq_join, lowerWords, hwords, join_lowercase hascii, flatten_pascalWords]
      rw [hwords, pascalWords_cons, ne_eq, List.map_eq_nil_iff]
      exact onto_ne_nil _ _

omit hcs in
theorem join_pascalCase (cs : List Char) :
    String.join (pascalCase.words (String.ofList cs)) = String.ofList cs := by
  unfold words
  rw [← String.toList_inj, String.toList_join, List.flatMap_def, map_toList_ofList,
    String.toList_ofList, flatten_pascalWords]

/-- The first letter of a capitalized text is a capital already. -/
theorem recomposed_recomposed_pascalCase :
    pascalCase.recomposed (pascalCase.recomposed (String.ofList cs)) =
      pascalCase.recomposed (String.ofList cs) := by
  cases cs with
  | nil => rfl
  | cons c rest =>
      obtain ⟨hc, hrest⟩ := List.forall_mem_cons.1 hcs
      have hupper : isAscii (asciiUpper c) = true := (isAscii_asciiUpper c).trans hc
      rw [recomposed_pascalCase hcs, capitalized_of_ascii hc,
        recomposed_pascalCase (List.forall_mem_cons.2 ⟨hupper, hrest⟩),
        capitalized_of_ascii hupper, asciiUpper_of_not_lower (isAsciiLower_asciiUpper c)]

theorem canonical_recomposed_pascalCase :
    pascalCase.canonical (pascalCase.recomposed (String.ofList cs)) =
      pascalCase.canonical (String.ofList cs) := by
  cases cs with
  | nil => rfl
  | cons c rest =>
      obtain ⟨hc, hrest⟩ := List.forall_mem_cons.1 hcs
      have hupper : isAscii (asciiUpper c) = true := (isAscii_asciiUpper c).trans hc
      rw [recomposed_pascalCase hcs, capitalized_of_ascii hc, canonical_pascalCase hcs,
        canonical_pascalCase (List.forall_mem_cons.2 ⟨hupper, hrest⟩), List.map_cons,
        List.map_cons, asciiLower_asciiUpper_eq]

theorem recomposed_pascalCase_eq (h : cs.head?.any isLower = false) :
    pascalCase.recomposed (String.ofList cs) = String.ofList cs := by
  rw [recomposed_pascalCase hcs]
  cases cs with
  | nil => rfl
  | cons c rest =>
      have hc : isAscii c = true := hcs c List.mem_cons_self
      have hlower : isAsciiLower c = false := by
        rw [List.head?_cons, Option.any_some, isLower, if_pos hc] at h
        exact h
      rw [capitalized_of_ascii hc, asciiUpper_of_not_lower hlower]

/-! ### At underscores -/

omit hcs in
theorem words_snakeCase (cs : List Char) :
    snakeCase.words (String.ofList cs) = (snakeWords cs).map String.ofList := by
  unfold words
  rw [String.toList_ofList]

theorem ascii_of_mem_snakeWords : ∀ word ∈ snakeWords cs, ∀ c ∈ word, isAscii c = true :=
  fun _ hword c hc => hcs c ((mem_snakeWords hword).2 c hc).1

theorem lowerWords_snakeCase :
    snakeCase.lowerWords (String.ofList cs) =
      ((snakeWords cs).map (List.map asciiLower)).map String.ofList := by
  unfold lowerWords
  rw [words_snakeCase, map_lowercase_ofList (ascii_of_mem_snakeWords hcs)]

theorem toList_recomposed_snakeCase :
    (snakeCase.recomposed (String.ofList cs)).toList =
      List.intercalate ['_'] ((snakeWords cs).map (List.map asciiLower)) := by
  unfold recomposed
  rw [words_snakeCase]
  exact toList_compose_snakeCase (fun _ hword => (mem_snakeWords hword).1)
    (ascii_of_mem_snakeWords hcs)

omit hcs in
/-- Small letters leave words words. -/
theorem mem_smallWords {word : List Char} (h : word ∈ (snakeWords cs).map (List.map asciiLower)) :
    word ≠ [] ∧ '_' ∉ word := by
  obtain ⟨own, hown, rfl⟩ := List.mem_map.1 h
  obtain ⟨hne, hchars⟩ := mem_snakeWords hown
  refine ⟨fun hnil => hne (List.map_eq_nil_iff.1 hnil), fun hmem => ?_⟩
  obtain ⟨c, hc, hlower⟩ := List.mem_map.1 hmem
  have hsame := asciiLower_eq_underscore c
  rw [hlower, beq_self_eq_true] at hsame
  exact (hchars c hc).2 (beq_iff_eq.1 hsame.symm)

/-- Put together again, a name has its words in small letters. -/
theorem words_recomposed_snakeCase :
    snakeCase.words (snakeCase.recomposed (String.ofList cs)) =
      snakeCase.lowerWords (String.ofList cs) := by
  rw [lowerWords_snakeCase hcs]
  unfold words
  dsimp only
  rw [toList_recomposed_snakeCase hcs, snakeWords_intercalate fun _ hword => mem_smallWords hword]

omit hcs in
theorem map_asciiLower_twice (words : List (List Char)) :
    (words.map (List.map asciiLower)).map (List.map asciiLower) =
      words.map (List.map asciiLower) := by
  rw [List.map_map]
  refine List.map_congr_left fun word _ => ?_
  rw [Function.comp_apply, List.map_map]
  exact List.map_congr_left fun c _ => asciiLower_asciiLower c

theorem ascii_of_mem_smallWords :
    ∀ word ∈ (snakeWords cs).map (List.map asciiLower), ∀ c ∈ word, isAscii c = true := by
  intro word hword c hc
  obtain ⟨own, hown, rfl⟩ := List.mem_map.1 hword
  obtain ⟨d, hd, rfl⟩ := List.mem_map.1 hc
  rw [isAscii_asciiLower]
  exact ascii_of_mem_snakeWords hcs own hown d hd

theorem recomposed_recomposed_snakeCase :
    snakeCase.recomposed (snakeCase.recomposed (String.ofList cs)) =
      snakeCase.recomposed (String.ofList cs) := by
  rw [← String.toList_inj, toList_recomposed_snakeCase hcs, recomposed,
    words_recomposed_snakeCase hcs, lowerWords_snakeCase hcs,
    toList_compose_snakeCase (fun _ hword => (mem_smallWords hword).1)
      (ascii_of_mem_smallWords hcs),
    map_asciiLower_twice]

theorem lowerWords_recomposed_snakeCase :
    snakeCase.lowerWords (snakeCase.recomposed (String.ofList cs)) =
      snakeCase.lowerWords (String.ofList cs) := by
  rw [lowerWords, words_recomposed_snakeCase hcs, lowerWords_snakeCase hcs,
    map_lowercase_ofList (ascii_of_mem_smallWords hcs), map_asciiLower_twice]

end Ascii

/-! ### Tidy names -/

/-- The name has no capitals, and underscores only one by one between other characters. -/
structure Tidy (name : String) : Prop where
  small : ∀ c ∈ name.toList, isUpper c = false
  notFirst : name.toList.head? ≠ some '_'
  notLast : name.toList.getLast? ≠ some '_'
  notTwice : ¬['_', '_'] <:+: name.toList

-- Characters are looked for in the name, not among all that there are.
instance (name : String) : Decidable (Tidy name) :=
  letI : Decidable (∀ c ∈ name.toList, isUpper c = false) := List.decidableBAll _ _
  decidable_of_iff ((∀ c ∈ name.toList, isUpper c = false) ∧ name.toList.head? ≠ some '_' ∧
      name.toList.getLast? ≠ some '_' ∧ ¬['_', '_'] <:+: name.toList)
    ⟨fun ⟨hsmall, hfirst, hlast, htwice⟩ => ⟨hsmall, hfirst, hlast, htwice⟩,
      fun ⟨hsmall, hfirst, hlast, htwice⟩ => ⟨hsmall, hfirst, hlast, htwice⟩⟩

theorem splitOn_cons_of_ne {c : Char} (h : c ≠ '_') (rest : List Char) :
    ∃ first more, rest.splitOn '_' = first :: more ∧
      (c :: rest).splitOn '_' = (c :: first) :: more := by
  obtain ⟨first, more, hmore⟩ := List.exists_cons_of_ne_nil (List.splitOn_ne_nil '_' rest)
  refine ⟨first, more, hmore, ?_⟩
  rw [List.splitOn_cons_eq_if_modifyHead, if_neg fun heq => h (beq_iff_eq.1 heq), hmore]
  rfl

/-- Behind the first piece there are empty ones only where an underscore stands last or follows
another one. -/
theorem ne_nil_of_mem_tail {cs : List Char} (hlast : cs.getLast? ≠ some '_')
    (htwice : ¬['_', '_'] <:+: cs) : ∀ piece ∈ (cs.splitOn '_').tail, piece ≠ [] := by
  induction cs with
  | nil => exact fun _ hpiece => absurd hpiece List.not_mem_nil
  | cons c rest ih =>
      have hrest : ¬['_', '_'] <:+: rest :=
        fun h => htwice (h.trans (List.suffix_cons c rest).isInfix)
      by_cases hc : c = '_'
      · subst hc
        have htail : (('_' :: rest).splitOn '_').tail = rest.splitOn '_' := by
          rw [List.splitOn_cons_eq_if_modifyHead, if_pos (beq_self_eq_true '_')]
          rfl
        rw [htail]
        cases rest with
        | nil => exact absurd rfl hlast
        | cons d others =>
            have hd : d ≠ '_' := by
              rintro rfl
              exact htwice ⟨[], others, rfl⟩
            have hmore := ih hlast hrest
            obtain ⟨first, more, _, hsplit⟩ := splitOn_cons_of_ne hd others
            rw [hsplit] at hmore ⊢
            intro piece hpiece
            rcases List.mem_cons.1 hpiece with rfl | hpiece
            · exact List.cons_ne_nil d first
            · exact hmore piece hpiece
      · obtain ⟨first, more, hfirst, hsplit⟩ := splitOn_cons_of_ne hc rest
        have hlast' : rest.getLast? ≠ some '_' := by
          cases rest with
          | nil => exact nofun
          | cons d others => exact hlast
        have hmore := ih hlast' hrest
        rw [hfirst] at hmore
        rw [hsplit]
        exact hmore

/-- The words of a tidy name are all the pieces between underscores. -/
theorem snakeWords_of_tidy {cs : List Char} (h : Tidy (String.ofList cs)) (hne : cs ≠ []) :
    snakeWords cs = cs.splitOn '_' := by
  obtain ⟨_, hfirst, hlast, htwice⟩ := h
  rw [String.toList_ofList] at hfirst hlast htwice
  obtain ⟨c, rest, rfl⟩ := List.exists_cons_of_ne_nil hne
  have hc : c ≠ '_' := by
    rintro rfl
    exact hfirst rfl
  have htail := ne_nil_of_mem_tail hlast htwice
  obtain ⟨first, more, _, hsplit⟩ := splitOn_cons_of_ne hc rest
  rw [hsplit] at htail
  rw [snakeWords_eq_splitOn, List.filter_eq_self]
  intro piece hpiece
  rw [Bool.not_eq_true', List.isEmpty_eq_false_iff]
  rw [hsplit] at hpiece
  rcases List.mem_cons.1 hpiece with rfl | hpiece
  · exact List.cons_ne_nil c first
  · exact htail piece hpiece

/-- The words of a tidy name are in small letters already. -/
theorem smallWords_of_tidy {cs : List Char} (hcs : ∀ c ∈ cs, isAscii c = true)
    (h : Tidy (String.ofList cs)) : (snakeWords cs).map (List.map asciiLower) = snakeWords cs := by
  have hsmall : ∀ word ∈ snakeWords cs, word.map asciiLower = word := by
    intro word hword
    refine (List.map_congr_left fun c hc => ?_).trans (List.map_id word)
    have hmem := ((mem_snakeWords hword).2 c hc).1
    have hupper := h.small c (String.toList_ofList ▸ hmem)
    rw [isUpper, if_pos (hcs c hmem)] at hupper
    exact if_neg (Bool.eq_false_iff.1 hupper)
  exact (List.map_congr_left hsmall).trans (List.map_id' _)

/-- A tidy name is put together again as it was. -/
theorem recomposed_snakeCase_eq {cs : List Char} (hcs : ∀ c ∈ cs, isAscii c = true)
    (h : Tidy (String.ofList cs)) : snakeCase.recomposed (String.ofList cs) = String.ofList cs := by
  by_cases hne : cs = []
  · subst hne
    rfl
  · rw [← String.toList_inj, toList_recomposed_snakeCase hcs, smallWords_of_tidy hcs h,
      snakeWords_of_tidy h hne, List.intercalate_splitOn, String.toList_ofList]

/-! ### Together -/

/-- What taking a name apart and putting it together again keeps. -/
structure RoundTrip (style : NamingStyle) (name : String) : Prop where
  nonempty : ∀ word ∈ style.words name, word ≠ ""
  stable : style.recomposed (style.recomposed name) = style.recomposed name
  canonical : style.words name ≠ [] →
    style.canonical (style.recomposed name) = style.canonical name

theorem ofList_ne_empty {word : List Char} (h : word ≠ []) : String.ofList word ≠ "" := by
  rw [ne_eq, ← String.toList_inj, String.toList_ofList]
  exact h

theorem roundTrip_pascalCase {cs : List Char} (hcs : ∀ c ∈ cs, isAscii c = true) :
    RoundTrip pascalCase (String.ofList cs) where
  nonempty := by
    unfold words
    rw [String.toList_ofList]
    intro text htext
    obtain ⟨word, hword, rfl⟩ := List.mem_map.1 htext
    exact ofList_ne_empty (pascalWords_ne_nil hword)
  stable := recomposed_recomposed_pascalCase hcs
  canonical := fun _ => canonical_recomposed_pascalCase hcs

theorem roundTrip_snakeCase {cs : List Char} (hcs : ∀ c ∈ cs, isAscii c = true) :
    RoundTrip snakeCase (String.ofList cs) where
  nonempty := by
    rw [words_snakeCase]
    intro text htext
    obtain ⟨word, hword, rfl⟩ := List.mem_map.1 htext
    exact ofList_ne_empty (mem_snakeWords hword).1
  stable := recomposed_recomposed_snakeCase hcs
  canonical := by
    intro hne
    have hne' : snakeCase.words (snakeCase.recomposed (String.ofList cs)) ≠ [] := by
      rw [words_recomposed_snakeCase hcs]
      exact fun hnil => hne (List.map_eq_nil_iff.1 hnil)
    rw [canonical_eq_join hne, canonical_eq_join hne', lowerWords_recomposed_snakeCase hcs]

/-- Of every ASCII name, either style finds words that are not empty, and puts them together to a
name that it would make again and that says the same. `PascalCase` loses no character and gives at
most the first one a capital; `snake_case` finds what stands between underscores, and leaves a tidy
name as it is. -/
theorem recomposed_stable {name : String} (h : ∀ c ∈ name.toList, isAscii c = true) :
    (∀ style, RoundTrip style name) ∧
      (String.join (pascalCase.words name) = name ∧
        (name.toList.head?.any isLower = false → pascalCase.recomposed name = name)) ∧
      (snakeCase.words name =
          ((name.toList.splitOn '_').filter fun piece => !piece.isEmpty).map String.ofList ∧
        (Tidy name → snakeCase.recomposed name = name)) := by
  obtain ⟨cs, rfl⟩ := name.exists_eq_ofList
  rw [String.toList_ofList] at h ⊢
  refine ⟨?_, ⟨join_pascalCase cs, recomposed_pascalCase_eq h⟩, ?_, recomposed_snakeCase_eq h⟩
  · intro style
    cases style with
    | snakeCase => exact roundTrip_snakeCase h
    | pascalCase => exact roundTrip_pascalCase h
  · rw [words_snakeCase, snakeWords_eq_splitOn]

/-- An acronym, a digit before a capital, and underscores at both ends; a name that starts with a
capital, and one that is tidy. -/
theorem recomposed_stable_acronym :
    (∀ style, RoundTrip style "_parseHTTP2Reply__XMLDoc_") ∧
      pascalCase.recomposed "HTTP2Reply__XMLDoc" = "HTTP2Reply__XMLDoc" ∧
      snakeCase.recomposed "parse_http2_reply" = "parse_http2_reply" := by
  refine ⟨?_, ?_, ?_⟩
  · exact (recomposed_stable (List.all_eq_true.1 (by decide +kernel))).1
  · exact (recomposed_stable (List.all_eq_true.1 (by decide +kernel))).2.1.2 (by decide +kernel)
  · exact (recomposed_stable (List.all_eq_true.1 (by decide +kernel))).2.2.2 (by decide +kernel)

end NamingStyle

end SchemaModel
