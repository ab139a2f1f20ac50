import SchemaModel.CommandLine.Disk
import SchemaModel.Proofs.Text.Pieces

/-!
# `SchemaModel.Proofs.CommandLine.Disk` — what is read after a text was written

A path leads to a place, and two paths may lead to the same one. A file is written only where its
folder is already, so no path leads elsewhere afterwards.

## Contents
- `put`: `lookup_put_self`, `lookup_put_other`, `mem_put`.
- `HasFolder`: a folder of the disk. `isDirectory_around`: what is around a folder is one.
- `place?_inFolder`: a path leads to something in a folder. `isDirectory_put`, `place?_put`: a text
  that is put in a folder leaves directories and paths as they are.
- `absolute`: the path of a place from the root. `place?_absolute`: whatever is in a folder is
  reached that way.
- `Writable`: a path that can be written. `write_isOk`: whether it can does not depend on the text.
  `writable_absolute`: whatever is in a folder and no directory can be.
- `Wrote`: what can be read after a text was written. `wrote`: every write does so.
-/

namespace SchemaModel.CommandLine.Disk

variable {d after : Disk} {path text : String} {place other : List String}
  {files : List (List String × String)}

/-! ## The list of files -/

theorem lookup_put_self : (put place text files).lookup place = some text := by
  induction files with
  | nil => exact List.lookup_cons_self
  | cons file rest ih =>
      obtain ⟨path, old⟩ := file
      unfold put
      by_cases hpath : path = place
      · rw [if_pos hpath]
        exact List.lookup_cons_self
      · rw [if_neg hpath, List.lookup_cons, beq_false_of_ne (Ne.symm hpath)]
        exact ih

theorem lookup_put_other (h : other ≠ place) :
    (put place text files).lookup other = files.lookup other := by
  induction files with
  | nil =>
      show List.lookup other [(place, text)] = none
      rw [List.lookup_cons, beq_false_of_ne h]
      rfl
  | cons file rest ih =>
      obtain ⟨path, old⟩ := file
      unfold put
      by_cases hpath : path = place
      · rw [if_pos hpath, List.lookup_cons, List.lookup_cons, hpath, beq_false_of_ne h]
      · rw [if_neg hpath, List.lookup_cons, List.lookup_cons, ih]

theorem mem_put : (∃ old, (other, old) ∈ put place text files) ↔
    other = place ∨ ∃ old, (other, old) ∈ files := by
  induction files with
  | nil => simp [put]
  | cons file rest ih =>
      obtain ⟨path, old⟩ := file
      unfold put
      by_cases hpath : path = place
      · rw [if_pos hpath]
        simp only [List.mem_cons, Prod.mk.injEq, exists_or, exists_and_left, exists_eq, and_true,
          hpath, ← or_assoc, or_self]
      · rw [if_neg hpath]
        simp only [List.mem_cons, Prod.mk.injEq, exists_or, exists_and_left, exists_eq, and_true,
          ih, or_left_comm]

/-! ## Folders and paths -/

/-- A folder that the disk is known to have. -/
inductive HasFolder (d : Disk) : List String → Prop where
  | home : HasFolder d d.home
  | device : HasFolder d sink.dropLast
  | made {folder : List String} (h : folder ∈ d.folders) : HasFolder d folder
  | ofFile {path : List String} {text : String} (h : (path, text) ∈ d.files) :
      HasFolder d path.dropLast

/-- A directory is a folder of the disk, or one around it. -/
theorem isDirectory_iff :
    d.isDirectory place = true ↔ ∃ folder, d.HasFolder folder ∧ place <+: folder := by
  simp only [isDirectory, List.any_cons, List.any_append, List.any_map, Bool.or_eq_true,
    List.any_eq_true, List.isPrefixOf_iff_prefix, Function.comp_apply]
  constructor
  · rintro (h | h | ⟨folder, hfolder, h⟩ | ⟨file, hfile, h⟩)
    · exact ⟨_, .home, h⟩
    · exact ⟨_, .device, h⟩
    · exact ⟨folder, .made hfolder, h⟩
    · exact ⟨_, .ofFile hfile, h⟩
  · rintro ⟨folder, hfolder, h⟩
    cases hfolder with
    | home => exact .inl h
    | device => exact .inr (.inl h)
    | made hfolder => exact .inr (.inr (.inl ⟨folder, hfolder, h⟩))
    | ofFile hfile => exact .inr (.inr (.inr ⟨_, hfile, h⟩))

theorem HasFolder.isDirectory (h : d.HasFolder place) : d.isDirectory place = true :=
  isDirectory_iff.2 ⟨place, h, List.prefix_rfl⟩

/-- What is around a folder is one. -/
theorem isDirectory_around (hbegins : other <+: place) (h : d.isDirectory place = true) :
    d.isDirectory other = true := by
  obtain ⟨folder, hfolder, h⟩ := isDirectory_iff.1 h
  exact isDirectory_iff.2 ⟨folder, hfolder, hbegins.trans h⟩

theorem isDirectory_dropLast (h : d.isDirectory place = true) :
    d.isDirectory place.dropLast = true :=
  isDirectory_around place.dropLast_prefix h

/-- A walk from a place in a folder leads to one. -/
theorem walk?_inFolder {parts : List String} {last : List String}
    (h : d.isDirectory place.dropLast = true) (hwalk : d.walk? place parts = some last) :
    d.isDirectory last.dropLast = true := by
  induction parts generalizing place with
  | nil =>
      cases hwalk
      exact h
  | cons part rest ih =>
      unfold walk? at hwalk
      cases hplace : d.isDirectory place with
      | false => simp only [hplace, Bool.not_false, if_true, reduceCtorEq] at hwalk
      | true =>
          -- A part keeps the walk where it is, or leads one up, or down from a directory.
          simp only [hplace, Bool.not_true, Bool.false_eq_true, if_false] at hwalk
          split at hwalk
          · exact ih h hwalk
          · split at hwalk
            · exact ih (isDirectory_dropLast h) hwalk
            · refine ih ?_ hwalk
              rw [List.dropLast_concat]
              exact hplace

theorem isDirectory_start : d.isDirectory (d.start path) = true := by
  unfold start
  split
  · exact isDirectory_around List.nil_prefix HasFolder.home.isDirectory
  · exact HasFolder.home.isDirectory

/-- What a path leads to is in a folder. -/
theorem place?_inFolder (h : d.place? path = some place) : d.isDirectory place.dropLast = true := by
  unfold place? at h
  split at h
  · cases h
  · obtain ⟨parts, _, hwalk⟩ := Option.bind_eq_some_iff.1 h
    exact walk?_inFolder (isDirectory_dropLast isDirectory_start) hwalk

/-- A text that is put in a folder makes no other folder. -/
theorem isDirectory_put (h : d.isDirectory place.dropLast = true) (other : List String) :
    isDirectory { d with files := put place text d.files } other = d.isDirectory other := by
  rw [Bool.eq_iff_iff]
  constructor
  · intro hother
    obtain ⟨folder, hfolder, hbegins⟩ := isDirectory_iff.1 hother
    refine isDirectory_around hbegins ?_
    cases hfolder with
    | home => exact HasFolder.home.isDirectory
    | device => exact HasFolder.device.isDirectory
    | made hmade => exact HasFolder.isDirectory (.made hmade)
    | ofFile hfile =>
        rcases mem_put.1 ⟨_, hfile⟩ with rfl | ⟨old, hfile⟩
        -- The file may be new, but the folder it is in is not.
        · exact h
        · exact (HasFolder.ofFile hfile).isDirectory
  · intro hother
    obtain ⟨folder, hfolder, hbegins⟩ := isDirectory_iff.1 hother
    refine isDirectory_iff.2 ⟨folder, ?_, hbegins⟩
    cases hfolder with
    | home => exact .home
    | device => exact .device
    | made hmade => exact .made hmade
    | ofFile hfile =>
        obtain ⟨kept, hkept⟩ := mem_put.2 (.inr ⟨_, hfile⟩)
        exact .ofFile hkept

/-- Walks depend on the disk through its folders only. -/
theorem walk?_congr (h : ∀ place, after.isDirectory place = d.isDirectory place)
    (parts : List String) : after.walk? place parts = d.walk? place parts := by
  induction parts generalizing place with
  | nil => rfl
  | cons part rest ih =>
      unfold walk?
      simp only [h, ih]

theorem place?_put (h : d.isDirectory place.dropLast = true) :
    place? { d with files := put place text d.files } = d.place? := by
  funext path
  unfold place?
  split
  · rfl
  · exact congrArg _ (funext (walk?_congr (isDirectory_put h)))

/-! ## Paths from the root -/

/-- A name that a folder or a file can have. -/
structure IsName (part : String) : Prop where
  nonempty : part ≠ ""
  notHere : part ≠ "."
  notParent : part ≠ ".."
  solid : '/' ∉ part.toList

instance (part : String) : Decidable (IsName part) :=
  decidable_of_iff (part ≠ "" ∧ part ≠ "." ∧ part ≠ ".." ∧ '/' ∉ part.toList)
    ⟨fun ⟨hempty, hhere, hparent, hsolid⟩ => ⟨hempty, hhere, hparent, hsolid⟩,
      fun h => ⟨h.nonempty, h.notHere, h.notParent, h.solid⟩⟩

/-- The path of a place from the root. -/
def absolute (place : List String) : String :=
  String.ofList (['/'].intercalate ([] :: place.map String.toList))

theorem split_absolute (h : ∀ part ∈ place, IsName part) :
    Text.split '/' (absolute place) = "" :: place := by
  have hsolid : ∀ part ∈ [] :: place.map String.toList, '/' ∉ part := by
    intro part hpart
    rcases List.mem_cons.1 hpart with rfl | hpart
    · exact List.not_mem_nil
    · obtain ⟨name, hname, rfl⟩ := List.mem_map.1 hpart
      exact (h name hname).solid
  rw [Text.split, absolute, String.toList_ofList, Text.pieces_eq_splitOn,
    List.splitOn_intercalate '/' hsolid (List.cons_ne_nil _ _), List.map_cons, List.map_map]
  refine congrArg ("" :: ·) ?_
  exact (List.map_congr_left fun name _ => String.ofList_toList).trans (List.map_id _)

/-- Names lead from a directory down to what is in it. -/
theorem walk?_names {names : List String} (h : ∀ part ∈ names, IsName part)
    (hfolder : d.isDirectory (place ++ names).dropLast = true) :
    d.walk? place names = some (place ++ names) := by
  induction names generalizing place with
  | nil => exact congrArg some (List.append_nil place).symm
  | cons part rest ih =>
      obtain ⟨hpart, hrest⟩ := List.forall_mem_cons.1 h
      have hplace : d.isDirectory place = true := by
        refine isDirectory_around ?_ hfolder
        rw [List.dropLast_append_of_ne_nil (List.cons_ne_nil _ _)]
        exact List.prefix_append _ _
      have hdown : place ++ part :: rest = place ++ [part] ++ rest := by
        rw [List.append_assoc]
        rfl
      rw [hdown] at hfolder ⊢
      unfold walk?
      simp only [hplace, Bool.not_true, Bool.false_eq_true, if_false, Bool.or_eq_true, beq_iff_eq,
        hpart.nonempty, hpart.notHere, hpart.notParent, or_self]
      exact ih hrest hfolder

theorem toList_absolute (name : String) (rest : List String) :
    ∃ cs, (absolute (name :: rest)).toList = '/' :: cs := by
  refine ⟨['/'].intercalate (name.toList :: rest.map String.toList), ?_⟩
  rw [absolute, String.toList_ofList]
  rfl

/-- Whatever is in a folder is reached from the root, if its path is not too long. -/
theorem place?_absolute (h : ∀ part ∈ place, IsName part) (hne : place ≠ [])
    (hfolder : d.isDirectory place.dropLast = true) (hfits : (parts? (absolute place)).isSome) :
    d.place? (absolute place) = some place := by
  obtain ⟨name, rest, rfl⟩ := List.exists_cons_of_ne_nil hne
  obtain ⟨cs, hcs⟩ := toList_absolute name rest
  have hparts : parts? (absolute (name :: rest)) = some ("" :: name :: rest) := by
    unfold parts? at hfits ⊢
    rw [split_absolute h] at hfits ⊢
    dsimp only at hfits ⊢
    split at hfits
    · rw [if_pos ‹_›]
    · cases hfits
  have hstart : d.start (absolute (name :: rest)) = [] := by
    unfold start
    rw [hcs]
    rfl
  have hnonempty : (absolute (name :: rest) == "") = false := by
    refine beq_false_of_ne fun hempty => ?_
    rw [hempty] at hcs
    cases hcs
  have hroot : d.isDirectory [] = true := isDirectory_around List.nil_prefix hfolder
  unfold place?
  rw [hparts, hstart, hnonempty]
  show d.walk? [] ("" :: name :: rest) = _
  unfold walk?
  rw [hroot]
  exact walk?_names h hfolder

/-! ## Writing and reading -/

/-- The path can be written: it leads to the sink, or to a place that is no directory. -/
def Writable (d : Disk) (path : String) : Prop :=
  ∃ place, d.place? path = some place ∧ (place = sink ∨ d.isDirectory place = false)

/-- What is written: nothing at the sink, and the text at a place that is no directory. -/
theorem write_eq_ok : d.write path text = .ok after ↔
    (d.place? path = some sink ∧ after = d) ∨
    ∃ place, d.place? path = some place ∧ place ≠ sink ∧ d.isDirectory place = false ∧
      after = { d with files := put place text d.files } := by
  unfold write
  cases hplace : d.place? path with
  | none => exact iff_of_false nofun (by rintro (⟨h, _⟩ | ⟨_, h, _⟩) <;> cases h)
  | some place =>
      dsimp only
      unfold writeAt
      constructor
      · intro hwrite
        split at hwrite
        case isTrue hsink =>
          cases hwrite
          exact .inl ⟨congrArg some hsink, rfl⟩
        case isFalse hsink =>
          split at hwrite
          · cases hwrite
          case isFalse hfile =>
            cases hwrite
            exact .inr ⟨place, rfl, hsink, Bool.eq_false_iff.2 hfile, rfl⟩
      · rintro (⟨hsink, rfl⟩ | ⟨_, hsame, hsink, hfile, rfl⟩)
        · rw [if_pos (Option.some.inj hsink)]
        · cases hsame
          rw [if_neg hsink, if_neg (Bool.eq_false_iff.1 hfile)]

/-- Whether a path can be written does not depend on the text. -/
theorem write_isOk (text : String) :
    (∃ after, d.write path text = .ok after) ↔ d.Writable path := by
  constructor
  · rintro ⟨after, hwrite⟩
    rcases write_eq_ok.1 hwrite with ⟨hplace, _⟩ | ⟨place, hplace, _, hfile, _⟩
    · exact ⟨sink, hplace, .inl rfl⟩
    · exact ⟨place, hplace, .inr hfile⟩
  · rintro ⟨place, hplace, hfree⟩
    by_cases hsink : place = sink
    · exact ⟨d, write_eq_ok.2 (.inl ⟨hsink ▸ hplace, rfl⟩)⟩
    · exact ⟨_, write_eq_ok.2 (.inr ⟨place, hplace, hsink, hfree.resolve_left hsink, rfl⟩)⟩

theorem write_refused (text : String) (h : ¬d.Writable path) :
    ∃ reason, d.write path text = .error reason := by
  cases hwrite : d.write path text with
  | ok after => exact absurd ((write_isOk text).1 ⟨after, hwrite⟩) h
  | error reason => exact ⟨reason, rfl⟩

/-- Any place in a folder can be written through its path from the root, if that is not too long. -/
theorem writable_absolute (h : ∀ part ∈ place, IsName part)
    (hfolder : d.isDirectory place.dropLast = true) (hfile : d.isDirectory place = false)
    (hfits : (parts? (absolute place)).isSome) : d.Writable (absolute place) := by
  have hne : place ≠ [] := by
    rintro rfl
    cases hfile.symm.trans hfolder
  exact ⟨place, place?_absolute h hne hfolder hfits, .inr hfile⟩

/-- What can be read after a text was written. Every path leads where it led. One that leads to the
same file reads the text, and one that leads elsewhere what it read before. What is written to the
sink is lost. -/
structure Wrote (d : Disk) (path text : String) (after : Disk) : Prop where
  places : after.place? = d.place?
  text : d.place? path ≠ some sink →
    ∀ same, d.place? same = d.place? path → after.read same = .ok text
  others : ∀ other, d.place? other ≠ d.place? path → after.read other = d.read other
  sink : d.place? path = some sink → after = d

theorem readAt_put_self (h : d.isDirectory place.dropLast = true) (hsink : place ≠ sink)
    (hfile : d.isDirectory place = false) :
    readAt { d with files := put place text d.files } place = .ok text := by
  simp only [readAt, if_neg hsink, isDirectory_put h, hfile, Bool.false_eq_true, if_false,
    lookup_put_self]

theorem readAt_put_other (h : d.isDirectory place.dropLast = true) (hother : other ≠ place) :
    readAt { d with files := put place text d.files } other = d.readAt other := by
  simp only [readAt, isDirectory_put h, lookup_put_other hother]

theorem wrote (h : d.write path text = .ok after) : Wrote d path text after := by
  rcases write_eq_ok.1 h with ⟨hplace, rfl⟩ | ⟨place, hplace, hsink, hfile, rfl⟩
  · exact ⟨rfl, fun hsink => absurd hplace hsink, fun _ _ => rfl, fun _ => rfl⟩
  · -- The text went into a folder that was there, so all paths lead where they led.
    have hfolder := place?_inFolder hplace
    have hplaces : place? { d with files := put place text d.files } = d.place? :=
      place?_put hfolder
    refine ⟨hplaces, fun _ same hsame => ?_, fun other hother => ?_, fun h => ?_⟩
    · unfold read
      rw [hplaces, hsame, hplace]
      exact readAt_put_self hfolder hsink hfile
    · unfold read
      rw [hplaces]
      cases hsame : d.place? other with
      | none => rfl
      | some place' =>
          refine readAt_put_other hfolder fun h => hother ?_
          rw [hsame, hplace, h]
    · exact absurd (Option.some.inj (hplace.symm.trans h)) hsink

end SchemaModel.CommandLine.Disk
