import SchemaModel.DropPlan
import SchemaModel.Model.DomainSnapshot
import SchemaModel.Proofs.Inspection.Offline
import SchemaModel.Proofs.Json.Values
import SchemaModel.Proofs.Model.Record
import SchemaModel.Proofs.Time.Rfc3339

/-!
# `SchemaModel.Proofs.Model.DomainSnapshot` — snapshots are read as they were written

A snapshot that was saved is the one that is loaded, as long as its text nests no deeper than a
reader allows, its numbers are integers, and its time lies in the years that are written with four
digits. So a drop plan is the same whether a domain was kept in memory or in a file.

## Contents
- `WithinLimits`: what a snapshot keeps to. `Fits`: its numbers are of 32 bits, which holds of every
  snapshot that was read (`fits_of_ofText`).
- `ofText_toText`: a snapshot within the limits is read as it was written.
- `snapshot_round_trip`: so is one that was read before, and drop plans are the same. `diary` is a
  database whose snapshot is within the limits.
-/

namespace SchemaModel

open Decode Inspection Offline

namespace DomainSnapshot

/-- The limits of a snapshot that is kept as text: every number in it is an integer of at most 64
bits, lists and objects nest at most 127 deep, and the year is written with four digits. -/
structure WithinLimits (s : DomainSnapshot) : Prop where
  numbers : s.toJson.HasWholeNumbers
  depth : s.toJson.depth ≤ 127
  firstYear : 0 ≤ s.takenAt.year
  lastYear : s.takenAt.year ≤ 9999

/-- Every number of the snapshot's domain outside of its bags of attributes is of 32 bits. -/
def Fits (s : DomainSnapshot) : Prop := s.domain.Fits

instance (s : DomainSnapshot) : Decidable s.WithinLimits :=
  decidable_of_iff (s.toJson.HasWholeNumbers ∧ s.toJson.depth ≤ 127 ∧ 0 ≤ s.takenAt.year ∧
      s.takenAt.year ≤ 9999)
    ⟨fun ⟨hnumbers, hdepth, hfirst, hlast⟩ => ⟨hnumbers, hdepth, hfirst, hlast⟩,
      fun h => ⟨h.numbers, h.depth, h.firstYear, h.lastYear⟩⟩

instance (s : DomainSnapshot) : Decidable s.Fits := inferInstanceAs (Decidable s.domain.Fits)

theorem reads_time {t : Time.Instant} (hfirst : 0 ≤ t.year) (hlast : t.year ≤ 9999) :
    Reads (fun t => .string (Time.write t)) decodeTime t := by
  refine ⟨nofun, fun scope hdepth => ?_⟩
  have htext : Gives (text scope (.text (Time.write t))) (Time.write t) :=
    (reads_text _).read scope hdepth
  refine htext.bind fun left => ?_
  rw [Time.read?_write hfirst hlast]
  rfl

theorem reads {s : DomainSnapshot} (hfits : s.Fits) (hlimits : s.WithinLimits) :
    Reads toJson decode s :=
  reads_record rfl rfl (by decide) fun _ h =>
    (h.required (reads_text _) rfl).bind <|
    (h.required (reads_time hlimits.firstYear hlimits.lastYear) rfl).bind <|
    (h.required (Domain.reads hfits) rfl).bind <| .pure _

/-- A snapshot within the limits is read as it was written. -/
theorem ofText_toText {s : DomainSnapshot} (hfits : s.Fits) (hlimits : s.WithinLimits) :
    ofText s.toText = .ok s := by
  have hread : ofJson? decode s.toJson.toDocument = some s := by
    unfold ofJson?
    rw [StateT.run'_eq]
    exact congrArg (Option.map Prod.fst)
      ((reads hfits hlimits).read Scope.json hlimits.depth 0)
  unfold ofText toText
  rw [Json.read?_pretty hlimits.numbers]
  simp only [Option.bind_some, hread]

theorem decode_fits (scope : Scope) (d : Document) : Always (decode scope d) Fits := by
  refine always_record (fun r => ?_) scope d
  exact .skip fun _ => .skip fun _ =>
    (r.always_required Domain.decode_fits).bind fun _ hdomain => .pure hdomain

/-- The numbers of a snapshot that was read are of 32 bits. -/
theorem fits_of_ofText {text : String} {s : DomainSnapshot} (h : ofText text = .ok s) :
    s.Fits := by
  unfold ofText at h
  split at h
  case h_1 snapshot hread =>
    cases h
    obtain ⟨d, _, hread⟩ := Option.bind_eq_some_iff.1 hread
    unfold ofJson? at hread
    rw [StateT.run'_eq] at hread
    obtain ⟨⟨s, left⟩, hs, rfl⟩ := Option.map_eq_some_iff.1 hread
    exact decode_fits Scope.json d 0 s left hs
  case h_2 => cases h

/-- A snapshot within the limits is read as it was written, whether it comes from a domain in memory
or was itself read from some text; and the drop plans from what was saved and loaded are those from
the domains in memory. -/
theorem snapshot_round_trip :
    (∀ s : DomainSnapshot, s.Fits → s.WithinLimits → ofText s.toText = .ok s) ∧
    (∀ (text : String) (s : DomainSnapshot), ofText text = .ok s → s.WithinLimits →
      ofText s.toText = .ok s) ∧
    ∀ old new : DomainSnapshot, old.Fits → old.WithinLimits → new.Fits →
      new.WithinLimits → ∃ old' new', ofText old.toText = .ok old' ∧ ofText new.toText = .ok new' ∧
        DropPlan.statements old'.domain new.domain = DropPlan.statements old.domain new.domain ∧
        DropPlan.statements old.domain new'.domain = DropPlan.statements old.domain new.domain ∧
        DropPlan.statements old'.domain new'.domain = DropPlan.statements old.domain new.domain :=
  ⟨fun _ hfits hlimits => ofText_toText hfits hlimits,
    fun _ _ htext hlimits => ofText_toText (fits_of_ofText htext) hlimits,
    fun old new hfits hlimits hfits' hlimits' =>
      ⟨old, new, ofText_toText hfits hlimits, ofText_toText hfits' hlimits', rfl, rfl, rfl⟩⟩

/-- A table whose comments hold lists, objects, escaped characters and the largest numbers, and a
function that returns what the table has. -/
def diary : CatalogSnapshot where
  engine := .postgres
  tables :=
    [⟨"public", "entry",
      some "\x7b\"hint\": [null, [-9223372036854775808, \x7b\x7d], \"\\ud83d\\ude00\"]\x7d",
      [⟨"id", "integer", none, some 32, some 0, false, true, false, none, none⟩,
       ⟨"body", "character varying", some 80, none, none, true, false, false, some "E'\\\"\n'",
        some "\x7b\"zulu\": \"\\t\\u0001\", \"alpha\": 18446744073709551615\x7d"⟩],
      [⟨"entry_pk", .primary, ["id"]⟩], []⟩]
  routines :=
    [⟨"public", "entry_select_all", none, .function, none, true, none, none,
      [⟨"p_limit", "integer", none, false, false, false⟩],
      [⟨"id", 1, "integer", false, none⟩, ⟨"body", 2, "character varying", false, some 80⟩]⟩]
  userTypes := []

/-- A snapshot of a domain at a leap second. -/
def atLeapSecond (d : Domain) : DomainSnapshot where
  configHash := "\u0000 \"\u2028"
  takenAt := ⟨2016, 12, 31, 23, 59, 59, 1500000000, by decide, by decide⟩
  domain := d

/-- A text that another writer may have left: its keys stand in another order, it escapes what is
not escaped here, and its time is of another zone. -/
def foreign : String :=
  "\x7b\"taken_at\": \"2024-03-01T01:30:00.25+02:00\", \"domain\": \x7b\"types\": [], " ++
  "\"provider\": \"postgres\", \"default_namespace\": \"\\u00e4\", \"operations\": [], " ++
  "\"naming\": \"snake_case\", \"result_types\": []\x7d, \"config_hash\": \"\"\x7d"

theorem snapshot_round_trip_diary :
    ∃ d s, (run (inspect diary.catalog .standard) [] default).result = .ok d ∧
      d.types.map (fun t => t.attributes.isSome) = [true] ∧
      ofText (atLeapSecond d).toText = .ok (atLeapSecond d) ∧
      ofText foreign = .ok s ∧ s.takenAt.day = 29 ∧ ofText s.toText = .ok s ∧
      ∃ d' s', ofText (atLeapSecond d).toText = .ok d' ∧ ofText s.toText = .ok s' ∧
        DropPlan.statements d'.domain s'.domain = DropPlan.statements d s.domain := by
  obtain ⟨d, hd, hattributes, hfits, hlimits⟩ :
      ∃ d, (run (inspect diary.catalog .standard) [] default).result = .ok d ∧
        d.types.map (fun t => t.attributes.isSome) = [true] ∧
        (atLeapSecond d).Fits ∧ (atLeapSecond d).WithinLimits := by
    decide +kernel
  obtain ⟨s, hs, hday, hlimits'⟩ :
      ∃ s, ofText foreign = .ok s ∧ s.takenAt.day = 29 ∧ s.WithinLimits := by
    decide +kernel
  obtain ⟨hkept, hread, hplans⟩ := snapshot_round_trip
  obtain ⟨d', s', hd', hs', _, _, hplan⟩ :=
    hplans (atLeapSecond d) s hfits hlimits (fits_of_ofText hs) hlimits'
  exact ⟨d, s, hd, hattributes, hkept _ hfits hlimits, hs, hday, hread _ s hs hlimits', d', s', hd',
    hs', hplan⟩

end DomainSnapshot

end SchemaModel
