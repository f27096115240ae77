import BulkDelivery.Proofs.Toml.Reading
import BulkDelivery.Settings.File
import Mathlib.Data.List.Nodup

/-!
# Settings are read back from their file

A settings file is a document of lines with different keys, so it has one entry for each line.  A
field finds its entry under its key, wherever the line stands, and has its default if there is no
such line.  So any of the lines, in any order, give the settings that agree with the written ones in
these fields and with the defaults in all others.  The check of the limits comes after that, and a
file has no influence on it beyond the settings that were read.

Only integers that fit sixty-four bits with a sign can be written, and all of these can be read.  The
text is put together before anything is written, so settings that cannot be written leave every file
alone.

## Main definitions

* `Folder.isWritable` — whether a file can be written at a path.
* `Settings.InRange` — every limit among some fields can be written.
* `Settings.keeping` — the defaults, except under some keys.
* `Settings.folderAfterSave` — the folder as saving leaves it, whether it succeeds or not.

## Main results

* `Folder.read?_write?` — a file holds what was written to it.
* `Settings.parse?_lines` — any lines of a settings file, in any order, are read as settings.
* `Settings.file_round_trip` — **settings are read back from the file they were written to, and from
  a part of it with defaults for the rest.**
-/

namespace BulkDelivery

/-! ### Files -/

namespace Folder

variable {f f' : Folder} {path : String} {content : Bytes}

/-- Whether a file can be written at a path. -/
def isWritable (f : Folder) (path : String) : Bool :=
  (f.write? path []).isSome

section

variable (h : f'.folders = f.folders)

include h

theorem isFolder_eq_of_folders (place : Place) : f'.isFolder place = f.isFolder place := by
  rw [isFolder, isFolder, h]

/-- Where a path leads depends on the folders, not on the files. -/
theorem place?_eq_of_folders (path : String) : f'.place? path = f.place? path := by
  have hfollow (place : Place) (names : List String) :
      f'.follow? place names = f.follow? place names := by
    induction names generalizing place with
    | nil => rfl
    | cons name names ih => simp only [follow?, isFolder_eq_of_folders h, ih]
  simp only [place?, hfollow]

end

/-- The folder with a file at a place, in place of the one that may be there. -/
def withFile (f : Folder) (place : Place) (content : Bytes) : Folder :=
  { f with files := (place, content) :: f.files.filter (·.1 != place) }

theorem write?_eq {place : Place} (hplace : f.place? path = some (place, false))
    (hfolder : f.isFolder place = false) (content : Bytes) :
    f.write? path content = some (f.withFile place content) := by
  simp [write?, hplace, hfolder, withFile]

theorem exists_place_of_write? (h : f.write? path content = some f') :
    ∃ place, f.place? path = some (place, false) ∧ f.isFolder place = false ∧
      f' = f.withFile place content := by
  unfold write? at h
  split at h
  · next place hplace =>
    split at h
    · cases h
    · next hfolder => exact ⟨place, hplace, Bool.eq_false_iff.2 hfolder, (Option.some.inj h).symm⟩
  · cases h

/-- Whether a file can be written does not depend on what is written. -/
theorem exists_write?_of_isWritable (h : f.isWritable path) (content : Bytes) :
    ∃ f', f.write? path content = some f' := by
  obtain ⟨g, hg⟩ := Option.isSome_iff_exists.1 h
  obtain ⟨place, hplace, hfolder, -⟩ := exists_place_of_write? hg
  exact ⟨_, write?_eq hplace hfolder content⟩

/-- A file holds what was written to it. -/
theorem read?_write? (h : f.write? path content = some f') : f'.read? path = some content := by
  obtain ⟨place, hplace, hfolder, rfl⟩ := exists_place_of_write? h
  have hfolders : (f.withFile place content).folders = f.folders := rfl
  simp only [read?, place?_eq_of_folders hfolders, hplace, isFolder_eq_of_folders hfolders, hfolder]
  simp [withFile]

end Folder

namespace Settings

open Toml (BareKey ReadsAs pairText)

variable {s : Settings} {chosen : List (String × FieldValue)} {folder : Folder} {path : String}

/-! ### Keys -/

/-- The keys do not depend on the values. -/
theorem map_fst_fields (s : Settings) : s.fields.map Prod.fst = (fields {}).map Prod.fst := rfl

theorem bareKey_of_mem_fields {field : String × FieldValue} (h : field ∈ s.fields) :
    BareKey field.1 := by
  have hkeys : ∀ key ∈ (fields {}).map Prod.fst, BareKey key := by
    unfold BareKey
    decide
  exact hkeys field.1 (s.map_fst_fields ▸ List.mem_map_of_mem h)

theorem nodup_map_fst_fields (s : Settings) : (s.fields.map Prod.fst).Nodup := by
  rw [map_fst_fields]
  decide

theorem eq_of_mem_fields {field field' : String × FieldValue} (h : field ∈ s.fields)
    (h' : field' ∈ s.fields) (hkey : field.1 = field'.1) : field = field' :=
  List.inj_on_of_nodup_map s.nodup_map_fst_fields h h' hkey

/-! ### The entries of a file -/

namespace FieldValue

/-- The value that the text of a field is read as. -/
def value : FieldValue → Toml.Value
  | limit n => .integer n
  | choice b => .boolean b

theorem readsAs_text {v : FieldValue} (h : v.isPrintable) : ReadsAs v.text.toList v.value := by
  cases v with
  | limit n =>
    have hbound : n < 0x8000000000000000 := Nat.lt_succ_of_le (of_decide_eq_true h)
    rw [text, Nat.toString_eq_ofList_toDigits, String.toList_ofList]
    exact Toml.readsAs_toDigits hbound
  | choice b =>
    cases b with
    | true => exact Toml.readsAs_true
    | false => exact Toml.readsAs_false

end FieldValue

/-- The entries that lines become. -/
def entriesOf (chosen : List (String × FieldValue)) : Toml.Entries :=
  chosen.map fun field => (field.1, field.2.value)

theorem join_line (chosen : List (String × FieldValue)) :
    String.join (chosen.map line) =
      String.ofList (chosen.flatMap fun field => pairText field.1 field.2.text.toList) := by
  rw [← String.toList_inj, String.toList_join, String.toList_ofList, List.flatMap_map]
  simp [line, pairText]

section

variable (hnodup : chosen.Nodup) (hfields : chosen ⊆ s.fields)

include hfields

/-- A field finds its entry wherever the line stands. -/
theorem lookup_entriesOf {field : String × FieldValue} (h : field ∈ s.fields) :
    (entriesOf chosen).lookup field.1 =
      if field.1 ∈ chosen.map Prod.fst then some field.2.value else none := by
  rcases hlookup : (entriesOf chosen).lookup field.1 with - | v
  · rw [List.lookup_eq_none_iff, entriesOf] at hlookup
    rw [if_neg]
    intro hkey
    obtain ⟨field', hchosen, hsame⟩ := List.mem_map.1 hkey
    have hother := hlookup _ (List.mem_map_of_mem hchosen)
    simp [hsame] at hother
  · obtain ⟨front, back, hentries, -⟩ := List.lookup_eq_some_iff.1 hlookup
    have hentry : (field.1, v) ∈ entriesOf chosen := by simp [hentries]
    obtain ⟨field', hchosen, hpair⟩ := List.mem_map.1 hentry
    obtain ⟨hsame, rfl⟩ := Prod.mk.inj hpair
    cases eq_of_mem_fields (hfields hchosen) h hsame
    rw [if_pos (List.mem_map_of_mem hchosen)]

include hnodup

theorem parse?_join_line (hprintable : ∀ field ∈ chosen, field.2.isPrintable) :
    Toml.parse? (String.join (chosen.map line)) = some (entriesOf chosen) := by
  rw [join_line]
  refine Toml.parse?_flatMap_pairText (fun field h => bareKey_of_mem_fields (hfields h))
    (fun field h => FieldValue.readsAs_text (hprintable field h)) ?_
  exact hnodup.map_on fun field h field' h' => eq_of_mem_fields (hfields h) (hfields h')

end

/-! ### Settings from a part of a file -/

/-- The defaults, except that the fields under some keys are those of the settings. -/
def keeping (s : Settings) (keys : List String) : Settings :=
  let d : Settings := {}
  { maxBatchSize := if "max_batch_size" ∈ keys then s.maxBatchSize else d.maxBatchSize
    maxBatchBytes := if "max_batch_size_in_bytes" ∈ keys then s.maxBatchBytes else d.maxBatchBytes
    maxInFlight := if "max_in_flight_requests" ∈ keys then s.maxInFlight else d.maxInFlight
    maxBuffered := if "max_buffered_requests" ∈ keys then s.maxBuffered else d.maxBuffered
    maxTimeInBuffer := if "max_time_in_buffer_ms" ∈ keys then s.maxTimeInBuffer
      else d.maxTimeInBuffer
    maxRecordBytes := if "max_record_size_in_bytes" ∈ keys then s.maxRecordBytes
      else d.maxRecordBytes
    flushOnCheckpoint := if "flush_on_checkpoint" ∈ keys then s.flushOnCheckpoint
      else d.flushOnCheckpoint
    retryBackoff := if "retry_backoff_ms" ∈ keys then s.retryBackoff else d.retryBackoff
    flushTimeout := if "flush_timeout_ms" ∈ keys then s.flushTimeout else d.flushTimeout }

theorem keeping_all (s : Settings) : s.keeping (s.fields.map Prod.fst) = s := by
  simp [keeping, fields]

section

variable {entries : Toml.Entries} {key : String} {keys : List String} {n : Nat} {b : Bool}

theorem readLimit?_of_lookup
    (h : entries.lookup key = if key ∈ keys then some (.integer n) else none) (default : Nat) :
    readLimit? entries key default = some (if key ∈ keys then n else default) := by
  by_cases hkey : key ∈ keys
  · simp [readLimit?, h, hkey]
  · simp [readLimit?, h, hkey]

theorem readChoice?_of_lookup
    (h : entries.lookup key = if key ∈ keys then some (.boolean b) else none) (default : Bool) :
    readChoice? entries key default = some (if key ∈ keys then b else default) := by
  by_cases hkey : key ∈ keys
  · simp [readChoice?, h, hkey]
  · simp [readChoice?, h, hkey]

end

theorem ofEntries?_entriesOf (hfields : chosen ⊆ s.fields) :
    ofEntries? (entriesOf chosen) = some (s.keeping (chosen.map Prod.fst)) := by
  have hlookups : ∀ field ∈ s.fields, (entriesOf chosen).lookup field.1 =
      if field.1 ∈ chosen.map Prod.fst then some field.2.value else none :=
    fun _ h => lookup_entriesOf hfields h
  rw [fields] at hlookups
  simp only [List.forall_mem_cons] at hlookups
  obtain ⟨h₁, h₂, h₃, h₄, h₅, h₆, h₇, h₈, h₉, -⟩ := hlookups
  rw [ofEntries?, readLimit?_of_lookup h₁, readLimit?_of_lookup h₂, readLimit?_of_lookup h₃,
    readLimit?_of_lookup h₄, readLimit?_of_lookup h₅, readLimit?_of_lookup h₆,
    readChoice?_of_lookup h₇, readLimit?_of_lookup h₈, readLimit?_of_lookup h₉]
  rfl

/-- Any lines of a settings file, in any order, are read as settings. -/
theorem parse?_lines (hnodup : chosen.Nodup) (hfields : chosen ⊆ s.fields)
    (hprintable : ∀ field ∈ chosen, field.2.isPrintable) :
    parse? (String.join (chosen.map line)) = some (s.keeping (chosen.map Prod.fst)) := by
  rw [parse?, parse?_join_line hnodup hfields hprintable, Option.bind_some,
    ofEntries?_entriesOf hfields]

/-! ### Saving and loading -/

/-- No limit among some fields is too large for a file. -/
def InRange (chosen : List (String × FieldValue)) : Prop :=
  ∀ name n, (name, .limit n) ∈ chosen → n ≤ maxFileInteger

theorem inRange_iff : InRange chosen ↔ ∀ field ∈ chosen, field.2.isPrintable := by
  constructor
  · rintro h ⟨name, n | b⟩ hmem
    · exact decide_eq_true (h name n hmem)
    · rfl
  · intro h name n hmem
    exact of_decide_eq_true (h (name, .limit n) hmem)

theorem render?_of_inRange (h : InRange s.fields) :
    s.render? = some (String.join (s.fields.map line)) :=
  if_pos (List.all_eq_true.2 (inRange_iff.1 h))

theorem render?_of_not_inRange (h : ¬InRange s.fields) : s.render? = none := by
  refine if_neg fun hall => h (inRange_iff.2 ?_)
  exact List.all_eq_true.1 hall

/-- The folder as saving leaves it, whether it succeeds or not. -/
def folderAfterSave (s : Settings) (folder : Folder) (path : String) : Folder :=
  match s.save folder path with
  | .ok folder => folder
  | .error _ => folder

/-- What was read is checked, and nothing else is. -/
theorem load_of_parse? {text : String} (hread : folder.read? path = some (utf8 text))
    (hparse : parse? text = some s) : load folder path = s.validate.map fun _ => s := by
  rw [load, hread, Option.bind_some, ofUtf8?_utf8]
  simp only [hparse]
  cases s.validate <;> rfl

theorem load_lines (hnodup : chosen.Nodup) (hfields : chosen ⊆ s.fields) (hrange : InRange chosen)
    (hread : folder.read? path = some (utf8 (String.join (chosen.map line)))) :
    load folder path =
      (s.keeping (chosen.map Prod.fst)).validate.map fun _ => s.keeping (chosen.map Prod.fst) :=
  load_of_parse? hread (parse?_lines hnodup hfields (inRange_iff.1 hrange))

theorem save_then_load (hrange : InRange s.fields) (hpath : folder.isWritable path) :
    ∃ saved, s.save folder path = .ok saved ∧
      saved.read? path = some (utf8 (String.join (s.fields.map line))) ∧
      load saved path = s.validate.map fun _ => s := by
  obtain ⟨saved, hwrite⟩ := Folder.exists_write?_of_isWritable hpath
    (utf8 (String.join (s.fields.map line)))
  have hread := Folder.read?_write? hwrite
  refine ⟨saved, ?_, hread, ?_⟩
  · rw [save, render?_of_inRange hrange]
    simp only [hwrite]
  · have hload := load_lines s.nodup_map_fst_fields.of_map (List.Subset.refl s.fields) hrange hread
    rwa [keeping_all] at hload

theorem save_of_not_inRange (h : ¬InRange s.fields) (folder : Folder) (path : String) :
    s.save folder path = .error .unprintable ∧ s.folderAfterSave folder path = folder := by
  have hsave : s.save folder path = .error .unprintable := by
    rw [save, render?_of_not_inRange h]
  exact ⟨hsave, by rw [folderAfterSave, hsave]⟩

/-- **Settings are read back from their file.**  If their limits are in range and the path can be
written, saving succeeds and leaves their lines in the file, and loading then gives the same
settings, or what is wrong with them.  If a limit is too large, saving fails and changes no file.  And
any of the lines, in any order, give the defaults with just these fields replaced, or what is wrong
with that. -/
theorem file_round_trip (s : Settings) (folder : Folder) (path : String) :
    (InRange s.fields → folder.isWritable path →
      ∃ saved, s.save folder path = .ok saved ∧
        saved.read? path = some (utf8 (String.join (s.fields.map line))) ∧
        load saved path = s.validate.map fun _ => s) ∧
    (¬InRange s.fields →
      s.save folder path = .error .unprintable ∧ s.folderAfterSave folder path = folder) ∧
    (∀ chosen, chosen.Nodup → chosen ⊆ s.fields → InRange chosen →
      folder.read? path = some (utf8 (String.join (chosen.map line))) →
      load folder path =
        (s.keeping (chosen.map Prod.fst)).validate.map fun _ => s.keeping (chosen.map Prod.fst)) :=
  ⟨save_then_load, fun h => save_of_not_inRange h folder path, fun _ => load_lines⟩

/-- A path of one letter leads to a file in the folder itself. -/
theorem place?_letter (folder : Folder) : folder.place? "s" = some (["s"], false) := by
  have hpath : Folder.isPath "s" := by
    have hslash : "s".startsWith "/" = false := by simp
    have hnull : "s".contains '\x00' = false := by simp
    simp only [Folder.isPath, hslash, hnull]
    decide
  have hnames : "s".splitOn "/" = ["s"] := by
    rw [String.splitOn, if_neg (by decide), String.splitOnAux, if_neg (by decide),
      if_neg (by decide), String.splitOnAux, if_pos (by decide)]
    decide
  have hfollow : folder.follow? [] ["s"] = some ["s"] := by
    simp only [Folder.follow?, Folder.isFolder]
    rfl
  rw [Folder.place?, if_pos hpath, hnames, hfollow]
  rfl

/-- At the largest limit that a file can hold and beyond it; and two lines that are fine in their
settings, but not with the default of a third. -/
theorem file_round_trip_at_the_limit :
    (∃ saved, save { retryBackoff := maxFileInteger } {} "s" = .ok saved ∧
      load saved "s" = .ok { retryBackoff := maxFileInteger }) ∧
    save { retryBackoff := maxFileInteger + 1 } {} "s" = .error .unprintable ∧
    load { files := [(["s"], utf8 "flush_timeout_ms = 7\nmax_buffered_requests = 100\n")] } "s" =
      .error (.batchExceedsBuffer 500 100) := by
  refine ⟨?_, ?_, ?_⟩
  · have hwritable : Folder.isWritable {} "s" := by
      rw [Folder.isWritable, Folder.write?_eq (place?_letter {}) rfl]
      rfl
    obtain ⟨saved, hsave, -, hload⟩ := (file_round_trip { retryBackoff := maxFileInteger } {} "s").1
      (inRange_iff.2 (by decide)) hwritable
    exact ⟨saved, hsave, hload⟩
  · exact ((file_round_trip { retryBackoff := maxFileInteger + 1 } {} "s").2.1
      (fun h => absurd (inRange_iff.1 h) (by decide))).1
  · have hread : Folder.read?
        { files := [(["s"], utf8 "flush_timeout_ms = 7\nmax_buffered_requests = 100\n")] } "s" =
          some (utf8 "flush_timeout_ms = 7\nmax_buffered_requests = 100\n") := by
      simp [Folder.read?, place?_letter, Folder.isFolder, Folder.isAround]
    exact (file_round_trip { maxBuffered := 100, flushTimeout := 7 } _ "s").2.2
      [("flush_timeout_ms", .limit 7), ("max_buffered_requests", .limit 100)] (by decide)
      (by decide) (inRange_iff.2 (by decide)) (hread.trans (by decide))

end Settings

end BulkDelivery
