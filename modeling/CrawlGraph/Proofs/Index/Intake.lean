import CrawlGraph.Index
import CrawlGraph.Proofs.Archive.Damaged
import CrawlGraph.Proofs.Graph.Finished

/-!
# What a build takes from archive files

A build takes over the updates of the records that can be read, record after record and file after
file, and nothing else: `takes_files`. Every path has its place among the files or among the skipped
ones.

1. A reading gives records and then at most one error (`exists_run_eq_answers`), which is all that
   marks a file as cut (`any_answers`). A compressed file that is damaged behind its first parts
   gives at least the records of these (`updatesAt_of_breaksOff`).
2. An item either gives an update, or it is counted as a record that cannot be read, or it marks the
   file as cut, or it says nothing (`addItem_eq`). What items give adds up, by induction on them
   (`foldl_addItem`), so an archive gives its updates and its tally (`addArchive_eq`).
3. A path that cannot be opened is skipped, and what the other ones give adds up, by induction on
   the paths (`addFiles_eq`).
-/

namespace CrawlGraph

namespace Archive

/-! ## Records -/

/-- Whether the message of a record cannot be read. -/
def Record.isUnreadable (record : Record) (format : Format) : Bool := !(record.update format).isOk

/-- The updates that records give, in order. -/
def recordUpdates (format : Format) (records : List Record) : List Update :=
  records.filterMap fun record => (record.update format).toOption.join

/-- The updates that the records of an archive give. -/
def Opened.updates (archive : Opened) : List Update :=
  recordUpdates archive.reading.format archive.reading.records

/-- Whether an error ends the reading of an archive. -/
def Opened.hasError (archive : Opened) : Bool :=
  (archive.reading.run.1.map Prod.fst).any fun item => !item.isOk

/-- What is taken from an archive. -/
def Opened.tally (archive : Opened) : ArchiveTally :=
  { name := shownName archive.path
    path := archive.path
    format := archive.reading.format
    isCompressed := archive.isCompressed
    records := archive.updates.length
    skippedRecords :=
      archive.reading.records.countP fun record => record.isUnreadable archive.reading.format
    isTruncated := archive.hasError }

theorem mem_recordUpdates {format : Format} {records : List Record} {update : Update} :
    update ∈ recordUpdates format records ↔
      ∃ record ∈ records, record.update format = .ok (some update) := by
  have hjoin : ∀ told : Except Error (Option Update),
      told.toOption.join = some update ↔ told = .ok (some update) := by
    rintro (error | _ | told) <;> simp [Except.toOption]
  simp only [recordUpdates, List.mem_filterMap, hjoin]

theorem recordUpdates_append (format : Format) (records more : List Record) :
    recordUpdates format (records ++ more) =
      recordUpdates format records ++ recordUpdates format more := List.filterMap_append

theorem any_answers (records : List Record) (error? : Option Error) :
    ((answers records error?).any fun item => !item.isOk) = error?.isSome := by
  cases error? <;> simp [answers, Except.isOk, Except.toBool]

/-- An archive that has been opened is about to be read from its first byte. -/
theorem start_of_openArchive {path : String} {content : Except InputFault Bytes}
    {archive : Opened} (h : openArchive path content = .ok archive) :
    archive.path = path ∧
      ∃ format bytes fault, archive.reading = Reading.start format bytes fault := by
  unfold openArchive at h
  split at h
  · cases h
  · split at h
    · cases h
    · split at h
      · cases h
      · split at h
        · cases h
        · cases h
          exact ⟨rfl, _, _, _, rfl⟩

end Archive

open Archive

namespace ArchiveTally

/-- A file from which some more has been taken. -/
def noting (file : ArchiveTally) (format : Format) (items : List (Except Archive.Error Record)) :
    ArchiveTally :=
  { file with
    records := file.records + (recordUpdates format (items.filterMap Except.toOption)).length
    skippedRecords := file.skippedRecords +
      (items.filterMap Except.toOption).countP fun record => record.isUnreadable format
    isTruncated := file.isTruncated || items.any fun item => !item.isOk }

theorem noting_append (file : ArchiveTally) (format : Format)
    (items more : List (Except Archive.Error Record)) :
    file.noting format (items ++ more) = (file.noting format items).noting format more := by
  simp [noting, recordUpdates_append, Nat.add_assoc, Bool.or_assoc]

end ArchiveTally

namespace Intake

/-- An item gives an update, or is counted, or marks the file as cut, or says nothing. -/
theorem addItem_eq (format : Format) (builder : Builder) (file : ArchiveTally)
    (item : Except Archive.Error Record) :
    addItem format (builder, file) item =
      (builder.applyAll (recordUpdates format item.toOption.toList),
        file.noting format [item]) := by
  cases item with
  | error error =>
    simp [addItem, ArchiveTally.noting, recordUpdates, Builder.applyAll, Except.toOption,
      Except.isOk, Except.toBool]
  | ok record =>
    rcases hupdate : record.update format with error | _ | update <;>
      simp [addItem, ArchiveTally.noting, recordUpdates, Record.isUnreadable, Builder.applyAll,
        Except.toOption, Except.isOk, Except.toBool, hupdate]

theorem foldl_addItem (format : Format) (items : List (Except Archive.Error Record))
    (builder : Builder) (file : ArchiveTally) :
    items.foldl (addItem format) (builder, file) =
      (builder.applyAll (recordUpdates format (items.filterMap Except.toOption)),
        file.noting format items) := by
  induction items generalizing builder file with
  | nil => simp [recordUpdates, Builder.applyAll, ArchiveTally.noting]
  | cons item items ih =>
    have hrecords : (item :: items).filterMap Except.toOption =
        item.toOption.toList ++ items.filterMap Except.toOption := by
      cases item <;> rfl
    rw [List.foldl_cons, addItem_eq, ih, hrecords, recordUpdates_append,
      ← ArchiveTally.noting_append]
    unfold Builder.applyAll
    rw [List.foldl_append]
    rfl

/-- An archive gives its updates and its tally. -/
theorem addArchive_eq (intake : Intake) (archive : Opened) :
    intake.addArchive archive =
      { intake with
        builder := intake.builder.applyAll archive.updates
        files := intake.files ++ [archive.tally] } := by
  unfold addArchive
  simp only [foldl_addItem]
  simp [Opened.tally, Opened.hasError, Opened.updates, ArchiveTally.noting, Reading.records]

end Intake

/-! ## Files -/

/-- The archive at a path, if it can be opened. -/
def Disk.opened? (disk : Disk) (path : String) : Option Archive.Opened :=
  (openArchive path (disk.archiveContent path)).toOption

theorem Disk.opened?_eq_some {disk : Disk} {path : String} {archive : Archive.Opened} :
    disk.opened? path = some archive ↔
      openArchive path (disk.archiveContent path) = .ok archive := by
  unfold opened?
  cases openArchive path (disk.archiveContent path) <;> simp [Except.toOption]

theorem Disk.start_of_opened? {disk : Disk} {path : String} {archive : Archive.Opened}
    (h : disk.opened? path = some archive) :
    archive.path = path ∧
      ∃ format bytes fault, archive.reading = Reading.start format bytes fault :=
  start_of_openArchive (opened?_eq_some.1 h)

/-- The updates that the archive at a path gives. -/
def Disk.updatesAt (disk : Disk) (path : String) : List Update :=
  ((disk.opened? path).map Archive.Opened.updates).getD []

/-- The first parts of a compressed archive stand at a path, and they break off with a fault. -/
structure Disk.BreaksOff (disk : Disk) (path : String) (front : Bytes) : Prop where
  content : disk.archiveContent path = .ok front
  endsPart : Gzip.EndsPart front
  opened : ∃ archive, disk.opened? path = some archive ∧ archive.isCompressed = true ∧
    archive.reading.cursor.fault.isSome = true

/-- What the first parts of a compressed archive give is given whatever stands behind them. -/
theorem Disk.updatesAt_of_breaksOff {disk later : Disk} {path : String} {front back : Bytes}
    (h : disk.BreaksOff path front) (hlater : later.archiveContent path = .ok (front ++ back)) :
    (later.opened? path).isSome = true ∧ disk.updatesAt path <+: later.updatesAt path := by
  obtain ⟨archive, hopened, hcompressed, hfault⟩ := h.opened
  have hopen : openArchive path (.ok front) = .ok archive := h.content ▸ opened?_eq_some.1 hopened
  obtain ⟨found, hfound, hformat, hrecords⟩ :=
    records_of_damaged h.endsPart back hopen hcompressed hfault
  have hlater' : later.opened? path = some found := opened?_eq_some.2 (hlater ▸ hfound)
  refine ⟨by rw [hlater']; rfl, ?_⟩
  simp only [updatesAt, hopened, hlater', Option.map_some, Option.getD_some, Opened.updates,
    hformat]
  exact hrecords.filterMap _

/-- What is taken from the archive at a path. -/
def Disk.tallyAt? (disk : Disk) (path : String) : Option ArchiveTally :=
  (disk.opened? path).map Archive.Opened.tally

namespace Intake

variable {disk : Disk} {path : String}

theorem addFile_of_opened {archive : Opened} (h : disk.opened? path = some archive)
    (intake : Intake) : intake.addFile disk path = intake.addArchive archive := by
  unfold addFile
  rw [Disk.opened?_eq_some.1 h]

theorem addFile_of_not_opened (h : disk.opened? path = none) (intake : Intake) :
    intake.addFile disk path = { intake with skippedFiles := intake.skippedFiles ++ [path] } := by
  unfold Disk.opened? at h
  unfold addFile
  cases hopen : openArchive path (disk.archiveContent path) with
  | error error => rfl
  | ok found => simp [hopen, Except.toOption] at h

/-- What is taken from files adds up, and each path that cannot be opened is skipped. -/
theorem addFiles_eq (disk : Disk) (intake : Intake) (paths : List String) :
    intake.addFiles disk paths =
      { builder := intake.builder.applyAll (paths.flatMap disk.updatesAt)
        files := intake.files ++ paths.filterMap disk.tallyAt?
        skippedFiles :=
          intake.skippedFiles ++ paths.filter fun path => (disk.opened? path).isNone } := by
  induction paths generalizing intake with
  | nil => simp [addFiles, Builder.applyAll]
  | cons path paths ih =>
    unfold addFiles at ih ⊢
    rw [List.foldl_cons, ih]
    cases hopened : disk.opened? path with
    | none =>
      rw [addFile_of_not_opened hopened]
      simp [Disk.updatesAt, Disk.tallyAt?, hopened]
    | some archive =>
      rw [addFile_of_opened hopened, addArchive_eq]
      simp [Disk.updatesAt, Disk.tallyAt?, hopened, Builder.applyAll]

/-- Only what stands at the paths matters. -/
theorem addFiles_congr {later : Disk} {paths : List String}
    (h : ∀ path ∈ paths, later.archiveContent path = disk.archiveContent path) (intake : Intake) :
    intake.addFiles later paths = intake.addFiles disk paths := by
  unfold addFiles
  refine List.foldl_ext _ _ _ fun intake path hpath => ?_
  unfold addFile
  rw [h path hpath]

/-- A path that cannot be opened is skipped at its place, and the others are taken over as if it
were not there. -/
theorem addFiles_insert (h : disk.opened? path = none) (intake : Intake)
    (front back : List String) :
    intake.addFiles disk (front ++ path :: back) =
      { intake.addFiles disk (front ++ back) with
        skippedFiles := (intake.addFiles disk front).skippedFiles ++
          path :: back.filter fun path => (disk.opened? path).isNone } := by
  simp only [addFiles_eq]
  simp [Disk.updatesAt, Disk.tallyAt?, h]

theorem addItem_of_unreadable {format : Format} {record : Record}
    (h : record.isUnreadable format = true) (builder : Builder) (file : ArchiveTally) :
    addItem format (builder, file) (.ok record) =
      (builder, { file with skippedRecords := file.skippedRecords + 1 }) := by
  unfold Record.isUnreadable at h
  cases hupdate : record.update format with
  | error error => simp [addItem, hupdate]
  | ok update? => simp [hupdate, Except.isOk, Except.toBool] at h

/-- A record that cannot be read, at any place of a file, is counted and gives nothing. -/
theorem foldl_addItem_insert {format : Format} {record : Record}
    (h : record.isUnreadable format = true) (front back : List (Except Archive.Error Record))
    (builder : Builder) (file : ArchiveTally) :
    (front ++ .ok record :: back).foldl (addItem format) (builder, file) =
      (((front ++ back).foldl (addItem format) (builder, file)).1,
        { ((front ++ back).foldl (addItem format) (builder, file)).2 with
          skippedRecords :=
            ((front ++ back).foldl (addItem format) (builder, file)).2.skippedRecords + 1 }) := by
  rw [List.foldl_append, List.foldl_cons, List.foldl_append]
  obtain ⟨builder', file'⟩ := front.foldl (addItem format) (builder, file)
  rw [addItem_of_unreadable h, foldl_addItem, foldl_addItem]
  unfold ArchiveTally.noting
  simp only [Nat.add_right_comm]

/-- A build has taken over the files at some paths of a disk. -/
structure HasTaken (intake : Intake) (job : Int64) (seeds : List String) (disk : Disk)
    (paths : List String) : Prop where
  /-- The graph is that of the updates of the files, file after file. -/
  network : intake.builder.finish = Network.ofUpdates job seeds (paths.flatMap disk.updatesAt)
  files : intake.files = paths.filterMap disk.tallyAt?
  /-- Each path stands in its order among the files, if it can be opened. -/
  opened : intake.files.map ArchiveTally.path =
    paths.filter fun path => (disk.opened? path).isSome
  /-- Otherwise it stands among the skipped ones. -/
  skippedFiles : intake.skippedFiles = paths.filter fun path => (disk.opened? path).isNone

theorem hasTaken_addFiles (job : Int64) (seeds : List String) (disk : Disk) (paths : List String) :
    ((start job seeds).addFiles disk paths).HasTaken job seeds disk paths := by
  rw [addFiles_eq]
  constructor
  case network => rfl
  case files => exact List.nil_append _
  case opened =>
    show (paths.filterMap disk.tallyAt?).map ArchiveTally.path = _
    induction paths with
    | nil => rfl
    | cons path paths ih =>
      cases hopened : disk.opened? path with
      | none => simp [Disk.tallyAt?, hopened, ih]
      | some archive =>
        have hpath : archive.tally.path = path := (Disk.start_of_opened? hopened).1
        simp [Disk.tallyAt?, hopened, ih, hpath]
  case skippedFiles => exact List.nil_append _

/-- **Indexing.** What a build takes from archive files is what the records that can be read give,
record after record and file after file: a path that cannot be opened is skipped at its place; an
error ends a file, whose records before it are taken over; and a record that cannot be read is
counted and gives nothing. A fault of the file itself is such an error, and where it comes behind
the first parts of a compressed file, what these give is taken over. -/
theorem takes_files (job : Int64) (seeds : List String) (disk : Disk) :
    (∀ paths, ((start job seeds).addFiles disk paths).HasTaken job seeds disk paths) ∧
    (∀ (later : Disk) (front back : List String) (path : String), later.opened? path = none →
      (∀ other ∈ front ++ back, later.archiveContent other = disk.archiveContent other) →
      let intake := (start job seeds).addFiles disk (front ++ back)
      let more := (start job seeds).addFiles later (front ++ path :: back)
      more.builder.finish = intake.builder.finish ∧ more.files = intake.files ∧
        ∃ behind,
          intake.skippedFiles =
            ((start job seeds).addFiles disk front).skippedFiles ++ behind ∧
          more.skippedFiles =
            ((start job seeds).addFiles disk front).skippedFiles ++ path :: behind) ∧
    (∀ path archive, disk.opened? path = some archive → ∃ error?,
      archive.reading.run.1.map Prod.fst = answers archive.reading.records error? ∧
        (archive.reading.cursor.fault.isSome = true → error?.isSome = true) ∧
        disk.updatesAt path = recordUpdates archive.reading.format archive.reading.records ∧
        ∃ file, disk.tallyAt? path = some file ∧ file.isTruncated = error?.isSome) ∧
    (∀ (later : Disk) (path : String) (front back : Bytes), disk.BreaksOff path front →
      later.archiveContent path = .ok (front ++ back) →
      (later.opened? path).isSome = true ∧ disk.updatesAt path <+: later.updatesAt path) ∧
    ∀ (format : Format) (record : Record), record.isUnreadable format = true →
      ∀ (front back : List (Except Archive.Error Record)) (builder : Builder) (file : ArchiveTally),
        let taken := (front ++ back).foldl (addItem format) (builder, file)
        (front ++ .ok record :: back).foldl (addItem format) (builder, file) =
          (taken.1, { taken.2 with skippedRecords := taken.2.skippedRecords + 1 }) := by
  refine ⟨hasTaken_addFiles job seeds disk, ?_, ?_, ?_, ?_⟩
  · intro later front back path hclosed hsame
    dsimp only
    rw [addFiles_insert hclosed, addFiles_congr hsame,
      addFiles_congr fun other hother => hsame other (List.mem_append_left _ hother)]
    refine ⟨rfl, rfl, _, ?_, rfl⟩
    have hback : (back.filter fun path => (later.opened? path).isNone) =
        back.filter fun path => (disk.opened? path).isNone := by
      refine List.filter_congr fun other hother => ?_
      unfold Disk.opened?
      rw [hsame other (List.mem_append_right _ hother)]
    simp only [addFiles_eq, hback, List.filter_append, List.append_assoc]
  · intro path archive hopened
    obtain ⟨-, format, bytes, fault, hreading⟩ := Disk.start_of_opened? hopened
    obtain ⟨error?, hitems, haccounts⟩ := exists_run_eq_answers format bytes fault
    rw [← hreading] at hitems haccounts
    refine ⟨error?, hitems, fun hfault => ?_, by rw [Disk.updatesAt, hopened]; rfl, archive.tally,
      ?_, ?_⟩
    · exact isSome_of_fault (by rw [hreading]; rfl) hfault haccounts.next
    · rw [Disk.tallyAt?, hopened]
      rfl
    · show archive.hasError = _
      rw [Opened.hasError, hitems, any_answers]
  · intro later path front back hbreaks hlater
    exact Disk.updatesAt_of_breaksOff hbreaks hlater
  · intro format record hunreadable
    exact foldl_addItem_insert hunreadable

/-- A file with a record that cannot be read, one that cannot be opened, one that has been cut in
its second record, and a compressed one of which the first part has a record and the second is
corrupt. -/
theorem takes_files_mixed :
    let seen := "WARC/1.0\nWARC-Type: metadata\nWARC-Record-ID: a\n" ++
      "WARC-Target-URI: http://a/\nContent-Length: 0\n\n"
    let broken := "WARC/1.0\nWARC-Type: response\nWARC-Record-ID: b\n" ++
      "WARC-Target-URI: http://b/\nContent-Length: 2\n\nhi"
    let front : Bytes := [0x1F, 0x8B, 8, 4, 0, 0, 0, 0, 0, 0xFF, 0x92, 0x1F] ++
      List.replicate 8082 0 ++ [0, 93, 0, 162, 255] ++ Utf8.ofString seen
    let disk : Disk :=
      { entries := [(["a.warc"], .file (Utf8.ofString broken)),
          (["b.warc.gz"], .file [1]),
          (["c.warc"], .file (Utf8.ofString (seen ++ "WARC/1.0\nWARC"))),
          (["d.warc.gz"], .file front)] }
    let later : Disk := { entries := [(["d.warc.gz"], .file (front ++ [7]))] }
    let intake := (start 1 []).addFiles disk ["a.warc", "c.warc"]
    let more := (start 1 []).addFiles disk ["a.warc", "b.warc.gz", "c.warc"]
    let record : Record :=
      { type := .response, url := some "http://b/", offset := 0, length := 2, headers := []
        body := Utf8.ofString "hi" }
    intake.HasTaken 1 [] disk ["a.warc", "c.warc"] ∧
      (intake.files.map fun file => (file.records, file.skippedRecords, file.isTruncated)) =
        [(0, 1, false), (1, 0, true)] ∧
      disk.opened? "b.warc.gz" = none ∧ more.builder.finish = intake.builder.finish ∧
      (∃ archive, disk.opened? "c.warc" = some archive ∧ ∃ error?,
        archive.reading.run.1.map Prod.fst = answers archive.reading.records error?) ∧
      disk.BreaksOff "d.warc.gz" front ∧
      disk.updatesAt "d.warc.gz" <+: later.updatesAt "d.warc.gz" ∧
      ((later.tallyAt? "d.warc.gz").map fun file => (file.records, file.isTruncated)) =
        some (1, true) ∧
      record.isUnreadable .arc = true ∧
      [.ok record].foldl (addItem .arc) (Builder.start 1 [], ⟨"", "", .arc, false, 0, 0, false⟩) =
        (Builder.start 1 [], ⟨"", "", .arc, false, 0, 1, false⟩) := by
  intro seen broken front disk later intake more record
  obtain ⟨htaken, hinsert, hitems, hdamaged, hskip⟩ := takes_files 1 [] disk
  have hclosed : disk.opened? "b.warc.gz" = none := by decide +kernel
  have hopened : (disk.opened? "c.warc").isSome := by decide +kernel
  obtain ⟨archive, harchive⟩ := Option.isSome_iff_exists.1 hopened
  obtain ⟨error?, hanswers, -⟩ := hitems _ archive harchive
  have hbreaks : disk.BreaksOff "d.warc.gz" front := by
    have hfault : (disk.opened? "d.warc.gz").map
        (fun archive => (archive.isCompressed, archive.reading.cursor.fault.isSome)) =
          some (true, true) := by
      decide +kernel
    obtain ⟨first, hfirst, hboth⟩ := Option.map_eq_some_iff.1 hfault
    exact ⟨rfl, ⟨0, by decide +kernel⟩, first, hfirst, congrArg Prod.fst hboth,
      congrArg Prod.snd hboth⟩
  have hunreadable : record.isUnreadable .arc = true := by decide +kernel
  exact ⟨htaken _, by decide +kernel, hclosed,
    (hinsert disk ["a.warc"] ["c.warc"] "b.warc.gz" hclosed fun _ _ => rfl).1,
    ⟨archive, harchive, error?, hanswers⟩, hbreaks,
    (hdamaged later "d.warc.gz" front [7] hbreaks rfl).2, by decide +kernel, hunreadable,
    hskip .arc record hunreadable [] [] _ _⟩

end Intake

end CrawlGraph
