import CrawlGraph.Archive.RecordUpdate
import CrawlGraph.Archive.Open
import CrawlGraph.Graph.Builder
import CrawlGraph.Store.Pool

/-!
# Indexing

Builds the graph of a job from the archive files of a folder. A file that cannot be opened is
skipped; the first error inside a file ends its reading, and a record whose message cannot be read
is skipped.

Main definitions: `Intake.addFile`, `listArchives`, `index`.
-/

namespace CrawlGraph

/-- What has been taken from an archive file. -/
structure ArchiveTally where
  name : String
  path : String
  format : Archive.Format
  isCompressed : Bool
  /-- The number of records that gave an update. -/
  records : Nat := 0
  /-- The number of records whose message could not be read. -/
  skippedRecords : Nat := 0
  /-- Whether an error ended the reading. -/
  isTruncated : Bool := false
  deriving DecidableEq, Repr

/-- A build under way. -/
structure Intake where
  builder : Builder
  files : List ArchiveTally := []
  skippedFiles : List String := []
  deriving Repr

/-- The name by which a path is shown. -/
def shownName (path : String) : String := (Disk.fileName? path).getD path

/-- What stands at a path, as the content of an archive. -/
def Disk.archiveContent (disk : Disk) (path : String) : Except Archive.InputFault Bytes :=
  (disk.read path).mapError fun
    | .isFolder => .folder
    | .notFolder => .insideFile
    | _ => .missing

namespace Intake

/-- An empty build for a job, whose crawl started from the given URLs. -/
def start (job : Int64) (seeds : List String) : Intake := { builder := Builder.start job seeds }

/-- Takes over what one record of a file, or the error in its place, says. -/
def addItem (format : Archive.Format) (state : Builder × ArchiveTally)
    (item : Except Archive.Error Archive.Record) : Builder × ArchiveTally :=
  let (builder, file) := state
  match item with
  | .error _ => (builder, { file with isTruncated := true })
  | .ok record =>
    match record.update format with
    | .ok (some update) => (builder.apply update, { file with records := file.records + 1 })
    | .ok none => (builder, file)
    | .error _ => (builder, { file with skippedRecords := file.skippedRecords + 1 })

/-- Takes over all of an archive that has been opened. -/
def addArchive (intake : Intake) (archive : Archive.Opened) : Intake :=
  let format := archive.reading.format
  let file : ArchiveTally :=
    { name := shownName archive.path, path := archive.path, format,
      isCompressed := archive.isCompressed }
  let items := archive.reading.run.1.map Prod.fst
  let (builder, file) := items.foldl (addItem format) (intake.builder, file)
  { intake with builder, files := intake.files ++ [file] }

/-- Takes over an archive file, or skips it if it cannot be opened. -/
def addFile (disk : Disk) (intake : Intake) (path : String) : Intake :=
  match Archive.openArchive path (disk.archiveContent path) with
  | .error _ => { intake with skippedFiles := intake.skippedFiles ++ [path] }
  | .ok archive => intake.addArchive archive

/-- Takes over archive files in order. -/
def addFiles (disk : Disk) (intake : Intake) (paths : List String) : Intake :=
  paths.foldl (addFile disk) intake

end Intake

/-- The archive files that stand in a folder, in the order of their names. -/
def listArchives (disk : Disk) (directory : String) : Except Failure (List String) :=
  match disk.locate directory, disk.isFolder directory with
  | .ok place, true =>
    .ok (((disk.contents place).map (Disk.join directory)).filter fun path =>
      disk.isFile path && Archive.isArchive path)
  | _, _ => .error (.invalidPath directory)

/-- What is told while files are indexed. -/
def progressMessages (paths : List String) : List String :=
  paths.zipIdx.map fun (path, i) =>
    "Indexing file " ++ toString (i + 1) ++ "/" ++ toString paths.length ++ ": " ++ shownName path

/-- The outcome of indexing a folder. -/
structure IndexOutcome where
  id : RunId
  files : List ArchiveTally
  skippedFiles : List String
  urlCount : Int64
  domainCount : Int64
  rootCount : Nat
  malformedCount : Nat
  recordsWritten : Nat
  deriving DecidableEq, Repr

/-- The outcome of a build that has been stored. -/
def IndexOutcome.ofBuild (id : RunId) (intake : Intake) (network : Network)
    (recordsWritten : Nat) : IndexOutcome :=
  { id, files := intake.files, skippedFiles := intake.skippedFiles
    urlCount := network.urlCount, domainCount := network.domainCount
    rootCount := network.rootUrls.length, malformedCount := network.malformedUrls.length
    recordsWritten }

/-- Indexes a folder into an open store. -/
def indexInto (id : RunId) (directory : String) (seeds : List String) (completedAt : String)
    (handle : Handle) (ws : Workspace) : Except Failure IndexOutcome × Workspace :=
  match listArchives ws.disk directory with
  | .error failure => (.error failure, ws)
  | .ok paths =>
    let intake := (Intake.start id.job seeds).addFiles ws.disk paths
    let network := intake.builder.finish
    let (saved, ws) := ws.run handle fun db => db.saveNetwork network completedAt
    (saved.map (IndexOutcome.ofBuild id intake network), ws)

/-- Indexes a folder into a new store of a pool. -/
def index (id : RunId) (directory : String) (seeds : List String) (completedAt : String)
    (state : Pool.State) : Except Failure IndexOutcome × Pool.State :=
  let (created, pool, ws) := Pool.create id state
  match created with
  | .error failure => (.error failure, pool, ws)
  | .ok handle =>
    let (outcome, ws) := indexInto id directory seeds completedAt handle ws
    (outcome, pool, ws)

end CrawlGraph
