import CrawlGraph.CommandLine.Request
import CrawlGraph.Export.Files
import CrawlGraph.IndexJson
import CrawlGraph.Seeds

/-!
# Carrying out requests

Each request has a pool of its own. The answer is written as JSON, and what has been done is told in
notes beside it.

Main definitions: `Report`, `Request.run`.
-/

namespace CrawlGraph.CommandLine

/-- What a request gives. -/
structure Report where
  /-- The answer. -/
  output : String := ""
  /-- What is told beside the answer. -/
  notes : String := ""
  failure : Option String := none
  deriving DecidableEq, Repr

namespace Report

/-- An answer as JSON, with a note. -/
def answer (json : Json) (notes : String) : Report := { output := json.pretty ++ "\n", notes }

/-- A failure. -/
def fail (message notes : String) : Report := { notes, failure := some message }

end Report

/-- What is told about an answer. -/
def describe : Json → String
  | .null => "not found"
  | .array items => toString items.length ++ " node(s)"
  | _ => "1 value"

/-- The seeds of an index task, and the warnings about lines that give none. -/
def seedsOf (lines : List String) (file : Option String) (disk : Disk) :
    Except Seeds.Fault (List String) × String :=
  let (seeds, warnings) := Seeds.ofLines (lines.map Text.trimmed)
  match file with
  | none => (.ok seeds, warnings)
  | some path =>
    let (more, moreWarnings) := Seeds.load disk path
    (more.map (seeds ++ ·), warnings ++ moreWarnings)

/-- What is told before a folder is indexed. -/
def indexNote (id : RunId) (directory : String) (seeds : List String) : String :=
  "→ Indexing " ++ directory ++ " into job " ++ toString id.job ++ " run " ++ toString id.run ++
    "\n" ++
    if seeds.isEmpty then "" else "→ " ++ toString seeds.length ++ " declared seed(s)\n"

/-- What is told after a folder has been indexed. -/
def summaryNote (summary : IndexOutcome) : String :=
  "✓ " ++ toString summary.urlCount ++ " urls, " ++ toString summary.domainCount ++ " domains, " ++
    toString summary.rootCount ++ " roots, " ++ toString summary.malformedCount ++
    " malformed from " ++ toString summary.files.length ++ " file(s)\n" ++
    String.join (summary.skippedFiles.map fun path => "  ⚠ skipped " ++ path ++ "\n")

/-- What is told after an export. -/
def exportNote (summary : Export.Summary) : String :=
  "✓ Exported " ++ toString summary.urlLines ++ " url lines in " ++ toString summary.domainFiles ++
    " file(s) and " ++ toString summary.domains ++ " domains to " ++ summary.directory ++ "\n"

/-- Where and when requests are carried out. -/
structure Setting where
  home : String
  /-- The time that a completed build is marked with. -/
  time : String
  deriving DecidableEq, Repr

namespace Request

/-- The pool of a request, on a disk. -/
def start (setting : Setting) (request : Request) (disk : Disk) : Pool.State :=
  (Pool.start (Disk.expandHome setting.home request.store) request.capacity, { disk })

/-- Notes, unless the request is quiet. -/
def note (request : Request) (text : String) : String := if request.isQuiet then "" else text

/-- Indexes a folder. -/
def runIndex (setting : Setting) (request : Request) (directory : String) (lines : List String)
    (seedFile : Option String) (disk : Disk) : Report × Disk :=
  match seedsOf lines seedFile disk with
  | (.error fault, warnings) => (.fail fault.message warnings, disk)
  | (.ok seeds, warnings) =>
    let notes := warnings ++ request.note (indexNote request.id directory seeds)
    match index request.id directory seeds setting.time (request.start setting disk) with
    | (.error failure, _, ws) => (.fail ("Index failed: " ++ failure.message) notes, ws.disk)
    | (.ok summary, _, ws) =>
      (.answer summary.toJson.sortFields (notes ++ request.note (summaryNote summary)), ws.disk)

/-- Answers a query. -/
def runQuery (setting : Setting) (request : Request) (query : Query) (disk : Disk) :
    Report × Disk :=
  let (answer, _, ws) := Pool.ask request.id (fun db => query.answer db request.id.job)
    (request.start setting disk)
  match answer with
  | .error failure => (.fail ("Query failed: " ++ failure.message) "", ws.disk)
  | .ok json => (.answer json (request.note ("✓ " ++ describe json ++ "\n")), ws.disk)

/-- Exports a stored graph. -/
def runExport (setting : Setting) (request : Request) (output : String) (disk : Disk) :
    Report × Disk :=
  match Pool.get request.id (request.start setting disk) with
  | (.error failure, _, ws) =>
    (.fail ("Failed to open store for job " ++ toString request.id.job ++ " run " ++
      toString request.id.run ++ ": " ++ failure.message) "", ws.disk)
  | (.ok handle, _, ws) =>
    match Export.ofDatabase output (ws.table handle) request.id.job ws.disk with
    | (.error failure, disk) => (.fail ("Export failed: " ++ failure.message) "", disk)
    | (.ok summary, disk) => ({ notes := request.note (exportNote summary) }, disk)

/-- Carries out a request. -/
def run (setting : Setting) (request : Request) (disk : Disk) : Report × Disk :=
  match request.task with
  | .index directory lines seedFile => request.runIndex setting directory lines seedFile disk
  | .query query => request.runQuery setting query disk
  | .exportTo output => request.runExport setting output disk

end Request

end CrawlGraph.CommandLine
