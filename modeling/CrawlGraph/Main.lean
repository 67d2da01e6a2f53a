import CrawlGraph.CommandLine.Help
import CrawlGraph.CommandLine.Run
import CrawlGraph.Store.Image
import Std.Time.Format

/-!
# The program

Takes over from the file system what a request needs, carries the request out, and writes back what
has changed. The file of a store is the image of its table.
-/

namespace CrawlGraph.Program

open CommandLine

/-- The version that is shown. -/
def version : String := "0.1.0"

/-- The path of a place. -/
def pathOf (place : Place) : String := "/" ++ "/".intercalate place

/-- What a file holds. -/
def entryOf (content : Bytes) : Entry :=
  match Table.ofImage? content with
  | some table => .database { table }
  | none => .file content

/-- The bytes of a file, and nothing for a folder. -/
def contentOf : Entry → Option Bytes
  | .folder => none
  | .file content => some content
  | .database db => some db.table.image

/-- Takes over what stands at a place and, up to a depth, inside it. -/
def load : (depth : Nat) → Disk → Place → IO Disk
  | depth, disk, place => do
    let file := (← IO.currentDir) / pathOf place
    if ← file.isDir then
      let disk := disk.set place .folder
      match depth with
      | 0 => return disk
      | depth + 1 =>
        (← file.readDir).foldlM (fun disk entry => load depth disk (place ++ [entry.fileName])) disk
    else if ← file.pathExists then
      return disk.set place (entryOf (← IO.FS.readBinFile file).data.toList)
    else return disk

/-- Takes over what a path leads to, and all that it passes through. -/
def loadPath (disk : Disk) (need : Nat × String) : IO Disk := do
  let (depth, path) := need
  let place := (Disk.names path).foldl Disk.step (disk.startPlace path)
  let above := ((List.range place.length).map place.take).filter (· ≠ [])
  load depth (← above.foldlM (load 0) disk) place

/-- The paths that a request depends on, and how deep what is inside matters. -/
def needs (setting : Setting) (request : Request) : List (Nat × String) :=
  let pool := (request.start setting {}).1
  let own := match request.task with
    | .index directory _ seedFile => (1, directory) :: seedFile.toList.map fun path => (0, path)
    | .query _ => []
    | .exportTo folder => [(1, Export.directory folder)]
  (1, pool.path request.id) :: own

/-- Writes what has changed. -/
def store (before after : Disk) : IO Unit := do
  for (place, entry) in before.entries.reverse do
    if (after.at? place).isNone then
      match entry with
      | .folder => IO.FS.removeDirAll (pathOf place)
      | _ => IO.FS.removeFile (pathOf place)
  for (place, entry) in after.entries do
    if (before.at? place).map contentOf ≠ some (contentOf entry) then
      match contentOf entry with
      | none => IO.FS.createDirAll (pathOf place)
      | some content => IO.FS.writeBinFile (pathOf place) ⟨content.toArray⟩

/-- The time now. -/
def now : IO String := do
  let time := Std.Time.DateTime.ofTimestampWithZone (← Std.Time.Timestamp.now) Std.Time.TimeZone.UTC
  return time.format "uuuu-MM-dd" ++ "T" ++ time.format "HH:mm:ss.SSSSSSSSSxxx"

/-- Tells why a request has failed. -/
def tellFailure (message : String) : IO Unit := IO.eprintln ("✗ " ++ message)

/-- Carries a request out on the file system. -/
def perform (request : Request) : IO UInt32 := do
  let setting : Setting := { home := (← IO.getEnv "HOME").getD "/", time := ← now }
  let here := Disk.names (← IO.currentDir).toString
  let before ← (needs setting request).foldlM loadPath { current := here }
  let before ← loadPath before (0, pathOf here)
  let (report, after) := request.run setting before
  store before after
  IO.print report.output
  IO.eprint report.notes
  match report.failure with
  | none => return 0
  | some message =>
    tellFailure message
    return 1

/-- Carries out the request that arguments stand for. -/
def run (arguments : List String) : IO UInt32 := do
  let program := ((← IO.appPath).fileStem).getD "crawlgraph"
  match Request.ofArguments program arguments with
  | .ok request => perform request
  | .error (.usage .help) =>
    IO.print (rule program).help
    return 0
  | .error (.usage .version) =>
    IO.println (program ++ " " ++ version)
    return 0
  | .error (.usage fault) =>
    IO.eprintln ("error: " ++ fault.message)
    return 2
  | .error refusal =>
    tellFailure refusal.message
    return 1

end CrawlGraph.Program

/-- Carries out the request that is given on the command line. -/
def main (arguments : List String) : IO UInt32 := CrawlGraph.Program.run arguments
