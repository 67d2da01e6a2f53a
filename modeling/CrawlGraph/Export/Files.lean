import CrawlGraph.Disk.Basic
import CrawlGraph.Export.Line
import CrawlGraph.Store.Scan
import CrawlGraph.Text.Cut

/-!
# Resource files

A graph as flat files: one file of resource lines for each domain, named for its identifier, and one
file that holds all domains with their buckets. URLs without a domain are in the file of the number
zero.

Main definitions: `Export.write`, `Export.loadLines`, `Export.loadDomains`, `Export.ofDatabase`.
-/

namespace CrawlGraph.Export

/-- What has been written. -/
structure Summary where
  directory : String
  domainFiles : Nat
  urlLines : Nat
  domains : Nat
  deriving DecidableEq, Repr

/-- The folder of the files below a root folder. -/
def directory (root : String) : String := Disk.join root "resource"

/-- The file of the URLs of a domain. -/
def lineFile (root : String) (domainId : Int64) : String :=
  Disk.join (directory root) (toString domainId ++ ".unl")

/-- The file of the domains. -/
def domainFile (root : String) : String := Disk.join (directory root) "domain.json"

/-- The number of the file of a URL. -/
def fileNumber (node : Node) : Int64 := if node.domainId = missingId then 0 else node.domainId

/-- The URLs of each file, in their order. -/
def byFile (urls : List Node) : List (Int64 × List Node) :=
  urls.foldl
    (fun files node =>
      Sorted.update (fileNumber node) (fun found => found.getD [] ++ [node]) files) []

/-- The text of a file of URLs. -/
def resourceText (urls : List Node) : List Char :=
  urls.flatMap fun node => (Line.ofNode node).text.toList ++ ['\n']

/-- Writes files in order, up to the first that cannot be written. -/
def writeAll : List (String × Bytes) → Disk → Except Failure Unit × Disk
  | [], disk => (.ok (), disk)
  | (path, content) :: files, disk =>
    match disk.write path content with
    | .error fault => (.error (.disk fault), disk)
    | .ok disk => writeAll files disk

/-- Writes URLs and domains below a root folder. -/
def write (root : String) (urls domains : List Node) (disk : Disk) :
    Except Failure Summary × Disk :=
  match disk.makeFolders (directory root) with
  | .error fault => (.error (.disk fault), disk)
  | .ok disk =>
    let files := byFile urls
    let texts := files.map fun (id, urls) =>
      (lineFile root id, Utf8.encode (resourceText urls))
    let last := (domainFile root, (Json.array (domains.map Node.toJson)).bytes)
    let (outcome, disk) := writeAll (texts ++ [last]) disk
    (outcome.map fun _ =>
      { directory := directory root, domainFiles := files.length, urlLines := urls.length,
        domains := domains.length }, disk)

/-- Reads resource lines; blank lines do not count. -/
def readLines (text : List Char) : Except Failure (List Line) :=
  ((Text.lines text).filter (!Text.allBlank ·)).mapM fun line =>
    (Line.parse line).mapError Failure.invalidLine

/-- Reads the URLs of a domain. -/
def loadLines (root : String) (domainId : Int64) (disk : Disk) :
    Except Failure (List Line) := do
  readLines (← (disk.readText (lineFile root domainId)).mapError Failure.disk)

/-- Reads the domains. -/
def loadDomains (root : String) (disk : Disk) : Except Failure (List Node) := do
  let bytes ← (disk.read (domainFile root)).mapError Failure.disk
  match (Json.parse? bytes).bind
      (Json.asList? Json.maxDepth (Node.ofJson? (Json.maxDepth - 1))) with
  | none => .error .undecodable
  | some nodes => .ok nodes

/-- The URLs and the domains of a job, in the order of their keys. -/
def ofTable (source : Except Failure Table) (job : Int64) :
    Except Failure (List Node × List Node) := do
  let scope := StoreKey.scope job
  let all (kind : NodeKind) : Except Failure (List Node) :=
    (Scan.start .forward kind scope (some scope)).collect source
  return (← all .url, ← all .domain)

/-- Writes all that is stored of a job. -/
def ofDatabase (root : String) (source : Except Failure Table) (job : Int64) (disk : Disk) :
    Except Failure Summary × Disk :=
  match ofTable source job with
  | .error failure => (.error failure, disk)
  | .ok (urls, domains) => write root urls domains disk

end CrawlGraph.Export
