import CrawlGraph.Disk.Path
import CrawlGraph.Text.Ascii
import CrawlGraph.Text.Cut

/-!
# Container formats

The container format of an archive file is told by the end of its name, in any letter case.
-/

namespace CrawlGraph.Archive

/-- How an archive lays out its records. -/
inductive Format where
  /-- One record for each request, response or description of a capture. -/
  | warc
  /-- One record for each exchange. -/
  | arc
  deriving DecidableEq, Repr

/-- The name of a format. -/
def Format.name : Format → String
  | .warc => "warc"
  | .arc => "arc"

/-- The endings of file names, each with the format it tells and whether the file is compressed. -/
def endings : List (String × Format × Bool) :=
  [(".warc.gz", .warc, true), (".warc", .warc, false), (".arc.gz", .arc, true),
    (".arc", .arc, false)]

/-- The format that a path tells, and whether the file is compressed. -/
def formatOf? (path : String) : Option (Format × Bool) := do
  let name ← Disk.fileName? path
  let (_, format) ← endings.find? fun (ending, _) =>
    Text.endsWith ending.toList (Text.lower name.toList)
  some format

/-- Whether a path names an archive file. -/
def isArchive (path : String) : Bool := (formatOf? path).isSome

end CrawlGraph.Archive
