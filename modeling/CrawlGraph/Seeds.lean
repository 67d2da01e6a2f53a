import CrawlGraph.Disk.Basic
import CrawlGraph.Message
import CrawlGraph.Url.Reference

/-!
# Seeds

The URLs a crawl started from, one to a line. A line that is no URL by itself but becomes one after
`http://` gets that scheme; blank lines and lines that start with a number sign are no seeds.

Main definitions: `Seeds.ofLine`, `Seeds.ofLines`, `Seeds.load`.
-/

namespace CrawlGraph.Seeds

/-- The seed that a line gives. -/
def ofLine (line : String) : Option String :=
  if Url.isAbsolute line then some line
  else
    let hosted := "http://" ++ line
    if Url.isAbsolute hosted then some hosted else none

/-- The warning about a line that gives no seed. -/
def warning (line : String) : String := "⚠ Skipping invalid URL '" ++ line ++ "'\n"

/-- The seeds that lines give, and the warnings about the others. -/
def ofLines (lines : List String) : List String × String :=
  let others := lines.filter fun line => (ofLine line).isNone
  (lines.filterMap ofLine, String.join (others.map warning))

/-- The lines of a seed list that stand for seeds, without the white space around them. -/
def candidates (content : List Char) : List String :=
  ((Text.lines content).map Text.trim).filterMap fun line =>
    if line.isEmpty || line.head? == some '#' then none else some (String.ofList line)

/-- Why a file gives no seeds. -/
inductive Fault where
  | unreadable (path : String) (fault : DiskFault)
  | noSeeds (path : String)
  deriving DecidableEq, Repr

/-- The words for a fault of a seed list. -/
def Fault.message : Fault → String
  | .unreadable path fault => "Failed to read seeds file " ++ path ++ ": " ++ fault.message
  | .noSeeds path => "No valid URLs found in " ++ path

/-- The seeds that a file lists, and the warnings about its other lines. There has to be a seed. -/
def load (disk : Disk) (path : String) : Except Fault (List String) × String :=
  match disk.readText path with
  | .error fault => (.error (.unreadable path fault), "")
  | .ok content =>
    let (seeds, warnings) := ofLines (candidates content)
    (if seeds.isEmpty then .error (.noSeeds path) else .ok seeds, warnings)

end CrawlGraph.Seeds
