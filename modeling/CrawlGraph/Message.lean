import CrawlGraph.Failure
import CrawlGraph.Text.Quoted

/-!
# The words for failures
-/

namespace CrawlGraph

/-- The words for a fault of the disk. -/
def DiskFault.message : DiskFault → String
  | .missing => "No such file or directory"
  | .isFolder => "Is a directory"
  | .notFolder => "Not a directory"
  | .notText => "stream did not contain valid UTF-8"
  | .denied => "Permission denied"

/-- The words for a fault of a store. -/
def StoreFault.message : StoreFault → String
  | .unopened => "unable to open database file"
  | .foreign => "file is not a database"
  | .rejected => "key rejected"

/-- The words for a fault of a line. -/
def LineFault.message : LineFault → String
  | .fieldCount count line =>
    "expected 7 fields, found " ++ toString count ++ ": " ++ Text.quoted line
  | .noUrl line => "missing url: " ++ Text.quoted line
  | .number name field => "invalid " ++ name ++ " " ++ Text.quoted field

/-- The words for a failure. -/
def Failure.message : Failure → String
  | .store fault => "Store error: " ++ fault.message
  | .disk fault => "IO error: " ++ fault.message
  | .undecodable => "Serialization error: unexpected value"
  | .closed name => "Store " ++ name ++ " is closed"
  | .invalidPath path => "Invalid path: " ++ path ++ " is not a directory"
  | .invalidLine fault => "Invalid resource line: " ++ fault.message

end CrawlGraph
