import CrawlGraph.Archive.Format
import CrawlGraph.Gzip.Fault
import CrawlGraph.Text.Quoted

/-!
# What can be wrong with an archive

Only a fault of the message inside a record leaves the rest of the archive readable.

Main definitions: `Error`, `Error.message`, `Error.isRecoverable`.
-/

namespace CrawlGraph.Archive

/-- Why the bytes of a file cannot be had. -/
inductive InputFault where
  /-- There is no such file. -/
  | missing
  /-- A folder stands in its place. -/
  | folder
  /-- A step of its path is a file. -/
  | insideFile
  /-- A file that should be compressed is not. -/
  | uncompressed
  /-- Compressed data breaks off or is corrupt. -/
  | compression (fault : Gzip.Fault)
  deriving DecidableEq, Repr

/-- What is wrong with the header of a record or the start of a file. -/
inductive HeaderFault where
  | notVersion (offset : Nat) (line : String)
  | noContentLength (offset : Nat)
  | fewFields (offset count : Nat) (line : String)
  | noLength (offset : Nat)
  | wrongSignature (format : Format)
  deriving DecidableEq, Repr

/-- Where an archive breaks off. -/
inductive Truncation where
  | emptyFile
  | headers (offset : Nat)
  | block (offset declared present : Nat)
  deriving DecidableEq, Repr

/-- What is wrong with the first line of a message. -/
inductive StatusFault where
  | missing
  | notHttp (line : String)
  | noCode (line : String)
  deriving DecidableEq, Repr

/-- What is wrong with an archive or one of its records. -/
inductive Error where
  /-- The file cannot be opened. -/
  | unopened (path : String) (fault : InputFault)
  /-- The name of the file tells no format. -/
  | unknownFormat (path : String)
  | header (fault : HeaderFault)
  | truncated (place : Truncation)
  /-- A record holds a message that cannot be read. -/
  | status (fault : StatusFault)
  /-- Reading fails on the way. -/
  | input (fault : InputFault)
  deriving DecidableEq, Repr

/-- Whether the rest of the archive is readable. -/
def Error.isRecoverable : Error → Bool
  | .status _ => true
  | _ => false

/-- As much of a line as messages show. -/
def shortened (line : String) : String := String.ofList (line.toList.take 64)

/-- What an unreadable header is. -/
def HeaderFault.message : HeaderFault → String
  | .notVersion offset line =>
    "expected WARC version line at offset " ++ toString offset ++ ", found " ++
      Text.quoted (shortened line)
  | .noContentLength offset =>
    "record at offset " ++ toString offset ++ " has no valid Content-Length"
  | .fewFields offset count line =>
    "ARC header at offset " ++ toString offset ++ " has " ++ toString count ++ " fields: " ++
      Text.quoted (shortened line)
  | .noLength offset => "ARC header at offset " ++ toString offset ++ " has no valid length"
  | .wrongSignature format => "not a " ++ format.name ++ " file"

/-- What is cut short. -/
def Truncation.message : Truncation → String
  | .emptyFile => "archive is empty"
  | .headers offset => "header block of record at offset " ++ toString offset ++ " ended early"
  | .block offset declared present =>
    "record at offset " ++ toString offset ++ " declares " ++ toString declared ++
      " bytes but only " ++ toString present ++ " remain"

/-- What a message starts with. -/
def StatusFault.message : StatusFault → String
  | .missing => "Failed to read http status where one was expected"
  | .notHttp line => "Failed parse of http status line: " ++ Text.quoted (shortened line)
  | .noCode line => "Missing status code in " ++ Text.quoted line

/-- The words for a fault of the input. -/
def InputFault.message : InputFault → String
  | .missing => "No such file or directory"
  | .folder => "Is a directory"
  | .insideFile => "Not a directory"
  | .uncompressed => "missing gzip header"
  | .compression .cut => "unexpected end of file"
  | .compression .corrupt => "corrupt gzip stream"

/-- The words for an error. -/
def Error.message : Error → String
  | .unopened path fault => "Failed to open archive " ++ path ++ ": " ++ fault.message
  | .unknownFormat path => "Unsupported archive format: " ++ path
  | .header fault => "Invalid record header: " ++ fault.message
  | .truncated place => "Truncated record: " ++ place.message
  | .status fault => "Recoverable parse error: " ++ fault.message
  | .input fault => "IO error: " ++ fault.message

end CrawlGraph.Archive
