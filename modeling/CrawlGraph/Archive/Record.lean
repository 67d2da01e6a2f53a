import CrawlGraph.Archive.Headers

/-!
# Records

One entry of an archive, as it stands in the file.
-/

namespace CrawlGraph.Archive

/-- What a record holds. -/
inductive RecordType where
  | warcinfo
  | request
  | response
  | metadata
  | resource
  | revisit
  /-- A request, its response and the circumstances of the capture in one record. -/
  | exchange
  /-- A type that has no meaning here. -/
  | other (name : String)
  deriving DecidableEq, Repr

/-- The name of a type. -/
def RecordType.name : RecordType → String
  | .warcinfo => "warcinfo"
  | .request => "request"
  | .response => "response"
  | .metadata => "metadata"
  | .resource => "resource"
  | .revisit => "revisit"
  | .exchange => "exchange"
  | .other name => name

/-- The type that the header of a record names, in any letter case. -/
def RecordType.ofHeader (value : String) : RecordType :=
  let name := String.ofList (Text.lower (Text.trim value.toList))
  ([RecordType.warcinfo, .request, .response, .metadata, .resource, .revisit].find?
    (·.name = name)).getD (.other name)

/-- An entry of an archive. -/
structure Record where
  type : RecordType
  /-- What was captured. -/
  url : Option String
  /-- Where the header of the record starts. -/
  offset : Nat
  /-- The number of bytes that the header declares. -/
  length : Nat
  headers : Headers
  body : Bytes
  deriving DecidableEq, Repr

/-- A text without the white space at its ends and without the angle brackets inside that. -/
def stripBrackets (value : String) : String :=
  let text := Text.trim value.toList
  let text := (Text.dropStart ['<'] text).getD text
  String.ofList (if text.getLast? = some '>' then text.dropLast else text)

/-- The media type that the headers of a record name. -/
def Record.contentType? (record : Record) : Option String := record.headers.get? "Content-Type"

/-- The identifier of a record. -/
def Record.id? (record : Record) : Option String :=
  (record.headers.get? "WARC-Record-ID").map stripBrackets

/-- The identifier of the record that a record belongs to. -/
def Record.concurrentTo? (record : Record) : Option String :=
  ((record.headers.get? "WARC-Concurrent-To").map stripBrackets).filter (· != "")

end CrawlGraph.Archive
