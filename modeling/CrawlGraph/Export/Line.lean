import CrawlGraph.Failure
import CrawlGraph.Graph.Node
import CrawlGraph.Text.Blank
import CrawlGraph.Text.Number

/-!
# Resource lines

One URL as a line of seven fields with commas between: identifier, URL, content type, status code,
content length, offset and the URL it was found on. Inside a field a percent sign is written as
`%25` and a comma as `%2C`; an empty field is a value that is missing.

Main definitions: `Line`, `Line.text`, `Line.parse`.
-/

namespace CrawlGraph.Export

/-- What a resource file says about a URL. -/
structure Line where
  id : Int64
  url : String
  contentType : Option String
  statusCode : Int32
  contentLength : Int64
  offset : UInt64
  via : Option String
  deriving DecidableEq, Repr

namespace Line

/-- What a resource file says about a node. -/
def ofNode (node : Node) : Line :=
  { id := node.id, url := node.url, contentType := node.contentType, statusCode := node.statusCode,
    contentLength := node.contentLength, offset := node.offset, via := node.via }

/-- A text as it stands in a field. -/
def escape (cs : List Char) : List Char :=
  cs.flatMap fun c =>
    if c = '%' then ['%', '2', '5'] else if c = ',' then ['%', '2', 'C'] else [c]

/-- A text in which each `%2C` stands for a comma. -/
def readCommas : List Char → List Char
  | '%' :: '2' :: 'C' :: cs => ',' :: readCommas cs
  | c :: cs => c :: readCommas cs
  | [] => []

/-- A text in which each `%25` stands for a percent sign. -/
def readPercents : List Char → List Char
  | '%' :: '2' :: '5' :: cs => '%' :: readPercents cs
  | c :: cs => c :: readPercents cs
  | [] => []

/-- The text that stands in a field. -/
def unescape (cs : List Char) : List Char := readPercents (readCommas cs)

/-- The fields of a line, in order. -/
def fields (line : Line) : List (List Char) :=
  let field (value : Option String) : List Char := escape (value.getD "").toList
  [(toString line.id).toList, field (some line.url), field line.contentType,
    (toString line.statusCode).toList, (toString line.contentLength).toList,
    (toString line.offset).toList, field line.via]

/-- A line, without its line end. -/
def text (line : Line) : String := String.ofList ([','].intercalate line.fields)

/-- Reads an integer, where `name` tells what it is. -/
def readNumber (name : String) (field : List Char) : Except LineFault Int64 :=
  match Text.readInt64 (Text.trim field) with
  | none => .error (.number name (String.ofList field))
  | some n => .ok n

/-- Reads a field that may be empty. -/
def readOptional (field : List Char) : Option String :=
  let value := Text.trim field
  if value.isEmpty then none else some (String.ofList (unescape value))

/-- Reads the seven fields of a line. -/
def readFields (line : List Char) : List (List Char) → Except LineFault Line
  | [id, url, contentType, statusCode, contentLength, offset, via] => do
    let url := unescape (Text.trim url)
    if url.isEmpty then throw (.noUrl (String.ofList line))
    let status ← readNumber "status code" statusCode
    let some status := Text.int32? status.toInt
      | throw (.number "status code" (String.ofList statusCode))
    let start ← readNumber "offset" offset
    let some start := Text.uint64? start.toInt
      | throw (.number "offset" (String.ofList offset))
    return {
      id := ← readNumber "id" id
      url := String.ofList url
      contentType := readOptional contentType
      statusCode := status
      contentLength := ← readNumber "content length" contentLength
      offset := start
      via := readOptional via }
  | fields => throw (.fieldCount fields.length (String.ofList line))

/-- Reads a line, with or without a line end. -/
def parse (line : List Char) : Except LineFault Line :=
  let line := (line.reverse.dropWhile fun c => c == '\r' || c == '\n').reverse
  readFields line (line.splitOnP (· == ','))

end Line

end CrawlGraph.Export
