import CrawlGraph.Archive.Error
import CrawlGraph.Archive.Headers
import CrawlGraph.Text.Number

/-!
# Messages in records

The start line and the headers of the messages that records hold. A line ends with a line feed,
which a carriage return may precede; the headers end with an empty line or with the message.

Main definitions: `StatusLine.read`, `readHeaders`, `Response.read`.
-/

namespace CrawlGraph.Archive

/-- The first line of a response. -/
structure StatusLine where
  version : String
  code : Int32
  reason : String
  deriving DecidableEq, Repr

/-- Reads the first line of a response: a version that starts with `HTTP`, a number, and a reason
that may be missing, with single spaces between. -/
def StatusLine.read (line : String) : Except Error StatusLine :=
  if !Text.startsWith "HTTP".toList line.toList then .error (.status (.notHttp line))
  else
    let fields :=
      (Text.cutAt ' ' line.toList).map fun (version, rest) =>
        match Text.cutAt ' ' rest with
        | some (code, reason) => (version, code, reason)
        | none => (version, rest, [])
    match fields with
    | none => .error (.status (.noCode line))
    | some (version, code, reason) =>
      match Text.readInt32 (Text.trim code) with
      | none => .error (.status (.noCode line))
      | some code =>
        .ok { version := String.ofList version, code, reason := String.ofList (Text.trim reason) }

/-- The header that a line of a message gives; a name is not empty. -/
def headerOfLine? (line : Bytes) : Option (String × String) :=
  (Headers.ofLine? line).filter fun (name, _) => name != ""

/-- Reads headers up to the empty line after them, or up to the end, where the last line need not
end with a line feed. Gives what follows. -/
def readHeaders (bytes : Bytes) : Headers × Bytes :=
  match _h : cutLine bytes with
  | none => ((headerOfLine? bytes).toList, [])
  | some (line, rest) =>
    if dropReturn line = [] then ([], rest)
    else
      let (headers, rest) := readHeaders rest
      ((headerOfLine? (dropReturn line)).toList ++ headers, rest)
termination_by bytes.length
decreasing_by exact length_of_cutLine (by assumption)

/-- The first line and the headers of a response. -/
structure Response where
  status : StatusLine
  headers : Headers
  /-- Where the content starts. -/
  contentStart : Nat
  deriving DecidableEq, Repr

/-- Reads the first line and the headers of a response. -/
def Response.read (block : Bytes) : Except Error Response :=
  match cutLine block with
  | none => .error (.status .missing)
  | some (line, rest) => do
    let status ← StatusLine.read (Utf8.toStringLossy (dropReturn line))
    let (headers, content) := readHeaders rest
    return { status, headers, contentStart := block.length - content.length }

/-- The headers of a request. -/
def readRequestHeaders (block : Bytes) : Headers :=
  match cutLine block with
  | none => []
  | some (_, rest) => (readHeaders rest).1

/-- A media type in small letters, without its parameters; `none` if nothing is left. -/
def mediaType? (contentType : String) : Option String :=
  let type := Text.trim (contentType.toList.takeWhile (· != ';'))
  if type.isEmpty then none else some (String.ofList (Text.lower type))

end CrawlGraph.Archive
