import CrawlGraph.Archive.Message
import CrawlGraph.Archive.Reading
import CrawlGraph.Update

/-!
# From records to updates

What a record says about a capture. Records of name lookups, records without a URL or with one that
is too long, and records of other types say nothing; a response whose message cannot be read is an
error.

Main definition: `Record.update`.
-/

namespace CrawlGraph.Archive

/-- The number of characters that an indexed URL may have. -/
def urlLimit : Nat := 1020

/-- The URL of a record, if it may be indexed. -/
def Record.indexedUrl? (record : Record) : Option String :=
  record.url.filter fun url => url.length ≤ urlLimit

/-- A text without the white space at its ends, if anything is left. -/
def nonBlank? (value : Option String) : Option String :=
  (value.map Text.trimmed).filter (· != "")

/-- What the response in a record says. -/
def Record.answer (record : Record) : Except Error Answer := do
  let response ← Response.read record.body
  return {
    statusCode := response.status.code
    contentType := (response.headers.get? "Content-Type").bind mediaType?
    contentLength :=
      max 0 (Int64.ofNat record.length - Int64.ofNat response.contentStart) }

/-- Whether a description of a capture marks a seed: by the word of its `seed` entry or, if it has
none, by an empty path from the seed. -/
def isSeed (description : Headers) : Bool :=
  match description.get? "seed" with
  | some value =>
    ["true", "1", "yes"].contains (String.ofList (Text.lower (Text.trim value.toList)))
  | none =>
    ((description.get? "hopsFromSeed").map fun path => Text.allBlank path.toList).getD false

/-- What a record with a type of its own says. -/
def Record.fact (record : Record) : Except Error (Option Fact) :=
  match record.type with
  | .request =>
    let headers := readRequestHeaders record.body
    .ok (some
      (.request (nonBlank? (headers.get? "Referer")) (nonBlank? (headers.get? "Host"))))
  | .response => record.answer.map fun answer => some (.response answer)
  | .metadata =>
    let (description, _) := readHeaders record.body
    .ok (some (.metadata (nonBlank? (description.get? "via")) (isSeed description)))
  | _ => .ok none

/-- The update that a record of a typed archive gives. Records of one capture name the same record
as the one they belong to. -/
def Record.warcUpdate (record : Record) : Except Error (Option Update) :=
  if (record.contentType?.map (Text.sameIgnoringCase · "text/dns")).getD false then .ok none
  else
    match record.indexedUrl?, record.id? with
    | some url, some id =>
      record.fact.map fun fact =>
        fact.map fun fact =>
          { sessionKey := record.concurrentTo?.getD id, url, offset := UInt64.ofNat record.offset,
            fact }
    | _, _ => .ok none

/-- The update that a record of an archive of exchanges gives. -/
def Record.arcUpdate (record : Record) : Except Error (Option Update) :=
  match record.indexedUrl? with
  | none => .ok none
  | some url =>
    if ["dns:", "filedesc:"].any fun scheme => Text.startsWith scheme.toList url.toList then
      .ok none
    else
      record.answer.map fun answer =>
        some { sessionKey := url, url, offset := UInt64.ofNat record.offset,
               fact := .exchange answer }

/-- The update that a record of an archive gives, if it says anything. -/
def Record.update (record : Record) (format : Format) : Except Error (Option Update) :=
  match format with
  | .warc => record.warcUpdate
  | .arc => record.arcUpdate

end CrawlGraph.Archive
