import CrawlGraph.Archive.Cursor
import CrawlGraph.Archive.Record
import CrawlGraph.Text.Number

/-!
# Reading records

A reading goes through an archive once, from record to record. Blank lines between records do not
count. The first error ends the reading, because nothing tells where the next record starts; what a
record holds plays no part in where the next one starts.

Main definitions: `Cursor.record`, `Reading.next`, `Reading.run`.
-/

namespace CrawlGraph.Archive

/-- The headers up to the empty line after them, in the record that starts at `offset`. -/
def Cursor.headers (cursor : Cursor) (offset : Nat) : Step Headers :=
  match _h : cursor.line with
  | .found line next =>
    if line.isEmpty then .found [] next
    else
      (next.headers offset).andThen fun headers next =>
        .found ((Headers.ofLine? line).toList ++ headers) next
  | .ended next => .failed (.truncated (.headers offset)) next
  | .failed error next => .failed error next
termination_by cursor.rest.length
decreasing_by exact Cursor.length_of_line (by assumption)

/-- The number of bytes that the headers of a record declare. -/
def declaredLength? (headers : Headers) : Option Nat :=
  (headers.get? "Content-Length").bind fun value => (Text.readUInt64 value.toList).map UInt64.toNat

/-- The record that headers and a block make. -/
def Record.ofWarc (offset length : Nat) (headers : Headers) (body : Bytes) : Record :=
  { type := ((headers.get? "WARC-Type").map RecordType.ofHeader).getD (.other "")
    url := ((headers.get? "WARC-Target-URI").map stripBrackets).filter (· != "")
    offset, length, headers, body }

/-- The next record of an archive whose records start with a version line and headers. -/
def Cursor.warcRecord (cursor : Cursor) : Step Record :=
  cursor.headerLine.andThen fun (offset, version) next =>
    if !Text.startsWith "WARC/".toList version.toList then
      .failed (.header (.notVersion offset version)) next
    else
      (next.headers offset).andThen fun headers next =>
        match declaredLength? headers with
        | none => .failed (.header (.noContentLength offset)) next
        | some length =>
          (next.block length offset).andThen fun body next =>
            .found (Record.ofWarc offset length headers body) next

/-- The names of the fields of a short header line. -/
def shortFields : List String := ["url", "ip-address", "archive-date", "content-type", "length"]

/-- The names of the fields of a long header line. -/
def longFields : List String :=
  ["url", "ip-address", "archive-date", "content-type", "result-code", "checksum", "location",
    "offset", "filename", "length"]

/-- How the block that describes an archive file names itself. -/
def fileMark : String := "filedesc://"

/-- The record that the fields of a header line and a block make. -/
def Record.ofArc (offset length : Nat) (fields : List String) (body : Bytes) : Record :=
  let names := if longFields.length ≤ fields.length then longFields else shortFields
  { type := .exchange, url := fields.head?, offset, length, headers := names.zip fields, body }

/-- The fields of a header line and the number of bytes that the last of them declares. -/
def readFields (offset : Nat) (line : String) : Except Error (List String × Nat) :=
  let fields := (Text.words line.toList).map String.ofList
  if fields.length < shortFields.length then
    .error (.header (.fewFields offset fields.length line))
  else
    match fields.getLast?.bind fun last => Text.readUInt64 last.toList with
    | none => .error (.header (.noLength offset))
    | some length => .ok (fields, length.toNat)

/-- The next block of an archive whose records start with a line of fields. -/
def Cursor.arcBlock (cursor : Cursor) : Step (Nat × List String × Bytes) :=
  cursor.headerLine.andThen fun (offset, line) next =>
    match readFields offset line with
    | .error error => .failed error next
    | .ok (fields, length) =>
      (next.block length offset).andThen fun body next => .found (offset, fields, body) next

theorem Cursor.length_of_arcBlock {cursor next : Cursor} {found : Nat × List String × Bytes}
    (h : cursor.arcBlock = .found found next) : next.rest.length < cursor.rest.length := by
  unfold Cursor.arcBlock at h
  cases hl : cursor.headerLine with
  | ended after => simp [hl, Step.andThen] at h
  | failed error after => simp [hl, Step.andThen] at h
  | found pair after =>
    have h1 := Cursor.length_of_headerLine hl
    rw [hl] at h
    simp only [Step.andThen] at h
    split at h
    · simp at h
    · rename_i fields length _
      cases hb : after.block length pair.1 with
      | ended last => simp [hb] at h
      | failed error last => simp [hb] at h
      | found body last =>
        have h2 := Cursor.length_of_block hb
        simp only [hb, Step.found.injEq] at h
        rw [← h.2]
        omega

/-- The next record of an archive whose records start with a line of fields. Blocks that describe
the file are no records. -/
def Cursor.arcRecord (cursor : Cursor) : Step Record :=
  match _h : cursor.arcBlock with
  | .found (offset, fields, body) next =>
    if Text.startsWith fileMark.toList (fields.headD "").toList then next.arcRecord
    else .found (Record.ofArc offset body.length fields body) next
  | .ended next => .ended next
  | .failed error next => .failed error next
termination_by cursor.rest.length
decreasing_by exact Cursor.length_of_arcBlock (by assumption)

/-- The next record of an archive of a format. -/
def Cursor.record (format : Format) (cursor : Cursor) : Step Record :=
  match format with
  | .warc => cursor.warcRecord
  | .arc => cursor.arcRecord

/-- A reading of an archive: its format, its place, and whether the reading has ended. -/
structure Reading where
  format : Format
  cursor : Cursor
  isDone : Bool
  deriving DecidableEq, Repr

/-- A reading at the start of some bytes, which end with a fault if there is one. -/
def Reading.start (format : Format) (bytes : Bytes) (fault : Option InputFault) : Reading :=
  { format, cursor := { position := 0, rest := bytes, fault }, isDone := false }

/-- The next record or the error that ends the reading, and the reading after it. -/
def Reading.next (reading : Reading) : Option (Except Error Record) × Reading :=
  if reading.isDone then (none, reading)
  else
    match reading.cursor.record reading.format with
    | .found record cursor => (some (.ok record), { reading with cursor })
    | .ended cursor => (none, { reading with cursor, isDone := true })
    | .failed error cursor => (some (.error error), { reading with cursor, isDone := true })

/-- All that `fuel` calls of `next` give, each with the position after it, and the reading in the
end. -/
def Reading.runWithin : (fuel : Nat) → Reading → List (Except Error Record × Nat) × Reading
  | 0, reading => ([], reading)
  | fuel + 1, reading =>
    match reading.next with
    | (none, after) => ([], after)
    | (some item, after) =>
      let (items, last) := after.runWithin fuel
      ((item, after.cursor.position) :: items, last)

/-- All that a reading gives, each with the position after it, and the reading in the end. Each
record has at least one byte, so there are no more items than bytes and one. -/
def Reading.run (reading : Reading) : List (Except Error Record × Nat) × Reading :=
  reading.runWithin (reading.cursor.rest.length + 2)

end CrawlGraph.Archive
