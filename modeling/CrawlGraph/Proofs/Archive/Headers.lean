import CrawlGraph.Proofs.Archive.Content
import CrawlGraph.Proofs.Archive.Written

/-!
# Headers of records and of messages

The headers of records and those of messages have readers of their own, one that goes from place to
place in an archive and one that goes through the bytes of a block. They read the same: a record
that starts with some bytes behind its version line has the headers that these bytes have as a
message, but for those without a name, and its block starts where the headers of the message end
(`headers_of_next`).

1. The headers of a message depend on its first line (`readHeaders_of_cutLine`), and so do those of
   a record (`headers_of_line`).
2. The two readers are compared line by line (`readHeaders_of_headers`), by induction on the lines
   of the record. Only the last line can differ: that of a message is a header although nothing ends
   it, while in an archive a line must follow. So the last line of a record is an empty one, of
   which there may be no more than its carriage return.
-/

namespace CrawlGraph.Archive

/-! ## Headers of messages -/

section Messages

variable {bytes line rest : Bytes}

theorem readHeaders_of_cutLine (h : cutLine bytes = some (line, rest)) :
    readHeaders bytes =
      if dropReturn line = [] then ([], rest)
      else ((headerOfLine? (dropReturn line)).toList ++ (readHeaders rest).1,
        (readHeaders rest).2) := by
  rw [readHeaders]
  split
  · rename_i hnone
    cases h.symm.trans hnone
  · rename_i hsome
    cases h.symm.trans hsome
    rfl

theorem readHeaders_of_cutLine_eq_none (h : cutLine bytes = none) :
    readHeaders bytes = ((headerOfLine? bytes).toList, []) := by
  rw [readHeaders]
  split
  · rfl
  · rename_i hsome
    cases h.symm.trans hsome

theorem readHeaders_suffix (bytes : Bytes) : (readHeaders bytes).2 <:+ bytes := by
  have hcontent := isContent_readHeaders bytes
  have hlt := hcontent.length_lt (List.cons_ne_nil _ _)
  rcases List.suffix_cons_iff.1 hcontent.isSuffix with heq | hsuffix
  · exact absurd (congrArg List.length heq) (Nat.ne_of_lt hlt)
  · exact hsuffix

/-- Where the headers of a message end, with the empty line after them. -/
def headersEnd (bytes : Bytes) : ℕ := bytes.length - (readHeaders bytes).2.length

theorem drop_headersEnd (bytes : Bytes) : bytes.drop (headersEnd bytes) = (readHeaders bytes).2 :=
  (List.suffix_iff_eq_drop.1 (readHeaders_suffix bytes)).symm

theorem headersEnd_le (bytes : Bytes) : headersEnd bytes ≤ bytes.length := Nat.sub_le _ _

end Messages

/-! ## Headers of records -/

section Records

variable {cursor next : Cursor} {line : Bytes}

/-- A line behind which something is read ends with a line feed. -/
theorem cutLine_of_line (h : cursor.line = .found line next) (hne : next.rest ≠ []) :
    ∃ cut, cutLine cursor.rest = some (cut, next.rest) ∧ dropReturn cut = line := by
  unfold Cursor.line at h
  split at h
  · rename_i cut rest hcut
    cases h
    exact ⟨cut, hcut, rfl⟩
  · split at h
    · cases h
    · split at h
      · cases h
      · cases h
        exact absurd (List.drop_length (l := cursor.rest)) hne

/-- An empty line ends the headers of a message as well, though it may have no line feed. -/
theorem readHeaders_of_empty_line (h : cursor.line = .found [] next) :
    readHeaders cursor.rest = ([], next.rest) := by
  unfold Cursor.line at h
  split at h
  · rename_i cut rest hcut
    obtain ⟨hempty, rfl⟩ := Step.found.inj h
    rw [readHeaders_of_cutLine hcut, if_pos hempty]
  · rename_i hcut
    split at h
    · cases h
    · split at h
      · cases h
      · rename_i hne
        obtain ⟨hempty, rfl⟩ := Step.found.inj h
        -- what is left of the archive is a carriage return, which is no header
        rcases dropReturn_eq_nil hempty with hnil | hreturn
        · simp [hnil] at hne
        · have hheader : headerOfLine? [0x0D] = none := by decide +kernel
          have hnil : (cursor.skip cursor.rest.length).rest = [] := List.drop_length
          rw [readHeaders_of_cutLine_eq_none hcut, hnil, hreturn, hheader]
          rfl

/-- The headers of a message are those of a record that have a name, and end where they do. -/
theorem readHeaders_of_headers {offset : ℕ} {headers : Headers}
    (h : cursor.headers offset = .found headers next) :
    readHeaders cursor.rest = (headers.filter fun header => header.1 != "", next.rest) := by
  fun_induction Cursor.headers cursor offset generalizing headers with
  | case1 cursor line after hline hempty =>
    cases h
    rw [List.isEmpty_iff.1 hempty] at hline
    exact readHeaders_of_empty_line hline
  | case2 cursor line after hline hempty ih =>
    obtain ⟨more, middle, hmore, hfound⟩ := Step.andThen_eq_found.1 h
    cases hfound
    obtain ⟨cut, hcut, hdrop⟩ := cutLine_of_line hline (rest_ne_nil_of_headers hmore)
    have hne : ¬dropReturn cut = [] := by
      rw [hdrop]
      exact fun hnil => hempty (List.isEmpty_iff.2 hnil)
    rw [readHeaders_of_cutLine hcut, if_neg hne, hdrop, ih hmore, headerOfLine?,
      Option.toList_filter, List.filter_append]
  | case3 => cases h
  | case4 => cases h

/-- The first line of a record, as it stands in archives of version 1.0. -/
def versionLine : Bytes := Utf8.ofString "WARC/1.0" ++ lineEnd

/-- A record behind its version line has the headers of a message, then its block, and then what is
read behind it. -/
theorem readHeaders_of_warcRecord {bytes : Bytes} {fault : Option InputFault} {record : Record}
    (h : Cursor.warcRecord ⟨0, versionLine ++ bytes, fault⟩ = .found record next) :
    readHeaders bytes =
      (record.headers.filter fun header => header.1 != "", record.body ++ next.rest) := by
  obtain ⟨offset, version, behindVersion, headers, behindHeaders, length, body, hversion, -,
    hheaders, -, hbody, rfl⟩ := warcRecord_eq_found.1 h
  have hfeed : lineFeed ∉ Utf8.ofString "WARC/1.0" := by decide
  rw [versionLine, List.append_assoc, headerLine_written fault 0 hfeed rfl bytes] at hversion
  cases hversion
  have hread := readHeaders_of_headers hheaders
  rw [(passes_of_block hbody).1.rest] at hread
  exact hread

end Records

/-- **Headers.** A record behind a version line has the headers that a message with the bytes behind
that line has, but for those without a name, and its block starts where these headers end. -/
theorem headers_of_next (bytes : Bytes) (fault : Option InputFault) {record : Record}
    {after : Reading}
    (h : (Reading.start .warc (versionLine ++ bytes) fault).next = (some (.ok record), after)) :
    (record.headers.filter fun header => header.1 != "") = (readHeaders bytes).1 ∧
      bytes.drop (headersEnd bytes) = record.body ++ after.cursor.rest ∧
      after.cursor.position = versionLine.length + headersEnd bytes + record.body.length := by
  have hrecord := record_of_next h
  have hread := readHeaders_of_warcRecord hrecord
  obtain ⟨gap, header, hpasses, -⟩ := frames_of_warcRecord hrecord
  have hrest := congrArg List.length hpasses.rest
  have hposition := hpasses.position
  have hbehind := congrArg List.length (drop_headersEnd bytes)
  have hle := headersEnd_le bytes
  rw [hread] at hbehind
  refine ⟨by rw [hread], by rw [drop_headersEnd, hread], ?_⟩
  simp only [Reading.start, List.length_append, List.length_drop] at hrest hposition hbehind
  omega

/-- Headers without a name, a line without a colon, and an empty line that is no more than the
carriage return at the end. -/
theorem headers_of_next_return :
    let bytes := Utf8.ofString ": a\r\nb\nContent-Length : 0\n:\r\nC:d\r\r\n\r"
    let record := Record.ofWarc 0 0 [("", "a"), ("Content-Length", "0"), ("", ""), ("C", "d")] []
    let after := (Reading.start .warc (versionLine ++ bytes) none).next.2
    (Reading.start .warc (versionLine ++ bytes) none).next = (some (.ok record), after) ∧
      (record.headers.filter fun header => header.1 != "") = (readHeaders bytes).1 ∧
      bytes.drop (headersEnd bytes) = record.body ++ after.cursor.rest ∧
      after.cursor.position = versionLine.length + headersEnd bytes + record.body.length := by
  intro bytes record after
  have hnext : (Reading.start .warc (versionLine ++ bytes) none).next =
      (some (.ok record), after) := by decide +kernel
  exact ⟨hnext, headers_of_next bytes none hnext⟩

end CrawlGraph.Archive
