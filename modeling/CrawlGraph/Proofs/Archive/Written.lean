import CrawlGraph.Proofs.Archive.Reading
import CrawlGraph.Proofs.Text.Cut
import CrawlGraph.Proofs.Text.Number
import CrawlGraph.Proofs.Text.Utf8

/-!
# Archives that have been written

Records that are written one after another are read back as they were, whatever their blocks hold:
only the length that a record declares tells where it ends (`run_written`).

1. A written line is read as it was (`line_written`), a header as its name and value
   (`ofLine?_written`), and so are all headers of a record (`headers_written`).
2. A written record is read from the place where it starts (`warcRecord_written`). The two line ends
   after its block are blank lines before the next record (`warcRecord_lineEnd`).
3. A run goes from record to record (`runWithin_written`), by induction on their list.
-/

namespace CrawlGraph.Archive

/-! ## Writing -/

/-- A record to be written. -/
structure Draft where
  /-- What follows `WARC/` in the first line. -/
  version : Bytes
  headers : Headers
  block : Bytes

/-- How lines are ended. -/
def lineEnd : Bytes := [0x0D, lineFeed]

/-- A header as a line. -/
def writtenHeader (header : String × String) : Bytes :=
  Utf8.ofString (header.1 ++ ": " ++ header.2) ++ lineEnd

namespace Draft

variable (draft : Draft)

/-- The headers of a record with the one that tells its length, which is the last. -/
def allHeaders : Headers := draft.headers ++ [("Content-Length", toString draft.block.length)]

/-- The first line of a record. -/
def versionLine : Bytes := Utf8.ofString "WARC/" ++ draft.version

/-- What is written before the block of a record: the first line, the headers and an empty line. -/
def head : Bytes :=
  draft.versionLine ++ lineEnd ++ draft.allHeaders.flatMap writtenHeader ++ lineEnd

/-- A record as it is written. -/
def bytes : Bytes := draft.head ++ draft.block ++ lineEnd ++ lineEnd

/-- The record that is read where a draft has been written. -/
def record (offset : ℕ) : Record :=
  { type := ((draft.headers.get? "WARC-Type").map RecordType.ofHeader).getD (.other "")
    url := ((draft.headers.get? "WARC-Target-URI").map stripBrackets).filter (· != "")
    offset
    length := draft.block.length
    headers := draft.allHeaders
    body := draft.block }

end Draft

/-- A header fits into a line: nothing is trimmed off, and nothing in it ends the name or the line.
-/
structure IsWritableHeader (header : String × String) : Prop where
  trimmed_name : Text.trimmed header.1 = header.1
  trimmed_value : Text.trimmed header.2 = header.2
  colon_name : ':' ∉ header.1.toList
  lineFeed_name : '\n' ∉ header.1.toList
  lineFeed_value : '\n' ∉ header.2.toList

/-- A record can be written: its headers are lines that do not tell its length, which fits into 64
bits. Its block may hold anything. -/
structure Draft.IsWritable (draft : Draft) : Prop where
  version : lineFeed ∉ draft.version
  headers : ∀ header ∈ draft.headers,
    IsWritableHeader header ∧ Text.sameIgnoringCase header.1 "Content-Length" = false
  block : draft.block.length < UInt64.size

/-! ## Lines -/

variable (fault : Option InputFault) (position : ℕ)

theorem line_written {line : Bytes} (h : lineFeed ∉ line) (rest : Bytes) :
    Cursor.line ⟨position, line ++ (lineEnd ++ rest), fault⟩ =
      .found line ⟨position + line.length + 2, rest, fault⟩ := by
  have hcut : cutLine (line ++ (lineEnd ++ rest)) = some (line ++ [0x0D], rest) := by
    have hmem : lineFeed ∉ line ++ [0x0D] := by
      rw [List.mem_append, not_or]
      exact ⟨h, by decide⟩
    rw [← cutLine_append hmem rest, List.append_assoc]
    rfl
  have hdrop : dropReturn (line ++ [0x0D]) = line := by
    unfold dropReturn
    rw [if_pos List.getLast?_concat, List.dropLast_concat]
  unfold Cursor.line
  simp only [hcut, hdrop, List.length_append, List.length_singleton]
  rfl

theorem headerLine_lineEnd (rest : Bytes) :
    Cursor.headerLine ⟨position, lineEnd ++ rest, fault⟩ =
      Cursor.headerLine ⟨position + 2, rest, fault⟩ :=
  headerLine_of_line (line_written fault position (List.not_mem_nil (a := lineFeed)) rest)

theorem headerLine_written {line : Bytes} (h : lineFeed ∉ line)
    (hblank : line.all isBlankByte = false) (rest : Bytes) :
    Cursor.headerLine ⟨position, line ++ (lineEnd ++ rest), fault⟩ =
      .found (position, Utf8.toStringLossy line) ⟨position + line.length + 2, rest, fault⟩ := by
  rw [headerLine_of_line (line_written fault position h rest), hblank]
  rfl

/-! ## Headers -/

/-- The line feed of a text is the only character with its byte. -/
theorem lineFeed_not_mem {s : String} (h : '\n' ∉ s.toList) : lineFeed ∉ Utf8.ofString s :=
  mt (Utf8.mem_of_mem_encode (c := '\n') (by decide)) h

theorem ofLine?_written {header : String × String} (h : IsWritableHeader header) :
    Headers.ofLine? (Utf8.ofString (header.1 ++ ": " ++ header.2)) = some header := by
  have htext : (header.1 ++ ": " ++ header.2).toList =
      header.1.toList ++ ':' :: ' ' :: header.2.toList := by
    rw [String.toList_append, String.toList_append, List.append_assoc]
    rfl
  have hname : String.ofList (Text.trim header.1.toList) = header.1 := h.trimmed_name
  have hvalue : String.ofList (Text.trim (' ' :: header.2.toList)) = header.2 := by
    rw [Text.trim_cons_of_isBlank (by decide)]
    exact h.trimmed_value
  unfold Headers.ofLine? Utf8.ofString
  rw [Utf8.decodeLossy_encode, htext, Text.cutAt_append h.colon_name, Option.map_some]
  dsimp only
  rw [hname, hvalue]

theorem lineFeed_not_mem_header {header : String × String} (h : IsWritableHeader header) :
    lineFeed ∉ Utf8.ofString (header.1 ++ ": " ++ header.2) := by
  apply lineFeed_not_mem
  rw [String.toList_append, String.toList_append]
  simp [h.lineFeed_name, h.lineFeed_value]

theorem ofString_header_ne_nil {header : String × String} :
    Utf8.ofString (header.1 ++ ": " ++ header.2) ≠ [] := by
  intro hnil
  have hdecoded := congrArg Utf8.decodeLossy hnil
  unfold Utf8.ofString at hdecoded
  rw [Utf8.decodeLossy_encode, String.toList_append, String.toList_append] at hdecoded
  simp [Utf8.decodeLossy, Utf8.decodeGaps] at hdecoded

theorem headers_written {headers : Headers} (h : ∀ header ∈ headers, IsWritableHeader header)
    (rest : Bytes) (offset : ℕ) :
    Cursor.headers ⟨position, headers.flatMap writtenHeader ++ (lineEnd ++ rest), fault⟩ offset =
      .found headers ⟨position + (headers.flatMap writtenHeader).length + 2, rest, fault⟩ := by
  induction headers generalizing position with
  | nil =>
    have hline := line_written fault position (List.not_mem_nil (a := lineFeed)) rest
    exact headers_of_line hline offset
  | cons header headers ih =>
    have hheader := h header List.mem_cons_self
    have hline := line_written fault position (lineFeed_not_mem_header hheader)
      (headers.flatMap writtenHeader ++ (lineEnd ++ rest))
    have hempty : (Utf8.ofString (header.1 ++ ": " ++ header.2)).isEmpty = false := by
      simpa using ofString_header_ne_nil
    rw [List.flatMap_cons, List.append_assoc, writtenHeader, List.append_assoc,
      headers_of_line hline, hempty,
      ih _ fun other hother => h other (List.mem_cons_of_mem _ hother), ofLine?_written hheader]
    simp only [Bool.false_eq_true, if_false, Step.andThen, Option.toList_some,
      List.singleton_append, List.length_append, lineEnd, List.length_cons, List.length_nil,
      Step.found.injEq, Cursor.mk.injEq, and_true, true_and]
    omega

/-! ## Records -/

/-- The declared length is the only header of its name. -/
theorem declaredLength?_allHeaders {draft : Draft} (h : draft.IsWritable) :
    declaredLength? draft.allHeaders = some draft.block.length := by
  have hget : draft.allHeaders.get? "Content-Length" = some (toString draft.block.length) := by
    have hnone : draft.headers.find? (fun header =>
        Text.sameIgnoringCase header.1 "Content-Length") = none := by
      rw [List.find?_eq_none]
      intro header hheader
      rw [(h.headers header hheader).2]
      exact Bool.false_ne_true
    unfold Headers.get? Draft.allHeaders
    rw [List.find?_append, hnone]
    rfl
  have hdigits : (toString draft.block.length).toList = Nat.toDigits 10 draft.block.length :=
    Nat.toList_repr
  unfold declaredLength?
  rw [hget, Option.bind_some, hdigits, Text.readUInt64_toDigits h.block, Option.map_some,
    UInt64.toNat_ofNat_of_lt' h.block]

/-- The declared length plays no part in what other headers tell. -/
theorem get?_allHeaders (draft : Draft) (name : String)
    (h : Text.sameIgnoringCase "Content-Length" name = false) :
    draft.allHeaders.get? name = draft.headers.get? name := by
  unfold Headers.get? Draft.allHeaders
  rw [List.find?_append, List.find?_cons_of_neg (by simp [h]), List.find?_nil, Option.or_none]

theorem ofWarc_allHeaders (draft : Draft) (offset : ℕ) :
    Record.ofWarc offset draft.block.length draft.allHeaders draft.block = draft.record offset := by
  unfold Record.ofWarc Draft.record
  rw [get?_allHeaders draft "WARC-Type" rfl, get?_allHeaders draft "WARC-Target-URI" rfl]

/-- A header without any white space fits into a line. -/
theorem isWritableHeader_of_not_isBlank {header : String × String}
    (hname : ∀ c ∈ header.1.toList, Text.isBlank c = false ∧ c ≠ ':')
    (hvalue : ∀ c ∈ header.2.toList, Text.isBlank c = false) : IsWritableHeader header where
  trimmed_name := Text.trimmed_of_not_isBlank fun c hc => (hname c hc).1
  trimmed_value := Text.trimmed_of_not_isBlank hvalue
  colon_name := fun hmem => (hname _ hmem).2 rfl
  lineFeed_name := fun hmem => absurd (hname _ hmem).1 (by decide)
  lineFeed_value := fun hmem => absurd (hvalue _ hmem) (by decide)

theorem isWritableHeader_length (length : ℕ) :
    IsWritableHeader ("Content-Length", toString length) := by
  have hname : ∀ c ∈ "Content-Length".toList, Text.isBlank c = false ∧ c ≠ ':' := by
    simp [Text.isBlank]
  have hdigits : (toString length).toList = Nat.toDigits 10 length := Nat.toList_repr
  refine isWritableHeader_of_not_isBlank hname ?_
  rw [hdigits]
  exact fun c hc => Text.isBlank_of_isDigit (Text.isDigit_toDigits c hc)

theorem isWritableHeader_allHeaders {draft : Draft} (h : draft.IsWritable) :
    ∀ header ∈ draft.allHeaders, IsWritableHeader header := by
  intro header hheader
  rcases List.mem_append.1 hheader with hheader | hheader
  · exact (h.headers header hheader).1
  · rw [List.mem_singleton.1 hheader]
    exact isWritableHeader_length _

theorem block_written (block rest : Bytes) (offset : ℕ) :
    Cursor.block ⟨position, block ++ rest, fault⟩ block.length offset =
      .found block ⟨position + block.length, rest, fault⟩ := by
  unfold Cursor.block
  simp only [List.take_left, if_true, Cursor.skip, List.drop_left]

theorem warcRecord_lineEnd (rest : Bytes) :
    Cursor.warcRecord ⟨position, lineEnd ++ rest, fault⟩ =
      Cursor.warcRecord ⟨position + 2, rest, fault⟩ := by
  unfold Cursor.warcRecord
  rw [headerLine_lineEnd]

/-- A written record is read, whatever follows it. -/
theorem warcRecord_written {draft : Draft} (h : draft.IsWritable) (rest : Bytes) :
    Cursor.warcRecord ⟨position, draft.head ++ (draft.block ++ rest), fault⟩ =
      .found (draft.record position)
        ⟨position + draft.head.length + draft.block.length, rest, fault⟩ := by
  have hline : lineFeed ∉ draft.versionLine := by
    unfold Draft.versionLine
    rw [List.mem_append, not_or]
    exact ⟨by decide, h.version⟩
  have hblank : draft.versionLine.all isBlankByte = false := rfl
  have hversion : Text.startsWith "WARC/".toList (Utf8.toStringLossy draft.versionLine).toList := by
    have htext : (Utf8.toStringLossy draft.versionLine).toList =
        "WARC/".toList ++ Utf8.decodeLossy draft.version := by
      rw [Utf8.toList_toStringLossy]
      exact Utf8.decodeLossy_append _ _
    rw [htext]
    exact Text.startsWith_append _ _
  have hhead : draft.head ++ (draft.block ++ rest) = draft.versionLine ++ (lineEnd ++
      (draft.allHeaders.flatMap writtenHeader ++ (lineEnd ++ (draft.block ++ rest)))) := by
    simp only [Draft.head, List.append_assoc]
  unfold Cursor.warcRecord
  rw [hhead, headerLine_written fault position hline hblank]
  simp only [Step.andThen, hversion, Bool.not_true, Bool.false_eq_true, if_false]
  rw [headers_written fault _ (isWritableHeader_allHeaders h)]
  simp only [declaredLength?_allHeaders h, block_written, ofWarc_allHeaders, Step.found.injEq,
    Cursor.mk.injEq, and_true, true_and]
  simp only [Draft.head, List.length_append, lineEnd, List.length_cons, List.length_nil]
  omega

/-! ## Runs -/

/-- What a run gives of written records, the first of which starts at a position. -/
def writtenItems : (position : ℕ) → List Draft → List (Except Error Record × ℕ)
  | _, [] => []
  | position, draft :: drafts =>
    (.ok (draft.record position), position + draft.head.length + draft.block.length) ::
      writtenItems (position + draft.bytes.length) drafts

theorem map_fst_writtenItems (drafts : List Draft) :
    (writtenItems position drafts).map Prod.fst = drafts.mapIdx fun i draft =>
      .ok (draft.record (position + ((drafts.take i).flatMap Draft.bytes).length)) := by
  induction drafts generalizing position with
  | nil => rfl
  | cons draft drafts ih =>
    rw [writtenItems, List.map_cons, ih, List.mapIdx_cons]
    simp only [List.take_succ_cons, List.flatMap_cons, List.length_append, List.take_zero,
      List.flatMap_nil, List.length_nil, Nat.add_zero, Nat.add_assoc]

theorem length_le_bytes (drafts : List Draft) :
    drafts.length ≤ (drafts.flatMap Draft.bytes).length := by
  induction drafts with
  | nil => exact Nat.zero_le _
  | cons draft drafts ih =>
    simp only [List.flatMap_cons, List.length_cons, List.length_append, Draft.bytes, lineEnd]
    omega

theorem next_warc {cursor next : Cursor} {record : Record}
    (h : cursor.warcRecord = .found record next) :
    Reading.next { format := .warc, cursor, isDone := false } =
      (some (.ok record), { format := .warc, cursor := next, isDone := false }) :=
  next_of_record rfl h

/-- A run passes over a line end before a record. -/
theorem runWithin_lineEnd (rest : Bytes) {fuel : ℕ} (hfuel : 0 < fuel) :
    Reading.runWithin fuel
        { format := .warc, cursor := ⟨position, lineEnd ++ rest, fault⟩, isDone := false } =
      Reading.runWithin fuel
        { format := .warc, cursor := ⟨position + 2, rest, fault⟩, isDone := false } := by
  have hrecord : Cursor.record .warc ⟨position, lineEnd ++ rest, fault⟩ =
      Cursor.record .warc ⟨position + 2, rest, fault⟩ := warcRecord_lineEnd fault position rest
  exact runWithin_congr hrecord hfuel

theorem runWithin_written {drafts : List Draft} (h : ∀ draft ∈ drafts, draft.IsWritable) {fuel : ℕ}
    (hfuel : drafts.length < fuel) :
    Reading.runWithin fuel
        { format := .warc, cursor := ⟨position, drafts.flatMap Draft.bytes, none⟩,
          isDone := false } =
      (writtenItems position drafts,
        { format := .warc, cursor := ⟨position + (drafts.flatMap Draft.bytes).length, [], none⟩,
          isDone := true }) := by
  induction drafts generalizing position fuel with
  | nil => exact runWithin_nil .warc position hfuel
  | cons draft drafts ih =>
    obtain ⟨fuel, rfl⟩ := Nat.exists_eq_add_one.2 (Nat.zero_lt_of_lt hfuel)
    have hfuel : drafts.length < fuel := Nat.lt_of_succ_lt_succ hfuel
    have hbytes : (draft :: drafts).flatMap Draft.bytes = draft.head ++
        (draft.block ++ (lineEnd ++ (lineEnd ++ drafts.flatMap Draft.bytes))) := by
      simp only [List.flatMap_cons, Draft.bytes, List.append_assoc]
    have hrecord := warcRecord_written none position (h draft List.mem_cons_self)
      (lineEnd ++ (lineEnd ++ drafts.flatMap Draft.bytes))
    have hpos : 0 < fuel := Nat.zero_lt_of_lt hfuel
    have hnext : position + draft.head.length + draft.block.length + 2 + 2 =
        position + draft.bytes.length := by
      simp only [Draft.bytes, List.length_append, lineEnd, List.length_cons, List.length_nil]
      omega
    have hend : position + draft.bytes.length + (drafts.flatMap Draft.bytes).length =
        position + ((draft :: drafts).flatMap Draft.bytes).length := by
      rw [List.flatMap_cons, List.length_append, Nat.add_assoc]
    rw [← hend, hbytes, Reading.runWithin, next_warc hrecord]
    dsimp only
    rw [runWithin_lineEnd _ _ _ hpos, runWithin_lineEnd _ _ _ hpos, hnext,
      ih _ (fun other hother => h other (List.mem_cons_of_mem _ hother)) hfuel]
    rfl

/-- **Round trip.** A reading of written records gives them in order, each with the number of bytes
before it as its offset, and ends without an error behind the last byte. -/
theorem run_written (drafts : List Draft) (h : ∀ draft ∈ drafts, draft.IsWritable) :
    (Reading.start .warc (drafts.flatMap Draft.bytes) none).run.1.map Prod.fst =
        drafts.mapIdx (fun i draft =>
          .ok (draft.record ((drafts.take i).flatMap Draft.bytes).length)) ∧
      (Reading.start .warc (drafts.flatMap Draft.bytes) none).run.2 =
        { format := .warc
          cursor := { position := (drafts.flatMap Draft.bytes).length, rest := [], fault := none }
          isDone := true } := by
  have hfuel : drafts.length < (drafts.flatMap Draft.bytes).length + 2 := by
    have hlength := length_le_bytes drafts
    omega
  have hrun : (Reading.start .warc (drafts.flatMap Draft.bytes) none).run = _ :=
    runWithin_written 0 h hfuel
  rw [hrun]
  refine ⟨?_, ?_⟩
  · simpa only [Nat.zero_add] using map_fst_writtenItems 0 drafts
  · simp only [Nat.zero_add]

/-- A record whose block looks like the start of another one, and a record with nothing in it. -/
theorem run_written_lookalike :
    let drafts : List Draft :=
      [⟨Utf8.ofString "1.0", [("WARC-Type", "response"), ("warc-type", "é")],
          Utf8.ofString "\r\n\r\nWARC/1.0\r\n"⟩,
        ⟨[], [], []⟩]
    (∀ draft ∈ drafts, draft.IsWritable) ∧
      (Reading.start .warc (drafts.flatMap Draft.bytes) none).run.1.map Prod.fst =
        drafts.mapIdx (fun i draft =>
          .ok (draft.record ((drafts.take i).flatMap Draft.bytes).length)) ∧
      (Reading.start .warc (drafts.flatMap Draft.bytes) none).run.2 =
        { format := .warc
          cursor := { position := (drafts.flatMap Draft.bytes).length, rest := [], fault := none }
          isDone := true } := by
  intro drafts
  have hwritable : ∀ draft ∈ drafts, draft.IsWritable := by
    have hheader : ∀ header ∈ [("WARC-Type", "response"), ("warc-type", "é")],
        IsWritableHeader header ∧ Text.sameIgnoringCase header.1 "Content-Length" = false := by
      intro header hheader
      have hplain : ∀ header ∈ [("WARC-Type", "response"), ("warc-type", "é")],
          (∀ c ∈ header.1.toList, Text.isBlank c = false ∧ c ≠ ':') ∧
            ∀ c ∈ header.2.toList, Text.isBlank c = false := by simp [Text.isBlank]
      have hother : ∀ header ∈ [("WARC-Type", "response"), ("warc-type", "é")],
          Text.sameIgnoringCase header.1 "Content-Length" = false := by decide
      obtain ⟨hname, hvalue⟩ := hplain header hheader
      exact ⟨isWritableHeader_of_not_isBlank hname hvalue, hother header hheader⟩
    intro draft hdraft
    rcases List.mem_cons.1 hdraft with rfl | hdraft
    · exact ⟨by decide, hheader, by decide⟩
    · rw [List.mem_singleton.1 hdraft]
      exact ⟨by decide, by simp, by decide⟩
  exact ⟨hwritable, run_written drafts hwritable⟩

end CrawlGraph.Archive
