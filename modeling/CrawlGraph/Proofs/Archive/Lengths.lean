import CrawlGraph.Proofs.Archive.Truncated

/-!
# What lines of fields say about lengths

A record of a line of fields has exactly one header `length`, and its block has as many bytes as the
last field of the line says. The header is that field if the line has as many fields as one of the
two lists of names. In a line of another number of fields it is another field, which need not be a
number at all (`namesLength_of_mem_records`, `arc_records_spaced_type`).

1. Among names of which only the last is `length`, it names the field of the same place
   (`getAll_zip_concat`).
2. The header line of a record stands at its offset (`text_of_headerLine`), so its fields can be
   told from the bytes (`of_arcRecord`).
-/

namespace CrawlGraph.Archive

/-- The first line of some bytes, without its line end. -/
def firstLine (bytes : Bytes) : Bytes := dropReturn (((cutLine bytes).map Prod.fst).getD bytes)

/-- The fields of the line that starts at an offset. -/
def fieldsAt (bytes : Bytes) (offset : ℕ) : List String :=
  (Text.words (Utf8.toStringLossy (firstLine (bytes.drop offset))).toList).map String.ofList

/-- The number of bytes that a field declares. -/
def bytesDeclared (field : String) : Option ℕ :=
  (Text.readUInt64 field.toList).map UInt64.toNat

/-- The names of the fields of a header line before the length, by the number of the fields. -/
def namesBefore (count : ℕ) : List String :=
  if longFields.length ≤ count then longFields.dropLast else shortFields.dropLast

/-- A record tells its length: it has one header for it, which declares the length of the record and
with it the size of its block. -/
def Record.TellsLength (record : Record) : Prop :=
  (record.headers.getAll "length").map bytesDeclared = [some record.length] ∧
    record.length = record.body.length

instance (record : Record) : Decidable record.TellsLength :=
  inferInstanceAs (Decidable (_ ∧ _))

/-- What the fields of a header line say about the length of a record. The last one declares it. The
header for it is the only one of its name, and stands at the place that the names give it. -/
structure Record.NamesLength (record : Record) (fields : List String) : Prop where
  shortFields_le : shortFields.length ≤ fields.length
  length : record.length = record.body.length
  last : fields.getLast?.bind bytesDeclared = some record.length
  header : ∃ value, record.headers.getAll "length" = [value] ∧
    fields[(namesBefore fields.length).length]? = some value

/-! ## Names and fields -/

section Names

variable {names fields : List String} {name : String}

theorem getAll_cons_of_other {other field : String}
    (h : Text.sameIgnoringCase other name = false) (headers : Headers) :
    Headers.getAll ((other, field) :: headers) name = headers.getAll name :=
  congrArg (List.map Prod.snd) (List.filter_cons_of_neg (Bool.eq_false_iff.1 h))

/-- A name that is last among others is paired with the field of its own place. -/
theorem getAll_zip_concat (hother : ∀ other ∈ names, Text.sameIgnoringCase other name = false)
    (fields : List String) :
    Headers.getAll ((names ++ [name]).zip fields) name = fields[names.length]?.toList := by
  induction names generalizing fields with
  | nil =>
    cases fields with
    | nil => rfl
    | cons field fields => simp [Headers.getAll, Text.sameIgnoringCase]
  | cons other names ih =>
    cases fields with
    | nil => rfl
    | cons field fields =>
      rw [List.cons_append, List.zip_cons_cons,
        getAll_cons_of_other (hother other List.mem_cons_self),
        ih fun name hname => hother name (List.mem_cons_of_mem _ hname), List.length_cons,
        List.getElem?_cons_succ]

/-- Both lists of names end with the length, and name nothing else so. -/
theorem namesBefore_concat (count : ℕ) :
    (if longFields.length ≤ count then longFields else shortFields) =
        namesBefore count ++ ["length"] ∧
      ∀ other ∈ namesBefore count, Text.sameIgnoringCase other "length" = false := by
  unfold namesBefore
  split
  · exact ⟨rfl, by decide +kernel⟩
  · exact ⟨rfl, by decide +kernel⟩

theorem length_namesBefore_lt {count : ℕ} (h : shortFields.length ≤ count) :
    (namesBefore count).length < count := by
  unfold namesBefore
  split
  · rename_i hlong
    exact hlong
  · exact h

/-- A line with as many fields as one of the lists of names has its length last. -/
theorem length_namesBefore {count : ℕ}
    (h : count = shortFields.length ∨ count = longFields.length) :
    (namesBefore count).length = count - 1 := by
  rcases h with rfl | rfl
  · rfl
  · rfl

theorem readFields_eq_ok {offset length : ℕ} {line : String}
    (h : readFields offset line = .ok (fields, length)) :
    fields = (Text.words line.toList).map String.ofList ∧ shortFields.length ≤ fields.length ∧
      fields.getLast?.bind bytesDeclared = some length := by
  unfold readFields at h
  dsimp only at h
  split at h
  · cases h
  rename_i hfew
  split at h
  · cases h
  rename_i number hlast
  cases h
  refine ⟨rfl, Nat.le_of_not_lt hfew, ?_⟩
  obtain ⟨last, hfield, hnumber⟩ := Option.bind_eq_some_iff.1 hlast
  rw [hfield, Option.bind_some, bytesDeclared, hnumber, Option.map_some]

end Names

/-! ## Header lines -/

section Lines

variable {cursor next : Cursor} {record : Record} {bytes : Bytes} {offset : ℕ}

theorem eq_firstLine_of_line {line : Bytes} (h : cursor.line = .found line next) :
    line = firstLine cursor.rest := by
  unfold Cursor.line at h
  unfold firstLine
  split at h
  · rename_i hcut
    cases h
    rw [hcut, Option.map_some, Option.getD_some]
  · rename_i hcut
    split at h
    · cases h
    · split at h
      · cases h
      · cases h
        rw [hcut, Option.map_none, Option.getD_none]

theorem Cursor.StandsIn.drop (h : cursor.StandsIn bytes) :
    bytes.drop cursor.position = cursor.rest := by
  obtain ⟨past, rfl, hposition⟩ := h
  exact List.drop_left' hposition.symm

/-- A header line is the line at its offset. -/
theorem text_of_headerLine {text : String} (hstands : cursor.StandsIn bytes)
    (h : cursor.headerLine = .found (offset, text) next) :
    text = Utf8.toStringLossy (firstLine (bytes.drop offset)) := by
  fun_induction Cursor.headerLine cursor with
  | case1 cursor line after hline hblank ih =>
    obtain ⟨passed, hpasses, -⟩ := passes_of_line hline
    exact ih (hstands.passes hpasses) h
  | case2 cursor line after hline hblank =>
    cases h
    rw [hstands.drop, ← eq_firstLine_of_line hline]
  | case3 => cases h
  | case4 => cases h

/-- A record is made of the fields at its offset and of the bytes that they declare. -/
theorem of_arcRecord (hstands : cursor.StandsIn bytes) (h : cursor.arcRecord = .found record next) :
    ∃ line, readFields record.offset line = .ok (fieldsAt bytes record.offset, record.length) ∧
      record = .ofArc record.offset record.length (fieldsAt bytes record.offset) record.body ∧
      record.length = record.body.length := by
  fun_induction Cursor.arcRecord cursor with
  | case1 cursor offset fields body after hblock hmark ih =>
    -- what describes the file is passed over, and the record comes behind it
    obtain ⟨gap, header, hpasses, -⟩ := frames_of_arcBlock hblock
    exact ih (hstands.passes hpasses) h
  | case2 cursor offset fields body after hblock hmark =>
    cases h
    obtain ⟨line, behindLine, length, hline, hfields, hbody⟩ := arcBlock_eq_found.1 hblock
    obtain ⟨-, rfl⟩ := passes_of_block hbody
    have hat : fields = fieldsAt bytes offset := by
      rw [(readFields_eq_ok hfields).1, text_of_headerLine hstands hline]
      rfl
    exact ⟨line, hat ▸ hfields, hat ▸ rfl, rfl⟩
  | case3 => cases h
  | case4 => cases h

end Lines

/-! ## Records -/

section Records

variable {record : Record} {fields : List String}

theorem namesLength_ofArc {offset : ℕ} {line : String}
    (hfields : readFields offset line = .ok (fields, record.length))
    (hrecord : record = .ofArc offset record.length fields record.body)
    (hlength : record.length = record.body.length) : record.NamesLength fields := by
  obtain ⟨-, hshort, hlast⟩ := readFields_eq_ok hfields
  refine ⟨hshort, hlength, hlast, ?_⟩
  obtain ⟨hnames, hother⟩ := namesBefore_concat fields.length
  have hplace := length_namesBefore_lt hshort
  refine ⟨fields[(namesBefore fields.length).length], ?_, List.getElem?_eq_getElem hplace⟩
  have hheaders : record.headers = (namesBefore fields.length ++ ["length"]).zip fields := by
    rw [hrecord, ← hnames]
    rfl
  rw [hheaders, getAll_zip_concat hother, List.getElem?_eq_getElem hplace, Option.toList_some]

/-- A record tells its length exactly if the field that is named so reads as the last one does. -/
theorem Record.NamesLength.tellsLength_iff (h : record.NamesLength fields) :
    record.TellsLength ↔ fields[(namesBefore fields.length).length]?.bind bytesDeclared =
      fields.getLast?.bind bytesDeclared := by
  obtain ⟨value, hvalue, hfield⟩ := h.header
  unfold Record.TellsLength
  rw [h.last, hfield, Option.bind_some, hvalue, and_iff_left h.length, List.map_singleton,
    List.singleton_inj]

theorem Record.NamesLength.tellsLength (h : record.NamesLength fields)
    (hcount : fields.length = shortFields.length ∨ fields.length = longFields.length) :
    record.TellsLength := by
  rw [h.tellsLength_iff, length_namesBefore hcount, List.getLast?_eq_getElem?]

/-- **Lengths.** Each record of lines of fields has exactly one header for its length, and its block
has as many bytes as the last field of its line declares. The header declares them too if the line
has as many fields as one of the lists of names, and in another line exactly if the field in its
place happens to read as the same number. -/
theorem namesLength_of_mem_records {bytes : Bytes} {fault : Option InputFault}
    (h : record ∈ (Reading.start .arc bytes fault).records) :
    let fields := fieldsAt bytes record.offset
    record.NamesLength fields ∧
      (fields.length = shortFields.length ∨ fields.length = longFields.length →
        record.TellsLength) ∧
      (record.TellsLength ↔ fields[(namesBefore fields.length).length]?.bind bytesDeclared =
        fields.getLast?.bind bytesDeclared) := by
  obtain ⟨place, next, hstands, hrecord⟩ := exists_cursor_of_mem h
  obtain ⟨line, hfields, hrecord, hlength⟩ := of_arcRecord hstands hrecord
  have hnames := namesLength_ofArc hfields hrecord hlength
  exact ⟨hnames, hnames.tellsLength, hnames.tellsLength_iff⟩

/-- A block that describes the file, and behind it a record with a line of ten fields. -/
theorem namesLength_of_mem_records_long :
    let bytes := Utf8.ofString ("filedesc://a.arc 0.0.0.0 20200101000000 text/plain 4\n1 1\n\n" ++
      "http://a.example/ 192.0.2.1 20200101000000 text/html 200 - - 7 a.arc 5\nhello\n")
    ∃ record ∈ (Reading.start .arc bytes none).records,
      record.NamesLength (fieldsAt bytes record.offset) ∧
        (fieldsAt bytes record.offset).length = longFields.length ∧ record.TellsLength := by
  intro bytes
  obtain ⟨record, hrecord, hcount⟩ : ∃ record ∈ (Reading.start .arc bytes none).records,
      (fieldsAt bytes record.offset).length = longFields.length := by decide +kernel
  obtain ⟨hnames, htells, -⟩ := namesLength_of_mem_records hrecord
  exact ⟨record, hrecord, hnames, hcount, htells (.inr hcount)⟩

/-- A media type with a blank in it makes six fields. The header for the length is its second
part, which is no number. -/
theorem arc_records_spaced_type :
    let bytes := Utf8.ofString
      "http://a.example/ 192.0.2.1 20200101000000 text/html; charset=utf-8 5\nhello\n"
    ∃ record ∈ (Reading.start .arc bytes none).records,
      ¬record.TellsLength ∧ record.headers.getAll "length" = ["charset=utf-8"] ∧
        record.length = 5 := by
  decide +kernel

end Records

end CrawlGraph.Archive
