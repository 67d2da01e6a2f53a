import Mathlib.Data.List.Basic
import CrawlGraph.Archive.Reading

/-!
# What a cursor passes over

Whatever is found from a cursor, the cursor after it stands behind the bytes that were read, and
nothing is read twice or skipped: `Cursor.Passes`.

1. A line passes over its own bytes and its line end (`passes_of_line`), and a header line over the
   blank lines before it as well (`passes_of_headerLine`).
2. A block passes over exactly its bytes (`passes_of_block`).
3. A record passes over a gap, a header that is not empty, and its block (`frames_of_record`). In an
   archive of typed records the gap is blank.
4. Only an archive that has been read to its last byte ends without an error
   (`passes_of_record_ended`).
-/

namespace CrawlGraph.Archive

/-- `next` stands behind `passed`, which is what follows `cursor`. -/
structure Cursor.Passes (cursor : Cursor) (passed : Bytes) (next : Cursor) : Prop where
  position : next.position = cursor.position + passed.length
  rest : cursor.rest = passed ++ next.rest

namespace Cursor.Passes

variable {cursor middle next : Cursor} {first second : Bytes}

theorem refl (cursor : Cursor) : cursor.Passes [] cursor := ⟨rfl, rfl⟩

theorem trans (h : cursor.Passes first middle) (h' : middle.Passes second next) :
    cursor.Passes (first ++ second) next where
  position := by rw [h'.position, h.position, List.length_append, Nat.add_assoc]
  rest := by rw [h.rest, h'.rest, List.append_assoc]

theorem length_lt (h : cursor.Passes first next) (hne : first ≠ []) :
    next.rest.length < cursor.rest.length := by
  have hpos := List.length_pos_iff.2 hne
  rw [h.rest, List.length_append]
  omega

theorem getLast? (h : cursor.Passes first next) (hne : next.rest ≠ []) :
    cursor.rest.getLast? = next.rest.getLast? := by
  rw [h.rest, List.getLast?_append_of_ne_nil _ hne]

end Cursor.Passes

/-! ## Steps in a row -/

namespace Step

variable {α β : Type} {step : Step α} {f : α → Cursor → Step β} {next : Cursor}

theorem andThen_eq_found {b : β} :
    step.andThen f = .found b next ↔
      ∃ a middle, step = .found a middle ∧ f a middle = .found b next := by
  cases step <;> simp [andThen]

theorem andThen_eq_ended :
    step.andThen f = .ended next ↔
      step = .ended next ∨ ∃ a middle, step = .found a middle ∧ f a middle = .ended next := by
  cases step <;> simp [andThen]

end Step

/-! ## Lines and blocks -/

/-- All bytes are white space. -/
def IsBlank (bytes : Bytes) : Prop := ∀ b ∈ bytes, isBlankByte b = true

theorem isBlank_append {first second : Bytes} :
    IsBlank (first ++ second) ↔ IsBlank first ∧ IsBlank second := List.forall_mem_append

theorem isBlank_of_dropReturn {line : Bytes} (h : IsBlank (dropReturn line)) : IsBlank line := by
  unfold dropReturn at h
  split at h
  · rename_i hlast
    rw [← List.dropLast_append_getLast? _ hlast]
    exact isBlank_append.2 ⟨h, by simp [IsBlank, isBlankByte]⟩
  · exact h

theorem cutLine_append {line : Bytes} (h : lineFeed ∉ line) (rest : Bytes) :
    cutLine (line ++ lineFeed :: rest) = some (line, rest) := by
  induction line with
  | nil => exact if_pos rfl
  | cons b line ih =>
    rw [List.mem_cons, not_or] at h
    rw [List.cons_append, cutLine, if_neg (Ne.symm h.1), ih h.2]
    rfl

theorem lineFeed_not_mem_of_cutLine {bytes line rest : Bytes}
    (h : cutLine bytes = some (line, rest)) : lineFeed ∉ line := by
  induction bytes generalizing line with
  | nil => cases h
  | cons b bytes ih =>
    rw [cutLine] at h
    split at h
    · cases h
      exact List.not_mem_nil
    · rename_i hb
      obtain ⟨⟨before, after⟩, hcut, hpair⟩ := Option.map_eq_some_iff.1 h
      cases hpair
      rw [List.mem_cons, not_or]
      exact ⟨Ne.symm hb, ih hcut⟩

theorem lineFeed_not_mem_of_cutLine_eq_none {bytes : Bytes} (h : cutLine bytes = none) :
    lineFeed ∉ bytes := by
  intro hmem
  obtain ⟨line, rest, rfl, hline⟩ := List.eq_append_cons_of_mem hmem
  rw [cutLine_append hline] at h
  cases h

variable {cursor next : Cursor}

theorem rest_ne_nil_of_line {line : Bytes} (h : cursor.line = .found line next) :
    cursor.rest ≠ [] :=
  List.length_pos_iff.1 (Nat.zero_lt_of_lt (Cursor.length_of_line h))

theorem passes_of_line {line : Bytes} (h : cursor.line = .found line next) :
    ∃ passed, cursor.Passes passed next ∧ passed ≠ [] ∧ (IsBlank line → IsBlank passed) := by
  unfold Cursor.line at h
  split at h
  · rename_i before after hcut
    cases h
    refine ⟨before ++ [lineFeed], ⟨?_, ?_⟩, by simp, fun hblank => ?_⟩
    · simp
    · rw [eq_append_of_cutLine hcut, List.append_assoc, List.singleton_append]
    · have hend : IsBlank [lineFeed] := by simp [IsBlank, isBlankByte, lineFeed]
      exact isBlank_append.2 ⟨isBlank_of_dropReturn hblank, hend⟩
  · split at h
    · cases h
    · split at h
      · cases h
      · rename_i hne
        cases h
        refine ⟨cursor.rest, ⟨rfl, ?_⟩, by simpa using hne, isBlank_of_dropReturn⟩
        simp [Cursor.skip]

theorem eq_of_line_ended (h : cursor.line = .ended next) : next = cursor ∧ cursor.rest = [] := by
  unfold Cursor.line at h
  split at h
  · cases h
  · split at h
    · cases h
    · split at h
      · rename_i hnil
        cases h
        exact ⟨rfl, List.isEmpty_iff.1 hnil⟩
      · cases h

theorem headerLine_of_line {line : Bytes} (h : cursor.line = .found line next) :
    cursor.headerLine =
      if line.all isBlankByte then next.headerLine
      else .found (cursor.position, Utf8.toStringLossy line) next := by
  rw [Cursor.headerLine]
  split
  · rename_i hfound
    cases h.symm.trans hfound
    rfl
  · rename_i hended
    cases h.symm.trans hended
  · rename_i hfailed
    cases h.symm.trans hfailed

theorem headerLine_of_line_ended (h : cursor.line = .ended next) :
    cursor.headerLine = .ended next := by
  rw [Cursor.headerLine]
  split
  · rename_i hfound
    cases h.symm.trans hfound
  · rename_i hended
    cases h.symm.trans hended
    rfl
  · rename_i hfailed
    cases h.symm.trans hfailed

theorem headers_of_line {line : Bytes} (h : cursor.line = .found line next) (offset : ℕ) :
    cursor.headers offset =
      if line.isEmpty then .found [] next
      else (next.headers offset).andThen fun headers next =>
        .found ((Headers.ofLine? line).toList ++ headers) next := by
  rw [Cursor.headers]
  split
  · rename_i hfound
    cases h.symm.trans hfound
    rfl
  · rename_i hended
    cases h.symm.trans hended
  · rename_i hfailed
    cases h.symm.trans hfailed

theorem passes_of_headerLine {offset : ℕ} {text : String}
    (h : cursor.headerLine = .found (offset, text) next) :
    ∃ blank passed, cursor.Passes (blank ++ passed) next ∧ IsBlank blank ∧ passed ≠ [] ∧
      offset = cursor.position + blank.length := by
  fun_induction Cursor.headerLine cursor with
  | case1 cursor line after hline hblank ih =>
    obtain ⟨first, hfirst, -, hall⟩ := passes_of_line hline
    obtain ⟨blank, passed, hpasses, hblanks, hne, hoffset⟩ := ih h
    refine ⟨first ++ blank, passed, ?_, isBlank_append.2 ⟨hall ?_, hblanks⟩, hne, ?_⟩
    · rw [List.append_assoc]
      exact hfirst.trans hpasses
    · exact List.all_eq_true.1 hblank
    · rw [hoffset, hfirst.position, List.length_append, Nat.add_assoc]
  | case2 cursor line after hline hblank =>
    obtain ⟨passed, hpasses, hne, -⟩ := passes_of_line hline
    cases h
    exact ⟨[], passed, hpasses, by simp [IsBlank], hne, rfl⟩
  | case3 => cases h
  | case4 => cases h

theorem passes_of_headerLine_ended (h : cursor.headerLine = .ended next) :
    next.rest = [] ∧ ∃ passed, cursor.Passes passed next := by
  fun_induction Cursor.headerLine cursor with
  | case1 cursor line after hline hblank ih =>
    obtain ⟨first, hfirst, -, -⟩ := passes_of_line hline
    obtain ⟨hnil, passed, hpasses⟩ := ih h
    exact ⟨hnil, _, hfirst.trans hpasses⟩
  | case2 => cases h
  | case3 cursor after hline =>
    cases h
    obtain ⟨rfl, hnil⟩ := eq_of_line_ended hline
    exact ⟨hnil, _, .refl _⟩
  | case4 => cases h

theorem rest_ne_nil_of_headerLine {found : ℕ × String}
    (h : cursor.headerLine = .found found next) : cursor.rest ≠ [] :=
  List.length_pos_iff.1 (Nat.zero_lt_of_lt (Cursor.length_of_headerLine h))

theorem rest_ne_nil_of_headers {offset : ℕ} {headers : Headers}
    (h : cursor.headers offset = .found headers next) : cursor.rest ≠ [] := by
  rw [Cursor.headers] at h
  split at h
  · rename_i hline
    exact rest_ne_nil_of_line hline
  · cases h
  · cases h

theorem passes_of_headers {offset : ℕ} {headers : Headers}
    (h : cursor.headers offset = .found headers next) : ∃ passed, cursor.Passes passed next := by
  fun_induction Cursor.headers cursor offset generalizing headers with
  | case1 cursor line after hline hempty =>
    obtain ⟨passed, hpasses, -, -⟩ := passes_of_line hline
    cases h
    exact ⟨passed, hpasses⟩
  | case2 cursor line after hline hempty ih =>
    obtain ⟨first, hfirst, -, -⟩ := passes_of_line hline
    obtain ⟨more, middle, hmore, hfound⟩ := Step.andThen_eq_found.1 h
    cases hfound
    obtain ⟨passed, hpasses⟩ := ih hmore
    exact ⟨_, hfirst.trans hpasses⟩
  | case3 => cases h
  | case4 => cases h

theorem headers_ne_ended {offset : ℕ} : cursor.headers offset ≠ .ended next := by
  intro h
  fun_induction Cursor.headers cursor offset with
  | case1 => cases h
  | case2 cursor line after hline hempty ih =>
    rcases Step.andThen_eq_ended.1 h with hmore | ⟨more, middle, -, hfound⟩
    · exact ih hmore
    · cases hfound
  | case3 => cases h
  | case4 => cases h

theorem passes_of_block {length offset : ℕ} {block : Bytes}
    (h : cursor.block length offset = .found block next) :
    cursor.Passes block next ∧ block.length = length := by
  unfold Cursor.block at h
  dsimp only at h
  split at h
  · rename_i hlength
    cases h
    refine ⟨⟨?_, ?_⟩, hlength⟩
    · rw [hlength]
      rfl
    · exact (List.take_append_drop _ _).symm
  · split at h <;> cases h

theorem block_ne_ended {length offset : ℕ} : cursor.block length offset ≠ .ended next := by
  unfold Cursor.block
  dsimp only
  split
  · simp
  · split <;> simp

/-! ## Records -/

/-- A record is read from a cursor: a gap, a header that is not empty, and the block are passed over
in this order. The gap before a typed record is blank. -/
def Cursor.Frames (cursor : Cursor) (format : Format) (record : Record) (next : Cursor) : Prop :=
  ∃ gap header, cursor.Passes (gap ++ header ++ record.body) next ∧ header ≠ [] ∧
    record.offset = cursor.position + gap.length ∧ record.length = record.body.length ∧
    (format = .warc → IsBlank gap)

/-- A typed record is found with all its parts: the version line, the headers, and the block. -/
theorem warcRecord_eq_found {record : Record} :
    cursor.warcRecord = .found record next ↔
      ∃ offset version behindVersion headers behindHeaders length body,
        cursor.headerLine = .found (offset, version) behindVersion ∧
          Text.startsWith "WARC/".toList version.toList = true ∧
          behindVersion.headers offset = .found headers behindHeaders ∧
          declaredLength? headers = some length ∧
          behindHeaders.block length offset = .found body next ∧
          record = Record.ofWarc offset length headers body := by
  constructor
  · intro h
    obtain ⟨⟨offset, version⟩, behindVersion, hversion, h⟩ := Step.andThen_eq_found.1 h
    dsimp only at h
    split at h
    · cases h
    rename_i hmark
    rw [Bool.not_eq_true, Bool.not_eq_false'] at hmark
    obtain ⟨headers, behindHeaders, hheaders, h⟩ := Step.andThen_eq_found.1 h
    split at h
    · cases h
    rename_i length hlength
    obtain ⟨body, behindBody, hbody, h⟩ := Step.andThen_eq_found.1 h
    cases h
    exact ⟨offset, version, behindVersion, headers, behindHeaders, length, body, hversion, hmark,
      hheaders, hlength, hbody, rfl⟩
  · rintro ⟨offset, version, behindVersion, headers, behindHeaders, length, body, hversion, hmark,
      hheaders, hlength, hbody, rfl⟩
    unfold Cursor.warcRecord
    simp only [Step.andThen, hversion, hmark, hheaders, hlength, hbody, Bool.not_true,
      Bool.false_eq_true, if_false]

/-- A block behind a line of fields is found with all its parts. -/
theorem arcBlock_eq_found {offset : ℕ} {fields : List String} {body : Bytes} :
    cursor.arcBlock = .found (offset, fields, body) next ↔
      ∃ line behindLine length, cursor.headerLine = .found (offset, line) behindLine ∧
        readFields offset line = .ok (fields, length) ∧
        behindLine.block length offset = .found body next := by
  constructor
  · intro h
    obtain ⟨⟨start, line⟩, behindLine, hline, h⟩ := Step.andThen_eq_found.1 h
    dsimp only at h
    split at h
    · cases h
    rename_i found length hfields
    obtain ⟨block, behindBody, hbody, h⟩ := Step.andThen_eq_found.1 h
    cases h
    exact ⟨line, behindLine, length, hline, hfields, hbody⟩
  · rintro ⟨line, behindLine, length, hline, hfields, hbody⟩
    unfold Cursor.arcBlock
    simp only [Step.andThen, hline, hfields, hbody]

theorem frames_of_warcRecord {record : Record} (h : cursor.warcRecord = .found record next) :
    cursor.Frames .warc record next := by
  obtain ⟨offset, version, behindVersion, headers, behindHeaders, length, body, hversion, -,
    hheaders, -, hbody, rfl⟩ := warcRecord_eq_found.1 h
  obtain ⟨gap, first, hfirst, hblank, hne, hoffset⟩ := passes_of_headerLine hversion
  obtain ⟨second, hsecond⟩ := passes_of_headers hheaders
  obtain ⟨hpasses, hlength⟩ := passes_of_block hbody
  refine ⟨gap, first ++ second, ?_, by simp [hne], hoffset, hlength.symm, fun _ => hblank⟩
  rw [← List.append_assoc]
  exact (hfirst.trans hsecond).trans hpasses

theorem frames_of_arcBlock {offset : ℕ} {fields : List String} {body : Bytes}
    (h : cursor.arcBlock = .found (offset, fields, body) next) :
    ∃ gap header, cursor.Passes (gap ++ header ++ body) next ∧ header ≠ [] ∧
      offset = cursor.position + gap.length := by
  obtain ⟨line, behindLine, length, hline, -, hbody⟩ := arcBlock_eq_found.1 h
  obtain ⟨gap, header, hheader, -, hne, hoffset⟩ := passes_of_headerLine hline
  exact ⟨gap, header, hheader.trans (passes_of_block hbody).1, hne, hoffset⟩

/-- What an archive gives depends on the block that comes next in it. -/
theorem arcRecord_eq (cursor : Cursor) :
    cursor.arcRecord =
      match cursor.arcBlock with
      | .found (offset, fields, body) next =>
        if Text.startsWith fileMark.toList (fields.headD "").toList then next.arcRecord
        else .found (Record.ofArc offset body.length fields body) next
      | .ended next => .ended next
      | .failed error next => .failed error next := by
  rw [Cursor.arcRecord]
  split
  · rename_i hfound
    rw [hfound]
  · rename_i hended
    rw [hended]
  · rename_i hfailed
    rw [hfailed]

theorem arcRecord_of_block {offset : ℕ} {fields : List String} {body : Bytes}
    (h : cursor.arcBlock = .found (offset, fields, body) next) :
    cursor.arcRecord =
      if Text.startsWith fileMark.toList (fields.headD "").toList then next.arcRecord
      else .found (Record.ofArc offset body.length fields body) next := by
  rw [arcRecord_eq, h]

theorem arcRecord_of_block_ended (h : cursor.arcBlock = .ended next) :
    cursor.arcRecord = .ended next := by
  rw [arcRecord_eq, h]

theorem frames_of_arcRecord {record : Record} (h : cursor.arcRecord = .found record next) :
    cursor.Frames .arc record next := by
  fun_induction Cursor.arcRecord cursor with
  | case1 cursor offset fields body after hblock hmark ih =>
    -- what describes the file belongs to the gap before the next record
    obtain ⟨gap, header, hpasses, -, -⟩ := frames_of_arcBlock hblock
    obtain ⟨gap', header', hpasses', hne, hoffset, hlength, -⟩ := ih h
    refine ⟨gap ++ header ++ body ++ gap', header', ?_, hne, ?_, hlength, by simp⟩
    · simpa only [List.append_assoc] using hpasses.trans hpasses'
    · rw [hoffset, hpasses.position, Nat.add_assoc, ← List.length_append]
  | case2 cursor offset fields body after hblock hmark =>
    obtain ⟨gap, header, hpasses, hne, hoffset⟩ := frames_of_arcBlock hblock
    cases h
    exact ⟨gap, header, hpasses, hne, hoffset, rfl, by simp⟩
  | case3 => cases h
  | case4 => cases h

/-- **Records.** What a record passes over. -/
theorem frames_of_record {format : Format} {record : Record}
    (h : cursor.record format = .found record next) : cursor.Frames format record next := by
  cases format with
  | warc => exact frames_of_warcRecord h
  | arc => exact frames_of_arcRecord h

theorem rest_ne_nil_of_record {format : Format} {record : Record}
    (h : cursor.record format = .found record next) : cursor.rest ≠ [] := by
  obtain ⟨gap, header, hpasses, hne, -⟩ := frames_of_record h
  rw [hpasses.rest]
  simp [hne]

theorem headerLine_of_warcRecord_ended (h : cursor.warcRecord = .ended next) :
    cursor.headerLine = .ended next := by
  rcases Step.andThen_eq_ended.1 h with h | ⟨⟨offset, version⟩, behindVersion, -, h⟩
  · exact h
  · dsimp only at h
    split at h
    · cases h
    rcases Step.andThen_eq_ended.1 h with h | ⟨headers, behindHeaders, -, h⟩
    · exact absurd h headers_ne_ended
    split at h
    · cases h
    rcases Step.andThen_eq_ended.1 h with h | ⟨body, behindBody, -, h⟩
    · exact absurd h block_ne_ended
    · cases h

theorem headerLine_of_arcBlock_ended (h : cursor.arcBlock = .ended next) :
    cursor.headerLine = .ended next := by
  rcases Step.andThen_eq_ended.1 h with h | ⟨⟨offset, line⟩, behindLine, -, h⟩
  · exact h
  · dsimp only at h
    split at h
    · cases h
    rcases Step.andThen_eq_ended.1 h with h | ⟨body, behindBody, -, h⟩
    · exact absurd h block_ne_ended
    · cases h

theorem passes_of_arcRecord_ended (h : cursor.arcRecord = .ended next) :
    next.rest = [] ∧ ∃ passed, cursor.Passes passed next := by
  fun_induction Cursor.arcRecord cursor with
  | case1 cursor offset fields body after hblock hmark ih =>
    obtain ⟨gap, header, hpasses, -, -⟩ := frames_of_arcBlock hblock
    obtain ⟨hnil, passed, hpasses'⟩ := ih h
    exact ⟨hnil, _, hpasses.trans hpasses'⟩
  | case2 => cases h
  | case3 cursor after hblock =>
    cases h
    exact passes_of_headerLine_ended (headerLine_of_arcBlock_ended hblock)
  | case4 => cases h

theorem arcBlock_of_headerLine_ended (h : cursor.headerLine = .ended next) :
    cursor.arcBlock = .ended next := by
  unfold Cursor.arcBlock
  rw [h]
  rfl

/-- Behind the last byte there is no record. -/
theorem record_nil (format : Format) (position : ℕ) :
    Cursor.record format ⟨position, [], none⟩ = .ended ⟨position, [], none⟩ := by
  have hline : Cursor.line ⟨position, [], none⟩ = .ended ⟨position, [], none⟩ := rfl
  have hheader := headerLine_of_line_ended hline
  cases format with
  | warc =>
    unfold Cursor.record Cursor.warcRecord
    rw [hheader]
    rfl
  | arc => exact arcRecord_of_block_ended (arcBlock_of_headerLine_ended hheader)

/-- **The end.** An archive that ends without an error has been read to its last byte. -/
theorem passes_of_record_ended {format : Format} (h : cursor.record format = .ended next) :
    next.rest = [] ∧ ∃ passed, cursor.Passes passed next := by
  cases format with
  | warc => exact passes_of_headerLine_ended (headerLine_of_warcRecord_ended h)
  | arc => exact passes_of_arcRecord_ended h

end CrawlGraph.Archive
