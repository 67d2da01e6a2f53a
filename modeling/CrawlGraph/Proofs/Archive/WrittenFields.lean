import CrawlGraph.Proofs.Archive.Written

/-!
# Archives that have been written with lines of fields

Blocks that are written one after another, each behind a line of fields that ends with its length,
are read back as records, whatever the blocks hold. Those that describe the file are passed over,
but they count for the offsets of the records behind them (`run_fieldDrafts`).

1. The fields of a written line are its words (`readFields_line`), so a written block is read from
   the place where its line starts (`arcBlock_fieldDraft`).
2. The line end after a block is a blank line before the next one (`arcRecord_lineFeed`).
3. A run goes from block to block (`runWithin_fieldDrafts`), by induction on their list.
-/

namespace CrawlGraph.Archive

/-! ## Writing -/

/-- A block to be written with a line of fields before it. -/
structure FieldDraft where
  fields : List String
  block : Bytes

namespace FieldDraft

variable (draft : FieldDraft)

/-- The fields with single spaces between them. -/
def line : Bytes := Utf8.ofString (" ".intercalate draft.fields)

/-- A block as it is written. -/
def bytes : Bytes := draft.line ++ [lineFeed] ++ draft.block ++ [lineFeed]

/-- The block describes the archive file. -/
def DescribesFile : Prop := "filedesc://".toList <+: (draft.fields.headD "").toList

instance : DecidablePred DescribesFile := fun draft => by unfold DescribesFile; infer_instance

/-- The names of the fields; a short line has five of them, and a long one ten. -/
def names : List String := if draft.fields.length = 5 then shortFields else longFields

/-- The record that is read where a draft has been written. -/
def record (offset : ℕ) : Record :=
  { type := .exchange
    url := draft.fields.head?
    offset
    length := draft.block.length
    headers := draft.names.zip draft.fields
    body := draft.block }

/-- A block can be written: its fields are words, five or ten of them, and the last one is its
length, which fits into 64 bits. -/
structure IsWritable : Prop where
  count : draft.fields.length = 5 ∨ draft.fields.length = 10
  word : ∀ field ∈ draft.fields, field ≠ "" ∧ ∀ c ∈ field.toList, Text.isBlank c = false
  last : draft.fields.getLast? = some (toString draft.block.length)
  block : draft.block.length < UInt64.size

end FieldDraft

/-! ## Lines -/

variable (fault : Option InputFault) (position : ℕ)

theorem line_lineFeed {line : Bytes} (h : lineFeed ∉ line) (hreturn : (0x0D : UInt8) ∉ line)
    (rest : Bytes) :
    Cursor.line ⟨position, line ++ lineFeed :: rest, fault⟩ =
      .found line ⟨position + line.length + 1, rest, fault⟩ := by
  have hdrop : dropReturn line = line :=
    if_neg fun hlast => hreturn (List.mem_of_getLast? hlast)
  unfold Cursor.line
  simp only [cutLine_append h, hdrop]
  rfl

theorem headerLine_lineFeed (rest : Bytes) :
    Cursor.headerLine ⟨position, lineFeed :: rest, fault⟩ =
      Cursor.headerLine ⟨position + 1, rest, fault⟩ :=
  headerLine_of_line
    (line_lineFeed fault position List.not_mem_nil List.not_mem_nil rest)

section Line

variable {draft : FieldDraft}

theorem toList_line (draft : FieldDraft) :
    (" ".intercalate draft.fields).toList = [' '].intercalate (draft.fields.map String.toList) :=
  String.toList_intercalate

variable (h : draft.IsWritable)

include h

theorem words_line :
    Text.words (" ".intercalate draft.fields).toList = draft.fields.map String.toList := by
  rw [toList_line]
  apply Text.words_intercalate
  intro cs hcs
  obtain ⟨field, hfield, rfl⟩ := List.mem_map.1 hcs
  obtain ⟨hne, hword⟩ := h.word field hfield
  exact ⟨fun hnil => hne (String.toList_injective hnil), hword⟩

/-- The only white space of a written line are its spaces. -/
theorem not_mem_line {c : Char} (hascii : c.toNat < 0x80) (hblank : Text.isBlank c = true)
    (hspace : c ≠ ' ') : UInt8.ofNat c.toNat ∉ draft.line := by
  intro hmem
  have hc := Utf8.mem_of_mem_encode hascii hmem
  rw [toList_line] at hc
  obtain hc | ⟨cs, hcs, hc⟩ := Text.of_mem_intercalate hc
  · exact hspace hc
  · obtain ⟨field, hfield, rfl⟩ := List.mem_map.1 hcs
    rw [(h.word field hfield).2 c hc] at hblank
    cases hblank

/-- A written line has the digits of a length. -/
theorem not_isBlank_line : draft.line.all isBlankByte = false := by
  have hlast : toString draft.block.length ∈ draft.fields := List.mem_of_getLast? h.last
  have hdigits : (toString draft.block.length).toList = Nat.toDigits 10 draft.block.length :=
    Nat.toList_repr
  obtain ⟨c, hc⟩ := List.exists_mem_of_ne_nil (Nat.toDigits 10 draft.block.length) (by simp)
  have hdigit := Text.isDigit_toDigits c hc
  obtain ⟨hlow, hhigh⟩ : 48 ≤ c.toNat ∧ c.toNat ≤ 57 := by
    simpa [Char.isDigit, UInt32.le_iff_toNat_le] using hdigit
  have hencode : String.utf8EncodeChar c = [UInt8.ofNat c.toNat] := by
    rw [Utf8.utf8EncodeChar_eq, if_pos (by omega)]
  have hmem : UInt8.ofNat c.toNat ∈ draft.line := by
    apply List.mem_flatMap.2
    refine ⟨c, ?_, by rw [hencode]; exact List.mem_singleton_self _⟩
    rw [toList_line]
    exact Text.mem_intercalate (List.mem_map_of_mem hlast) (hdigits ▸ hc)
  have hblank : isBlankByte (UInt8.ofNat c.toNat) = false := by
    have hnat : (UInt8.ofNat c.toNat).toNat = c.toNat := Utf8.toNat_ofNat (by omega)
    simp only [isBlankByte, Bool.or_eq_false_iff, beq_eq_false_iff_ne, ne_eq, ← UInt8.toNat_inj,
      hnat, UInt8.reduceToNat]
    omega
  rw [List.all_eq_false]
  exact ⟨_, hmem, by rw [hblank]; exact Bool.false_ne_true⟩

theorem headerLine_fieldDraft (rest : Bytes) :
    Cursor.headerLine ⟨position, draft.line ++ lineFeed :: rest, fault⟩ =
      .found (position, Utf8.toStringLossy draft.line)
        ⟨position + draft.line.length + 1, rest, fault⟩ := by
  have hfeed : lineFeed ∉ draft.line := not_mem_line h (c := '\n') (by decide) rfl (by decide)
  have hreturn : (0x0D : UInt8) ∉ draft.line :=
    not_mem_line h (c := '\r') (by decide) rfl (by decide)
  rw [headerLine_of_line (line_lineFeed fault position hfeed hreturn rest), not_isBlank_line h]
  rfl

theorem readFields_line (offset : ℕ) :
    readFields offset (Utf8.toStringLossy draft.line) = .ok (draft.fields, draft.block.length) := by
  have htext : Utf8.toStringLossy draft.line = " ".intercalate draft.fields :=
    Utf8.toStringLossy_ofString _
  have hfields : (Text.words (Utf8.toStringLossy draft.line).toList).map String.ofList =
      draft.fields := by
    rw [htext, words_line h, List.map_map]
    exact (List.map_congr_left fun _ _ => String.ofList_toList).trans (List.map_id _)
  have hcount : ¬ draft.fields.length < shortFields.length := by
    have hfive : shortFields.length = 5 := rfl
    have hcount := h.count
    omega
  have hlength : Text.readUInt64 (toString draft.block.length).toList =
      some (UInt64.ofNat draft.block.length) := by
    rw [show (toString draft.block.length).toList = _ from Nat.toList_repr]
    exact Text.readUInt64_toDigits h.block
  unfold readFields
  simp only [hfields, hcount, if_false, h.last, Option.bind_some, hlength,
    UInt64.toNat_ofNat_of_lt' h.block]

/-! ## Blocks -/

theorem ofArc_fields (offset : ℕ) :
    Record.ofArc offset draft.block.length draft.fields draft.block = draft.record offset := by
  have hten : longFields.length = 10 := rfl
  have hnames : (if longFields.length ≤ draft.fields.length then longFields else shortFields) =
      draft.names := by
    unfold FieldDraft.names
    obtain hcount | hcount := h.count
    · rw [if_neg (by omega), if_pos hcount]
    · rw [if_pos (by omega), if_neg (by omega)]
  unfold Record.ofArc FieldDraft.record
  rw [hnames]

/-- A written block is read, whatever follows it. -/
theorem arcBlock_fieldDraft (rest : Bytes) :
    Cursor.arcBlock ⟨position, draft.line ++ lineFeed :: (draft.block ++ rest), fault⟩ =
      .found (position, draft.fields, draft.block)
        ⟨position + draft.line.length + 1 + draft.block.length, rest, fault⟩ := by
  unfold Cursor.arcBlock
  rw [headerLine_fieldDraft fault position h]
  simp only [Step.andThen, readFields_line h, block_written]

end Line

theorem arcRecord_lineFeed (rest : Bytes) :
    Cursor.arcRecord ⟨position, lineFeed :: rest, fault⟩ =
      Cursor.arcRecord ⟨position + 1, rest, fault⟩ := by
  have hblock : Cursor.arcBlock ⟨position, lineFeed :: rest, fault⟩ =
      Cursor.arcBlock ⟨position + 1, rest, fault⟩ := by
    unfold Cursor.arcBlock
    rw [headerLine_lineFeed]
  rw [arcRecord_eq, arcRecord_eq, hblock]

section Block

variable {draft : FieldDraft}

theorem bytes_append (draft : FieldDraft) (rest : Bytes) :
    draft.bytes ++ rest =
      draft.line ++ lineFeed :: (draft.block ++ lineFeed :: rest) := by
  simp only [FieldDraft.bytes, List.append_assoc, List.cons_append, List.nil_append]

theorem length_bytes (draft : FieldDraft) :
    draft.bytes.length = draft.line.length + 1 + draft.block.length + 1 := by
  simp only [FieldDraft.bytes, List.length_append, List.length_singleton]

theorem startsWith_fileMark :
    Text.startsWith fileMark.toList (draft.fields.headD "").toList ↔ draft.DescribesFile :=
  Text.startsWith_iff

variable (h : draft.IsWritable)

include h

/-- A written block that describes the file is passed over. -/
theorem arcRecord_describing (hmark : draft.DescribesFile) (rest : Bytes) :
    Cursor.arcRecord ⟨position, draft.bytes ++ rest, fault⟩ =
      Cursor.arcRecord ⟨position + draft.bytes.length, rest, fault⟩ := by
  have hblock := arcBlock_fieldDraft fault position h (lineFeed :: rest)
  have hend : position + draft.line.length + 1 + draft.block.length + 1 =
      position + draft.bytes.length := by
    rw [length_bytes]
    omega
  rw [bytes_append, arcRecord_of_block hblock, if_pos (startsWith_fileMark.2 hmark),
    arcRecord_lineFeed, hend]

/-- Any other written block is read as its record. -/
theorem arcRecord_fieldDraft (hmark : ¬ draft.DescribesFile) (rest : Bytes) :
    Cursor.arcRecord ⟨position, draft.bytes ++ rest, fault⟩ =
      .found (draft.record position)
        ⟨position + draft.line.length + 1 + draft.block.length, lineFeed :: rest, fault⟩ := by
  have hblock := arcBlock_fieldDraft fault position h (lineFeed :: rest)
  rw [bytes_append, arcRecord_of_block hblock, if_neg (mt startsWith_fileMark.1 hmark),
    ofArc_fields h]

end Block

/-! ## Runs -/

/-- What a run gives of written blocks, the first of which starts at a position. -/
def fieldItems : (position : ℕ) → List FieldDraft → List (Except Error Record × ℕ)
  | _, [] => []
  | position, draft :: drafts =>
    let items := fieldItems (position + draft.bytes.length) drafts
    if draft.DescribesFile then items
    else
      (.ok (draft.record position), position + draft.line.length + 1 + draft.block.length) :: items

theorem map_fst_fieldItems (drafts : List FieldDraft) :
    (fieldItems position drafts).map Prod.fst =
      ((drafts.mapIdx fun i draft =>
          (position + ((drafts.take i).flatMap FieldDraft.bytes).length, draft)).filter
            fun place => ¬ place.2.DescribesFile).map
        fun place => .ok (place.2.record place.1) := by
  induction drafts generalizing position with
  | nil => rfl
  | cons draft drafts ih =>
    have hplaces : (drafts.mapIdx fun i other => (position +
          (((draft :: drafts).take (i + 1)).flatMap FieldDraft.bytes).length, other)) =
        drafts.mapIdx fun i other => (position + draft.bytes.length +
          ((drafts.take i).flatMap FieldDraft.bytes).length, other) := by
      simp only [List.take_succ_cons, List.flatMap_cons, List.length_append, Nat.add_assoc]
    rw [List.mapIdx_cons, hplaces, fieldItems]
    by_cases hmark : draft.DescribesFile
    · rw [if_pos hmark, ih, List.filter_cons_of_neg (by simpa using hmark)]
    · rw [if_neg hmark, List.filter_cons_of_pos (by simpa using hmark), List.map_cons, List.map_cons,
        ih]
      rfl

theorem length_le_fieldBytes (drafts : List FieldDraft) :
    drafts.length ≤ (drafts.flatMap FieldDraft.bytes).length := by
  induction drafts with
  | nil => exact Nat.zero_le _
  | cons draft drafts ih =>
    simp only [List.flatMap_cons, List.length_cons, List.length_append, FieldDraft.bytes]
    omega

theorem runWithin_fieldDrafts {drafts : List FieldDraft} (h : ∀ draft ∈ drafts, draft.IsWritable)
    {fuel : ℕ} (hfuel : drafts.length < fuel) :
    Reading.runWithin fuel
        { format := .arc, cursor := ⟨position, drafts.flatMap FieldDraft.bytes, none⟩,
          isDone := false } =
      (fieldItems position drafts,
        { format := .arc
          cursor := ⟨position + (drafts.flatMap FieldDraft.bytes).length, [], none⟩
          isDone := true }) := by
  induction drafts generalizing position fuel with
  | nil => exact runWithin_nil .arc position (Nat.zero_lt_of_lt hfuel)
  | cons draft drafts ih =>
    obtain ⟨fuel, rfl⟩ := Nat.exists_eq_add_one.2 (Nat.zero_lt_of_lt hfuel)
    have hfuel : drafts.length < fuel := Nat.lt_of_succ_lt_succ hfuel
    have hdraft := h draft List.mem_cons_self
    have hdrafts : ∀ other ∈ drafts, other.IsWritable :=
      fun other hother => h other (List.mem_cons_of_mem _ hother)
    have hend : position + draft.bytes.length + (drafts.flatMap FieldDraft.bytes).length =
        position + ((draft :: drafts).flatMap FieldDraft.bytes).length := by
      rw [List.flatMap_cons, List.length_append, Nat.add_assoc]
    rw [← hend, List.flatMap_cons, fieldItems]
    by_cases hmark : draft.DescribesFile
    · have hrecord : Cursor.record .arc
            ⟨position, draft.bytes ++ drafts.flatMap FieldDraft.bytes, none⟩ =
          Cursor.record .arc
            ⟨position + draft.bytes.length, drafts.flatMap FieldDraft.bytes, none⟩ :=
        arcRecord_describing none position hdraft hmark _
      rw [if_pos hmark, runWithin_congr hrecord (Nat.succ_pos fuel),
        ih _ hdrafts (Nat.lt_succ_of_lt hfuel)]
    · have hrecord := arcRecord_fieldDraft none position hdraft hmark
        (drafts.flatMap FieldDraft.bytes)
      have hfirst := @runWithin_of_record
        { format := .arc
          cursor := ⟨position, draft.bytes ++ drafts.flatMap FieldDraft.bytes, none⟩
          isDone := false } _ _ rfl hrecord fuel
      have hend : position + draft.line.length + 1 + draft.block.length + 1 =
          position + draft.bytes.length := by
        rw [length_bytes]
        omega
      have hbehind : Cursor.record .arc
            ⟨position + draft.line.length + 1 + draft.block.length,
              lineFeed :: drafts.flatMap FieldDraft.bytes, none⟩ =
          Cursor.record .arc
            ⟨position + draft.bytes.length, drafts.flatMap FieldDraft.bytes, none⟩ :=
        hend ▸ arcRecord_lineFeed none _ _
      rw [if_neg hmark, hfirst, runWithin_congr hbehind (Nat.zero_lt_of_lt hfuel),
        ih _ hdrafts hfuel]

/-- **Round trip.** A reading of written blocks gives those that do not describe the file in order,
each with the number of bytes before it as its offset, and ends without an error behind the last
byte. -/
theorem run_fieldDrafts (drafts : List FieldDraft) (h : ∀ draft ∈ drafts, draft.IsWritable) :
    let reading := Reading.start .arc (drafts.flatMap FieldDraft.bytes) none
    reading.run.1.map Prod.fst =
        ((drafts.mapIdx fun i draft =>
            (((drafts.take i).flatMap FieldDraft.bytes).length, draft)).filter
              fun place => ¬ place.2.DescribesFile).map
          (fun place => .ok (place.2.record place.1)) ∧
      reading.run.2 =
        { format := .arc
          cursor :=
            { position := (drafts.flatMap FieldDraft.bytes).length, rest := [], fault := none }
          isDone := true } := by
  intro reading
  have hfuel : drafts.length < (drafts.flatMap FieldDraft.bytes).length + 2 := by
    have hlength := length_le_fieldBytes drafts
    omega
  have hrun : reading.run = _ := runWithin_fieldDrafts 0 h hfuel
  rw [hrun]
  refine ⟨?_, ?_⟩
  · simpa only [Nat.zero_add] using map_fst_fieldItems 0 drafts
  · simp only [Nat.zero_add]

/-- A description of the file, a block that looks like a line of fields, one without bytes, another
description, and a long line. -/
theorem run_fieldDrafts_lookalike :
    let drafts : List FieldDraft :=
      [⟨["filedesc://a.arc", "0.0.0.0", "2020", "text/plain", "3"], Utf8.ofString "1 0"⟩,
        ⟨["http://a.example/", "1.2.3.4", "2020", "text/html", "12"],
          Utf8.ofString "u i d t 5\n\r\n"⟩,
        ⟨["http://é.example/", "-", "-", "-", "0"], []⟩,
        ⟨["filedesc://b.arc", "0.0.0.0", "2020", "text/plain", "0"], []⟩,
        ⟨["http://b.example/", "1.2.3.4", "2020", "text/html", "200", "-", "-", "0", "a.arc", "1"],
          [0xFF]⟩]
    (∀ draft ∈ drafts, draft.IsWritable) ∧
      let reading := Reading.start .arc (drafts.flatMap FieldDraft.bytes) none
      reading.run.1.map Prod.fst =
          ((drafts.mapIdx fun i draft =>
              (((drafts.take i).flatMap FieldDraft.bytes).length, draft)).filter
                fun place => ¬ place.2.DescribesFile).map
            (fun place => .ok (place.2.record place.1)) ∧
        reading.run.2 =
          { format := .arc
            cursor :=
              { position := (drafts.flatMap FieldDraft.bytes).length, rest := [], fault := none }
            isDone := true } := by
  intro drafts
  have hwritable : ∀ draft ∈ drafts, draft.IsWritable := by
    have hword : ∀ draft ∈ drafts, ∀ field ∈ draft.fields,
        field ≠ "" ∧ field.toList.all fun c => Text.isBlank c == false := by
      decide +kernel
    have hshape : ∀ draft ∈ drafts, (draft.fields.length = 5 ∨ draft.fields.length = 10) ∧
        draft.fields.getLast? = some (toString draft.block.length) ∧
        draft.block.length < UInt64.size := by
      decide +kernel
    intro draft hdraft
    obtain ⟨hcount, hlast, hblock⟩ := hshape draft hdraft
    refine ⟨hcount, fun field hfield => ?_, hlast, hblock⟩
    obtain ⟨hempty, hblank⟩ := hword draft hdraft field hfield
    exact ⟨hempty, fun c hc => eq_of_beq (List.all_eq_true.1 hblank c hc)⟩
  exact ⟨hwritable, run_fieldDrafts drafts hwritable⟩

end CrawlGraph.Archive
