import CrawlGraph.Archive.Open
import CrawlGraph.Proofs.Archive.Truncated
import CrawlGraph.Proofs.Archive.Written

/-!
# The start of an archive file

Before a file is read, its first piece is looked at for the way in which archives of its format
start. This does not shut out any typed archive that holds a record: it is opened, and read from its
first byte (`opens_of_mem_records`).

1. A record is read from a line that starts with the signature, and what comes before that line is
   blank (`exists_signature_of_warcRecord`). The line is compared as a text and the first piece as
   bytes, but characters of ASCII are read from their own bytes only.
2. Behind white space that is part of the first piece there is a part of the signature, or there is
   nothing left of the piece (`hasSignature_take`).
-/

namespace CrawlGraph.Archive

variable {cursor next : Cursor} {record : Record}

/-! ## The first line -/

theorem dropReturn_isPrefix (line : Bytes) : dropReturn line <+: line := by
  unfold dropReturn
  split
  · exact List.dropLast_prefix line
  · exact List.prefix_refl line

theorem line_isPrefix {line : Bytes} (h : cursor.line = .found line next) :
    line <+: cursor.rest := by
  unfold Cursor.line at h
  split at h
  · rename_i cut rest hcut
    cases h
    refine (dropReturn_isPrefix cut).trans ?_
    rw [eq_append_of_cutLine hcut]
    exact List.prefix_append _ _
  · split at h
    · cases h
    · split at h
      · cases h
      · cases h
        exact dropReturn_isPrefix cursor.rest

/-- White space, then the line that is found. -/
theorem exists_line_of_headerLine {offset : ℕ} {text : String}
    (h : cursor.headerLine = .found (offset, text) next) :
    ∃ blank line, IsBlank blank ∧ blank ++ line <+: cursor.rest ∧
      text = Utf8.toStringLossy line := by
  fun_induction Cursor.headerLine cursor with
  | case1 cursor line after hline hblank ih =>
    obtain ⟨first, hfirst, -, hall⟩ := passes_of_line hline
    obtain ⟨blank, found, hblanks, hprefix, htext⟩ := ih h
    refine ⟨first ++ blank, found, ?_, ?_, htext⟩
    · exact isBlank_append.2 ⟨hall (List.all_eq_true.1 hblank), hblanks⟩
    · rw [hfirst.rest, List.append_assoc]
      exact (List.prefix_append_right_inj first).2 hprefix
  | case2 cursor line after hline hblank =>
    cases h
    exact ⟨[], line, List.forall_mem_nil _, line_isPrefix hline, rfl⟩
  | case3 => cases h
  | case4 => cases h

/-- A typed record stands behind white space, and starts with the signature. -/
theorem exists_signature_of_warcRecord (h : cursor.warcRecord = .found record next) :
    ∃ blank rest, IsBlank blank ∧ cursor.rest = blank ++ (Format.warc.signature ++ rest) := by
  obtain ⟨offset, version, behindVersion, headers, behindHeaders, length, body, hversion, hmark,
    -⟩ := warcRecord_eq_found.1 h
  obtain ⟨blank, line, hblank, hprefix, rfl⟩ := exists_line_of_headerLine hversion
  rw [Text.startsWith_iff, Utf8.toList_toStringLossy] at hmark
  have hascii : ∀ c ∈ "WARC/".toList, c.toNat < 0x80 := by simp
  have hbytes : Format.warc.signature <+: line := Utf8.encode_isPrefix hascii hmark
  obtain ⟨rest, hrest⟩ := ((List.prefix_append_right_inj blank).2 hbytes).trans hprefix
  refine ⟨blank, rest, hblank, ?_⟩
  rw [← hrest, List.append_assoc]

/-! ## The first piece -/

/-- The signature of a format does not start with white space. -/
theorem dropWhile_signature (format : Format) (rest : Bytes) (count : ℕ) :
    ((format.signature ++ rest).take count).dropWhile isBlankByte =
      (format.signature ++ rest).take count := by
  obtain ⟨b, tail, hsignature, hb⟩ :
      ∃ b tail, format.signature = b :: tail ∧ isBlankByte b = false := by
    cases format with
    | warc => exact ⟨_, _, rfl, rfl⟩
    | arc => exact ⟨_, _, rfl, rfl⟩
  cases count with
  | zero => rfl
  | succ count =>
    rw [hsignature, List.cons_append, List.take_succ_cons,
      List.dropWhile_cons_of_neg (by rw [hb]; exact Bool.false_ne_true)]

/-- Wherever a piece ends, as much of the signature as it holds behind white space is enough. -/
theorem hasSignature_take (format : Format) {blank : Bytes} (h : IsBlank blank) (rest : Bytes)
    (size : ℕ) :
    hasSignature format ((blank ++ (format.signature ++ rest)).take size) = true := by
  have hblank : ∀ b ∈ blank.take size, isBlankByte b = true :=
    fun b hb => h b (List.mem_of_mem_take hb)
  unfold hasSignature
  rw [List.take_append, List.dropWhile_append_of_pos hblank, dropWhile_signature]
  dsimp only
  rw [beq_iff_eq, List.take_take, List.take_append_of_le_length (Nat.min_le_left _ _),
    List.take_eq_take_iff, List.length_take, List.length_append]
  omega

/-! ## Opening -/

/-- **Opening.** A plain archive of typed records that gives a record when its bytes are read as
they are is opened, and then read from its first byte like these. -/
theorem opens_of_mem_records {path : String} {bytes : Bytes}
    (hpath : formatOf? path = some (.warc, false))
    (h : record ∈ (Reading.start .warc bytes none).records) :
    hasSignature .warc (bytes.take pieceSize) = true ∧
      openArchive path (.ok bytes) =
        .ok { path, isCompressed := false, reading := Reading.start .warc bytes none } := by
  obtain ⟨first, next, hfirst⟩ := exists_record_of_mem h
  obtain ⟨blank, rest, hblank, hbytes⟩ := exists_signature_of_warcRecord hfirst
  have hsignature : hasSignature .warc (bytes.take pieceSize) = true := by
    rw [show bytes = _ from hbytes]
    exact hasSignature_take .warc hblank rest pieceSize
  have hne : bytes ≠ [] := rest_ne_nil_of_record hfirst
  refine ⟨hsignature, ?_⟩
  have hpiece : (bytes.take pieceSize).isEmpty = false := by
    rw [List.isEmpty_eq_false_iff, Ne, List.take_eq_nil_iff]
    exact not_or.2 ⟨by decide, hne⟩
  unfold openArchive
  rw [hpath]
  simp only [Except.bind, readFile, hpiece, hsignature, Bool.not_true, Bool.false_eq_true, if_false]

/-- A first piece that ends within the signature, behind a long line of spaces. -/
theorem opens_of_mem_records_cut :
    let blank : Bytes := List.replicate (pieceSize - 5) 0x20
    let draft : Draft := ⟨Utf8.ofString "1.0", [], []⟩
    let bytes := blank ++ (lineEnd ++ draft.head)
    let record := draft.record (pieceSize - 3)
    formatOf? "a.warc" = some (.warc, false) ∧
      record ∈ (Reading.start .warc bytes none).records ∧
      hasSignature .warc (bytes.take pieceSize) = true ∧
      openArchive "a.warc" (.ok bytes) =
        .ok { path := "a.warc", isCompressed := false,
              reading := Reading.start .warc bytes none } := by
  intro blank draft bytes record
  have hpath : formatOf? "a.warc" = some (.warc, false) := by decide +kernel
  have hspace : ∀ b ∈ blank, b = 0x20 := fun b hb => List.eq_of_mem_replicate hb
  have hfeed : lineFeed ∉ blank := fun hmem => absurd (hspace _ hmem) (by decide)
  have hblank : blank.all isBlankByte = true := by
    rw [List.all_eq_true]
    exact fun b hb => hspace b hb ▸ rfl
  have hline := line_written none 0 hfeed draft.head
  have hwritable : draft.IsWritable := ⟨by decide, by simp [draft], by decide⟩
  have hrecord := warcRecord_written none (pieceSize - 3) hwritable []
  rw [show draft.head ++ (draft.block ++ []) = draft.head from List.append_nil _] at hrecord
  have hstart : 0 + blank.length + 2 = pieceSize - 3 := by
    rw [List.length_replicate]
    rfl
  have hfirst : Cursor.record .warc ⟨0, bytes, none⟩ =
      .found record ⟨pieceSize - 3 + draft.head.length + draft.block.length, [], none⟩ := by
    unfold Cursor.record Cursor.warcRecord
    rw [headerLine_of_line hline, if_pos hblank, hstart]
    exact hrecord
  have hmem : record ∈ (Reading.start .warc bytes none).records := by
    have hrecords : (Reading.start .warc bytes none).records = record :: _ :=
      recordsWithin_of_record hfirst (bytes.length + 1)
    rw [hrecords]
    exact List.mem_cons_self
  exact ⟨hpath, hmem, opens_of_mem_records hpath hmem⟩

end CrawlGraph.Archive
