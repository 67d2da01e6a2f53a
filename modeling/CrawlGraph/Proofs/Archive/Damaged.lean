import CrawlGraph.Archive.Open
import CrawlGraph.Proofs.Archive.Truncated
import CrawlGraph.Proofs.Gzip.Parts

/-!
# Damaged archives

Damage behind the first parts of a compressed archive takes away none of the records that those
parts give (`records_of_damaged`).

1. What is found in bytes that break off with a fault does not touch the place where they do, so it
   is found as well if they go on (`Cursor.Keeps`): a line, headers, a block, a record.
2. So the records before a fault are the first ones of the archive that goes on
   (`records_of_fault`), by induction on the calls. Behind them there is an error
   (`isSome_of_fault`), by induction on the records.
3. A compressed archive is opened by its first piece and read from all its pieces
   (`openArchive_compressed`), and the pieces of its first parts come first among these.
-/

namespace CrawlGraph.Archive

variable {α : Type} {cursor next : Cursor}

/-! ## Bytes that break off -/

/-- The place where a cursor stands, with more bytes behind it and another end. -/
def Cursor.goOn (cursor : Cursor) (more : Bytes) (fault : Option InputFault) : Cursor :=
  { cursor with rest := cursor.rest ++ more, fault }

/-- What is found in bytes that break off with a fault is found at the same place if they go on. -/
def Cursor.Keeps (read : Cursor → Step α) : Prop :=
  ∀ {cursor a next}, cursor.fault.isSome → read cursor = .found a next →
    next.fault.isSome ∧
      ∀ more fault, read (cursor.goOn more fault) = .found a (next.goOn more fault)

theorem keeps_line : Cursor.Keeps Cursor.line := by
  intro cursor line next hfault h
  unfold Cursor.line at h
  split at h
  · rename_i before after hcut
    cases h
    refine ⟨hfault, fun more fault => ?_⟩
    unfold Cursor.line Cursor.goOn
    dsimp only
    rw [eq_append_of_cutLine hcut, List.append_assoc, List.cons_append,
      cutLine_append (lineFeed_not_mem_of_cutLine hcut)]
  · split at h
    · cases h
    · rename_i hnone
      rw [hnone] at hfault
      cases hfault

theorem keeps_headerLine : Cursor.Keeps Cursor.headerLine := by
  intro cursor found next hfault h
  fun_induction Cursor.headerLine cursor with
  | case1 cursor line after hline hblank ih =>
    obtain ⟨hafter, hmore⟩ := keeps_line hfault hline
    obtain ⟨hnext, hfound⟩ := ih hafter h
    refine ⟨hnext, fun more fault => ?_⟩
    rw [headerLine_of_line (hmore more fault), if_pos hblank, hfound]
  | case2 cursor line after hline hblank =>
    cases h
    obtain ⟨hafter, hmore⟩ := keeps_line hfault hline
    refine ⟨hafter, fun more fault => ?_⟩
    rw [headerLine_of_line (hmore more fault), if_neg hblank]
    rfl
  | case3 => cases h
  | case4 => cases h

theorem keeps_headers (offset : ℕ) : Cursor.Keeps (·.headers offset) := by
  intro cursor headers next hfault h
  dsimp only at h ⊢
  fun_induction Cursor.headers cursor offset generalizing headers with
  | case1 cursor line after hline hempty =>
    cases h
    obtain ⟨hafter, hmore⟩ := keeps_line hfault hline
    refine ⟨hafter, fun more fault => ?_⟩
    rw [headers_of_line (hmore more fault), if_pos hempty]
  | case2 cursor line after hline hempty ih =>
    obtain ⟨rest, middle, hrest, hfound⟩ := Step.andThen_eq_found.1 h
    cases hfound
    obtain ⟨hafter, hmore⟩ := keeps_line hfault hline
    obtain ⟨hnext, hheaders⟩ := ih hafter hrest
    refine ⟨hnext, fun more fault => ?_⟩
    rw [headers_of_line (hmore more fault), if_neg hempty, hheaders]
    rfl
  | case3 => cases h
  | case4 => cases h

theorem keeps_block (length offset : ℕ) : Cursor.Keeps (·.block length offset) := by
  intro cursor block next hfault h
  dsimp only at h ⊢
  unfold Cursor.block at h
  dsimp only at h
  split at h
  · rename_i hlength
    cases h
    refine ⟨hfault, fun more fault => ?_⟩
    rw [List.length_take] at hlength
    have hle : length ≤ cursor.rest.length := by omega
    unfold Cursor.block Cursor.goOn Cursor.skip
    dsimp only
    rw [List.take_append_of_le_length hle, List.drop_append_of_le_length hle, List.length_take,
      if_pos hlength]
  · split at h <;> cases h

theorem keeps_warcRecord : Cursor.Keeps Cursor.warcRecord := by
  intro cursor record next hfault h
  obtain ⟨offset, version, behindVersion, headers, behindHeaders, length, body, hversion, hmark,
    hheaders, hlength, hbody, rfl⟩ := warcRecord_eq_found.1 h
  obtain ⟨hfirst, hversion⟩ := keeps_headerLine hfault hversion
  obtain ⟨hsecond, hheaders⟩ := keeps_headers offset hfirst hheaders
  obtain ⟨hthird, hbody⟩ := keeps_block length offset hsecond hbody
  refine ⟨hthird, fun more fault => warcRecord_eq_found.2 ?_⟩
  exact ⟨offset, version, _, headers, _, length, body, hversion more fault, hmark,
    hheaders more fault, hlength, hbody more fault, rfl⟩

theorem keeps_arcBlock : Cursor.Keeps Cursor.arcBlock := by
  rintro cursor ⟨offset, fields, body⟩ next hfault h
  obtain ⟨line, behindLine, length, hline, hfields, hbody⟩ := arcBlock_eq_found.1 h
  obtain ⟨hfirst, hline⟩ := keeps_headerLine hfault hline
  obtain ⟨hsecond, hbody⟩ := keeps_block length offset hfirst hbody
  refine ⟨hsecond, fun more fault => arcBlock_eq_found.2 ?_⟩
  exact ⟨line, _, length, hline more fault, hfields, hbody more fault⟩

theorem keeps_arcRecord : Cursor.Keeps Cursor.arcRecord := by
  intro cursor record next hfault h
  fun_induction Cursor.arcRecord cursor with
  | case1 cursor offset fields body after hblock hmark ih =>
    obtain ⟨hafter, hmore⟩ := keeps_arcBlock hfault hblock
    obtain ⟨hnext, hrecord⟩ := ih hafter h
    refine ⟨hnext, fun more fault => ?_⟩
    rw [arcRecord_of_block (hmore more fault), if_pos hmark, hrecord]
  | case2 cursor offset fields body after hblock hmark =>
    cases h
    obtain ⟨hafter, hmore⟩ := keeps_arcBlock hfault hblock
    refine ⟨hafter, fun more fault => ?_⟩
    rw [arcRecord_of_block (hmore more fault), if_neg hmark]
  | case3 => cases h
  | case4 => cases h

theorem keeps_record (format : Format) : Cursor.Keeps (·.record format) := by
  cases format with
  | warc => exact keeps_warcRecord
  | arc => exact keeps_arcRecord

/-! ## Records before a fault -/

theorem recordsWithin_of_fault {format : Format} {cursor : Cursor} (hfault : cursor.fault.isSome)
    (more : Bytes) (fault : Option InputFault) {fuel fuel' : ℕ} (hfuel : fuel ≤ fuel') :
    Reading.recordsWithin fuel (cursor.reading format) <+:
      Reading.recordsWithin fuel' ((cursor.goOn more fault).reading format) := by
  induction fuel generalizing cursor fuel' with
  | zero => exact List.nil_prefix
  | succ fuel ih =>
    obtain ⟨fuel', rfl⟩ := Nat.exists_eq_add_one.2 (Nat.zero_lt_of_lt hfuel)
    by_cases hfound : ∃ record next, cursor.record format = .found record next
    · obtain ⟨record, next, hrecord⟩ := hfound
      obtain ⟨hnext, hmore⟩ := keeps_record format hfault hrecord
      rw [recordsWithin_of_record hrecord, recordsWithin_of_record (hmore more fault)]
      exact List.cons_prefix_cons.2 ⟨rfl, ih hnext (Nat.le_of_succ_le_succ hfuel)⟩
    · push Not at hfound
      rw [recordsWithin_of_not_found hfound]
      exact List.nil_prefix

/-- The records before a fault are the first ones of the archive that goes on. -/
theorem records_of_fault (format : Format) (bytes more : Bytes) {fault : Option InputFault}
    (hfault : fault.isSome) (fault' : Option InputFault) :
    (Reading.start format bytes fault).records <+:
      (Reading.start format (bytes ++ more) fault').records := by
  have hfuel : bytes.length + 2 ≤ (bytes ++ more).length + 2 := by
    rw [List.length_append]
    omega
  have hstart : (⟨0, bytes, fault⟩ : Cursor).fault.isSome := hfault
  exact recordsWithin_of_fault hstart more fault' hfuel

/-! ## The error behind them -/

theorem line_ne_ended (hfault : cursor.fault.isSome) : cursor.line ≠ .ended next := by
  intro h
  unfold Cursor.line at h
  split at h
  · cases h
  · split at h
    · cases h
    · rename_i hnone
      rw [hnone] at hfault
      cases hfault

theorem headerLine_ne_ended (hfault : cursor.fault.isSome) : cursor.headerLine ≠ .ended next := by
  intro h
  fun_induction Cursor.headerLine cursor with
  | case1 cursor line after hline hblank ih => exact ih (keeps_line hfault hline).1 h
  | case2 => cases h
  | case3 cursor after hline => exact line_ne_ended hfault hline
  | case4 => cases h

theorem arcRecord_ne_ended (hfault : cursor.fault.isSome) : cursor.arcRecord ≠ .ended next := by
  intro h
  fun_induction Cursor.arcRecord cursor with
  | case1 cursor offset fields body after hblock hmark ih =>
    exact ih (keeps_arcBlock hfault hblock).1 h
  | case2 => cases h
  | case3 cursor after hblock =>
    exact headerLine_ne_ended hfault (headerLine_of_arcBlock_ended hblock)
  | case4 => cases h

theorem record_ne_ended {format : Format} (hfault : cursor.fault.isSome) :
    cursor.record format ≠ .ended next := by
  cases format with
  | warc => exact fun h => headerLine_ne_ended hfault (headerLine_of_warcRecord_ended h)
  | arc => exact arcRecord_ne_ended hfault

/-- The reading of bytes that break off does not end without an error. -/
theorem isSome_of_fault {reading : Reading} {records : List Record} {error? : Option Error}
    (hdone : reading.isDone = false) (hfault : reading.cursor.fault.isSome)
    (h : ∀ i, (reading.after i).next.1 = (answers records error?)[i]?) : error?.isSome := by
  induction records generalizing reading with
  | nil =>
    have hfirst : reading.next.1 = (answers [] error?)[0]? := h 0
    cases error? with
    | some error => rfl
    | none =>
      unfold Reading.next at hfirst
      rw [if_neg (by rw [hdone]; exact Bool.false_ne_true)] at hfirst
      split at hfirst
      · cases hfirst
      · rename_i hended
        exact absurd hended (record_ne_ended hfault)
      · cases hfirst
  | cons record records ih =>
    have hnext : reading.next = (some (.ok record), reading.next.2) := Prod.ext (h 0) rfl
    have hrecord := record_of_next hnext
    have hafter : reading.next.2 = { reading with cursor := reading.next.2.cursor } :=
      congrArg Prod.snd (next_of_record hdone hrecord)
    have hdone' : reading.next.2.isDone = false := by
      rw [hafter]
      exact hdone
    refine ih hdone' (keeps_record reading.format hfault hrecord).1 fun i => ?_
    rw [← after_succ hnext]
    exact h (i + 1)

/-! ## Compressed archives -/

/-- The first piece of a compressed file that is not empty. -/
def firstPiece? (content : Bytes) : Option Bytes :=
  (Gzip.decompress content).1.find? (!·.isEmpty)

theorem readFile_of_piece {content piece : Bytes} (hmagic : Gzip.hasMagic content = true)
    (hpiece : firstPiece? content = some piece) :
    readFile true content = .ok (piece.take pieceSize, (Gzip.decompress content).1.flatten,
      (Gzip.decompress content).2.map .compression) := by
  unfold firstPiece? at hpiece
  unfold readFile
  simp only [if_pos, hmagic, hpiece, Bool.not_true, Bool.false_eq_true, if_false]

/-- Otherwise there is no piece in which a signature could stand. -/
theorem exists_piece_of_readFile {content piece bytes : Bytes} {fault : Option InputFault}
    (h : readFile true content = .ok (piece, bytes, fault)) (hne : piece.isEmpty = false) :
    Gzip.hasMagic content = true ∧ ∃ first, firstPiece? content = some first := by
  unfold readFile at h
  rw [if_pos rfl] at h
  split_ifs at h with hmagic
  refine ⟨by simpa using hmagic, ?_⟩
  cases hpiece : firstPiece? content with
  | some first => exact ⟨first, rfl⟩
  | none =>
    unfold firstPiece? at hpiece
    cases hfault : (Gzip.decompress content).2 with
    | some fault' =>
      simp only [hpiece, hfault, Option.map_some] at h
      cases h
    | none =>
      simp only [hpiece, hfault, Option.map_none] at h
      cases h
      cases hne

/-- A compressed archive is opened if its first piece starts as its format asks, and it is read from
all its pieces. -/
theorem openArchive_compressed {path : String} {content : Bytes} {archive : Opened} :
    openArchive path (.ok content) = .ok archive ∧ archive.isCompressed = true ↔
      ∃ format piece, formatOf? path = some (format, true) ∧ Gzip.hasMagic content = true ∧
        firstPiece? content = some piece ∧ hasSignature format (piece.take pieceSize) = true ∧
        archive = ⟨path, true, Reading.start format (Gzip.decompress content).1.flatten
          ((Gzip.decompress content).2.map .compression)⟩ := by
  unfold openArchive
  constructor
  · rintro ⟨h, hcompressed⟩
    split at h
    · cases h
    rename_i format isCompressed hformat
    split at h
    · cases h
    rename_i piece bytes fault hfile
    split_ifs at h with hempty hsignature
    cases h
    dsimp only at hcompressed
    subst hcompressed
    change readFile true content = _ at hfile
    obtain ⟨hmagic, first, hfirst⟩ :=
      exists_piece_of_readFile hfile (Bool.eq_false_iff.2 hempty)
    cases hfile.symm.trans (readFile_of_piece hmagic hfirst)
    exact ⟨format, first, hformat, hmagic, hfirst, by simpa using hsignature, rfl⟩
  · rintro ⟨format, piece, hformat, hmagic, hpiece, hsignature, rfl⟩
    have hne : (piece.take pieceSize).isEmpty = false := by
      have hfound := List.find?_some hpiece
      cases piece with
      | nil => cases hfound
      | cons b piece => rfl
    simp only [hformat, Except.bind, readFile_of_piece hmagic hpiece, hne, hsignature,
      Bool.not_true, Bool.false_eq_true, if_false, and_self]

theorem hasMagic_append {front : Bytes} (h : Gzip.hasMagic front = true) (back : Bytes) :
    Gzip.hasMagic (front ++ back) = true := by
  unfold Gzip.hasMagic at h
  split at h
  · rfl
  · cases h

/-- **Damaged archives.** Where the first parts of a compressed archive break off with a fault, the
records before the fault are the first ones of the archive, whatever stands behind those parts. -/
theorem records_of_damaged {path : String} {front : Bytes} {archive : Opened}
    (hends : Gzip.EndsPart front) (back : Bytes)
    (hopen : openArchive path (.ok front) = .ok archive) (hcompressed : archive.isCompressed = true)
    (hfault : archive.reading.cursor.fault.isSome = true) :
    ∃ found, openArchive path (.ok (front ++ back)) = .ok found ∧
      found.reading.format = archive.reading.format ∧
      archive.reading.records <+: found.reading.records := by
  obtain ⟨format, piece, hformat, hmagic, hpiece, hsignature, rfl⟩ :=
    openArchive_compressed.1 ⟨hopen, hcompressed⟩
  obtain ⟨more, hmore⟩ := Gzip.decompress_append hends back
  have hpiece' : firstPiece? (front ++ back) = some piece := by
    unfold firstPiece? at hpiece ⊢
    rw [← hmore, List.find?_append, hpiece]
    rfl
  have hfound := openArchive_compressed.2
    ⟨format, piece, hformat, hasMagic_append hmagic back, hpiece', hsignature, rfl⟩
  refine ⟨_, hfound.1, rfl, ?_⟩
  rw [← hmore, List.flatten_append]
  exact records_of_fault format _ _ hfault _

end CrawlGraph.Archive
