import CrawlGraph.Proofs.Archive.Reading

/-!
# Blocks that have been replaced

What a block holds plays no part in how the rest of an archive is read: with other bytes of the same
number in the place of the block of one record, a reading gives the same but for that block
(`run_replaced`).

1. A line with a line feed at its end, and so a header that ends with one or that is followed by
   something, is read from the bytes that it passes over, whatever comes behind them
   (`reads_of_line`, `reads_of_headerLine`, `reads_of_headers`).
2. So a record is read with any block of its length and with anything behind that
   (`readsAnyBlock_of_record`).
3. Each call of `next` before the one that gives the record passes over the same bytes as before,
   and each call after it starts at the same cursor (`runWithin_replaced`), by induction on the
   calls.
-/

namespace CrawlGraph.Archive

variable {α : Type}

/-- `a` is read from `passed`, whatever comes behind that. -/
structure Cursor.Reads (read : Cursor → Step α) (cursor : Cursor) (passed : Bytes) (a : α)
    (next : Cursor) : Prop where
  passes : cursor.Passes passed next
  found : ∀ rest, read { cursor with rest := passed ++ rest } = .found a { next with rest }

/-- What is read behind `front` has a block, `body`, in the place of which any bytes of its length
are read, whatever comes behind them. -/
structure Cursor.ReadsAnyBlock (read : Cursor → Step α) (cursor : Cursor) (front body : Bytes)
    (found : Bytes → α) (next : Cursor) : Prop where
  passes : cursor.Passes (front ++ body) next
  found : ∀ body' rest, body'.length = body.length →
    read { cursor with rest := front ++ (body' ++ rest) } = .found (found body') { next with rest }

variable {cursor next : Cursor}

/-- Unless `behind` follows what is read from a cursor, the cursor stands before bytes that end with
a line feed. -/
def Cursor.EndsBefore (cursor : Cursor) (behind : Bytes) : Prop :=
  behind = [] → cursor.rest.getLast? = some lineFeed

namespace Cursor.EndsBefore

variable {behind : Bytes}

theorem of_ne_nil (h : behind ≠ []) : cursor.EndsBefore behind := fun hnil => absurd hnil h

theorem passes {passed : Bytes} (h : cursor.EndsBefore behind) (hpasses : cursor.Passes passed next)
    (hne : next.rest ≠ []) : next.EndsBefore behind :=
  fun hnil => (hpasses.getLast? hne).symm.trans (h hnil)

end Cursor.EndsBefore

/-! ## Lines -/

theorem reads_of_line {line : Bytes} (h : cursor.line = .found line next)
    (hend : cursor.EndsBefore next.rest) : ∃ passed, cursor.Reads Cursor.line passed line next := by
  unfold Cursor.line at h
  split at h
  · rename_i before after hcut
    cases h
    refine ⟨before ++ [lineFeed], ⟨by simp, ?_⟩, ?_⟩
    · rw [eq_append_of_cutLine hcut, List.append_assoc, List.singleton_append]
    · intro rest
      unfold Cursor.line
      rw [List.append_assoc, List.singleton_append,
        cutLine_append (lineFeed_not_mem_of_cutLine hcut)]
  · -- the last line, which has no end, would be longer with more behind it
    rename_i hcut
    split at h
    · cases h
    · split at h
      · cases h
      · cases h
        have hlast := hend (List.drop_length (l := cursor.rest))
        exact absurd (List.mem_of_getLast? hlast) (lineFeed_not_mem_of_cutLine_eq_none hcut)

theorem reads_of_headerLine {found : ℕ × String} (h : cursor.headerLine = .found found next)
    (hend : cursor.EndsBefore next.rest) :
    ∃ passed, cursor.Reads Cursor.headerLine passed found next := by
  fun_induction Cursor.headerLine cursor with
  | case1 cursor line after hline hblank ih =>
    have hafter := rest_ne_nil_of_headerLine h
    obtain ⟨first, hfirst⟩ := reads_of_line hline (.of_ne_nil hafter)
    obtain ⟨second, hsecond⟩ := ih h (hend.passes hfirst.passes hafter)
    refine ⟨first ++ second, hfirst.passes.trans hsecond.passes, fun rest => ?_⟩
    rw [List.append_assoc, headerLine_of_line (hfirst.found _), if_pos hblank, hsecond.found]
  | case2 cursor line after hline hblank =>
    cases h
    obtain ⟨passed, hpassed⟩ := reads_of_line hline hend
    refine ⟨passed, hpassed.passes, fun rest => ?_⟩
    rw [headerLine_of_line (hpassed.found _), if_neg hblank]
  | case3 => cases h
  | case4 => cases h

theorem reads_of_headers {offset : ℕ} {headers : Headers}
    (h : cursor.headers offset = .found headers next) (hend : cursor.EndsBefore next.rest) :
    ∃ passed, cursor.Reads (·.headers offset) passed headers next := by
  fun_induction Cursor.headers cursor offset generalizing headers with
  | case1 cursor line after hline hempty =>
    cases h
    obtain ⟨passed, hpassed⟩ := reads_of_line hline hend
    refine ⟨passed, hpassed.passes, fun rest => ?_⟩
    rw [headers_of_line (hpassed.found _), if_pos hempty]
  | case2 cursor line after hline hempty ih =>
    obtain ⟨more, middle, hmore, hfound⟩ := Step.andThen_eq_found.1 h
    cases hfound
    have hafter := rest_ne_nil_of_headers hmore
    obtain ⟨first, hfirst⟩ := reads_of_line hline (.of_ne_nil hafter)
    obtain ⟨second, hsecond⟩ := ih hmore (hend.passes hfirst.passes hafter)
    refine ⟨first ++ second, hfirst.passes.trans hsecond.passes, fun rest => ?_⟩
    rw [List.append_assoc, headers_of_line (hfirst.found _), if_neg hempty, hsecond.found]
    rfl
  | case3 => cases h
  | case4 => cases h

/-! ## Records -/

theorem readsAnyBlock_of_block {length offset : ℕ} {block : Bytes}
    (h : cursor.block length offset = .found block next) :
    cursor.ReadsAnyBlock (·.block length offset) [] block id next := by
  obtain ⟨hpasses, hlength⟩ := passes_of_block h
  refine ⟨hpasses, fun block' rest hlength' => ?_⟩
  have hnext : next = cursor.skip length := by
    unfold Cursor.block at h
    dsimp only at h
    split at h
    · cases h
      rfl
    · split at h <;> cases h
  have htake : (block' ++ rest).take length = block' := List.take_left' (hlength'.trans hlength)
  have hdrop : (block' ++ rest).drop length = rest := List.drop_left' (hlength'.trans hlength)
  show Cursor.block _ _ _ = _
  unfold Cursor.block
  simp only [List.nil_append, htake, hlength', hlength, if_true, hnext, Cursor.skip, hdrop, id]

theorem readsAnyBlock_of_warcRecord {record : Record} (h : cursor.warcRecord = .found record next)
    (hend : cursor.EndsBefore (record.body ++ next.rest)) :
    ∃ front, cursor.ReadsAnyBlock Cursor.warcRecord front record.body
      (fun body => { record with body }) next := by
  obtain ⟨offset, version, behindVersion, headers, behindHeaders, length, body, hversion, hmark,
    hheaders, hlength, hbody, rfl⟩ := warcRecord_eq_found.1 h
  have hblock := readsAnyBlock_of_block hbody
  have hend : cursor.EndsBefore behindHeaders.rest := hblock.passes.rest ▸ hend
  have hbehind := rest_ne_nil_of_headers hheaders
  obtain ⟨first, hfirst⟩ := reads_of_headerLine hversion (.of_ne_nil hbehind)
  obtain ⟨second, hsecond⟩ := reads_of_headers hheaders (hend.passes hfirst.passes hbehind)
  refine ⟨first ++ second, (hfirst.passes.trans hsecond.passes).trans hblock.passes, ?_⟩
  intro body' rest hlength'
  rw [List.append_assoc]
  exact warcRecord_eq_found.2 ⟨offset, version, _, headers, _, length, body', hfirst.found _, hmark,
    hsecond.found _, hlength, hblock.found body' rest hlength', rfl⟩

theorem readsAnyBlock_of_arcBlock {offset : ℕ} {fields : List String} {body : Bytes}
    (h : cursor.arcBlock = .found (offset, fields, body) next)
    (hend : cursor.EndsBefore (body ++ next.rest)) :
    ∃ front, cursor.ReadsAnyBlock Cursor.arcBlock front body (fun body => (offset, fields, body))
      next := by
  obtain ⟨line, behindLine, length, hline, hfields, hbody⟩ := arcBlock_eq_found.1 h
  have hblock := readsAnyBlock_of_block hbody
  obtain ⟨front, hfront⟩ := reads_of_headerLine hline (hblock.passes.rest ▸ hend)
  refine ⟨front, hfront.passes.trans hblock.passes, fun body' rest hlength' => ?_⟩
  exact arcBlock_eq_found.2
    ⟨line, _, length, hfront.found _, hfields, hblock.found body' rest hlength'⟩

theorem readsAnyBlock_of_arcRecord {record : Record} (h : cursor.arcRecord = .found record next)
    (hend : cursor.EndsBefore (record.body ++ next.rest)) :
    ∃ front, cursor.ReadsAnyBlock Cursor.arcRecord front record.body
      (fun body => { record with body }) next := by
  fun_induction Cursor.arcRecord cursor with
  | case1 cursor offset fields body after hblock hmark ih =>
    -- what describes the file is read as it was, and comes before the record
    have hrecord : after.record .arc = .found record next := h
    have hafter := rest_ne_nil_of_record hrecord
    obtain ⟨mark, hread⟩ :=
      readsAnyBlock_of_arcBlock hblock (.of_ne_nil (List.append_ne_nil_of_right_ne_nil _ hafter))
    obtain ⟨front, hfront⟩ := ih h (hend.passes hread.passes hafter)
    refine ⟨mark ++ body ++ front, ?_, fun body' rest hlength => ?_⟩
    · rw [List.append_assoc _ front]
      exact hread.passes.trans hfront.passes
    · have hfound := hread.found body (front ++ (body' ++ rest)) rfl
      rw [List.append_assoc, List.append_assoc, arcRecord_of_block hfound, if_pos hmark,
        hfront.found _ _ hlength]
  | case2 cursor offset fields body after hblock hmark =>
    cases h
    obtain ⟨front, hfront⟩ := readsAnyBlock_of_arcBlock hblock hend
    refine ⟨front, hfront.passes, fun body' rest hlength => ?_⟩
    rw [arcRecord_of_block (hfront.found _ _ hlength), if_neg hmark, hlength]
    rfl
  | case3 => cases h
  | case4 => cases h

/-- **Records.** A record is read with any block of its length, whatever comes behind it. -/
theorem readsAnyBlock_of_record {format : Format} {record : Record}
    (h : cursor.record format = .found record next)
    (hend : cursor.EndsBefore (record.body ++ next.rest)) :
    ∃ front, cursor.ReadsAnyBlock (·.record format) front record.body
      (fun body => { record with body }) next := by
  cases format with
  | warc => exact readsAnyBlock_of_warcRecord h hend
  | arc => exact readsAnyBlock_of_arcRecord h hend

/-! ## Runs -/

/-- A reading whose cursor has other bytes behind it. -/
def Reading.withRest (reading : Reading) (rest : Bytes) : Reading :=
  { reading with cursor := { reading.cursor with rest } }

section Runs

variable {reading : Reading} {record : Record} {cursor : Cursor}

theorem runWithin_withRest {rest behind : Bytes} (hdone : reading.isDone = false)
    (h : Cursor.record reading.format { reading.cursor with rest } =
      .found record { cursor with rest := behind }) (fuel : ℕ) :
    (reading.withRest rest).runWithin (fuel + 1) =
      ((.ok record, cursor.position) ::
          (Reading.runWithin fuel (Reading.withRest { reading with cursor } behind)).1,
        (Reading.runWithin fuel (Reading.withRest { reading with cursor } behind)).2) := by
  have hdone : (reading.withRest rest).isDone = false := hdone
  exact runWithin_of_record hdone h fuel

/-- A run that gives a record anywhere starts with a record. -/
theorem exists_record_of_runWithin {fuel i stop : ℕ}
    (h : (reading.runWithin (fuel + 1)).1[i]? = some (.ok record, stop)) :
    reading.isDone = false ∧
      ∃ first cursor, reading.cursor.record reading.format = .found first cursor := by
  cases hdone : reading.isDone with
  | true =>
    rw [runWithin_of_isDone hdone] at h
    cases h
  | false =>
    refine ⟨rfl, ?_⟩
    unfold Reading.runWithin Reading.next at h
    rw [if_neg (by rw [hdone]; exact Bool.false_ne_true)] at h
    cases hrecord : reading.cursor.record reading.format with
    | found first cursor => exact ⟨first, cursor, rfl⟩
    | ended cursor =>
      rw [hrecord] at h
      cases h
    | failed error cursor =>
      rw [hrecord] at h
      dsimp only at h
      rw [runWithin_of_isDone rfl] at h
      cases i <;> cases h

/-- With any other block of its length in the place of the one of a record, a run gives the same but
for that block. -/
theorem runWithin_replaced {fuel i stop : ℕ}
    (h : (reading.runWithin fuel).1[i]? = some (.ok record, stop)) (hne : record.body ≠ []) :
    ∃ front back, reading.cursor.rest = front ++ record.body ++ back ∧
      stop = reading.cursor.position + (front ++ record.body).length ∧
      ∀ body, body.length = record.body.length →
        (reading.withRest (front ++ (body ++ back))).runWithin fuel =
          ((reading.runWithin fuel).1.set i (.ok { record with body }, stop),
            (reading.runWithin fuel).2) := by
  induction fuel generalizing reading i with
  | zero => cases h
  | succ fuel ih =>
    obtain ⟨hdone, first, cursor, hfirst⟩ := exists_record_of_runWithin h
    rw [runWithin_of_record hdone hfirst] at h ⊢
    cases i with
    | zero =>
      cases h
      obtain ⟨front, hfront⟩ :=
        readsAnyBlock_of_record hfirst (.of_ne_nil (List.append_ne_nil_of_left_ne_nil hne _))
      refine ⟨front, cursor.rest, hfront.passes.rest, hfront.passes.position, ?_⟩
      intro body hlength
      exact runWithin_withRest hdone (hfront.found body cursor.rest hlength) fuel
    | succ i =>
      obtain ⟨front, back, hrest, hstop, hreplaced⟩ := ih h
      have hbehind : cursor.rest ≠ [] := by
        rw [hrest, List.append_assoc]
        exact List.append_ne_nil_of_right_ne_nil _ (List.append_ne_nil_of_left_ne_nil hne _)
      obtain ⟨head, hhead⟩ :=
        readsAnyBlock_of_record hfirst (.of_ne_nil (List.append_ne_nil_of_right_ne_nil _ hbehind))
      refine ⟨head ++ first.body ++ front, back, ?_, ?_, fun body hlength => ?_⟩
      · rw [hhead.passes.rest, hrest]
        simp only [List.append_assoc]
      · rw [hstop, hhead.passes.position]
        simp only [List.length_append]
        omega
      · rw [List.append_assoc, List.append_assoc,
          runWithin_withRest hdone (hhead.found first.body _ rfl), hreplaced body hlength]
        rfl

end Runs

/-- **Blocks.** Whatever bytes stand in the place of the block of a record, as many as before, a
reading gives the same records but for that block, at the same positions, and ends as before. -/
theorem run_replaced (format : Format) (bytes : Bytes) (fault : Option InputFault) {i stop : ℕ}
    {record : Record}
    (h : (Reading.start format bytes fault).run.1[i]? = some (.ok record, stop)) :
    let reading := Reading.start format bytes fault
    let front := bytes.take (stop - record.body.length)
    let back := bytes.drop stop
    bytes = front ++ record.body ++ back ∧
      ∀ body, body.length = record.body.length →
        (Reading.start format (front ++ body ++ back) fault).run =
          (reading.run.1.set i (.ok { record with body }, stop), reading.run.2) := by
  intro reading front back
  by_cases hne : record.body = []
  · have hbytes : bytes = front ++ record.body ++ back := by
      simp only [front, back, hne, List.length_nil, Nat.sub_zero, List.append_nil]
      exact (List.take_append_drop stop bytes).symm
    refine ⟨hbytes, fun body hlength => ?_⟩
    obtain rfl : body = record.body := by
      rw [hne] at hlength ⊢
      exact List.eq_nil_of_length_eq_zero hlength
    obtain ⟨hi, hitem⟩ := List.getElem?_eq_some_iff.1 h
    rw [← hbytes]
    refine Prod.ext ?_ rfl
    show reading.run.1 = reading.run.1.set i (.ok record, stop)
    rw [← hitem]
    exact (List.set_getElem_self hi).symm
  · obtain ⟨front', back', hrest, hstop, hreplaced⟩ := runWithin_replaced h hne
    have hbytes : bytes = front' ++ record.body ++ back' := hrest
    have hstop : stop = (front' ++ record.body).length := hstop.trans (Nat.zero_add _)
    have hfront : front = front' := by
      show bytes.take (stop - record.body.length) = front'
      rw [hbytes, hstop, List.length_append, Nat.add_sub_cancel, List.append_assoc, List.take_left]
    have hback : back = back' := by
      show bytes.drop stop = back'
      rw [hbytes, hstop, List.drop_left]
    refine ⟨by rw [hfront, hback, hbytes], fun body hlength => ?_⟩
    have hsame : (front ++ body ++ back).length = bytes.length := by
      rw [hbytes, hfront, hback]
      simp only [List.length_append, hlength]
    have hrun := hreplaced body hlength
    rw [← List.append_assoc, ← hfront, ← hback] at hrun
    unfold Reading.run
    show Reading.runWithin ((front ++ body ++ back).length + 2) _ = _
    rw [hsame]
    exact hrun

/-- The block of a record and one of the same length that looks like the start of another record. -/
theorem run_replaced_lookalike :
    let head := Utf8.ofString "WARC/1\r\nContent-Length: 8\r\n\r\n"
    let block := Utf8.ofString "contents"
    let lookalike := Utf8.ofString "WARC/2\r\n"
    let tail := Utf8.ofString "\r\nWARC/1\r\nContent-Length: 0\r\n\r\n"
    let reading := Reading.start .warc (head ++ block ++ tail) none
    let record := Record.ofWarc 0 8 [("Content-Length", "8")] block
    reading.run.1[0]? = some (.ok record, 37) ∧ reading.run.1.length = 2 ∧
      (Reading.start .warc (head ++ lookalike ++ tail) none).run =
        (reading.run.1.set 0 (.ok { record with body := lookalike }, 37), reading.run.2) := by
  intro head block lookalike tail reading record
  have hrecord : reading.run.1[0]? = some (.ok record, 37) := by decide +kernel
  have hreplaced := (run_replaced .warc (head ++ block ++ tail) none hrecord).2 lookalike rfl
  exact ⟨hrecord, by decide +kernel, hreplaced⟩

end CrawlGraph.Archive
