import CrawlGraph.Proofs.Archive.Replaced

/-!
# Archives that have been cut short

What a reading gives of an archive of which only the first bytes are left. In an archive of typed
records these are the records that end among those bytes, unless the cut leaves a carriage return at
the end (`warc_records_take`). In an archive of lines of fields one more record can come behind
them, if the cut goes through its line: what is left of the line then declares no bytes
(`arc_records_take`).

1. A record that ends its last line is read with more bytes behind it as well (`record_append`). A
   record that ends before the cut is read without them (`record_of_append`).
2. So the records before the cut are the first ones of the whole archive, but for one that does not
   end its last line (`recordsWithin_append`), and those that end before it are among them
   (`runWithin_of_append`), by induction on the calls.
3. Without a line feed at its end, the header of a typed record ends with a carriage return
   (`getLast?_of_warcRecord`), and that of another record is all that is left of its line
   (`unended_of_arcRecord`).
-/

namespace CrawlGraph.Archive

/-- The place where a cursor stands, with more bytes behind it. -/
def Cursor.append (cursor : Cursor) (more : Bytes) : Cursor :=
  { cursor with rest := cursor.rest ++ more }

/-- The reading that goes on from a cursor. -/
def Cursor.reading (cursor : Cursor) (format : Format) : Reading :=
  { format, cursor, isDone := false }

/-- The records that at most `fuel` calls of `next` give. -/
def Reading.recordsWithin (fuel : ℕ) (reading : Reading) : List Record :=
  ((reading.runWithin fuel).1.map Prod.fst).filterMap Except.toOption

/-- The records that a reading gives. -/
def Reading.records (reading : Reading) : List Record :=
  (reading.run.1.map Prod.fst).filterMap Except.toOption

/-- A record is read from some bytes although they end with its last line, which has no line feed.
-/
def Record.IsUnended (record : Record) (format : Format) (bytes : Bytes) : Prop :=
  ∃ cursor next, Cursor.StandsIn cursor bytes ∧ cursor.record format = .found record next ∧
    ¬ cursor.EndsBefore (record.body ++ next.rest)

variable {format : Format} {cursor next : Cursor} {record : Record} {more : Bytes}

/-! ## Records before and behind a cut -/

theorem record_append (h : cursor.record format = .found record next)
    (hend : cursor.EndsBefore (record.body ++ next.rest)) (more : Bytes) :
    (cursor.append more).record format = .found record (next.append more) := by
  obtain ⟨front, hfront⟩ := readsAnyBlock_of_record h hend
  have hfound := hfront.found record.body (next.rest ++ more) rfl
  have hrest : cursor.rest ++ more = front ++ (record.body ++ (next.rest ++ more)) := by
    rw [hfront.passes.rest]
    simp only [List.append_assoc]
  unfold Cursor.append
  rw [hrest]
  exact hfound

/-- A record that ends before the cut does not need what is behind it. -/
theorem record_of_append (h : (cursor.append more).record format = .found record next)
    (hstop : next.position ≤ cursor.position + cursor.rest.length) :
    ∃ middle, next = middle.append more ∧ cursor.record format = .found record middle := by
  by_cases hmore : more = []
  · subst hmore
    refine ⟨next, ?_, ?_⟩
    · simp [Cursor.append]
    · simpa [Cursor.append] using h
  have hlength := List.length_pos_iff.2 hmore
  obtain ⟨gap, header, hpasses, -⟩ := frames_of_record h
  have hbehind : next.rest ≠ [] := by
    have hrest := congrArg List.length hpasses.rest
    have hposition := hpasses.position
    simp only [Cursor.append, List.length_append] at hrest hposition
    exact List.length_pos_iff.1 (by omega)
  obtain ⟨front, hfront⟩ :=
    readsAnyBlock_of_record h (.of_ne_nil (List.append_ne_nil_of_right_ne_nil _ hbehind))
  have hrest : cursor.rest ++ more = front ++ record.body ++ next.rest := hfront.passes.rest
  obtain ⟨rest, hcursor⟩ : front ++ record.body <+: cursor.rest := by
    apply List.prefix_of_prefix_length_le ⟨next.rest, hrest.symm⟩ ⟨more, rfl⟩
    have hposition := hfront.passes.position
    simp only [Cursor.append] at hposition
    omega
  have hnext : next.rest = rest ++ more := by
    rw [← hcursor, List.append_assoc (front ++ record.body)] at hrest
    exact (List.append_cancel_left hrest).symm
  refine ⟨{ next with rest }, ?_, ?_⟩
  · unfold Cursor.append
    rw [← hnext]
  · have hfound := hfront.found record.body rest rfl
    rw [← List.append_assoc, hcursor] at hfound
    exact hfound

/-! ## Runs -/

section Runs

variable {reading : Reading} {fuel i stop : ℕ}

theorem recordsWithin_of_record (h : cursor.record format = .found record next) (fuel : ℕ) :
    Reading.recordsWithin (fuel + 1) (cursor.reading format) =
      record :: Reading.recordsWithin fuel (next.reading format) := by
  have hrun := @runWithin_of_record (cursor.reading format) _ _ rfl h fuel
  unfold Reading.recordsWithin
  rw [hrun]
  rfl

theorem recordsWithin_of_not_found
    (h : ∀ record next, cursor.record format ≠ .found record next) (fuel : ℕ) :
    Reading.recordsWithin fuel (cursor.reading format) = [] := by
  cases fuel with
  | zero => rfl
  | succ fuel =>
    unfold Reading.recordsWithin Reading.runWithin Reading.next Cursor.reading
    simp only [Bool.false_eq_true, if_false]
    cases hrecord : cursor.record format with
    | found record next => exact absurd hrecord (h record next)
    | ended next => rfl
    | failed error next =>
      dsimp only
      rw [runWithin_of_isDone rfl]
      rfl

theorem exists_record_of_mem_recordsWithin
    (h : record ∈ Reading.recordsWithin fuel (cursor.reading format)) :
    ∃ first next, cursor.record format = .found first next := by
  by_contra hnone
  push Not at hnone
  rw [recordsWithin_of_not_found hnone] at h
  cases h

theorem exists_cursor_of_mem_recordsWithin {bytes : Bytes} (hstands : cursor.StandsIn bytes)
    (h : record ∈ Reading.recordsWithin fuel (cursor.reading format)) :
    ∃ place next, Cursor.StandsIn place bytes ∧
      Cursor.record format place = .found record next := by
  induction fuel generalizing cursor with
  | zero => cases h
  | succ fuel ih =>
    obtain ⟨first, next, hfirst⟩ := exists_record_of_mem_recordsWithin h
    rw [recordsWithin_of_record hfirst] at h
    rcases List.mem_cons.1 h with rfl | hrest
    · exact ⟨cursor, next, hstands, hfirst⟩
    · obtain ⟨gap, header, hpasses, -⟩ := frames_of_record hfirst
      exact ih (hstands.passes hpasses) hrest

theorem recordsWithin_nil (h : cursor.rest = []) (fuel : ℕ) :
    Reading.recordsWithin fuel (cursor.reading format) = [] :=
  recordsWithin_of_not_found (fun _ _ hrecord => rest_ne_nil_of_record hrecord h) fuel

variable (format) in
/-- The records before a cut are the first ones of the whole archive. Only the last of them need
not be a record of it, if it does not end its last line. -/
theorem recordsWithin_append {bytes : Bytes} (hstands : cursor.StandsIn bytes) (more : Bytes)
    {fuel' : ℕ} (hfuel : fuel ≤ fuel') :
    Reading.recordsWithin fuel (cursor.reading format) <+:
        Reading.recordsWithin fuel' ((cursor.append more).reading format) ∨
      ∃ kept record, Reading.recordsWithin fuel (cursor.reading format) = kept ++ [record] ∧
        kept <+: Reading.recordsWithin fuel' ((cursor.append more).reading format) ∧
        record.IsUnended format bytes := by
  induction fuel generalizing cursor fuel' with
  | zero => exact .inl (List.nil_prefix)
  | succ fuel ih =>
    obtain ⟨fuel', rfl⟩ := Nat.exists_eq_add_one.2 (Nat.zero_lt_of_lt hfuel)
    by_cases hfound : ∃ record next, cursor.record format = .found record next
    · obtain ⟨record, next, hrecord⟩ := hfound
      rw [recordsWithin_of_record hrecord]
      by_cases hend : cursor.EndsBefore (record.body ++ next.rest)
      · rw [recordsWithin_of_record (record_append hrecord hend more)]
        obtain ⟨gap, header, hpasses, -⟩ := frames_of_record hrecord
        obtain hkept | ⟨kept, last, hlast, hkept, hunended⟩ :=
          ih (hstands.passes hpasses) (Nat.le_of_succ_le_succ hfuel)
        · exact .inl (List.cons_prefix_cons.2 ⟨rfl, hkept⟩)
        · refine .inr ⟨record :: kept, last, ?_, List.cons_prefix_cons.2 ⟨rfl, hkept⟩, hunended⟩
          rw [hlast, List.cons_append]
      · have hnil : next.rest = [] :=
          (List.append_eq_nil_iff.1 (Classical.not_imp.1 hend).1).2
        rw [recordsWithin_nil hnil]
        exact .inr ⟨[], record, rfl, List.nil_prefix, cursor, next, hstands, hrecord, hend⟩
    · push Not at hfound
      rw [recordsWithin_of_not_found hfound]
      exact .inl List.nil_prefix

/-- Each record takes at least one byte, and none takes more than there are. -/
theorem stop_of_runWithin (h : (reading.runWithin fuel).1[i]? = some (.ok record, stop)) :
    reading.cursor.position + i < stop ∧
      stop ≤ reading.cursor.position + reading.cursor.rest.length := by
  induction fuel generalizing reading i with
  | zero => cases h
  | succ fuel ih =>
    obtain ⟨hdone, first, cursor, hfirst⟩ := exists_record_of_runWithin h
    rw [runWithin_of_record hdone hfirst] at h
    obtain ⟨gap, header, hpasses, hne, -⟩ := frames_of_record hfirst
    have hheader := List.length_pos_iff.2 hne
    have hrest := congrArg List.length hpasses.rest
    have hposition := hpasses.position
    simp only [List.length_append] at hrest hposition
    cases i with
    | zero =>
      cases h
      omega
    | succ i =>
      have hbehind := ih h
      dsimp only at hbehind
      omega

/-- A record of the whole archive that ends before a cut is read at the same place. -/
theorem runWithin_of_append {fuel' : ℕ}
    (h : (Reading.runWithin fuel' ((cursor.append more).reading format)).1[i]? =
      some (.ok record, stop))
    (hstop : stop ≤ cursor.position + cursor.rest.length) (hfuel : i < fuel) :
    (Reading.runWithin fuel (cursor.reading format)).1[i]? = some (.ok record, stop) := by
  induction fuel' generalizing cursor i fuel with
  | zero => cases h
  | succ fuel' ih =>
    obtain ⟨fuel, rfl⟩ := Nat.exists_eq_add_one.2 (Nat.zero_lt_of_lt hfuel)
    obtain ⟨-, first, next, hfirst⟩ := exists_record_of_runWithin h
    rw [runWithin_of_record rfl hfirst] at h
    have hnext : next.position ≤ stop := by
      cases i with
      | zero =>
        cases h
        exact Nat.le_refl _
      | succ i =>
        exact Nat.le_of_lt (Nat.lt_of_le_of_lt (Nat.le_add_right _ i) (stop_of_runWithin h).1)
    obtain ⟨middle, rfl, hrecord⟩ := record_of_append hfirst (Nat.le_trans hnext hstop)
    rw [@runWithin_of_record (cursor.reading format) _ _ rfl hrecord]
    cases i with
    | zero =>
      cases h
      rfl
    | succ i =>
      obtain ⟨gap, header, hpasses, -⟩ := frames_of_record hrecord
      have hrest := congrArg List.length hpasses.rest
      have hposition := hpasses.position
      rw [List.length_append] at hrest
      exact ih h (by omega) (Nat.lt_of_succ_lt_succ hfuel)

end Runs

/-! ## Records that do not end their last line -/

theorem getLast?_of_line {line : Bytes} (h : cursor.line = .found line next)
    (hnil : next.rest = []) :
    cursor.rest.getLast? = some lineFeed ∨
      lineFeed ∉ cursor.rest ∧ line = dropReturn cursor.rest := by
  unfold Cursor.line at h
  split at h
  · rename_i before after hcut
    cases h
    dsimp only at hnil
    rw [eq_append_of_cutLine hcut, hnil]
    exact .inl List.getLast?_concat
  · rename_i hcut
    split at h
    · cases h
    · split at h
      · cases h
      · cases h
        exact .inr ⟨lineFeed_not_mem_of_cutLine_eq_none hcut, rfl⟩

theorem getLast?_of_headers {offset : ℕ} {headers : Headers}
    (h : cursor.headers offset = .found headers next) (hnil : next.rest = []) :
    cursor.rest.getLast? = some lineFeed ∨ cursor.rest.getLast? = some 0x0D := by
  fun_induction Cursor.headers cursor offset generalizing headers with
  | case1 cursor line after hline hempty =>
    cases h
    refine (getLast?_of_line hline hnil).imp_right fun hlast => ?_
    obtain ⟨-, hdrop⟩ := hlast
    -- an empty line without a line feed is a carriage return
    by_contra hreturn
    rw [List.isEmpty_iff.1 hempty, dropReturn, if_neg hreturn] at hdrop
    exact rest_ne_nil_of_line hline hdrop.symm
  | case2 cursor line after hline hempty ih =>
    obtain ⟨more, middle, hmore, hfound⟩ := Step.andThen_eq_found.1 h
    cases hfound
    obtain ⟨first, hfirst, -⟩ := passes_of_line hline
    rw [hfirst.getLast? (rest_ne_nil_of_headers hmore)]
    exact ih hmore
  | case3 => cases h
  | case4 => cases h

theorem getLast?_of_warcRecord (h : cursor.warcRecord = .found record next)
    (hnil : record.body ++ next.rest = []) :
    cursor.rest.getLast? = some lineFeed ∨ cursor.rest.getLast? = some 0x0D := by
  obtain ⟨offset, version, behindVersion, headers, behindHeaders, length, body, hversion, -,
    hheaders, -, hbody, rfl⟩ := warcRecord_eq_found.1 h
  obtain ⟨gap, first, hfirst, -⟩ := passes_of_headerLine hversion
  rw [hfirst.getLast? (rest_ne_nil_of_headers hheaders)]
  exact getLast?_of_headers hheaders ((passes_of_block hbody).1.rest.trans hnil)

/-- A cursor stands before a last line without a line feed, which starts at an offset. -/
def Cursor.Unended (cursor : Cursor) (offset : ℕ) : Prop :=
  ∃ gap line, cursor.rest = gap ++ line ∧ offset = cursor.position + gap.length ∧ line ≠ [] ∧
    lineFeed ∉ line

theorem Cursor.Unended.of_passes {middle : Cursor} {passed : Bytes} {offset : ℕ}
    (hpasses : cursor.Passes passed middle) (h : middle.Unended offset) :
    cursor.Unended offset := by
  obtain ⟨gap, line, hrest, hoffset, hline⟩ := h
  refine ⟨passed ++ gap, line, ?_, ?_, hline⟩
  · rw [hpasses.rest, hrest, List.append_assoc]
  · rw [hoffset, hpasses.position, List.length_append, Nat.add_assoc]

theorem unended_of_headerLine {offset : ℕ} {text : String}
    (h : cursor.headerLine = .found (offset, text) next) (hnil : next.rest = [])
    (hlast : cursor.rest.getLast? ≠ some lineFeed) : cursor.Unended offset := by
  fun_induction Cursor.headerLine cursor with
  | case1 cursor line after hline hblank ih =>
    obtain ⟨first, hfirst, -⟩ := passes_of_line hline
    rw [hfirst.getLast? (rest_ne_nil_of_headerLine h)] at hlast
    exact .of_passes hfirst (ih h hlast)
  | case2 cursor line after hline hblank =>
    cases h
    obtain hfeed | ⟨hmem, -⟩ := getLast?_of_line hline hnil
    · exact absurd hfeed hlast
    · exact ⟨[], cursor.rest, rfl, rfl, rest_ne_nil_of_line hline, hmem⟩
  | case3 => cases h
  | case4 => cases h

theorem unended_of_arcRecord (h : cursor.arcRecord = .found record next)
    (hnil : record.body ++ next.rest = []) (hlast : cursor.rest.getLast? ≠ some lineFeed) :
    cursor.Unended record.offset := by
  fun_induction Cursor.arcRecord cursor with
  | case1 cursor offset fields body after hblock hmark ih =>
    have hrecord : after.record .arc = .found record next := h
    obtain ⟨gap, header, hpasses, -⟩ := frames_of_arcBlock hblock
    rw [hpasses.getLast? (rest_ne_nil_of_record hrecord)] at hlast
    exact .of_passes hpasses (ih h hlast)
  | case2 cursor offset fields body after hblock hmark =>
    cases h
    obtain ⟨line, behindLine, length, hline, -, hbody⟩ := arcBlock_eq_found.1 hblock
    exact unended_of_headerLine hline ((passes_of_block hbody).1.rest.trans hnil) hlast
  | case3 => cases h
  | case4 => cases h

/-! ## Cuts -/

section Cuts

variable {bytes : Bytes}

theorem getLast?_of_isUnended (h : record.IsUnended .warc bytes) : bytes.getLast? = some 0x0D := by
  obtain ⟨cursor, next, ⟨past, rfl, -⟩, hrecord, hend⟩ := h
  obtain ⟨hnil, hlast⟩ := Classical.not_imp.1 hend
  rw [List.getLast?_append_of_ne_nil _ (rest_ne_nil_of_record hrecord)]
  exact (getLast?_of_warcRecord hrecord hnil).resolve_left hlast

theorem lineFeed_not_mem_of_isUnended (h : record.IsUnended .arc bytes) :
    record.body = [] ∧ record.offset < bytes.length ∧ lineFeed ∉ bytes.drop record.offset := by
  obtain ⟨cursor, next, ⟨past, rfl, hposition⟩, hrecord, hend⟩ := h
  obtain ⟨hnil, hlast⟩ := Classical.not_imp.1 hend
  obtain ⟨gap, line, hrest, hoffset, hne, hline⟩ := unended_of_arcRecord hrecord hnil hlast
  have hstart : (past ++ gap).length = record.offset := by
    rw [hoffset, hposition, List.length_append]
  rw [hrest, ← List.append_assoc]
  refine ⟨(List.append_eq_nil_iff.1 hnil).1, ?_, ?_⟩
  · rw [List.length_append, hstart]
    exact Nat.lt_add_of_pos_right (List.length_pos_iff.2 hne)
  · rw [List.drop_left' hstart]
    exact hline

theorem filterMap_answers (records : List Record) (error? : Option Error) :
    (answers records error?).filterMap Except.toOption = records := by
  have hok : (records.map fun record => (.ok record : Except Error Record)).filterMap
      Except.toOption = records := by
    rw [List.filterMap_map]
    exact List.filterMap_some
  unfold answers
  rw [List.filterMap_append, hok]
  cases error? <;> exact List.append_nil _

/-- A run gives its records and then at most one error, after which nothing is read. -/
theorem exists_run_eq_answers (format : Format) (bytes : Bytes) (fault : Option InputFault) :
    ∃ error?, (Reading.start format bytes fault).run.1.map Prod.fst =
        answers (Reading.start format bytes fault).records error? ∧
      (Reading.start format bytes fault).Accounts bytes
        (Reading.start format bytes fault).records error? := by
  obtain ⟨records, error?, haccounts, hlength⟩ :=
    exists_accounts (Reading.start format bytes fault) bytes rfl ⟨[], rfl, rfl⟩
  have herror : error?.toList.length ≤ 1 := by cases error? <;> simp
  have hfuel : (answers records error?).length <
      (Reading.start format bytes fault).cursor.rest.length + 2 := by
    unfold answers
    rw [List.length_append, List.length_map, List.length_map]
    omega
  have hitems : (Reading.start format bytes fault).run.1.map Prod.fst = answers records error? := by
    apply List.ext_getElem?
    intro i
    rw [Reading.run, runWithin_eq haccounts.next hfuel, List.getElem?_map, List.getElem?_mapIdx,
      Option.map_map]
    exact congrFun Option.map_id _
  have hrecords : (Reading.start format bytes fault).records = records := by
    unfold Reading.records
    rw [hitems, filterMap_answers]
  exact ⟨error?, hrecords ▸ hitems, hrecords ▸ haccounts⟩

/-- The block of a record has as many bytes as its header declares. -/
theorem length_of_mem_records {fault : Option InputFault}
    (h : record ∈ (Reading.start format bytes fault).records) :
    record.length = record.body.length := by
  obtain ⟨error?, -, haccounts⟩ := exists_run_eq_answers format bytes fault
  obtain ⟨i, hi⟩ := List.getElem?_of_mem h
  exact (haccounts.liesIn i record hi).length

/-- A reading that gives any record gives one first. -/
theorem exists_record_of_mem {fault : Option InputFault}
    (h : record ∈ (Reading.start format bytes fault).records) :
    ∃ first next, Cursor.record format ⟨0, bytes, fault⟩ = .found first next :=
  exists_record_of_mem_recordsWithin h

/-- Each record that a reading gives is read from one of its places. -/
theorem exists_cursor_of_mem {fault : Option InputFault}
    (h : record ∈ (Reading.start format bytes fault).records) :
    ∃ place next, Cursor.StandsIn place bytes ∧
      Cursor.record format place = .found record next := by
  let start : Cursor := ⟨0, bytes, fault⟩
  have hmem : record ∈ Reading.recordsWithin (bytes.length + 2) (start.reading format) := h
  exact exists_cursor_of_mem_recordsWithin ⟨[], rfl, rfl⟩ hmem

theorem exists_answers_records (format : Format) (bytes : Bytes) (fault : Option InputFault) :
    ∃ error?, ∀ i, ((Reading.start format bytes fault).after i).next.1 =
      (answers (Reading.start format bytes fault).records error?)[i]? := by
  obtain ⟨error?, -, haccounts⟩ := exists_run_eq_answers format bytes fault
  exact ⟨error?, haccounts.next⟩

theorem start_take_append (format : Format) (bytes : Bytes) (k : ℕ) (fault : Option InputFault) :
    ((Cursor.mk 0 (bytes.take k) fault).append (bytes.drop k)).reading format =
      Reading.start format bytes fault := by
  unfold Cursor.append Cursor.reading Reading.start
  simp only [List.take_append_drop]

/-- The records of the first bytes are the first records, but for one that does not end its last
line. -/
theorem records_take (format : Format) (bytes : Bytes) (k : ℕ) (fault : Option InputFault) :
    (Reading.start format (bytes.take k) fault).records <+:
        (Reading.start format bytes fault).records ∨
      ∃ kept record, (Reading.start format (bytes.take k) fault).records = kept ++ [record] ∧
        kept <+: (Reading.start format bytes fault).records ∧
        record.IsUnended format (bytes.take k) := by
  have hlength : (bytes.take k).length + 2 ≤ bytes.length + 2 :=
    Nat.add_le_add_right (List.length_take_le' k bytes) 2
  have hstands : (Cursor.mk 0 (bytes.take k) fault).StandsIn (bytes.take k) := ⟨[], rfl, rfl⟩
  have hcut := recordsWithin_append format hstands (bytes.drop k) hlength
  rw [start_take_append] at hcut
  exact hcut

/-- A record of the whole archive that ends among the first bytes is read from them. -/
theorem run_take (format : Format) (bytes : Bytes) (k : ℕ) (fault : Option InputFault) {i stop : ℕ}
    (h : (Reading.start format bytes fault).run.1[i]? = some (.ok record, stop)) (hstop : stop ≤ k) :
    (Reading.start format (bytes.take k) fault).run.1[i]? = some (.ok record, stop) := by
  obtain ⟨hstart, hend⟩ := stop_of_runWithin h
  have hposition : (Reading.start format bytes fault).cursor.position = 0 := rfl
  have hrest : (Reading.start format bytes fault).cursor.rest.length = bytes.length := rfl
  have hlength : (bytes.take k).length = min k bytes.length := List.length_take
  rw [Reading.run, ← start_take_append format bytes k fault] at h
  have hcut : stop ≤ (Cursor.mk 0 (bytes.take k) fault).position + (bytes.take k).length := by
    dsimp only
    omega
  refine runWithin_of_append h hcut ?_
  show i < (bytes.take k).length + 2
  omega

theorem getLast?_take_ne {k : ℕ} (hk : k ≤ bytes.length) {byte : UInt8}
    (hcut : k = 0 ∨ bytes[k - 1]? ≠ some byte) : (bytes.take k).getLast? ≠ some byte := by
  intro hlast
  have hpos : k ≠ 0 := by
    rintro rfl
    cases hlast
  have hbyte : bytes[k - 1]? = some _ :=
    List.getElem?_eq_getElem (Nat.lt_of_lt_of_le (Nat.pred_lt hpos) hk)
  rw [List.getLast?_take, if_neg hpos, hbyte, Option.some_or, ← hbyte] at hlast
  exact hcut.resolve_left hpos hlast

/-- **Typed records.** The records of the first bytes of an archive are its first records, with each
one that ends among those bytes, and behind them there is at most one error. A carriage return at
the end of those bytes could be taken for an empty line. -/
theorem warc_records_take (bytes : Bytes) (k : ℕ) (fault : Option InputFault)
    (hcut : k = 0 ∨ bytes[k - 1]? ≠ some 0x0D) :
    let whole := Reading.start .warc bytes fault
    let cut := Reading.start .warc (bytes.take k) fault
    cut.records <+: whole.records ∧
      (∀ (i : ℕ) (record : Record) (stop : ℕ), whole.run.1[i]? = some (.ok record, stop) →
        stop ≤ k → cut.run.1[i]? = some (.ok record, stop)) ∧
      ∃ error?, ∀ i, (cut.after i).next.1 = (answers cut.records error?)[i]? := by
  intro whole cut
  refine ⟨?_, fun i record stop => run_take .warc bytes k fault, exists_answers_records ..⟩
  obtain hall | hsome := Nat.le_total bytes.length k
  · have hsame : cut = whole := by
      show Reading.start .warc (bytes.take k) fault = _
      rw [List.take_of_length_le hall]
    exact hsame ▸ List.prefix_refl _
  · obtain hkept | ⟨kept, record, -, -, hunended⟩ := records_take .warc bytes k fault
    · exact hkept
    · exact absurd (getLast?_of_isUnended hunended) (getLast?_take_ne hsome hcut)

/-- A cut through the second length, whose first digit is left. -/
theorem warc_records_take_length :
    let bytes := Utf8.ofString
      "WARC/1.0\r\nContent-Length: 2\r\n\r\nhi\r\n\r\nWARC/1.0\r\nContent-Length: 10\r\n\r\n"
    let cut := Reading.start .warc (bytes.take 64) none
    bytes[63]? ≠ some 0x0D ∧ cut.records <+: (Reading.start .warc bytes none).records ∧
      cut.records.map Record.body = [Utf8.ofString "hi"] := by
  intro bytes cut
  have hcut : bytes[63]? ≠ some 0x0D := by decide
  exact ⟨hcut, (warc_records_take bytes 64 none (.inr hcut)).1, by decide +kernel⟩

/-- **Lines of fields.** The records of the first bytes of an archive are its first records, but for
one of which a part of the line is left: that part declares no bytes, and the reading ends with it.
-/
theorem arc_records_take (bytes : Bytes) (k : ℕ) (fault : Option InputFault) :
    let whole := Reading.start .arc bytes fault
    let cut := Reading.start .arc (bytes.take k) fault
    cut.records <+: whole.records ∨
      ∃ kept record, cut.records = kept ++ [record] ∧ kept <+: whole.records ∧
        record.body = [] ∧ record.offset < (bytes.take k).length ∧
        lineFeed ∉ (bytes.take k).drop record.offset := by
  intro whole cut
  obtain hkept | ⟨kept, record, hcut, hkept, hunended⟩ := records_take .arc bytes k fault
  · exact .inl hkept
  · exact .inr ⟨kept, record, hcut, hkept, lineFeed_not_mem_of_isUnended hunended⟩

/-- A cut behind the eighth of ten fields, which is a zero. -/
theorem arc_records_take_zero :
    let bytes := Utf8.ofString
      "http://a.example/ 192.0.2.1 20200101000000 text/html 200 - - 0 a.arc 5\nhello\n"
    ¬ (Reading.start .arc (bytes.take 62) none).records <+:
      (Reading.start .arc bytes none).records := by
  decide +kernel

end Cuts

end CrawlGraph.Archive
