import Mathlib.Data.List.Basic
import CrawlGraph.Proofs.Archive.Cursor

/-!
# What a reading gives

A reading of any bytes gives finitely many records, then at most one error, and then nothing
(`accounts_start`). Each record lies where it says between the positions before and after it.

1. A reading is followed through its calls of `next`; `run` collects what they give
   (`runWithin_eq`).
2. A call of `next` gives a record, which takes at least one byte, or it ends the reading
   (`next_cases`).
3. So a record comes before what the reading after it gives (`accounts_cons`), and there is such an
   account of every reading (`exists_accounts`), by induction on the bytes that are left.
-/

namespace CrawlGraph.Archive

/-- A reading after some calls of `next`. -/
def Reading.after : (calls : ℕ) → Reading → Reading
  | 0, reading => reading
  | calls + 1, reading => reading.next.2.after calls

/-- What the calls of `next` give: records, and an error after them if there is one. -/
def answers (records : List Record) (error? : Option Error) : List (Except Error Record) :=
  records.map .ok ++ error?.toList.map .error

/-- A record was read between two positions: it starts at its offset, and its block ends at the
second position. -/
structure Record.LiesIn (record : Record) (bytes : Bytes) (start stop : ℕ) : Prop where
  start_le : start ≤ record.offset
  offset_lt : record.offset < stop
  stop_le : stop ≤ bytes.length
  length : record.length = record.body.length
  length_le : record.length ≤ stop
  body : record.body = (bytes.take stop).drop (stop - record.length)

/-! ## Runs -/

section Runs

variable {reading : Reading} {record : Record} {cursor : Cursor}

theorem after_succ {answer : Option (Except Error Record)} {next : Reading}
    (h : reading.next = (answer, next)) (calls : ℕ) :
    reading.after (calls + 1) = next.after calls := by
  show reading.next.2.after calls = _
  rw [h]

theorem after_of_isDone (h : reading.isDone = true) (calls : ℕ) :
    reading.after calls = reading := by
  induction calls with
  | zero => rfl
  | succ calls ih =>
    have hnext : reading.next = (none, reading) := by
      unfold Reading.next
      rw [if_pos h]
    rw [after_succ hnext, ih]

theorem next_of_isDone (h : reading.isDone = true) : reading.next.1 = none := by
  unfold Reading.next
  rw [if_pos h]

theorem next_of_record (hdone : reading.isDone = false)
    (h : reading.cursor.record reading.format = .found record cursor) :
    reading.next = (some (.ok record), { reading with cursor }) := by
  unfold Reading.next
  rw [if_neg (by rw [hdone]; exact Bool.false_ne_true), h]

theorem record_of_next {after : Reading} (h : reading.next = (some (.ok record), after)) :
    reading.cursor.record reading.format = .found record after.cursor := by
  unfold Reading.next at h
  split at h
  · cases h
  · split at h
    · rename_i hrecord
      cases h
      exact hrecord
    · cases h
    · cases h

theorem runWithin_of_isDone (h : reading.isDone = true) (fuel : ℕ) :
    reading.runWithin fuel = ([], reading) := by
  cases fuel with
  | zero => rfl
  | succ fuel =>
    unfold Reading.runWithin Reading.next
    rw [if_pos h]

theorem runWithin_of_record (hdone : reading.isDone = false)
    (h : reading.cursor.record reading.format = .found record cursor) (fuel : ℕ) :
    reading.runWithin (fuel + 1) =
      ((.ok record, cursor.position) :: (Reading.runWithin fuel { reading with cursor }).1,
        (Reading.runWithin fuel { reading with cursor }).2) := by
  rw [Reading.runWithin, next_of_record hdone h]

/-- A run goes on in the same way from places where the same is read. -/
theorem runWithin_congr {format : Format} {cursor cursor' : Cursor}
    (h : cursor.record format = cursor'.record format) {fuel : ℕ} (hfuel : 0 < fuel) :
    Reading.runWithin fuel { format, cursor, isDone := false } =
      Reading.runWithin fuel { format, cursor := cursor', isDone := false } := by
  obtain ⟨fuel, rfl⟩ := Nat.exists_eq_add_one.2 hfuel
  unfold Reading.runWithin Reading.next
  simp only [h, Bool.false_eq_true, if_false]

/-- A run gives nothing behind the last byte. -/
theorem runWithin_nil (format : Format) (position : ℕ) {fuel : ℕ} (hfuel : 0 < fuel) :
    Reading.runWithin fuel { format, cursor := ⟨position, [], none⟩, isDone := false } =
      ([], { format, cursor := ⟨position, [], none⟩, isDone := true }) := by
  obtain ⟨fuel, rfl⟩ := Nat.exists_eq_add_one.2 hfuel
  unfold Reading.runWithin Reading.next
  simp only [record_nil format position, Bool.false_eq_true, if_false]

/-- A run collects what the calls of `next` give, each with the position after it. -/
theorem runWithin_eq {items : List (Except Error Record)} {fuel : ℕ}
    (h : ∀ i, (reading.after i).next.1 = items[i]?) (hfuel : items.length < fuel) :
    reading.runWithin fuel =
      (items.mapIdx fun i item => (item, (reading.after (i + 1)).cursor.position),
        reading.after (items.length + 1)) := by
  induction items generalizing reading fuel with
  | nil =>
    obtain ⟨fuel, rfl⟩ := Nat.exists_eq_add_one.2 hfuel
    have hfirst : reading.next.1 = none := h 0
    have hnext : reading.next = (none, reading.next.2) := Prod.ext hfirst rfl
    unfold Reading.runWithin
    rw [hnext]
    rfl
  | cons item items ih =>
    obtain ⟨fuel, rfl⟩ := Nat.exists_eq_add_one.2 (Nat.zero_lt_of_lt hfuel)
    have hfirst : reading.next.1 = some item := h 0
    have hnext : reading.next = (some item, reading.next.2) := Prod.ext hfirst rfl
    unfold Reading.runWithin
    rw [hnext]
    dsimp only
    rw [ih (fun i => h (i + 1)) (Nat.lt_of_succ_lt_succ hfuel), List.mapIdx_cons]
    rfl

end Runs

/-! ## Positions -/

/-- A cursor stands in some bytes: as many of them as its position says are before it. -/
def Cursor.StandsIn (cursor : Cursor) (bytes : Bytes) : Prop :=
  ∃ past, bytes = past ++ cursor.rest ∧ cursor.position = past.length

namespace Cursor.StandsIn

variable {cursor next : Cursor} {bytes passed : Bytes}

theorem passes (h : cursor.StandsIn bytes) (hpasses : cursor.Passes passed next) :
    next.StandsIn bytes := by
  obtain ⟨past, rfl, hposition⟩ := h
  refine ⟨past ++ passed, ?_, ?_⟩
  · rw [hpasses.rest, List.append_assoc]
  · rw [hpasses.position, hposition, List.length_append]

theorem position_of_rest (h : cursor.StandsIn bytes) (hnil : cursor.rest = []) :
    cursor.position = bytes.length := by
  obtain ⟨past, rfl, hposition⟩ := h
  rw [hposition, hnil, List.append_nil]

end Cursor.StandsIn

/-- The bytes between a position and the offset of a record. -/
def Record.gap (record : Record) (bytes : Bytes) (start : ℕ) : Bytes :=
  (bytes.take record.offset).drop start

section Frames

variable {cursor next : Cursor} {format : Format} {record : Record} {bytes : Bytes}

theorem liesIn_of_frames (h : cursor.StandsIn bytes) (hframes : cursor.Frames format record next) :
    record.LiesIn bytes cursor.position next.position := by
  obtain ⟨past, rfl, hposition⟩ := h
  obtain ⟨gap, header, hpasses, hne, hoffset, hlength, -⟩ := hframes
  have hpos := List.length_pos_iff.2 hne
  have hstop : next.position =
      (past ++ gap ++ header).length + record.body.length := by
    rw [hpasses.position, hposition]
    simp only [List.length_append]
    omega
  have hbytes : past ++ cursor.rest = past ++ gap ++ header ++ record.body ++ next.rest := by
    rw [hpasses.rest]
    simp only [List.append_assoc]
  constructor
  case start_le => omega
  case offset_lt =>
    rw [hoffset, hpasses.position]
    simp only [List.length_append]
    omega
  case stop_le =>
    rw [hbytes, hstop]
    simp only [List.length_append]
    omega
  case length => exact hlength
  case length_le => omega
  case body =>
    rw [hbytes, hlength, List.take_left' (by rw [hstop, List.length_append]),
      List.drop_left' (by omega)]

theorem isBlank_gap (h : cursor.StandsIn bytes) (hframes : cursor.Frames .warc record next) :
    IsBlank (record.gap bytes cursor.position) := by
  obtain ⟨past, rfl, hposition⟩ := h
  obtain ⟨gap, header, hpasses, -, hoffset, -, hblank⟩ := hframes
  have hgap : record.gap (past ++ cursor.rest) cursor.position = gap := by
    unfold Record.gap
    rw [hoffset, hposition, hpasses.rest, List.append_assoc, List.append_assoc, ← List.append_assoc,
      List.take_left' (by rw [List.length_append]), List.drop_left' rfl]
  rw [hgap]
  exact hblank rfl

end Frames

/-! ## Calls -/

/-- What a call of `next` of a reading that has not ended does. -/
theorem next_cases {reading : Reading} (h : reading.isDone = false) :
    (∃ record cursor, reading.next = (some (.ok record), { reading with cursor }) ∧
        reading.cursor.Frames reading.format record cursor) ∨
    (∃ error cursor,
        reading.next = (some (.error error), { reading with cursor, isDone := true })) ∨
    (∃ cursor, reading.next = (none, { reading with cursor, isDone := true }) ∧
        cursor.rest = [] ∧ ∃ passed, reading.cursor.Passes passed cursor) := by
  unfold Reading.next
  rw [if_neg (by rw [h]; exact Bool.false_ne_true)]
  cases hrecord : reading.cursor.record reading.format with
  | found record cursor => exact .inl ⟨record, cursor, rfl, frames_of_record hrecord⟩
  | failed error cursor => exact .inr (.inl ⟨error, cursor, rfl⟩)
  | ended cursor => exact .inr (.inr ⟨cursor, rfl, passes_of_record_ended hrecord⟩)

/-- The calls of `next` of a reading give some records, then an error if there is one. -/
structure Reading.Accounts (reading : Reading) (bytes : Bytes) (records : List Record)
    (error? : Option Error) : Prop where
  /-- First the records are given, then the error, and then nothing for ever. -/
  next : ∀ i, (reading.after i).next.1 = (answers records error?)[i]?
  /-- Each record lies between the positions before and after it. -/
  liesIn : ∀ (i : ℕ) (record : Record), records[i]? = some record →
    record.LiesIn bytes (reading.after i).cursor.position (reading.after (i + 1)).cursor.position
  /-- Before a typed record there is only white space. -/
  blank : reading.format = .warc → ∀ (i : ℕ) (record : Record), records[i]? = some record →
    IsBlank (record.gap bytes (reading.after i).cursor.position)
  /-- A reading without an error gets to the end. -/
  whole : error? = none → ∀ i, records.length < i → (reading.after i).cursor.position = bytes.length

section Accounts

variable {reading : Reading} {cursor : Cursor} {bytes : Bytes} {records : List Record}
  {error? : Option Error}

/-- A record, and then what the reading after it gives. -/
theorem accounts_cons {record : Record} (hstands : reading.cursor.StandsIn bytes)
    (hnext : reading.next = (some (.ok record), { reading with cursor }))
    (hframes : reading.cursor.Frames reading.format record cursor)
    (h : Reading.Accounts { reading with cursor } bytes records error?) :
    reading.Accounts bytes (record :: records) error? := by
  have hafter := after_succ hnext
  constructor
  case next =>
    rintro (_ | i)
    · exact congrArg Prod.fst hnext
    · rw [hafter]
      exact h.next i
  case liesIn =>
    rintro (_ | i) other hother
    · cases hother
      rw [hafter]
      exact liesIn_of_frames hstands hframes
    · rw [hafter, hafter]
      exact h.liesIn i other hother
  case blank =>
    rintro hformat (_ | i) other hother
    · cases hother
      exact isBlank_gap hstands (hformat ▸ hframes)
    · rw [hafter]
      exact h.blank hformat i other hother
  case whole =>
    rintro hnone (_ | i) hi
    · cases hi
    · rw [hafter]
      exact h.whole hnone i (Nat.lt_of_succ_lt_succ hi)

/-- An error, after which nothing is read. -/
theorem accounts_of_error {error : Error}
    (hnext : reading.next = (some (.error error), { reading with cursor, isDone := true })) :
    reading.Accounts bytes [] (some error) := by
  refine ⟨?_, by simp, by simp, by simp⟩
  rintro (_ | i)
  · exact congrArg Prod.fst hnext
  · rw [after_succ hnext, after_of_isDone rfl]
    exact next_of_isDone rfl

/-- The end, after which nothing is read. -/
theorem accounts_of_end (hnext : reading.next = (none, { reading with cursor, isDone := true }))
    (hend : cursor.position = bytes.length) : reading.Accounts bytes [] none := by
  refine ⟨?_, by simp, by simp, ?_⟩
  · rintro (_ | i)
    · exact congrArg Prod.fst hnext
    · rw [after_succ hnext, after_of_isDone rfl]
      exact next_of_isDone rfl
  · rintro - (_ | i) hi
    · cases hi
    · rw [after_succ hnext, after_of_isDone rfl]
      exact hend

end Accounts

/-- There are no more records than bytes. -/
theorem exists_accounts (reading : Reading) (bytes : Bytes) (h : reading.isDone = false)
    (hstands : reading.cursor.StandsIn bytes) :
    ∃ records error?, reading.Accounts bytes records error? ∧
      records.length ≤ reading.cursor.rest.length := by
  induction hn : reading.cursor.rest.length using Nat.strongRecOn generalizing reading with
  | _ n ih =>
    obtain ⟨record, cursor, hnext, hframes⟩ | ⟨error, cursor, hnext⟩ |
      ⟨cursor, hnext, hnil, passed, hpasses⟩ := next_cases h
    · obtain ⟨gap, header, hpasses, hne, -⟩ := id hframes
      have hlt := hpasses.length_lt (by simp [hne])
      obtain ⟨records, error?, haccounts, hlength⟩ :=
        ih _ (hn ▸ hlt) { reading with cursor } h (hstands.passes hpasses) rfl
      refine ⟨record :: records, error?, accounts_cons hstands hnext hframes haccounts, ?_⟩
      exact Nat.lt_of_le_of_lt hlength (hn ▸ hlt)
    · exact ⟨[], some error, accounts_of_error hnext, Nat.zero_le _⟩
    · have hend := (hstands.passes hpasses).position_of_rest hnil
      exact ⟨[], none, accounts_of_end hnext hend, Nat.zero_le _⟩

/-- **Readings.** A reading of any bytes, which may end with a fault, gives finitely many records
and then at most one error, and a run collects all of them. -/
theorem accounts_start (format : Format) (bytes : Bytes) (fault : Option InputFault) :
    ∃ records error?, (Reading.start format bytes fault).Accounts bytes records error? ∧
      (Reading.start format bytes fault).cursor.position = 0 ∧
      (Reading.start format bytes fault).run =
        ((answers records error?).mapIdx fun i item =>
            (item, ((Reading.start format bytes fault).after (i + 1)).cursor.position),
          (Reading.start format bytes fault).after ((answers records error?).length + 1)) := by
  obtain ⟨records, error?, haccounts, hlength⟩ :=
    exists_accounts (Reading.start format bytes fault) bytes rfl ⟨[], rfl, rfl⟩
  refine ⟨records, error?, haccounts, rfl, runWithin_eq haccounts.next ?_⟩
  have herror : error?.toList.length ≤ 1 := by cases error? <;> simp
  unfold answers
  rw [List.length_append, List.length_map, List.length_map]
  omega

end CrawlGraph.Archive
