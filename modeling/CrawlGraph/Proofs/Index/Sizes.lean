import CrawlGraph.Proofs.Archive.Content
import CrawlGraph.Proofs.Graph.Domains
import CrawlGraph.Proofs.Index.Intake

/-!
# Sizes of what records say came back

What the records of some bytes say came back is no more than these bytes: `sum_sizes_le`. Each
record that says something takes two bytes more than it says came back, so there are no more than
half as many updates as bytes either.

1. A record passes over its block and at least one byte before it, a typed one over two
   (`length_of_record`, `length_of_warcRecord`).
2. The content of a response does not start where its block starts, so what is said to have come
   back is less than the block (`size_lt_of_answer`).
3. The blocks of different records do not overlap, so what they say adds up, by induction on the
   calls (`sum_recordsWithin_le`).
-/

namespace CrawlGraph.Archive

variable {cursor next : Cursor} {format : Format} {record : Record} {update : Update}

/-! ## What a record passes over -/

theorem length_of_headers {offset : ℕ} {headers : Headers}
    (h : cursor.headers offset = .found headers next) : next.rest.length < cursor.rest.length := by
  fun_induction Cursor.headers cursor offset generalizing headers with
  | case1 cursor line after hline hempty =>
    cases h
    exact Cursor.length_of_line hline
  | case2 cursor line after hline hempty ih =>
    obtain ⟨more, middle, hmore, hfound⟩ := Step.andThen_eq_found.1 h
    cases hfound
    exact (ih hmore).trans (Cursor.length_of_line hline)
  | case3 => cases h
  | case4 => cases h

/-- The version line and the headers of a typed record take a byte each. -/
theorem length_of_warcRecord (h : cursor.warcRecord = .found record next) :
    next.rest.length + (record.body.length + 2) ≤ cursor.rest.length := by
  obtain ⟨offset, version, behindVersion, headers, behindHeaders, length, body, hversion, -,
    hheaders, -, hbody, rfl⟩ := warcRecord_eq_found.1 h
  have hfirst := Cursor.length_of_headerLine hversion
  have hsecond := length_of_headers hheaders
  have hblock := congrArg List.length (passes_of_block hbody).1.rest
  rw [List.length_append] at hblock
  show next.rest.length + (body.length + 2) ≤ _
  omega

theorem length_of_record (h : cursor.record format = .found record next) :
    record.length = record.body.length ∧
      next.rest.length + (record.body.length + 1) ≤ cursor.rest.length := by
  obtain ⟨gap, header, hpasses, hne, -, hlength, -⟩ := frames_of_record h
  have hheader := List.length_pos_iff.2 hne
  have hrest := congrArg List.length hpasses.rest
  simp only [List.length_append] at hrest
  exact ⟨hlength, by omega⟩

/-! ## What a record says came back -/

/-- What an update says came back is less than the block of its record. -/
theorem size_lt_of_answer {answer : Answer} (hupdate : record.update format = .ok (some update))
    (hanswer : update.fact.answer? = some answer) (hlength : record.length = record.body.length)
    (hfits : record.body.length < 2 ^ 63) : update.size < record.body.length := by
  obtain ⟨response, hcontent⟩ :=
    exists_hasContent (answer_of_update hupdate hanswer) hlength hfits
  have hpos := contentStart_pos hcontent.read
  have hle := hcontent.contentStart_le
  have hdifference := hcontent.difference
  rw [← hcontent.contentLength] at hdifference
  have hsize : update.size = answer.contentLength.toInt.toNat := Update.size_eq hanswer
  omega

/-- An update says that less came back than its record takes up, by two bytes at least. -/
theorem size_le_of_update (hfound : cursor.record format = .found record next)
    (hupdate : record.update format = .ok (some update)) (hfits : cursor.rest.length < 2 ^ 63) :
    next.rest.length + (update.size + 2) ≤ cursor.rest.length := by
  obtain ⟨hlength, hrecord⟩ := length_of_record hfound
  have hbody : record.body.length < 2 ^ 63 := by omega
  cases format with
  | warc =>
    have htwo := length_of_warcRecord hfound
    rcases hanswer : update.fact.answer? with _ | answer
    · have hzero : update.size = 0 := Update.size_eq hanswer
      omega
    · have hsize := size_lt_of_answer hupdate hanswer hlength hbody
      omega
  | arc =>
    obtain ⟨answer, -, hfact⟩ := answer_of_arcUpdate hupdate
    have hsize := size_lt_of_answer hupdate (by rw [hfact]; rfl) hlength hbody
    omega

/-! ## What many records say came back -/

theorem sum_recordsWithin_le (fuel : ℕ) (hfits : cursor.rest.length < 2 ^ 63) :
    ((recordUpdates format (Reading.recordsWithin fuel (cursor.reading format))).map
      fun update => update.size + 2).sum ≤ cursor.rest.length := by
  induction fuel generalizing cursor with
  | zero => exact Nat.zero_le _
  | succ fuel ih =>
    by_cases hfound : ∃ record next, cursor.record format = .found record next
    · obtain ⟨record, next, hrecord⟩ := hfound
      have hless := (length_of_record hrecord).2
      have hrest := @ih next (by omega)
      rw [recordsWithin_of_record hrecord]
      unfold recordUpdates at hrest ⊢
      rcases hupdate : record.update format with error | _ | update
      · rw [List.filterMap_cons_none (by rw [hupdate]; rfl)]
        omega
      · rw [List.filterMap_cons_none (by rw [hupdate]; rfl)]
        omega
      · have hsize := size_le_of_update hrecord hupdate hfits
        rw [List.filterMap_cons_some (b := update) (by rw [hupdate]; rfl), List.map_cons,
          List.sum_cons]
        omega
    · push Not at hfound
      rw [recordsWithin_of_not_found hfound]
      exact Nat.zero_le _

/-! ## Streams -/

/-- The bytes of an archive, and the fault that ends them if there is one. -/
structure Stream where
  format : Format
  bytes : Bytes
  fault : Option InputFault := none
  deriving DecidableEq, Repr

/-- The updates that the records of an archive give. -/
def Stream.updates (stream : Stream) : List Update :=
  recordUpdates stream.format (Reading.start stream.format stream.bytes stream.fault).records

/-- The number of bytes of archives. -/
def Stream.total (streams : List Stream) : ℕ := (streams.map fun stream => stream.bytes.length).sum

theorem sum_updates_le (stream : Stream) (h : stream.bytes.length < 2 ^ 63) :
    (stream.updates.map fun update => update.size + 2).sum ≤ stream.bytes.length := by
  let cursor : Cursor := ⟨0, stream.bytes, stream.fault⟩
  have hfits : cursor.rest.length < 2 ^ 63 := h
  exact sum_recordsWithin_le (stream.bytes.length + 2) hfits

/-- What archives say came back, and two more for each of their updates, is no more than their
bytes. -/
theorem sum_sizes_le (streams : List Stream) (h : Stream.total streams < 2 ^ 63) :
    ((streams.flatMap Stream.updates).map Update.size).sum +
      2 * (streams.flatMap Stream.updates).length ≤ Stream.total streams := by
  unfold Stream.total at h ⊢
  induction streams with
  | nil => exact Nat.zero_le _
  | cons stream streams ih =>
    rw [List.map_cons, List.sum_cons] at h ⊢
    have hfirst := sum_updates_le stream (by omega)
    have hrest := ih (by omega)
    rw [List.sum_map_add, List.map_const', List.sum_replicate_nat] at hfirst
    rw [List.flatMap_cons, List.map_append, List.sum_append, List.length_append]
    omega

end CrawlGraph.Archive
