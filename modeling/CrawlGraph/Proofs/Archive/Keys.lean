import CrawlGraph.Archive.RecordUpdate
import CrawlGraph.Proofs.Archive.Truncated
import CrawlGraph.Proofs.Failure
import CrawlGraph.Proofs.Graph.Finished

/-!
# What updates are told by

An update names the URL of its record, which is neither empty nor too long, and a session key. The
key is empty only where a typed record belongs to no other record and has an identifier of which
nothing is left without its brackets (`identifies_of_mem_records`). Such records are merged although
they have nothing to do with each other (`unnamed_captures_merge`).

1. A record that is read from an archive has no empty URL (`url_ne_empty_of_record`).
2. An update has the URL of its record, which may be indexed. Its key is one of the identifiers of a
   typed record (`of_warcUpdate`), or it is this URL (`of_arcUpdate`).
3. There are four ways to write an identifier of which nothing is left (`stripBrackets_eq_empty`).
-/

namespace CrawlGraph.Archive

variable {format : Format} {cursor next : Cursor} {record : Record} {update : Update}

/-! ## URLs of records -/

theorem url_ne_empty_of_warcRecord (h : cursor.warcRecord = .found record next) :
    ∀ url ∈ record.url, url ≠ "" := by
  obtain ⟨offset, version, behindVersion, headers, behindHeaders, length, body, -, -, -, -, -,
    rfl⟩ := warcRecord_eq_found.1 h
  exact fun url hurl => bne_iff_ne.1 (Option.filter_eq_some_iff.1 hurl).2

/-- The fields of a header line are its words. -/
theorem ne_empty_of_mem_fields {offset length : ℕ} {line : String} {fields : List String}
    (h : readFields offset line = .ok (fields, length)) : ∀ field ∈ fields, field ≠ "" := by
  unfold readFields at h
  dsimp only at h
  split at h
  · cases h
  split at h
  · cases h
  cases h
  intro field hfield hempty
  obtain ⟨word, hword, rfl⟩ := List.mem_map.1 hfield
  have hnil : word = [] := by
    rw [← String.toList_ofList (l := word), hempty]
    rfl
  have hkept := (List.mem_filter.1 hword).2
  rw [hnil] at hkept
  cases hkept

theorem url_ne_empty_of_arcRecord (h : cursor.arcRecord = .found record next) :
    ∀ url ∈ record.url, url ≠ "" := by
  fun_induction Cursor.arcRecord cursor with
  | case1 cursor offset fields body after hblock hmark ih => exact ih h
  | case2 cursor offset fields body after hblock hmark =>
    cases h
    obtain ⟨line, behindLine, length, -, hfields, -⟩ := arcBlock_eq_found.1 hblock
    exact fun url hurl => ne_empty_of_mem_fields hfields url (List.mem_of_mem_head? hurl)
  | case3 => cases h
  | case4 => cases h

theorem url_ne_empty_of_record (h : cursor.record format = .found record next) :
    ∀ url ∈ record.url, url ≠ "" := by
  cases format with
  | warc => exact url_ne_empty_of_warcRecord h
  | arc => exact url_ne_empty_of_arcRecord h

/-! ## Updates of records -/

/-- An update of a typed record has the URL of that record, and is told by the identifier of the
record that it belongs to, or else by its own. -/
theorem of_warcUpdate (h : record.warcUpdate = .ok (some update)) :
    record.indexedUrl? = some update.url ∧
      ∃ id, record.id? = some id ∧ update.sessionKey = record.concurrentTo?.getD id := by
  unfold Record.warcUpdate at h
  split at h
  · cases h
  split at h
  · rename_i url id hurl hid
    obtain ⟨fact?, -, hmap⟩ := map_eq_ok.1 h
    obtain ⟨fact, -, rfl⟩ := Option.map_eq_some_iff.1 hmap
    exact ⟨hurl, id, hid, rfl⟩
  · cases h

/-- An update of an exchange is told by its URL. -/
theorem of_arcUpdate (h : record.arcUpdate = .ok (some update)) :
    record.indexedUrl? = some update.url ∧ update.sessionKey = update.url := by
  unfold Record.arcUpdate at h
  split at h
  · cases h
  rename_i url hurl
  split at h
  · cases h
  obtain ⟨answer, -, hsome⟩ := map_eq_ok.1 h
  cases hsome
  exact ⟨hurl, rfl⟩

/-- A typed record without an identifier says nothing. -/
theorem warcUpdate_of_id?_eq_none (h : record.id? = none) : record.warcUpdate = .ok none := by
  unfold Record.warcUpdate
  split
  · rfl
  · split
    · rename_i hid
      cases h.symm.trans hid
    · rfl

theorem concurrentTo?_ne_empty : ∀ id ∈ record.concurrentTo?, id ≠ "" :=
  fun _ hid => bne_iff_ne.1 (Option.filter_eq_some_iff.1 hid).2

/-! ## Identifiers in brackets -/

/-- The ways to write an identifier of which nothing is left without its brackets. -/
def bareBrackets : List (List Char) := [[], ['<'], ['>'], ['<', '>']]

theorem dropLast_bracket_eq_nil {text : List Char} :
    (if text.getLast? = some '>' then text.dropLast else text) = [] ↔ text = [] ∨ text = ['>'] := by
  constructor
  · intro h
    split at h
    · rename_i hlast
      rw [← List.dropLast_append_getLast? _ hlast, h]
      exact .inr rfl
    · exact .inl h
  · rintro (rfl | rfl) <;> rfl

/-- What is left of a text without the bracket that it starts with. -/
theorem dropStart_bracket_eq {text rest : List Char} :
    (Text.dropStart ['<'] text).getD text = rest ↔
      text = '<' :: rest ∨ text = rest ∧ text.head? ≠ some '<' := by
  cases text with
  | nil => simp [Text.dropStart]
  | cons c text =>
    by_cases hc : '<' = c
    · subst hc
      cases text <;> simp [Text.dropStart]
    · simp [Text.dropStart, hc, Ne.symm hc]

theorem stripBrackets_eq_empty {value : String} :
    stripBrackets value = "" ↔ Text.trim value.toList ∈ bareBrackets := by
  unfold stripBrackets bareBrackets
  dsimp only
  rw [← String.ofList_nil, String.ofList_inj, dropLast_bracket_eq_nil, dropStart_bracket_eq,
    dropStart_bracket_eq]
  simp only [List.mem_cons, List.not_mem_nil, or_false]
  constructor
  · rintro ((h | ⟨h, -⟩) | (h | ⟨h, -⟩)) <;> simp [h]
  · rintro (h | h | h | h) <;> simp [h]

/-! ## Updates of archives -/

/-- What a record tells the capture of an update by: a URL that is neither empty nor too long, and a
key that is empty only if the record is a typed one with an identifier in bare brackets and belongs
to no other record. -/
structure Record.Identifies (record : Record) (format : Format) (update : Update) : Prop where
  url : record.url = some update.url
  url_ne_empty : update.url ≠ ""
  length_url_le : update.url.length ≤ 1020
  sessionKey_eq_empty : update.sessionKey = "" ↔
    format = .warc ∧ record.concurrentTo? = none ∧
      ∃ value, record.headers.get? "WARC-Record-ID" = some value ∧
        Text.trim value.toList ∈ bareBrackets

/-- The key of a typed record is empty if the record belongs to no other one and is not named. -/
theorem sessionKey_eq_empty_iff {id : String} (hid : record.id? = some id) :
    record.concurrentTo?.getD id = "" ↔
      record.concurrentTo? = none ∧
        ∃ value, record.headers.get? "WARC-Record-ID" = some value ∧
          Text.trim value.toList ∈ bareBrackets := by
  obtain ⟨value, hvalue, rfl⟩ := Option.map_eq_some_iff.1 hid
  cases hother : record.concurrentTo? with
  | some other =>
    refine iff_of_false (concurrentTo?_ne_empty other hother) ?_
    rintro ⟨hnone, -⟩
    cases hnone
  | none =>
    rw [Option.getD_none, stripBrackets_eq_empty, hvalue]
    constructor
    · exact fun h => ⟨rfl, value, rfl, h⟩
    · rintro ⟨-, _, ⟨⟩, h⟩
      exact h

theorem identifies_of_update (hurl : ∀ url ∈ record.url, url ≠ "")
    (h : record.update format = .ok (some update)) : record.Identifies format update := by
  cases format with
  | warc =>
    obtain ⟨hindexed, id, hid, hkey⟩ := of_warcUpdate h
    obtain ⟨hrecord, hlength⟩ := Option.filter_eq_some_iff.1 hindexed
    refine ⟨hrecord, hurl _ hrecord, of_decide_eq_true hlength, ?_⟩
    rw [hkey, sessionKey_eq_empty_iff hid, and_iff_right rfl]
  | arc =>
    obtain ⟨hindexed, hkey⟩ := of_arcUpdate h
    obtain ⟨hrecord, hlength⟩ := Option.filter_eq_some_iff.1 hindexed
    refine ⟨hrecord, hurl _ hrecord, of_decide_eq_true hlength, iff_of_false ?_ ?_⟩
    · rw [hkey]
      exact hurl _ hrecord
    · rintro ⟨⟨⟩, -⟩

/-- **Keys.** Each update of a record that is read from an archive has a URL of 1 to 1020
characters, and a key unless the record is a typed one with an identifier in bare brackets that
belongs to no other record; a typed record without an identifier gives no update. -/
theorem identifies_of_mem_records {bytes : Bytes} {fault : Option InputFault}
    (h : record ∈ (Reading.start format bytes fault).records) :
    (∀ update, record.update format = .ok (some update) → record.Identifies format update) ∧
      (format = .warc → record.headers.get? "WARC-Record-ID" = none →
        record.update format = .ok none) := by
  obtain ⟨place, next, -, hplace⟩ := exists_cursor_of_mem h
  refine ⟨fun update => identifies_of_update (url_ne_empty_of_record hplace), ?_⟩
  rintro rfl hnone
  have hid : record.id? = none := Option.map_eq_none_iff.2 hnone
  exact warcUpdate_of_id?_eq_none hid

/-- A record with bare brackets that belongs to another record, and has a key. -/
theorem identifies_of_mem_records_bare :
    let bytes := Utf8.ofString ("WARC/1.0\r\nWARC-Type: metadata\r\nWARC-Record-ID: <>\r\n" ++
      "WARC-Concurrent-To: <urn:uuid:1>\r\nWARC-Target-URI: http://a.example/\r\n" ++
      "Content-Length: 0\r\n\r\n")
    let update : Update := ⟨"urn:uuid:1", "http://a.example/", 0, .metadata none false⟩
    ∃ record ∈ (Reading.start .warc bytes none).records,
      (record.update .warc = .ok (some update) ∧ record.Identifies .warc update) ∧
        (record.headers.get? "WARC-Record-ID" = none → record.update .warc = .ok none) := by
  intro bytes update
  obtain ⟨record, hrecord, hupdate⟩ : ∃ record ∈ (Reading.start .warc bytes none).records,
      record.update .warc = .ok (some update) := by decide +kernel
  obtain ⟨hidentifies, hnone⟩ := identifies_of_mem_records hrecord
  exact ⟨record, hrecord, ⟨hupdate, hidentifies _ hupdate⟩, hnone rfl⟩

/-- Two captures whose records have identifiers in bare brackets: their updates have the same empty
key, and a graph takes them for one URL. -/
theorem unnamed_captures_merge :
    let head (url : String) := "WARC/1.0\r\nWARC-Type: metadata\r\nWARC-Record-ID: <>\r\n" ++
      "WARC-Target-URI: " ++ url ++ "\r\nContent-Length: 0\r\n\r\n\r\n\r\n"
    let bytes := Utf8.ofString (head "http://a.example/" ++ head "http://b.example/")
    let first : Update := ⟨"", "http://a.example/", 0, .metadata none false⟩
    let second : Update := ⟨"", "http://b.example/", 112, .metadata none false⟩
    ((Reading.start .warc bytes none).records.map (·.update .warc) =
        [.ok (some first), .ok (some second)]) ∧
      (Network.ofUpdates 1 [] [first, second]).urls.map Node.url = ["http://a.example/"] := by
  decide +kernel

end CrawlGraph.Archive
