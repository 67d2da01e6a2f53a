import CrawlGraph.Archive.RecordUpdate
import CrawlGraph.Proofs.Archive.Truncated
import CrawlGraph.Proofs.Failure
import CrawlGraph.Proofs.Graph.Sessions

/-!
# The content of a response

What is said to have come back with a response is the number of bytes behind the first empty line
after its status line, and none if there is no such line: `hasContent_of_update`.

1. Behind a front part the empty lines of a message are the same (`IsEmptyLine.append`,
   `IsEmptyLine.of_append`). So what follows the first one is the same as long as none starts in that
   part (`IsContent.append`).
2. The reader of headers passes over lines that are not empty, and stops behind the first empty one
   or at the end (`isContent_readHeaders`), by induction on the lines. So the content of a response
   starts there (`isContent_of_read`).
3. A content starts within its block, so the difference of the two lengths is exact and not negative
   (`exists_hasContent`), and updates tell this difference (`answer_of_update`).
-/

namespace CrawlGraph.Archive

/-! ## Empty lines -/

/-- The lines that hold nothing, with what ends them. -/
def emptyLines : List Bytes := [[lineFeed], [0x0D, lineFeed]]

/-- An empty line behind the first line of a message, from where it starts to where it stops. -/
structure IsEmptyLine (bytes : Bytes) (start stop : ℕ) : Prop where
  pos : 0 < start
  behind : bytes[start - 1]? = some lineFeed
  ends : ∃ line ∈ emptyLines, line <+: bytes.drop start ∧ stop = start + line.length

/-- The first empty line behind the first line of a message. -/
structure IsFirstEmptyLine (bytes : Bytes) (start stop : ℕ) : Prop where
  isEmptyLine : IsEmptyLine bytes start stop
  least : ∀ other last, IsEmptyLine bytes other last → start ≤ other

/-- What a message holds behind the first empty line after its first line. -/
inductive IsContent (bytes : Bytes) : Bytes → Prop
  | behind {start stop : ℕ} (h : IsFirstEmptyLine bytes start stop) :
    IsContent bytes (bytes.drop stop)
  | missing (h : ∀ start stop, ¬IsEmptyLine bytes start stop) : IsContent bytes []

section EmptyLines

variable {before bytes content line rest : Bytes} {start stop : ℕ}

theorem dropReturn_eq_nil (h : dropReturn line = []) : line = [] ∨ line = [0x0D] := by
  unfold dropReturn at h
  split at h
  · rename_i hlast
    rw [← List.dropLast_append_getLast? _ hlast, h]
    exact .inr rfl
  · exact .inl h

theorem append_mem_emptyLines (h : dropReturn line = []) : line ++ [lineFeed] ∈ emptyLines := by
  rcases dropReturn_eq_nil h with rfl | rfl
  · decide
  · decide

/-- A line that stands where one of the empty lines does is empty. -/
theorem dropReturn_of_emptyLine {blank : Bytes} (hfeed : lineFeed ∉ line)
    (hblank : blank ∈ emptyLines) (h : blank <+: line ++ lineFeed :: rest) :
    dropReturn line = [] := by
  obtain ⟨more, hmore⟩ := h
  have hcut := cutLine_append hfeed rest
  rw [← hmore] at hcut
  rcases List.mem_pair.1 hblank with rfl | rfl
  · cases hcut
    rfl
  · cases hcut
    rfl

theorem lineFeed_mem_of_mem_emptyLines (h : line ∈ emptyLines) : lineFeed ∈ line := by
  rcases List.mem_pair.1 h with rfl | rfl
  · decide
  · decide

/-- An empty line is not the beginning of another one. -/
theorem emptyLine_unique {other : Bytes} (hline : line ∈ emptyLines) (hother : other ∈ emptyLines)
    (hstands : line <+: bytes) (hstands' : other <+: bytes) : line = other := by
  obtain ⟨rest, rfl⟩ := hstands
  obtain ⟨rest', h⟩ := hstands'
  rcases List.mem_pair.1 hline with rfl | rfl <;> rcases List.mem_pair.1 hother with rfl | rfl
  · rfl
  · cases h
  · cases h
  · rfl

theorem behind_append (before : Bytes) (hpos : 0 < start) :
    (before ++ bytes)[before.length + start - 1]? = bytes[start - 1]? := by
  rw [Nat.add_sub_assoc hpos, List.getElem?_append_right (Nat.le_add_right _ _),
    Nat.add_sub_cancel_left]

theorem IsEmptyLine.append (h : IsEmptyLine bytes start stop) (before : Bytes) :
    IsEmptyLine (before ++ bytes) (before.length + start) (before.length + stop) := by
  obtain ⟨hpos, hfeed, line, hline, hstands, rfl⟩ := h
  have hdrop : (before ++ bytes).drop (before.length + start) = bytes.drop start :=
    List.drop_length_add_append start
  rw [← behind_append before hpos] at hfeed
  rw [← hdrop] at hstands
  exact ⟨Nat.add_pos_right _ hpos, hfeed, line, hline, hstands, (Nat.add_assoc ..).symm⟩

theorem IsEmptyLine.of_append (h : IsEmptyLine (before ++ bytes) (before.length + start) stop)
    (hpos : 0 < start) : ∃ last, IsEmptyLine bytes start last := by
  obtain ⟨-, hfeed, line, hline, hstands, -⟩ := h
  rw [behind_append before hpos] at hfeed
  rw [List.drop_length_add_append] at hstands
  exact ⟨_, hpos, hfeed, line, hline, hstands, rfl⟩

theorem IsEmptyLine.le_length (h : IsEmptyLine bytes start stop) : stop ≤ bytes.length := by
  obtain ⟨-, -, line, hline, hstands, rfl⟩ := h
  have hpos := List.length_pos_of_mem (lineFeed_mem_of_mem_emptyLines hline)
  have hlength := hstands.length_le
  rw [List.length_drop] at hlength
  omega

/-- An empty line starts behind a line feed. -/
theorem IsEmptyLine.length_lt (h : IsEmptyLine (line ++ rest) start stop)
    (hfeed : lineFeed ∉ line) : line.length < start := by
  by_contra hle
  have hbehind := h.behind
  have hpos := h.pos
  rw [List.getElem?_append_left (by omega)] at hbehind
  exact hfeed (List.mem_of_getElem? hbehind)

/-- No empty line starts within a line that is not empty. -/
theorem IsEmptyLine.length_lt_of_line
    (h : IsEmptyLine (lineFeed :: (line ++ lineFeed :: rest)) start stop) (hfeed : lineFeed ∉ line)
    (hline : dropReturn line ≠ []) : (lineFeed :: line).length < start := by
  obtain ⟨other, rfl⟩ := Nat.exists_eq_add_of_le h.pos
  obtain _ | other := other
  · obtain ⟨-, -, blank, hblank, hstands, -⟩ := h
    exact absurd (dropReturn_of_emptyLine hfeed hblank hstands) hline
  · -- The empty line does not start at the front, so the first line feed can be left out.
    have hshift : IsEmptyLine ([lineFeed] ++ (line ++ lineFeed :: rest)) (1 + (other + 1)) stop := h
    obtain ⟨last, hrest⟩ := hshift.of_append (Nat.succ_pos other)
    have hlt := hrest.length_lt hfeed
    rw [List.length_cons]
    omega

/-- There is only one first empty line. -/
theorem IsFirstEmptyLine.unique {other last : ℕ} (h : IsFirstEmptyLine bytes start stop)
    (hother : IsFirstEmptyLine bytes other last) : stop = last := by
  have hstart : start = other :=
    Nat.le_antisymm (h.least _ _ hother.isEmptyLine) (hother.least _ _ h.isEmptyLine)
  subst hstart
  obtain ⟨-, -, line, hline, hstands, rfl⟩ := h.isEmptyLine
  obtain ⟨-, -, line', hline', hstands', rfl⟩ := hother.isEmptyLine
  rw [emptyLine_unique hline hline' hstands hstands']

/-- The content stays the same if a front part is added to a message in which no empty line
starts. -/
theorem IsContent.append (h : IsContent bytes content) (before : Bytes)
    (hnone : ∀ start stop, IsEmptyLine (before ++ bytes) start stop → before.length < start) :
    IsContent (before ++ bytes) content := by
  have hrest : ∀ start stop, IsEmptyLine (before ++ bytes) start stop →
      ∃ other last, start = before.length + other ∧ IsEmptyLine bytes other last := by
    intro start stop hempty
    have hlt := hnone start stop hempty
    obtain ⟨other, rfl⟩ := Nat.exists_eq_add_of_le (Nat.le_of_lt hlt)
    obtain ⟨last, hother⟩ := hempty.of_append (by omega)
    exact ⟨other, last, rfl, hother⟩
  cases h with
  | behind h =>
    rw [← List.drop_length_add_append]
    refine .behind ⟨h.isEmptyLine.append before, fun start stop hempty => ?_⟩
    obtain ⟨other, last, rfl, hother⟩ := hrest start stop hempty
    exact Nat.add_le_add_left (h.least other last hother) _
  | missing h =>
    refine .missing fun start stop hempty => ?_
    obtain ⟨other, last, -, hother⟩ := hrest start stop hempty
    exact h other last hother

theorem IsContent.isSuffix (h : IsContent bytes content) : content <:+ bytes := by
  cases h with
  | behind h => exact List.drop_suffix _ _
  | missing h => exact List.nil_suffix

/-- A content does not start where its message starts. -/
theorem IsContent.length_lt (h : IsContent bytes content) (hne : bytes ≠ []) :
    content.length < bytes.length := by
  have hpos := List.length_pos_iff.2 hne
  cases h with
  | behind h =>
    obtain ⟨hstart, -, line, -, -, rfl⟩ := h.isEmptyLine
    rw [List.length_drop]
    omega
  | missing => exact hpos

theorem IsContent.eq_drop (h : IsContent bytes content)
    (hfirst : IsFirstEmptyLine bytes start stop) : content = bytes.drop stop := by
  cases h with
  | behind h => rw [h.unique hfirst]
  | missing hnone => exact absurd hfirst.isEmptyLine (hnone _ _)

theorem IsContent.eq_nil (h : IsContent bytes content)
    (hnone : ∀ start stop, ¬IsEmptyLine bytes start stop) : content = [] := by
  cases h with
  | behind h => exact absurd h.isEmptyLine (hnone _ _)
  | missing => rfl

end EmptyLines

/-! ## Reading the content -/

/-- A line feed stands before the headers, whose first line may be empty. -/
theorem isContent_readHeaders (bytes : Bytes) :
    IsContent (lineFeed :: bytes) (readHeaders bytes).2 := by
  fun_induction readHeaders bytes with
  | case1 bytes hcut =>
    refine .missing fun start stop hempty => ?_
    obtain ⟨hpos, -, line, hline, hstands, -⟩ := hempty
    obtain ⟨start, rfl⟩ := Nat.exists_eq_add_of_lt hpos
    rw [Nat.zero_add, List.drop_succ_cons] at hstands
    have hmem := hstands.subset (lineFeed_mem_of_mem_emptyLines hline)
    exact lineFeed_not_mem_of_cutLine_eq_none hcut (List.mem_of_mem_drop hmem)
  | case2 bytes line rest hcut hempty =>
    obtain rfl := eq_append_of_cutLine hcut
    have hfirst : IsFirstEmptyLine (lineFeed :: (line ++ lineFeed :: rest)) 1
        (1 + (line ++ [lineFeed]).length) := by
      refine ⟨⟨Nat.one_pos, rfl, _, append_mem_emptyLines hempty, ?_, rfl⟩, fun _ _ h => h.pos⟩
      exact ⟨rest, by simp⟩
    have hcontent := IsContent.behind hfirst
    rw [Nat.add_comm, List.drop_succ_cons, List.append_cons line, List.drop_left] at hcontent
    rw [List.append_cons line]
    exact hcontent
  | case3 bytes line rest hcut hempty headers content hread ih =>
    obtain rfl := eq_append_of_cutLine hcut
    have hfeed := lineFeed_not_mem_of_cutLine hcut
    rw [hread] at ih
    exact ih.append (lineFeed :: line) fun start stop h => h.length_lt_of_line hfeed hempty

/-- The content of a response is what its block holds behind the first empty line after the status
line. -/
theorem isContent_of_read {block : Bytes} {response : Response}
    (h : Response.read block = .ok response) :
    response.contentStart ≤ block.length ∧ IsContent block (block.drop response.contentStart) := by
  unfold Response.read at h
  split at h
  · cases h
  rename_i line rest hcut
  obtain ⟨status, -, h⟩ := bind_eq_ok.1 h
  cases h
  obtain rfl := eq_append_of_cutLine hcut
  have hcontent : IsContent (line ++ lineFeed :: rest) (readHeaders rest).2 :=
    (isContent_readHeaders rest).append line fun start stop hempty =>
      hempty.length_lt (lineFeed_not_mem_of_cutLine hcut)
  refine ⟨Nat.sub_le _ _, ?_⟩
  dsimp only
  rw [← List.suffix_iff_eq_drop.1 hcontent.isSuffix]
  exact hcontent

/-- A block that can be read has a status line, so its content does not start at its front. -/
theorem contentStart_pos {block : Bytes} {response : Response}
    (h : Response.read block = .ok response) : 0 < response.contentStart := by
  have hne : block ≠ [] := by
    rintro rfl
    cases h
  have hlt := (isContent_of_read h).2.length_lt hne
  rw [List.length_drop] at hlt
  omega

/-! ## What records say -/

section Records

variable {record : Record} {response : Response} {answer : Answer} {update : Update}

theorem answer_of_fact {fact : Fact} (h : record.fact = .ok (some fact))
    (hanswer : fact.answer? = some answer) : record.answer = .ok answer := by
  unfold Record.fact at h
  split at h
  · cases h
    cases hanswer
  · obtain ⟨told, htold, hsome⟩ := map_eq_ok.1 h
    cases hsome
    cases hanswer
    exact htold
  · cases h
    cases hanswer
  · cases h

theorem answer_of_warcUpdate (h : record.warcUpdate = .ok (some update))
    (hanswer : update.fact.answer? = some answer) : record.answer = .ok answer := by
  unfold Record.warcUpdate at h
  split at h
  · cases h
  split at h
  · obtain ⟨fact?, hfact, hmap⟩ := map_eq_ok.1 h
    obtain ⟨fact, rfl, rfl⟩ := Option.map_eq_some_iff.1 hmap
    exact answer_of_fact hfact hanswer
  · cases h

theorem answer_of_arcUpdate (h : record.arcUpdate = .ok (some update)) :
    ∃ answer, record.answer = .ok answer ∧ update.fact = .exchange answer := by
  unfold Record.arcUpdate at h
  split at h
  · cases h
  split at h
  · cases h
  obtain ⟨answer, hanswer, hsome⟩ := map_eq_ok.1 h
  cases hsome
  exact ⟨answer, hanswer, rfl⟩

/-- An update tells what the response in its record says. -/
theorem answer_of_update {format : Format} (h : record.update format = .ok (some update))
    (hanswer : update.fact.answer? = some answer) : record.answer = .ok answer := by
  cases format with
  | warc => exact answer_of_warcUpdate h hanswer
  | arc =>
    obtain ⟨told, htold, hfact⟩ := answer_of_arcUpdate h
    rw [hfact] at hanswer
    cases hanswer
    exact htold

/-- What is said to have come back with the response in a record is what its block holds behind the
first empty line after the status line. -/
structure Record.HasContent (record : Record) (response : Response) (answer : Answer) : Prop where
  read : Response.read record.body = .ok response
  contentStart_le : response.contentStart ≤ record.body.length
  content : IsContent record.body (record.body.drop response.contentStart)
  /-- Neither the lengths nor their difference wrap around. -/
  length : (Int64.ofNat record.length).toInt = record.body.length
  contentStart : (Int64.ofNat response.contentStart).toInt = response.contentStart
  difference : (Int64.ofNat record.length - Int64.ofNat response.contentStart).toInt =
    (record.body.length : ℤ) - response.contentStart
  /-- The difference is not negative. -/
  contentLength : answer.contentLength =
    Int64.ofNat record.length - Int64.ofNat response.contentStart
  behind : ∀ start stop, IsFirstEmptyLine record.body start stop →
    response.contentStart = stop ∧ answer.contentLength.toInt = (record.body.drop stop).length
  missing : (∀ start stop, ¬IsEmptyLine record.body start stop) → answer.contentLength = 0

theorem toInt_sub_ofNat {length start : ℕ} (hle : start ≤ length) (hfits : length < 2 ^ 63) :
    (Int64.ofNat length - Int64.ofNat start).toInt = (length : ℤ) - start := by
  rw [← Int64.ofNat_sub _ _ hle,
    Int64.toInt_ofNat_of_lt (Nat.lt_of_le_of_lt (Nat.sub_le _ _) hfits), Int.ofNat_sub hle]

theorem max_sub_ofNat {length start : ℕ} (hle : start ≤ length) (hfits : length < 2 ^ 63) :
    max 0 (Int64.ofNat length - Int64.ofNat start) = Int64.ofNat length - Int64.ofNat start := by
  refine if_pos ?_
  rw [Int64.le_iff_toInt_le, toInt_sub_ofNat hle hfits, Int64.toInt_zero]
  omega

theorem exists_hasContent (h : record.answer = .ok answer)
    (hlength : record.length = record.body.length) (hfits : record.body.length < 2 ^ 63) :
    ∃ response, record.HasContent response answer := by
  obtain ⟨response, hread, hanswer⟩ := bind_eq_ok.1 h
  obtain ⟨hle, hcontent⟩ := isContent_of_read hread
  cases hanswer
  have hdifference := toInt_sub_ofNat hle hfits
  have hmax := max_sub_ofNat hle hfits
  rw [← hlength] at hdifference hmax
  refine ⟨response, ?_⟩
  constructor
  case read => exact hread
  case contentStart_le => exact hle
  case content => exact hcontent
  case length => rw [hlength, Int64.toInt_ofNat_of_lt hfits]
  case contentStart => rw [Int64.toInt_ofNat_of_lt (Nat.lt_of_le_of_lt hle hfits)]
  case difference => rw [hdifference, hlength]
  case contentLength => exact hmax
  case behind =>
    intro start stop hfirst
    have hdrop := congrArg List.length (hcontent.eq_drop hfirst)
    have hstop := hfirst.isEmptyLine.le_length
    rw [List.length_drop, List.length_drop] at hdrop
    have hstart : response.contentStart = stop := by omega
    dsimp only
    rw [hmax, hdifference, hlength, List.length_drop, hstart, Int.ofNat_sub hstop]
    exact ⟨rfl, rfl⟩
  case missing =>
    intro hnone
    have hdrop := congrArg List.length (hcontent.eq_nil hnone)
    rw [List.length_drop, List.length_nil] at hdrop
    have hstart : response.contentStart = record.length := by omega
    dsimp only
    rw [hmax, hstart, Int64.sub_self]

/-- **Content.** Every response or exchange that is read from an archive is said to have as many
bytes as its record holds behind the first empty line after the status line. -/
theorem hasContent_of_update {format : Format} {bytes : Bytes} {fault : Option InputFault}
    (hrecord : record ∈ (Reading.start format bytes fault).records)
    (hfits : record.body.length < 2 ^ 63) (hupdate : record.update format = .ok (some update))
    (hanswer : update.fact.answer? = some answer) :
    ∃ response, record.HasContent response answer :=
  exists_hasContent (answer_of_update hupdate hanswer) (length_of_mem_records hrecord) hfits

/-- A line with two carriage returns is not empty, and later empty lines belong to the content. -/
theorem hasContent_of_update_returns :
    let block := Utf8.ofString "HTTP/1.1 200 OK\r\n\r\r\nA: b\n\r\nhello\n\nx"
    let bytes := Utf8.ofString ("WARC/1.0\r\nWARC-Type: response\r\nWARC-Record-ID: a\r\n" ++
      "WARC-Target-URI: http://a.example/\r\nContent-Length: 35\r\n\r\n") ++ block
    let record : Record :=
      { type := .response, url := some "http://a.example/", offset := 0, length := 35
        headers := [("WARC-Type", "response"), ("WARC-Record-ID", "a"),
          ("WARC-Target-URI", "http://a.example/"), ("Content-Length", "35")]
        body := block }
    let answer : Answer := { statusCode := 200, contentType := none, contentLength := 8 }
    record ∈ (Reading.start .warc bytes none).records ∧ record.body.length < 2 ^ 63 ∧
      ∃ update, record.update .warc = .ok (some update) ∧ update.fact.answer? = some answer ∧
        ∃ response, record.HasContent response answer := by
  intro block bytes record answer
  have hrecord : record ∈ (Reading.start .warc bytes none).records := by decide +kernel
  have hfits : record.body.length < 2 ^ 63 := by decide +kernel
  let update : Update :=
    { sessionKey := "a", url := "http://a.example/", offset := 0, fact := .response answer }
  have hupdate : record.update .warc = .ok (some update) := by decide +kernel
  exact ⟨hrecord, hfits, update, hupdate, rfl, hasContent_of_update hrecord hfits hupdate rfl⟩

end Records

end CrawlGraph.Archive
