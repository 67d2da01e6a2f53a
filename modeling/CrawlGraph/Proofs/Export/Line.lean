import CrawlGraph.Export.Files
import CrawlGraph.Proofs.Failure
import CrawlGraph.Proofs.Text.Cut
import CrawlGraph.Proofs.Text.Number

/-!
# Resource lines read back

1. Escaping is undone (`unescape_escape`), leaves no comma in a field (`comma_not_mem_escape`), and
   keeps its ends (`isTrimmed_escape`).
2. So a line is cut into its seven fields again (`splitOnP_text`), and these are read as what was
   written, if its offset can be read (`parse_text_eq`).
3. No line holds a line feed, so the lines of a file are those that were written
   (`readLines_resourceText`).
-/

namespace CrawlGraph.Export

open Text (IsTrimmed)

/-- A text that can stand in a field of a line. -/
structure IsField (s : String) : Prop where
  ne_empty : s ≠ ""
  trimmed : IsTrimmed s.toList
  no_feed : '\n' ∉ s.toList

instance (s : String) : Decidable (IsField s) :=
  decidable_of_iff (s ≠ "" ∧ IsTrimmed s.toList ∧ '\n' ∉ s.toList)
    ⟨fun h => ⟨h.1, h.2.1, h.2.2⟩, fun h => ⟨h.ne_empty, h.trimmed, h.no_feed⟩⟩

/-- A line whose texts can stand in their fields, with an offset that can be read. -/
structure Line.IsWritable (line : Line) : Prop where
  url : IsField line.url
  contentType : ∀ s ∈ line.contentType, IsField s
  via : ∀ s ∈ line.via, IsField s
  offset : line.offset.toNat < 2 ^ 63

instance (line : Line) : Decidable line.IsWritable :=
  decidable_of_iff (IsField line.url ∧ line.contentType.all (IsField ·) ∧
      line.via.all (IsField ·) ∧ line.offset.toNat < 2 ^ 63) (by
    simp only [Option.all_eq_true, decide_eq_true_iff]
    exact ⟨fun h => ⟨h.1, h.2.1, h.2.2.1, h.2.2.2⟩,
      fun h => ⟨h.url, h.contentType, h.via, h.offset⟩⟩)

/-- A text that is read from a field as it was written. -/
structure IsEntry (s : String) : Prop where
  ne_empty : s ≠ ""
  trimmed : IsTrimmed s.toList

instance (s : String) : Decidable (IsEntry s) :=
  decidable_of_iff (s ≠ "" ∧ IsTrimmed s.toList)
    ⟨fun h => ⟨h.1, h.2⟩, fun h => ⟨h.ne_empty, h.trimmed⟩⟩

theorem IsField.isEntry {s : String} (h : IsField s) : IsEntry s := ⟨h.ne_empty, h.trimmed⟩

/-- A line whose texts are read from their fields as they were written. -/
structure Line.HasEntries (line : Line) : Prop where
  url : IsEntry line.url
  contentType : ∀ s ∈ line.contentType, IsEntry s
  via : ∀ s ∈ line.via, IsEntry s

instance (line : Line) : Decidable line.HasEntries :=
  decidable_of_iff (IsEntry line.url ∧ line.contentType.all (IsEntry ·) ∧
      line.via.all (IsEntry ·)) (by
    simp only [Option.all_eq_true, decide_eq_true_iff]
    exact ⟨fun h => ⟨h.1, h.2.1, h.2.2⟩, fun h => ⟨h.url, h.contentType, h.via⟩⟩)

theorem Line.IsWritable.hasEntries {line : Line} (h : line.IsWritable) : line.HasEntries where
  url := h.url.isEntry
  contentType s hs := (h.contentType s hs).isEntry
  via s hs := (h.via s hs).isEntry

namespace Line

/-! ## Escaping -/

theorem escape_append (cs ds : List Char) : escape (cs ++ ds) = escape cs ++ escape ds :=
  List.flatMap_append

theorem escape_cons_of_ne {c : Char} (hpercent : c ≠ '%') (hcomma : c ≠ ',') (cs : List Char) :
    escape (c :: cs) = c :: escape cs := by
  unfold escape
  rw [List.flatMap_cons, if_neg hpercent, if_neg hcomma]
  rfl

theorem readCommas_cons {c : Char} (h : c ≠ '%') (cs : List Char) :
    readCommas (c :: cs) = c :: readCommas cs := by
  rw [readCommas]
  rintro _ rfl
  exact absurd rfl h

theorem readPercents_cons {c : Char} (h : c ≠ '%') (cs : List Char) :
    readPercents (c :: cs) = c :: readPercents cs := by
  rw [readPercents]
  rintro _ rfl
  exact absurd rfl h

/-- Escaping is undone. -/
theorem unescape_escape (cs : List Char) : unescape (escape cs) = cs := by
  unfold unescape
  induction cs with
  | nil => rfl
  | cons c cs ih =>
    by_cases hpercent : c = '%'
    · subst hpercent
      exact congrArg ('%' :: ·) ih
    · by_cases hcomma : c = ','
      · subst hcomma
        exact congrArg (',' :: ·) ih
      · rw [escape_cons_of_ne hpercent hcomma, readCommas_cons hpercent,
          readPercents_cons hpercent, ih]

theorem mem_escape {c : Char} {cs : List Char} (h : c ∈ escape cs) :
    c ∈ ['%', '2', '5', 'C'] ∨ (c ∈ cs ∧ c ≠ ',') := by
  obtain ⟨d, hd, hc⟩ := List.mem_flatMap.1 h
  by_cases hpercent : d = '%'
  · rw [if_pos hpercent] at hc
    exact .inl (List.mem_append_left ['C'] hc)
  · rw [if_neg hpercent] at hc
    by_cases hcomma : d = ','
    · rw [if_pos hcomma] at hc
      refine .inl (List.Sublist.mem hc ?_)
      decide
    · rw [if_neg hcomma, List.mem_singleton] at hc
      exact .inr (hc ▸ ⟨hd, hcomma⟩)

theorem comma_not_mem_escape (cs : List Char) : ',' ∉ escape cs := by
  intro h
  rcases mem_escape h with h | h
  · exact absurd h (by decide)
  · exact h.2 rfl

theorem feed_not_mem_escape {cs : List Char} (h : '\n' ∉ cs) : '\n' ∉ escape cs := by
  intro hmem
  rcases mem_escape hmem with hmem | hmem
  · exact absurd hmem (by decide)
  · exact h hmem.1

theorem escape_eq_nil {cs : List Char} : escape cs = [] ↔ cs = [] := by
  constructor
  · intro h
    rw [← unescape_escape cs, h]
    rfl
  · rintro rfl
    rfl

/-- A character is escaped to characters that are as blank as it is at both ends. -/
theorem isTrimmed_escape_singleton {c : Char} (h : Text.isBlank c = false) :
    IsTrimmed (escape [c]) := by
  by_cases hpercent : c = '%'
  · subst hpercent
    decide
  · by_cases hcomma : c = ','
    · subst hcomma
      decide
    · rw [escape_cons_of_ne hpercent hcomma]
      constructor <;> simpa [escape] using h

theorem isTrimmed_escape {cs : List Char} (h : IsTrimmed cs) : IsTrimmed (escape cs) := by
  constructor
  · cases cs with
    | nil => simp [escape]
    | cons c cs =>
      rw [← List.singleton_append, escape_append,
        List.head?_append_of_ne_nil _ (by simp [escape_eq_nil])]
      exact (isTrimmed_escape_singleton (h.head c rfl)).head
  · rcases List.eq_nil_or_concat cs with rfl | ⟨cs, c, rfl⟩
    · simp [escape]
    · rw [List.concat_eq_append] at h ⊢
      rw [escape_append, List.getLast?_append_of_ne_nil _ (by simp [escape_eq_nil])]
      exact (isTrimmed_escape_singleton (h.last c (by simp))).last

/-! ## Fields -/

/-- The fields of a line hold no commas. -/
theorem comma_not_mem_fields (line : Line) : ∀ field ∈ line.fields, ',' ∉ field := by
  have hnumber : ∀ n : ℤ, ',' ∉ (toString n).toList :=
    fun n => Text.not_mem_toString (by decide) (by decide) n
  simp only [fields, List.forall_mem_cons, List.not_mem_nil, false_imp_iff, implies_true, and_true]
  exact ⟨hnumber line.id.toInt, comma_not_mem_escape _, comma_not_mem_escape _,
    hnumber line.statusCode.toInt, hnumber line.contentLength.toInt, hnumber line.offset.toNat,
    comma_not_mem_escape _⟩

/-- The fields of a line that can be written hold no line feeds. -/
theorem feed_not_mem_fields {line : Line} (h : line.IsWritable) :
    ∀ field ∈ line.fields, '\n' ∉ field := by
  have hnumber : ∀ n : ℤ, '\n' ∉ (toString n).toList :=
    fun n => Text.not_mem_toString (by decide) (by decide) n
  have hoption : ∀ value : Option String, (∀ s ∈ value, IsField s) →
      '\n' ∉ escape (value.getD "").toList := by
    rintro (_ | s) hs
    · decide
    · exact feed_not_mem_escape (hs s rfl).no_feed
  simp only [fields, List.forall_mem_cons, List.not_mem_nil, false_imp_iff, implies_true, and_true]
  exact ⟨hnumber line.id.toInt, feed_not_mem_escape h.url.no_feed, hoption _ h.contentType,
    hnumber line.statusCode.toInt, hnumber line.contentLength.toInt, hnumber line.offset.toNat,
    hoption _ h.via⟩

theorem splitOnP_text (line : Line) : line.text.toList.splitOnP (· == ',') = line.fields := by
  unfold text
  rw [String.toList_ofList]
  exact List.splitOn_intercalate ',' (comma_not_mem_fields line) (List.cons_ne_nil _ _)

theorem readNumber_toString {name : String} {n : ℤ} (hle : -2 ^ 63 ≤ n) (hlt : n < 2 ^ 63) :
    readNumber name (toString n).toList = .ok (Int64.ofInt n) := by
  unfold readNumber
  rw [Text.trim_toString, Text.readInt64_toString hle hlt]

theorem readNumber_toString_of_le {name : String} {n : ℤ} (h : 2 ^ 63 ≤ n) :
    readNumber name (toString n).toList = .error (.number name (toString n)) := by
  unfold readNumber
  rw [Text.trim_toString, Text.readInt64_toString_of_le h, String.ofList_toList]

theorem readOptional_escape {value : Option String} (h : ∀ s ∈ value, IsEntry s) :
    readOptional (escape (value.getD "").toList) = value := by
  unfold readOptional
  cases value with
  | none => rfl
  | some s =>
    have hs := h s rfl
    have hne : (escape s.toList).isEmpty = false := by
      rw [List.isEmpty_eq_false_iff, ne_eq, escape_eq_nil, String.toList_eq_nil_iff]
      exact hs.ne_empty
    simp only [Option.getD_some, Text.trim_of_isTrimmed (isTrimmed_escape hs.trimmed), hne,
      unescape_escape, String.ofList_toList]
    rfl

/-- The fields of a line are read as the line, unless its offset is too large for a reader of signed
numbers. -/
theorem readFields_fields {line : Line} (h : line.HasEntries) (cs : List Char) :
    readFields cs line.fields =
      if line.offset.toNat < 2 ^ 63 then .ok line
      else .error (.number "offset" (toString line.offset)) := by
  have hint64 : ∀ name (n : Int64), readNumber name (toString n).toList = .ok n := by
    intro name n
    have hread : readNumber name (toString n.toInt).toList = .ok (Int64.ofInt n.toInt) :=
      readNumber_toString n.le_toInt n.toInt_lt
    rwa [Int64.ofInt_toInt] at hread
  have hurl : unescape (Text.trim (escape line.url.toList)) = line.url.toList := by
    rw [Text.trim_of_isTrimmed (isTrimmed_escape h.url.trimmed), unescape_escape]
  have hne : line.url.toList.isEmpty = false := by
    rw [List.isEmpty_eq_false_iff, ne_eq, String.toList_eq_nil_iff]
    exact h.url.ne_empty
  have hstatus : readNumber "status code" (toString line.statusCode).toList =
      .ok (Int64.ofInt line.statusCode.toInt) := by
    have hle := line.statusCode.le_toInt
    have hlt := line.statusCode.toInt_lt
    exact readNumber_toString (by omega) (by omega)
  have hstatus' : Text.int32? (Int64.ofInt line.statusCode.toInt).toInt = some line.statusCode := by
    have hle := line.statusCode.le_toInt
    have hlt := line.statusCode.toInt_lt
    rw [Int64.toInt_ofInt_of_le (by omega) (by omega), Text.int32?_toInt]
  have htext : toString line.offset = toString (line.offset.toNat : ℤ) := rfl
  by_cases hlt : line.offset.toNat < 2 ^ 63
  · have hoffset : readNumber "offset" (toString line.offset).toList =
        .ok (Int64.ofInt line.offset.toNat) := by
      rw [htext]
      exact readNumber_toString (by omega) (by omega)
    have hoffset' : Text.uint64? (Int64.ofInt line.offset.toNat).toInt = some line.offset := by
      rw [Int64.toInt_ofInt_of_le (by omega) (by omega), Text.uint64?_toNat]
    rw [if_pos hlt]
    unfold fields readFields
    simp only [Option.getD_some, hurl, hne, Bool.false_eq_true, if_false, bind, Except.bind, hstatus,
      hstatus', hoffset, hoffset', hint64, readOptional_escape h.contentType,
      readOptional_escape h.via, String.ofList_toList]
    rfl
  · have hoffset : readNumber "offset" (toString line.offset).toList =
        .error (.number "offset" (toString line.offset)) := by
      rw [htext]
      exact readNumber_toString_of_le (by omega)
    rw [if_neg hlt]
    unfold fields readFields
    simp only [Option.getD_some, hurl, hne, Bool.false_eq_true, if_false, bind, Except.bind, hstatus,
      hstatus', hoffset]

/-- A line ends with its last field and the comma before it. -/
theorem exists_text_eq (line : Line) :
    ∃ front, line.text.toList = front ++ ',' :: escape (line.via.getD "").toList := by
  refine ⟨[','].intercalate line.fields.dropLast, ?_⟩
  unfold text
  rw [String.toList_ofList]
  simp [fields, List.intercalate]

/-- So no line end can be taken for a part of it. -/
theorem isBlank_getLast?_text {line : Line} (h : line.HasEntries) :
    ∀ c ∈ line.text.toList.getLast?, Text.isBlank c = false := by
  obtain ⟨front, hfront⟩ := exists_text_eq line
  rw [hfront, List.getLast?_append_of_ne_nil _ (List.cons_ne_nil _ _)]
  cases hvia : line.via with
  | none =>
    have hcomma : IsTrimmed [','] := by decide
    exact hcomma.last
  | some s =>
    have hs := h.via s hvia
    have hne : escape s.toList ≠ [] := by
      rw [ne_eq, escape_eq_nil, String.toList_eq_nil_iff]
      exact hs.ne_empty
    rw [Option.getD_some, ← List.singleton_append, List.getLast?_append_of_ne_nil _ hne]
    exact (isTrimmed_escape hs.trimmed).last

/-- A line is read as what was written, unless its offset is too large for a reader of signed
numbers. -/
theorem parse_text_eq {line : Line} (h : line.HasEntries) :
    parse line.text.toList =
      if line.offset.toNat < 2 ^ 63 then .ok line
      else .error (.number "offset" (toString line.offset)) := by
  have hends : ∀ c ∈ line.text.toList.getLast?, (c == '\r' || c == '\n') = false := by
    intro c hc
    have hblank := isBlank_getLast?_text h c hc
    simp only [Bool.or_eq_false_iff, beq_eq_false_iff_ne]
    constructor <;>
    · rintro rfl
      exact absurd hblank (by decide)
  unfold parse
  rw [Text.reverse_dropWhile_of_getLast? hends]
  show readFields _ (line.text.toList.splitOnP (· == ',')) = _
  rw [splitOnP_text]
  exact readFields_fields h _

theorem parse_text {line : Line} (h : line.HasEntries) (hoffset : line.offset.toNat < 2 ^ 63) :
    parse line.text.toList = .ok line := by
  rw [parse_text_eq h, if_pos hoffset]

theorem feed_not_mem_text {line : Line} (h : line.IsWritable) : '\n' ∉ line.text.toList := by
  intro hmem
  unfold text at hmem
  rw [String.toList_ofList] at hmem
  rcases Text.of_mem_intercalate hmem with hcomma | ⟨field, hfield, hmem⟩
  · exact absurd hcomma (by decide)
  · exact feed_not_mem_fields h field hfield hmem

end Line

/-! ## Files -/

/-- **Resource files.** The lines of a file are read as those that were written, none of them lost
and none of them twice. -/
theorem readLines_resourceText {urls : List Node}
    (h : ∀ node ∈ urls, (Line.ofNode node).IsWritable) :
    readLines (resourceText urls) = .ok (urls.map Line.ofNode) := by
  have hlines : Text.lines (resourceText urls) =
      urls.map fun node => (Line.ofNode node).text.toList := by
    refine Text.lines_flatMap (fun node hnode => Line.feed_not_mem_text (h node hnode)) ?_
    intro node hnode hlast
    exact absurd (Line.isBlank_getLast?_text (h node hnode).hasEntries _ hlast) (by decide)
  have hnotBlank : ∀ node, Text.allBlank (Line.ofNode node).text.toList = false := by
    intro node
    obtain ⟨front, hfront⟩ := Line.exists_text_eq (Line.ofNode node)
    unfold Text.allBlank
    rw [hfront, List.all_append, List.all_cons, show Text.isBlank ',' = false from by decide,
      Bool.false_and, Bool.and_false]
  unfold readLines
  rw [hlines, List.filter_eq_self.2, List.mapM_map]
  · refine mapM_eq_ok fun node hnode => ?_
    rw [Function.comp_apply, Line.parse_text (h node hnode).hasEntries (h node hnode).offset]
    rfl
  · intro line hline
    obtain ⟨node, -, rfl⟩ := List.mem_map.1 hline
    rw [hnotBlank]
    rfl

end CrawlGraph.Export
