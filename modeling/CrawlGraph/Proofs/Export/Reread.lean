import CrawlGraph.Proofs.Export.Line

/-!
# Lines written and read again

What a line says is kept when it is written and read, for every text in its fields, as long as its
offset can be read (`rereads_of_hasEntries`). What has been read from any text is a line of this
kind, so it is written as a text from which the same is read (`reread_of_parse`).

1. Reading the codes of a field makes single characters of some of them, none of them white space
   (`Merges`), so what is read from a field that has been trimmed is trimmed (`Merges.isTrimmed`).
2. So the texts of a line that has been read are those of a line that can be written, and its offset
   is one that can be read (`hasEntries_of_readFields`).
-/

namespace CrawlGraph.Export

open Text (IsTrimmed)

/-! ## Codes -/

/-- The second text is the first one with `c` in the place of some runs of three characters. -/
inductive Merges (c : Char) : List Char → List Char → Prop
  | nil : Merges c [] []
  | keep {cs ds : List Char} (d : Char) : Merges c cs ds → Merges c (d :: cs) (d :: ds)
  | code {cs ds : List Char} (x y z : Char) : Merges c cs ds → Merges c (x :: y :: z :: cs) (c :: ds)

namespace Merges

variable {c : Char} {cs ds : List Char}

theorem eq_nil_iff (h : Merges c cs ds) : ds = [] ↔ cs = [] := by
  cases h <;> simp

theorem getLast? (h : Merges c cs ds) : ∀ d ∈ ds.getLast?, d = c ∨ d ∈ cs.getLast? := by
  induction h with
  | nil => simp
  | @keep cs ds x h ih =>
    intro d hd
    rw [List.getLast?_cons] at hd ⊢
    cases hlast : ds.getLast? with
    | none =>
      have hcs := h.eq_nil_iff.1 (List.getLast?_eq_none_iff.1 hlast)
      rw [hlast] at hd
      exact .inr (hcs ▸ hd)
    | some e =>
      rw [hlast] at hd
      cases hd
      exact (ih _ hlast).imp_right fun he => by rw [he]; rfl
  | @code cs ds x y z h ih =>
    intro d hd
    rw [List.getLast?_cons] at hd
    cases hlast : ds.getLast? with
    | none =>
      rw [hlast] at hd
      cases hd
      exact .inl rfl
    | some e =>
      rw [hlast] at hd
      cases hd
      refine (ih _ hlast).imp_right fun he => ?_
      rw [List.getLast?_cons, List.getLast?_cons, List.getLast?_cons, he]
      rfl

theorem isTrimmed (h : Merges c cs ds) (hc : Text.isBlank c = false) (hcs : IsTrimmed cs) :
    IsTrimmed ds where
  head := by
    cases h with
    | nil => simp
    | keep d h => exact hcs.head
    | code x y z h => simpa using hc
  last d hd := by
    rcases h.getLast? d hd with rfl | hd
    · exact hc
    · exact hcs.last d hd

end Merges

namespace Line

theorem merges_readCommas (cs : List Char) : Merges ',' cs (readCommas cs) := by
  fun_induction readCommas cs with
  | case1 cs ih => exact .code _ _ _ ih
  | case2 c cs _ ih => exact .keep c ih
  | case3 => exact .nil

theorem merges_readPercents (cs : List Char) : Merges '%' cs (readPercents cs) := by
  fun_induction readPercents cs with
  | case1 cs ih => exact .code _ _ _ ih
  | case2 c cs _ ih => exact .keep c ih
  | case3 => exact .nil

theorem unescape_eq_nil {cs : List Char} : unescape cs = [] ↔ cs = [] :=
  (merges_readPercents _).eq_nil_iff.trans (merges_readCommas cs).eq_nil_iff

theorem isTrimmed_unescape {cs : List Char} (h : IsTrimmed cs) : IsTrimmed (unescape cs) :=
  (merges_readPercents _).isTrimmed (by decide) ((merges_readCommas cs).isTrimmed (by decide) h)

/-! ## What is read -/

/-- What is read from a field that is not blank. -/
theorem isEntry_unescape {field : List Char} (h : unescape (Text.trim field) ≠ []) :
    IsEntry (String.ofList (unescape (Text.trim field))) where
  ne_empty := by
    rw [ne_eq, ← String.toList_eq_nil_iff, String.toList_ofList]
    exact h
  trimmed := by
    rw [String.toList_ofList]
    exact isTrimmed_unescape (Text.isTrimmed_trim field)

theorem isEntry_of_readOptional {field : List Char} {s : String} (h : readOptional field = some s) :
    IsEntry s := by
  unfold readOptional at h
  dsimp only at h
  split at h
  · cases h
  · rename_i hne
    cases h
    exact isEntry_unescape (mt unescape_eq_nil.1 (by simpa using hne))

variable {cs : List Char} {fields : List (List Char)} {line : Line}

/-- What the fields of a line are read as can be written. -/
theorem hasEntries_of_readFields (h : readFields cs fields = .ok line) :
    line.HasEntries ∧ line.offset.toNat < 2 ^ 63 := by
  unfold readFields at h
  split at h
  · dsimp only at h
    split at h
    · cases h
    rename_i hurl
    obtain ⟨status, -, h⟩ := bind_eq_ok.1 h
    split at h
    · obtain ⟨start, -, h⟩ := bind_eq_ok.1 h
      split at h
      · rename_i hstart
        obtain ⟨id, -, h⟩ := bind_eq_ok.1 h
        obtain ⟨length, -, h⟩ := bind_eq_ok.1 h
        cases h
        refine ⟨⟨?_, ?_, ?_⟩, ?_⟩
        · exact isEntry_unescape (by simpa using hurl)
        · exact fun s hs => isEntry_of_readOptional hs
        · exact fun s hs => isEntry_of_readOptional hs
        · have htoNat := Text.toNat_of_uint64? hstart
          have hlt := start.toInt_lt
          dsimp only
          omega
      · cases h
    · cases h
  · cases h

/-! ## Lines -/

/-- **Writing and reading.** A line has seven fields with commas between, whatever its texts hold,
and is read as what was written, unless its offset is too large for a reader of signed numbers. -/
theorem rereads_of_hasEntries (h : line.HasEntries) :
    (line.text.toList.splitOnP (· == ',')).length = 7 ∧
      parse line.text.toList =
        if line.offset.toNat < 2 ^ 63 then .ok line
        else .error (.number "offset" (toString line.offset)) := by
  refine ⟨?_, parse_text_eq h⟩
  rw [splitOnP_text]
  rfl

/-- Texts with commas, percent signs and codes, and the ends of the ranges of all numbers. -/
theorem rereads_of_hasEntries_codes :
    let line : Line := ⟨-9223372036854775808, "http://a.example/q?x=%2C&y=%25,%", some ",,",
      -2147483648, 9223372036854775807, 9223372036854775807, some "%252C"⟩
    line.HasEntries ∧ (line.text.toList.splitOnP (· == ',')).length = 7 ∧
      parse line.text.toList = .ok line := by
  intro line
  have hentries : line.HasEntries := by decide +kernel
  obtain ⟨hlength, hparse⟩ := rereads_of_hasEntries hentries
  refine ⟨hentries, hlength, hparse.trans (if_pos ?_)⟩
  decide

/-- An offset of 64 bits is written in full, and refused when it is read. -/
theorem far_offset_refused :
    let line : Line := ⟨1, "http://a.example/", none, 0, 0, 9223372036854775808, none⟩
    IsField line.url ∧ line.contentType = none ∧ line.via = none ∧
      parse line.text.toList = .error (.number "offset" "9223372036854775808") ∧
      parse line.text.toList ≠ .ok line := by
  decide +kernel

/-- **Reading and writing.** What has been read from any text is written as a text from which the
same is read. -/
theorem reread_of_parse (h : parse cs = .ok line) :
    line.HasEntries ∧ line.offset.toNat < 2 ^ 63 ∧ parse line.text.toList = .ok line := by
  obtain ⟨hentries, hoffset⟩ := hasEntries_of_readFields h
  exact ⟨hentries, hoffset, parse_text hentries hoffset⟩

/-- Blanks, signs, codes, lone percent signs and line ends. -/
theorem reread_of_parse_untidy :
    let cs := "+1, %252C%2C%%2\u00a0,\t, -0 ,+05,0,%2\nC%\r\n\n".toList
    let line : Line := ⟨1, "%2C,%%2", none, 0, 5, 0, some "%2\nC%"⟩
    parse cs = .ok line ∧ line.text = "1,%252C%2C%25%252,,0,5,0,%252\nC%25" ∧
      parse line.text.toList = .ok line := by
  intro cs line
  have hparse : parse cs = .ok line := by decide +kernel
  exact ⟨hparse, by decide +kernel, (reread_of_parse hparse).2.2⟩

end Line

end CrawlGraph.Export
