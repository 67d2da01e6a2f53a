import CrawlGraph.Proofs.Archive.Headers

/-!
# Responses that have been written

A response that is written with either line end is read back as it was, whatever its content holds:
the content starts where the empty line after the headers ends (`read_written`).

1. A written line is cut off in front of its line end (`cutLine_written`). What it ends with is
   trimmed, so it is no carriage return that could count for the line end (`isLine_of_space`).
2. A first line is read as its version, code and reason (`read_of_isWritten`), and the headers as
   their names and values up to the empty line (`readHeaders_written`), by induction on their list.
-/

namespace CrawlGraph.Archive

/-! ## Writing -/

/-- The ways to end a line. -/
def lineEnds : List Bytes := [[lineFeed], lineEnd]

/-- A line with its end. -/
def writtenLine (ending : Bytes) (text : String) : Bytes := Utf8.ofString text ++ ending

/-- Headers as lines, and an empty line behind them. -/
def writtenHeaders (ending : Bytes) (headers : Headers) : Bytes :=
  headers.flatMap (fun header => writtenLine ending (header.1 ++ ": " ++ header.2)) ++ ending

/-- What is written before the content of a response. -/
def writtenHead (ending : Bytes) (first : String) (headers : Headers) : Bytes :=
  writtenLine ending first ++ writtenHeaders ending headers

namespace StatusLine

/-- The ways to write the first line of a response. An empty reason needs no space before it. -/
inductive IsWritten (status : StatusLine) : String → Prop
  | whole :
    IsWritten status (status.version ++ " " ++ toString status.code.toInt ++ " " ++ status.reason)
  | short (h : status.reason = "") :
    IsWritten status (status.version ++ " " ++ toString status.code.toInt)

/-- A first line can be written: its version starts with the name of the protocol and has no space,
its reason is trimmed, and nothing in it ends the line. -/
structure IsWritable (status : StatusLine) : Prop where
  protocol : "HTTP".toList <+: status.version.toList
  space_version : ' ' ∉ status.version.toList
  lineFeed_version : '\n' ∉ status.version.toList
  trimmed_reason : Text.trimmed status.reason = status.reason
  lineFeed_reason : '\n' ∉ status.reason.toList

end StatusLine

/-! ## Lines -/

/-- A text is a line of its own, whichever line end follows it. -/
structure IsLine (text : String) : Prop where
  lineFeed : '\n' ∉ text.toList
  carriageReturn : text.toList.getLast? ≠ some '\r'

theorem cutLine_written {text : String} (h : IsLine text) {ending : Bytes}
    (hending : ending ∈ lineEnds) (rest : Bytes) :
    ∃ cut, cutLine (writtenLine ending text ++ rest) = some (cut, rest) ∧
      dropReturn cut = Utf8.ofString text := by
  have hfeed : lineFeed ∉ Utf8.ofString text := lineFeed_not_mem h.lineFeed
  unfold writtenLine
  rcases List.mem_pair.1 hending with rfl | rfl
  · have hreturn : (Utf8.ofString text).getLast? ≠ some 0x0D :=
      fun hlast => h.carriageReturn (Utf8.getLast?_of_getLast?_encode (c := '\r') (by decide) hlast)
    refine ⟨Utf8.ofString text, ?_, if_neg hreturn⟩
    rw [List.append_assoc]
    exact cutLine_append hfeed rest
  · have hfeed' : lineFeed ∉ Utf8.ofString text ++ [0x0D] := by
      rw [List.mem_append, not_or]
      exact ⟨hfeed, by decide⟩
    refine ⟨Utf8.ofString text ++ [0x0D], ?_, ?_⟩
    · rw [← cutLine_append hfeed' rest, List.append_assoc, List.append_assoc]
      rfl
    · unfold dropReturn
      rw [if_pos List.getLast?_concat, List.dropLast_concat]

theorem cutLine_lineEnd {ending : Bytes} (hending : ending ∈ lineEnds) (rest : Bytes) :
    ∃ cut, cutLine (ending ++ rest) = some (cut, rest) ∧ dropReturn cut = [] := by
  have hline : IsLine "" := ⟨by decide, by decide⟩
  exact cutLine_written hline hending rest

/-- A text that ends with a trimmed part behind a space is a line. -/
theorem isLine_of_space {text front last : String} (htext : text = front ++ " " ++ last)
    (hfront : '\n' ∉ front.toList) (hlast : '\n' ∉ last.toList)
    (htrimmed : Text.trimmed last = last) : IsLine text := by
  have hlist : text.toList = front.toList ++ ' ' :: last.toList := by
    rw [htext, String.toList_append, String.toList_append, List.append_assoc]
    rfl
  rw [← String.ofList_toList (s := text), hlist]
  constructor
  case lineFeed =>
    rw [String.toList_ofList]
    simp [hfront, hlast]
  case carriageReturn =>
    rw [String.toList_ofList]
    intro hreturn
    have hblank := Text.getLast?_append_space (Text.isTrimmed_of_trimmed htrimmed) front.toList _
      hreturn
    exact absurd hblank (by decide)

theorem isLine_header {header : String × String} (h : IsWritableHeader header) :
    IsLine (header.1 ++ ": " ++ header.2) := by
  have htext : header.1 ++ ": " ++ header.2 = header.1 ++ ":" ++ " " ++ header.2 :=
    congrArg (· ++ header.2) (@String.append_assoc header.1 ":" " ").symm
  refine isLine_of_space htext ?_ h.lineFeed_value h.trimmed_value
  rw [String.toList_append]
  simp [h.lineFeed_name]

/-! ## First lines -/

section StatusLines

variable {status : StatusLine} {first : String}

theorem isLine_of_isWritten (h : status.IsWritable) (hfirst : status.IsWritten first) :
    IsLine first := by
  have hcode : '\n' ∉ (toString status.code.toInt).toList :=
    Text.not_mem_toString (by decide) (by decide) _
  cases hfirst with
  | whole =>
    refine isLine_of_space rfl ?_ h.lineFeed_reason h.trimmed_reason
    simp only [String.toList_append, List.mem_append, not_or]
    exact ⟨⟨h.lineFeed_version, by decide⟩, hcode⟩
  | short =>
    refine isLine_of_space rfl h.lineFeed_version hcode ?_
    rw [Text.trimmed, Text.trim_toString, String.ofList_toList]

theorem read_of_isWritten (h : status.IsWritable) (hfirst : status.IsWritten first) :
    StatusLine.read first = .ok status := by
  have hcode : ' ' ∉ (toString status.code.toInt).toList :=
    Text.not_mem_toString (by decide) (by decide) _
  have hreason : String.ofList (Text.trim status.reason.toList) = status.reason := h.trimmed_reason
  have hprotocol : ∀ rest, Text.startsWith "HTTP".toList (status.version.toList ++ rest) = true :=
    fun rest => Text.startsWith_iff.2 (h.protocol.trans (List.prefix_append _ _))
  have hversion := Text.cutAt_append h.space_version
  unfold StatusLine.read
  cases hfirst with
  | whole =>
    have htext : (status.version ++ " " ++ toString status.code.toInt ++ " " ++
        status.reason).toList = status.version.toList ++
          ' ' :: ((toString status.code.toInt).toList ++ ' ' :: status.reason.toList) := by
      simp only [String.toList_append, List.append_assoc]
      rfl
    simp only [htext, hprotocol, hversion, Text.cutAt_append hcode, Text.trim_toString,
      Text.readInt32_toString, Option.map_some, String.ofList_toList, hreason, Bool.not_true,
      Bool.false_eq_true, if_false]
  | short hnone =>
    have htext : (status.version ++ " " ++ toString status.code.toInt).toList =
        status.version.toList ++ ' ' :: (toString status.code.toInt).toList := by
      simp only [String.toList_append, List.append_assoc]
      rfl
    rw [hnone] at hreason
    simp only [htext, hprotocol, hversion, Text.cutAt_eq_none hcode, Text.trim_toString,
      Text.readInt32_toString, Option.map_some, String.ofList_toList, Bool.not_true,
      Bool.false_eq_true, if_false]
    exact congrArg (fun reason => Except.ok { status with reason }) hnone.symm

end StatusLines

/-! ## Responses -/

section Responses

variable {headers : Headers} {ending : Bytes}

theorem readHeaders_written (h : ∀ header ∈ headers, header.1 ≠ "" ∧ IsWritableHeader header)
    (hending : ending ∈ lineEnds) (content : Bytes) :
    readHeaders (writtenHeaders ending headers ++ content) = (headers, content) := by
  induction headers with
  | nil =>
    obtain ⟨cut, hcut, hempty⟩ := cutLine_lineEnd hending content
    exact (readHeaders_of_cutLine hcut).trans (if_pos hempty)
  | cons header headers ih =>
    obtain ⟨hname, hheader⟩ := h header List.mem_cons_self
    obtain ⟨cut, hcut, hdrop⟩ := cutLine_written (isLine_header hheader) hending
      (writtenHeaders ending headers ++ content)
    have hbytes : writtenHeaders ending (header :: headers) ++ content =
        writtenLine ending (header.1 ++ ": " ++ header.2) ++
          (writtenHeaders ending headers ++ content) := by
      simp only [writtenHeaders, List.flatMap_cons, List.append_assoc]
    have hread : headerOfLine? (Utf8.ofString (header.1 ++ ": " ++ header.2)) = some header := by
      unfold headerOfLine?
      rw [ofLine?_written hheader, Option.filter_some, if_pos (bne_iff_ne.2 hname)]
    rw [hbytes, readHeaders_of_cutLine hcut, hdrop, if_neg ofString_header_ne_nil, hread,
      ih fun other hother => h other (List.mem_cons_of_mem _ hother)]
    rfl

/-- **Round trip.** A response is read as it was written: with its first line, its headers in their
order, and its content, which starts behind the empty line. -/
theorem read_written {status : StatusLine} {first : String} (hstatus : status.IsWritable)
    (hfirst : status.IsWritten first)
    (hheaders : ∀ header ∈ headers, header.1 ≠ "" ∧ IsWritableHeader header)
    (hending : ending ∈ lineEnds) (content : Bytes) :
    let head := writtenHead ending first headers
    Response.read (head ++ content) = .ok { status, headers, contentStart := head.length } ∧
      (head ++ content).drop head.length = content := by
  intro head
  refine ⟨?_, List.drop_left⟩
  obtain ⟨cut, hcut, hdrop⟩ := cutLine_written (isLine_of_isWritten hstatus hfirst) hending
    (writtenHeaders ending headers ++ content)
  rw [← List.append_assoc] at hcut
  have hstart : (head ++ content).length - content.length = head.length := by
    rw [List.length_append, Nat.add_sub_cancel]
  unfold Response.read
  simp only [head, writtenHead, hcut, hdrop, Utf8.toStringLossy_ofString,
    read_of_isWritten hstatus hfirst, readHeaders_written hheaders hending]
  exact congrArg (fun start => Except.ok (Response.mk status headers start)) hstart

/-- Line feeds for line ends, a negative code without a reason, a repeated header without a value,
and a content that looks like more headers. -/
theorem read_written_lookalike :
    let status : StatusLine := { version := "HTTP", code := -7, reason := "" }
    let headers : Headers := [("A b", "c: d"), ("é", ""), ("é", "")]
    let content := Utf8.ofString "\nE: f\r\n\r\n"
    let head := writtenHead [lineFeed] "HTTP -7" headers
    status.IsWritable ∧ status.IsWritten "HTTP -7" ∧
      (∀ header ∈ headers, header.1 ≠ "" ∧ IsWritableHeader header) ∧ [lineFeed] ∈ lineEnds ∧
      Response.read (head ++ content) = .ok { status, headers, contentStart := head.length } ∧
      (head ++ content).drop head.length = content := by
  intro status headers content head
  have hstatus : status.IsWritable := by
    constructor <;> decide +kernel
  have hfirst : status.IsWritten "HTTP -7" := .short rfl
  have hheaders : ∀ header ∈ headers, header.1 ≠ "" ∧ IsWritableHeader header := by
    have hplain : ∀ header ∈ headers, header.1 ≠ "" ∧ Text.trimmed header.1 = header.1 ∧
        Text.trimmed header.2 = header.2 ∧ ':' ∉ header.1.toList ∧ '\n' ∉ header.1.toList ∧
        '\n' ∉ header.2.toList := by decide +kernel
    intro header hheader
    obtain ⟨hname, htrim, htrim', hcolon, hfeed, hfeed'⟩ := hplain header hheader
    exact ⟨hname, htrim, htrim', hcolon, hfeed, hfeed'⟩
  have hending : [lineFeed] ∈ lineEnds := List.mem_cons_self
  exact ⟨hstatus, hfirst, hheaders, hending, read_written hstatus hfirst hheaders hending content⟩

end Responses

end CrawlGraph.Archive
