import CrawlGraph.Proofs.Text.Ascii
import CrawlGraph.Proofs.Text.Number
import CrawlGraph.Proofs.Text.Utf8
import CrawlGraph.Url.Reference

/-!
# URLs of host names

What is read from a line that starts with the name of a host: with `http://` in front it is a URL of
that host (`hasUrl_line`). On its own it is none (`parse?_line_none`), unless a colon follows the
name: then the name is taken for a scheme (`parse?_line_some`).

1. A name of labels of letters stands for itself, in small letters, and is no address
   (`readDomainHost_text`).
2. The host ends where a port or a path starts (`spanHost_append`), and the port where a path starts
   (`readPort_toDigits`).
-/

namespace CrawlGraph.Url

/-- The name of a host: two or more labels of ASCII letters, with dots between them. -/
structure HostName where
  labels : List (List Char)
  two_le_length : 2 ≤ labels.length
  letters : ∀ label ∈ labels, label ≠ [] ∧ ∀ c ∈ label, c.isAlpha = true

/-- The text of a path: letters and slashes, with a slash in front if there are any. -/
structure IsPathText (path : List Char) : Prop where
  plain : ∀ c ∈ path, c.isAlpha = true ∨ c = '/'
  head : ∀ c ∈ path.head?, c = '/'

/-- Letters, digits and the marks of a URL between them. -/
def isPlain (c : Char) : Bool := c.isAlphanum || c == '.' || c == ':' || c == '/'

theorem lt_toNat_of_isPlain {c : Char} (h : isPlain c = true) : 0x20 < c.toNat := by
  simp only [isPlain, Char.isAlphanum, Bool.or_eq_true, beq_iff_eq] at h
  obtain ((((halpha | hdigit) | rfl) | rfl) | rfl) := h
  · have hrange := Text.toNat_of_isAlpha halpha
    omega
  · obtain ⟨hlow, -⟩ : 48 ≤ c.toNat ∧ c.toNat ≤ 57 := by
      simpa [Char.isDigit, UInt32.le_iff_toNat_le] using hdigit
    omega
  all_goals decide

theorem isPlain_of_isAlpha {c : Char} (h : c.isAlpha = true) : isPlain c = true := by
  simp [isPlain, Char.isAlphanum, h]

theorem isPlain_of_isDigit {c : Char} (h : c.isDigit = true) : isPlain c = true := by
  simp [isPlain, Char.isAlphanum, h]

namespace IsPathText

variable {path : List Char} (h : IsPathText path)

include h

theorem isPlain_of_mem {c : Char} (hc : c ∈ path) : isPlain c = true := by
  rcases h.plain c hc with halpha | rfl
  · exact isPlain_of_isAlpha halpha
  · decide

theorem cases : path = [] ∨ ∃ rest, path = '/' :: rest := by
  cases path with
  | nil => exact .inl rfl
  | cons c rest => exact .inr ⟨rest, by rw [h.head c rfl]⟩

end IsPathText

/-! ## Names of hosts -/

theorem percentDecode_of_not_mem {cs : List Char} (h : '%' ∉ cs) :
    percentDecode cs = Utf8.encode cs := by
  induction cs with
  | nil =>
    rw [percentDecode]
    rfl
  | cons c cs ih =>
    rw [List.mem_cons, not_or] at h
    rw [percentDecode, ih h.2, Utf8.encode_cons]
    exact fun _ _ _ hc _ => h.1 hc.symm

namespace HostName

/-- The text of a name. -/
def text (host : HostName) : List Char := ['.'].intercalate host.labels

/-- The labels of a name in small letters. -/
def smallLabels (host : HostName) : List (List Char) := host.labels.map Text.lower

variable (host : HostName)

theorem isAlpha_or_of_mem {c : Char} (h : c ∈ host.text) : c.isAlpha = true ∨ c = '.' := by
  rcases Text.of_mem_intercalate h with hdot | ⟨label, hlabel, hc⟩
  · exact .inr hdot
  · exact .inl ((host.letters label hlabel).2 c hc)

theorem isPlain_of_mem {c : Char} (h : c ∈ host.text) : isPlain c = true := by
  rcases host.isAlpha_or_of_mem h with halpha | rfl
  · exact isPlain_of_isAlpha halpha
  · decide

/-- Other marks than the dot are not in a name. -/
theorem not_mem_text {c : Char} (halpha : c.isAlpha = false) (hdot : c ≠ '.') : c ∉ host.text := by
  intro hc
  rcases host.isAlpha_or_of_mem hc with h | h
  · exact Text.ne_of_isAlpha h halpha rfl
  · exact hdot h

theorem labels_eq : ∃ first second rest, host.labels = first :: second :: rest := by
  obtain ⟨labels, hlength, -⟩ := host
  match labels, hlength with
  | first :: second :: rest, _ => exact ⟨first, second, rest, rfl⟩

/-- A name starts with a letter, and has a dot. -/
theorem text_eq : ∃ c rest, host.text = c :: rest ∧ c.isAlpha = true ∧ '.' ∈ rest := by
  obtain ⟨first, second, rest, hlabels⟩ := host.labels_eq
  obtain ⟨hne, hletters⟩ := host.letters first (hlabels ▸ List.mem_cons_self)
  obtain ⟨c, first, rfl⟩ := List.exists_cons_of_ne_nil hne
  refine ⟨c, first ++ ['.'] ++ ['.'].intercalate (second :: rest), ?_,
    hletters c List.mem_cons_self, by simp⟩
  rw [text, hlabels, List.intercalate_cons_of_ne_nil (List.cons_ne_nil _ _)]
  rfl

theorem lower_text : Text.lower host.text = ['.'].intercalate host.smallLabels := by
  unfold text smallLabels
  induction host.labels with
  | nil => rfl
  | cons label labels ih =>
    by_cases hnil : labels = []
    · rw [hnil, List.map_singleton, List.intercalate_singleton, List.intercalate_singleton]
    · rw [List.map_cons, List.intercalate_cons_of_ne_nil hnil,
        List.intercalate_cons_of_ne_nil (by simpa using hnil), ← ih]
      unfold Text.lower
      rw [List.map_append, List.map_append]
      rfl

theorem letters_smallLabels :
    ∀ label ∈ host.smallLabels, label ≠ [] ∧ ∀ c ∈ label, c.isAlpha = true := by
  intro _ hsmall
  obtain ⟨label, hlabel, rfl⟩ := List.mem_map.1 hsmall
  obtain ⟨hne, hletters⟩ := host.letters label hlabel
  refine ⟨by simpa [Text.lower] using hne, fun _ hc => ?_⟩
  obtain ⟨c, hmem, rfl⟩ := List.mem_map.1 hc
  rw [Char.isAlpha_toLower_eq_isAlpha, hletters c hmem]

theorem splitOnP_lower_text : (Text.lower host.text).splitOnP (· == '.') = host.smallLabels := by
  rw [lower_text, ← List.splitOn_eq_splitOnP]
  refine List.splitOn_intercalate _ ?_ ?_
  · intro label hlabel hdot
    exact Text.ne_of_isAlpha ((host.letters_smallLabels label hlabel).2 _ hdot) (by decide) rfl
  · obtain ⟨_, _, _, hlabels⟩ := host.labels_eq
    simp [smallLabels, hlabels]

theorem mem_lower_text {c : Char} (h : c ∈ Text.lower host.text) : c.isAlpha = true ∨ c = '.' := by
  rw [lower_text] at h
  rcases Text.of_mem_intercalate h with hdot | ⟨label, hlabel, hc⟩
  · exact .inr hdot
  · exact .inl ((host.letters_smallLabels label hlabel).2 c hc)

/-! ### Domain names -/

theorem isPlainDomain_text : isPlainDomain host.text = true := by
  have hascii : isAscii host.text = true := by
    refine List.all_eq_true.2 fun c hc => decide_eq_true ?_
    rcases host.isAlpha_or_of_mem hc with halpha | rfl
    · have hrange := Text.toNat_of_isAlpha halpha
      omega
    · decide
  unfold isPlainDomain Url.labels
  rw [hascii, splitOnP_lower_text, Bool.true_and, List.all_eq_true]
  intro label hlabel
  rw [Bool.not_eq_true', Bool.eq_false_iff]
  intro hstart
  have hhyphen : '-' ∈ label := (Text.startsWith_iff.1 hstart).subset (by decide)
  exact Text.ne_of_isAlpha ((host.letters_smallLabels label hlabel).2 _ hhyphen) (by decide) rfl

theorem domainToAscii_text : domainToAscii host.text = some (Text.lower host.text) := by
  have hallowed : (Text.lower host.text).any forbiddenInDomain = false := by
    have hmarks : ∀ mark ∈ "#%/:<>?@[\\]^|".toList, mark.isAlpha = false := by simp
    rw [List.any_eq_false]
    intro c hc
    rcases host.mem_lower_text hc with halpha | rfl
    · have hrange := Text.toNat_of_isAlpha halpha
      have hnot : c ∉ "#%/:<>?@[\\]^|".toList :=
        fun hmark => Text.ne_of_isAlpha halpha (hmarks c hmark) rfl
      simp only [forbiddenInDomain, Bool.or_eq_true, decide_eq_true_eq, beq_iff_eq,
        List.contains_iff_mem, not_or]
      exact ⟨by omega, hnot⟩
    · decide
  unfold domainToAscii
  simp only [host.isPlainDomain_text, if_true, Option.bind_eq_bind, Option.bind_some, hallowed,
    Bool.false_eq_true, if_false]

/-! ### Addresses -/

theorem le_of_hexValue? {c : Char} (h : c.isAlpha = true) {n : ℕ} (hvalue : hexValue? c = some n) :
    10 ≤ n := by
  unfold hexValue? at hvalue
  rw [Text.isDigit_of_isAlpha h, if_neg Bool.false_ne_true] at hvalue
  split at hvalue
  · cases hvalue
    exact Nat.le_add_left _ _
  · split at hvalue
    · cases hvalue
      exact Nat.le_add_left _ _
    · cases hvalue

/-- A letter in front makes a label no number. -/
theorem readIpv4Number_of_isAlpha {c : Char} (h : c.isAlpha = true) (cs : List Char) :
    readIpv4Number (c :: cs) = none := by
  have hzero : c ≠ '0' := Text.ne_of_isAlpha h (by decide)
  have hdecimal : readIpv4Number (c :: cs) = readDigits 10 (c :: cs) := by
    unfold readIpv4Number
    split <;> simp_all
  rw [hdecimal, readDigits, List.foldlM_cons]
  cases hvalue : hexValue? c with
  | none => rfl
  | some n =>
    have hlarge := le_of_hexValue? h hvalue
    rw [Option.bind_some, if_neg (by omega)]
    rfl

theorem hostLabels_text : hostLabels (Text.lower host.text) = host.smallLabels := by
  unfold hostLabels
  simp only [host.splitOnP_lower_text]
  refine if_neg ?_
  rw [beq_iff_eq]
  intro hlast
  exact (host.letters_smallLabels [] (List.mem_of_getLast? hlast)).1 rfl

theorem endsInNumber_text : endsInNumber (Text.lower host.text) = false := by
  unfold endsInNumber
  rw [hostLabels_text]
  split
  · rfl
  · rename_i label hlast
    obtain ⟨hne, hletters⟩ := host.letters_smallLabels label (List.mem_of_getLast? hlast)
    obtain ⟨c, cs, rfl⟩ := List.exists_cons_of_ne_nil hne
    have halpha := hletters c List.mem_cons_self
    rw [readIpv4Number_of_isAlpha halpha, List.all_cons, Text.isDigit_of_isAlpha halpha]
    rfl

/-- A name stands for itself, in small letters. -/
theorem readDomainHost_text :
    readDomainHost host.text = some (.name (String.ofList (Text.lower host.text))) := by
  obtain ⟨c, rest, htext, halpha, -⟩ := host.text_eq
  have hbracket : readBracketed host.text = none := by
    rw [htext]
    unfold readBracketed
    split
    · rename_i cs heq
      cases heq
      exact absurd halpha (by decide)
    · rfl
  have hne : (Text.lower host.text).isEmpty = false := by
    rw [htext]
    rfl
  have hdecode := percentDecode_of_not_mem (host.not_mem_text (c := '%') (by decide) (by decide))
  unfold readDomainHost
  rw [hbracket]
  simp only [hdecode, Utf8.decode?_encode, host.domainToAscii_text,
    Option.bind_eq_bind, Option.bind_some, hne, host.endsInNumber_text, Bool.false_eq_true,
    if_false]

end HostName

/-! ## Ports -/

theorem spanHost_append {special : Bool} {front rest : List Char}
    (hfront : ∀ c ∈ front, c ∉ [':', '/', '?', '#', '\\', '['])
    (hrest : spanHost special false rest = ([], rest)) :
    spanHost special false (front ++ rest) = (front, rest) := by
  induction front with
  | nil => exact hrest
  | cons c front ih =>
    rw [List.forall_mem_cons] at hfront
    obtain ⟨hc, hfront⟩ := hfront
    simp only [List.mem_cons, List.not_mem_nil, or_false, not_or] at hc
    obtain ⟨hcolon, hslash, hquestion, hhash, hback, hbracket⟩ := hc
    have hinside : (c == '[') = false := beq_eq_false_iff_ne.2 hbracket
    rw [List.cons_append]
    simp [spanHost, hcolon, hslash, hquestion, hhash, hback, hinside, ih hfront]

/-- The port as it stands behind a host. -/
def portText : Option ℕ → List Char
  | none => []
  | some port => ':' :: Nat.toDigits 10 port

theorem isPlain_of_mem_portText {port : Option ℕ} {c : Char} (h : c ∈ portText port) :
    isPlain c = true := by
  cases port with
  | none => cases h
  | some port =>
    rcases List.mem_cons.1 h with rfl | h
    · decide
    · exact isPlain_of_isDigit (Text.isDigit_toDigits c h)

section Path

variable {path : List Char} (hpath : IsPathText path)

include hpath

theorem spanHost_portText (port : Option ℕ) :
    spanHost true false (portText port ++ path) = ([], portText port ++ path) := by
  cases port with
  | some port => rfl
  | none =>
    obtain rfl | ⟨rest, rfl⟩ := hpath.cases
    · rfl
    · rfl

theorem readPort_toDigits {port : ℕ} (hport : port ≤ 65535) (default : Option ℕ) :
    readPort default (Nat.toDigits 10 port ++ path) =
      some (if some port = default then none else some port, path) := by
  have htake : (Nat.toDigits 10 port ++ path).takeWhile Char.isDigit = Nat.toDigits 10 port := by
    rw [List.takeWhile_append_of_pos Text.isDigit_toDigits]
    obtain rfl | ⟨rest, rfl⟩ := hpath.cases
    · rw [List.takeWhile_nil, List.append_nil]
    · rw [List.takeWhile_cons_of_neg (by decide), List.append_nil]
  have hdrop : (Nat.toDigits 10 port ++ path).dropWhile Char.isDigit = path := by
    rw [List.dropWhile_append_of_pos Text.isDigit_toDigits]
    obtain rfl | ⟨rest, rfl⟩ := hpath.cases
    · rfl
    · rw [List.dropWhile_cons_of_neg (by decide)]
  unfold readPort
  simp only [htake, hdrop, Text.digits?_toDigits]
  obtain rfl | ⟨rest, rfl⟩ := hpath.cases
  · simp [Nat.not_lt.2 hport]
  · simp [Nat.not_lt.2 hport]

end Path

/-! ## Lines -/

theorem readCredentials_of_not_mem {cs : List Char} (h : '@' ∉ cs) (special : Bool) :
    readCredentials special cs = some ([], [], cs) := by
  have hnone : Text.cutAt '@' (authorityText special cs).reverse = none := by
    refine Text.cutAt_eq_none fun hmem => h ?_
    exact (List.takeWhile_prefix _).subset (List.mem_reverse.1 hmem)
  unfold readCredentials
  simp only [hnone]

theorem significant_of_isPlain {cs : List Char} (h : ∀ c ∈ cs, isPlain c = true) :
    significant cs = cs := by
  have hlarge : ∀ c ∈ cs, decide (c.toNat ≤ 0x20) = false :=
    fun c hc => decide_eq_false (Nat.not_le.2 (lt_toNat_of_isPlain (h c hc)))
  unfold significant
  simp only
  rw [Text.dropWhile_of_head? fun c hc => hlarge c (List.mem_of_mem_head? hc),
    Text.reverse_dropWhile_of_getLast? fun c hc => hlarge c (List.mem_of_mem_getLast? hc),
    List.filter_eq_self]
  intro c hc
  have hlarge := lt_toNat_of_isPlain (h c hc)
  simp only [Bool.not_eq_true', Bool.or_eq_false_iff, beq_eq_false_iff_ne]
  refine ⟨⟨?_, ?_⟩, ?_⟩ <;> rintro rfl <;> exact absurd hlarge (by decide)

theorem readScheme_append {scheme : List Char} {first : Char} {more : List Char}
    (hfirst : scheme = first :: more) (halpha : first.isAlpha = true)
    (h : ∀ c ∈ scheme, (c.isAlphanum || c == '+' || c == '-' || c == '.') = true)
    (rest : List Char) :
    readScheme (scheme ++ ':' :: rest) = some (String.ofList (Text.lower scheme), rest) := by
  have hcolon : ':' ∉ scheme := fun hmem => absurd (h _ hmem) (by decide)
  have hcut := Text.cutAt_append hcolon rest
  have hall := List.all_eq_true.2 h
  subst hfirst
  unfold readScheme
  rw [List.cons_append] at hcut ⊢
  simp only [hcut, halpha, hall, Bool.and_self, if_true]

/-- No scheme that has a meaning of its own has a dot. -/
theorem schemeKind_of_dot {scheme : String} (h : '.' ∈ scheme.toList) :
    schemeKind scheme = .other := by
  have hne : ∀ other : String, '.' ∉ other.toList → scheme ≠ other := by
    rintro _ hother rfl
    exact hother h
  unfold schemeKind
  rw [if_neg (hne "file" (by simp)), if_neg]
  simp [hne "http" (by simp), hne "https" (by simp), hne "ws" (by simp), hne "wss" (by simp),
    hne "ftp" (by simp)]

section Line

variable (host : HostName) (port : Option ℕ) {path : List Char} (hpath : IsPathText path)

/-- The line of a host with a port and a path. -/
def HostName.line (host : HostName) (port : Option ℕ) (path : List Char) : String :=
  String.ofList host.text ++ (port.map fun port => ":" ++ ToString.toString port).getD "" ++
    String.ofList path

theorem HostName.toList_line (path : List Char) :
    (host.line port path).toList = host.text ++ portText port ++ path := by
  have hport : ((port.map fun port => ":" ++ ToString.toString port).getD "").toList =
      portText port := by
    cases port with
    | none => rfl
    | some port =>
      show (":" ++ port.repr).toList = ':' :: Nat.toDigits 10 port
      rw [String.toList_append, Nat.toList_repr]
      rfl
  unfold HostName.line
  rw [String.toList_append, String.toList_append, String.toList_ofList, String.toList_ofList, hport]

/-- A text is a URL of a host, with a port unless it is the one that goes without saying. -/
def HostName.HasUrl (text : String) : Prop :=
  ∃ url, parse? text = some url ∧ url.scheme = "http" ∧
    url.authority = some
      { user := [], password := [], host := some (.name (String.ofList (Text.lower host.text)))
        port := port.filter fun port => port ≠ 80 }

include hpath

theorem isPlain_of_mem_line {c : Char} (hc : c ∈ (host.line port path).toList) :
    isPlain c = true := by
  rw [host.toList_line, List.mem_append, List.mem_append] at hc
  rcases hc with (hc | hc) | hc
  · exact host.isPlain_of_mem hc
  · exact isPlain_of_mem_portText hc
  · exact hpath.isPlain_of_mem hc

/-- What a scheme of servers reads from the line of a host: its name and its port. -/
theorem readAuthority_line (hport : ∀ port' ∈ port, port' ≤ 65535) (scheme : String) :
    ∃ url, readAuthority .hosted scheme (host.line port path).toList = some url ∧
      url.scheme = scheme ∧
      url.authority = some
        { user := [], password := [], host := some (.name (String.ofList (Text.lower host.text)))
          port := port.filter fun port => some port ≠ defaultPort scheme } := by
  have hcredentials := readCredentials_of_not_mem
    (fun hat => absurd (isPlain_of_mem_line host port hpath hat) (by decide)) true
  have hspan : spanHost true false (host.line port path).toList =
      (host.text, portText port ++ path) := by
    rw [host.toList_line, List.append_assoc]
    have hmarks : ∀ mark ∈ [':', '/', '?', '#', '\\', '['], mark.isAlpha = false ∧ mark ≠ '.' := by
      simp
    refine spanHost_append (fun c hc hmark => ?_) (spanHost_portText hpath port)
    exact host.not_mem_text (hmarks c hmark).1 (hmarks c hmark).2 hc
  have hne : host.text.isEmpty = false := by
    obtain ⟨c, rest, htext, -⟩ := host.text_eq
    rw [htext]
    rfl
  have hspecial : SchemeKind.hosted.isSpecial = true := rfl
  unfold readAuthority
  simp only [hspecial, hcredentials, Option.bind_eq_bind, Option.bind_some, hspan, if_true, hne,
    host.readDomainHost_text, Option.map_some, Bool.false_eq_true, if_false]
  cases port with
  | none =>
    obtain rfl | ⟨rest, rfl⟩ := hpath.cases
    · exact ⟨_, rfl, rfl, rfl⟩
    · exact ⟨_, rfl, rfl, rfl⟩
  | some port =>
    simp only [portText, List.cons_append, readPort_toDigits hpath (hport port rfl),
      Option.bind_some, Option.isNone_some, Bool.false_and, Bool.false_eq_true, if_false]
    have hfilter : (if some port = defaultPort scheme then none else some port) =
        (some port).filter fun port => some port ≠ defaultPort scheme := by
      rw [Option.filter_some]
      by_cases hdefault : some port = defaultPort scheme
      · simp [hdefault]
      · simp [hdefault]
    rw [hfilter]
    exact ⟨_, rfl, rfl, rfl⟩

/-- With `http://` in front, the line of a host is a URL of that host. -/
theorem hasUrl_line (hport : ∀ port' ∈ port, port' ≤ 65535) :
    host.HasUrl port ("http://" ++ host.line port path) := by
  set http := ['h', 't', 't', 'p'] with hhttp
  set rest := '/' :: '/' :: (host.line port path).toList with hrest
  have hline : ("http://" ++ host.line port path).toList = http ++ ':' :: rest := by
    rw [String.toList_append]
    rfl
  have hsignificant : significant (http ++ ':' :: rest) = http ++ ':' :: rest := by
    have hfront : ∀ c ∈ "http://".toList, isPlain c = true := by simp [isPlain, Char.isAlphanum]
    rw [← hline, String.toList_append]
    refine significant_of_isPlain (List.forall_mem_append.2 ⟨hfront, fun c => ?_⟩)
    exact isPlain_of_mem_line host port hpath
  have hscheme : readScheme (http ++ ':' :: rest) = some ("http", rest) :=
    readScheme_append hhttp (by decide) (by simp [hhttp]) rest
  have hslashes : rest.drop (rest.takeWhile isSlash).length = (host.line port path).toList := by
    obtain ⟨c, more, htext, halpha, -⟩ := host.text_eq
    have hline : (host.line port path).toList = c :: (more ++ portText port ++ path) := by
      rw [host.toList_line, htext]
      rfl
    have hslash : isSlash c = false := by
      simp [isSlash, Text.ne_of_isAlpha halpha]
    rw [hrest, hline, List.takeWhile_cons_of_pos rfl, List.takeWhile_cons_of_pos rfl,
      List.takeWhile_cons_of_neg (by simp [hslash])]
    rfl
  have hkind : schemeKind "http" = .hosted := by decide
  obtain ⟨url, hread, hurl, hauthority⟩ := readAuthority_line host port hpath hport "http"
  refine ⟨url, ?_, hurl, ?_⟩
  · unfold parse? read
    rw [hline, hsignificant]
    simp only [hscheme, hkind, Option.filter_none, hslashes, hread]
  · rw [hauthority]
    simp [defaultPort]

/-- On its own the line of a host without a port is no URL. -/
theorem parse?_line_none : parse? (host.line none path) = none := by
  have hsignificant := significant_of_isPlain fun c => isPlain_of_mem_line host none hpath
  have hcolon : ':' ∉ (host.line none path).toList := by
    rw [host.toList_line, portText, List.append_nil, List.mem_append, not_or]
    refine ⟨host.not_mem_text (by decide) (by decide), fun hmem => ?_⟩
    exact absurd (hpath.plain _ hmem) (by decide)
  have hscheme : readScheme (host.line none path).toList = none := by
    unfold readScheme
    rw [Text.cutAt_eq_none hcolon]
    split
    · rename_i hcut
      cases hcut
    · rfl
  unfold parse? read
  rw [hsignificant]
  simp only [hscheme]

/-- With a port it is one, but the name of the host is its scheme. -/
theorem parse?_line_some (port : ℕ) :
    ∃ url, parse? (host.line (some port) path) = some url ∧
      url.scheme = String.ofList (Text.lower host.text) ∧ url.authority = none := by
  have hsignificant := significant_of_isPlain fun c => isPlain_of_mem_line host (some port) hpath
  have hscheme : readScheme (host.line (some port) path).toList =
      some (String.ofList (Text.lower host.text), Nat.toDigits 10 port ++ path) := by
    obtain ⟨c, more, htext, halpha, -⟩ := host.text_eq
    rw [host.toList_line, portText, List.append_assoc, List.cons_append]
    refine readScheme_append htext halpha (fun c hc => ?_) _
    rcases host.isAlpha_or_of_mem hc with halpha | rfl
    · simp [Char.isAlphanum, halpha]
    · rfl
  have hkind : schemeKind (String.ofList (Text.lower host.text)) = .other := by
    obtain ⟨c, more, htext, -, hdot⟩ := host.text_eq
    refine schemeKind_of_dot ?_
    rw [String.toList_ofList, htext]
    exact List.mem_cons_of_mem _ (List.mem_map_of_mem (f := Char.toLower) hdot)
  have hother : ∃ url, readOther (String.ofList (Text.lower host.text))
      (Nat.toDigits 10 port ++ path) = some url ∧
        url.scheme = String.ofList (Text.lower host.text) ∧ url.authority = none := by
    obtain ⟨d, digits, hdigits⟩ : ∃ d digits, Nat.toDigits 10 port = d :: digits :=
      List.exists_cons_of_ne_nil Nat.toDigits_ne_nil
    have hslash : d ≠ '/' := by
      rintro rfl
      have hdigit := Text.isDigit_toDigits '/' (hdigits ▸ List.mem_cons_self)
      exact absurd hdigit (by decide)
    rw [hdigits, List.cons_append]
    unfold readOther
    split
    · rename_i heq
      exact absurd (List.cons.inj heq).1 hslash
    · rename_i heq
      exact absurd (List.cons.inj heq).1 hslash
    · exact ⟨_, rfl, rfl, rfl⟩
  unfold parse? read
  rw [hsignificant]
  simp only [hscheme, hkind]
  exact hother

end Line

end CrawlGraph.Url
