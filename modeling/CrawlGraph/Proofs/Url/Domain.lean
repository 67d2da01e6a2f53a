import Mathlib.Data.List.TakeWhile
import CrawlGraph.Proofs.Text.Cut
import CrawlGraph.Url.Reference

/-!
# The domain of a URL

What follows the host of a URL has no say in its domain if a scheme stands before the host. Without
one, a URL in the path or the query takes over (`domainOf_host`, `domainOf_embedded`).

1. No scheme ends within the text of a host or at the separator behind it (`after_host`), so the
   first one that ends in the text of a URL is its own or stands behind the separator.
2. The domain is the text up to the next separator, from the end of that scheme on or, if there is
   none, from the front on (`domainText_of_after`, `domainText_of_not_after`).
-/

namespace CrawlGraph.Url

/-- What a scheme ends with. -/
def schemeMark : List Char := [':', '/', '/']

/-- The text of a host: it is not empty, has no white space, slash or question mark, and does not
end with a colon. -/
structure IsHostText (host : List Char) : Prop where
  ne_nil : host ≠ []
  plain : ∀ c ∈ host, Text.isBlank c = false ∧ c ≠ '/' ∧ c ≠ '?'
  last : host.getLast? ≠ some ':'

/-- The text of a scheme: it has no white space, colon, slash or question mark. -/
def IsSchemeText (scheme : List Char) : Prop :=
  ∀ c ∈ scheme, Text.isBlank c = false ∧ c ≠ ':' ∧ c ≠ '/' ∧ c ≠ '?'

instance (host : List Char) : Decidable (IsHostText host) :=
  decidable_of_iff (host ≠ [] ∧ host.all (fun c => !Text.isBlank c && c != '/' && c != '?') ∧
      host.getLast? ≠ some ':')
    ⟨fun h => ⟨h.1, by simpa [and_assoc] using h.2.1, h.2.2⟩,
      fun h => ⟨h.ne_nil, by simpa [and_assoc] using h.plain, h.last⟩⟩

instance (scheme : List Char) : Decidable (IsSchemeText scheme) :=
  decidable_of_iff (scheme.all fun c => !Text.isBlank c && c != ':' && c != '/' && c != '?')
    (by simp [IsSchemeText, and_assoc])

theorem schemeMark_ne_nil : schemeMark ≠ [] := List.cons_ne_nil _ _

theorem isBlank_schemeMark : ∀ c ∈ schemeMark, Text.isBlank c = false := by
  intro c hc
  simp only [schemeMark, List.mem_cons, List.not_mem_nil, or_false] at hc
  rcases hc with rfl | rfl | rfl <;> decide

/-! ## Parts of a URL -/

section Parts

variable {url rest : List Char}

theorem domainText_of_after (h : Text.after schemeMark url = some rest) :
    domainText url = rest.takeWhile fun c => !(c == '/' || c == '?') := by
  have hafter : Text.after "://".toList url = some rest := h
  rw [domainText, hafter, Option.getD_some]

theorem domainText_of_not_after (h : Text.after schemeMark url = none) :
    domainText url = url.takeWhile fun c => !(c == '/' || c == '?') := by
  have hafter : Text.after "://".toList url = none := h
  rw [domainText, hafter, Option.getD_none]

theorem domainOf_of_text {domain : List Char} (hne : domain ≠ [])
    (h : domainText (Text.trim url) = domain) :
    domainOf (String.ofList url) = some (String.ofList (Text.lower domain)) := by
  unfold domainOf
  rw [String.toList_ofList, h]
  exact if_neg (by simpa using hne)

theorem domainOf_congr {other : List Char}
    (h : domainText (Text.trim url) = domainText (Text.trim other)) :
    domainOf (String.ofList url) = domainOf (String.ofList other) := by
  unfold domainOf
  rw [String.toList_ofList, String.toList_ofList, h]

end Parts

/-! ## Hosts -/

section Host

variable {host scheme : List Char} {separator : Char}

/-- No scheme ends within the text of a host or at the separator behind it. -/
theorem after_host (hslash : '/' ∉ host) (hlast : host.getLast? ≠ some ':')
    (hseparator : separator ≠ ':') (tail : List Char) :
    Text.after schemeMark (host ++ separator :: tail) = Text.after schemeMark tail := by
  induction host with
  | nil =>
    exact Text.after_cons_of_not_isPrefix fun h => hseparator (List.cons_prefix_cons.1 h).1.symm
  | cons c host ih =>
    rw [List.mem_cons, not_or] at hslash
    have hrest : host.getLast? ≠ some ':' := by
      cases host with
      | nil => simp
      | cons d host => rwa [List.getLast?_cons_cons] at hlast
    rw [List.cons_append, Text.after_cons_of_not_isPrefix, ih hslash.2 hrest]
    -- a scheme that ended here would have its first slash in the host or right behind it
    intro hmark
    obtain ⟨hcolon, hslashes⟩ := List.cons_prefix_cons.1 hmark
    cases host with
    | nil => exact hlast (congrArg some hcolon.symm)
    | cons d host =>
      obtain ⟨rfl, -⟩ := List.cons_prefix_cons.1 hslashes
      exact hslash.2 List.mem_cons_self

namespace IsHostText

variable (h : IsHostText host)

include h

theorem slash_not_mem : '/' ∉ host := fun hslash => (h.plain _ hslash).2.1 rfl

theorem isBlank : ∀ c ∈ host, Text.isBlank c = false := fun c hc => (h.plain c hc).1

theorem takeWhile_eq : host.takeWhile (fun c => !(c == '/' || c == '?')) = host :=
  List.takeWhile_eq_self_iff.2 (by simpa using fun c hc => (h.plain c hc).2)

variable (hseparator : separator = '/' ∨ separator = '?')

include hseparator

theorem takeWhile_append (tail : List Char) :
    (host ++ separator :: tail).takeWhile (fun c => !(c == '/' || c == '?')) = host := by
  rw [List.takeWhile_append_of_pos (by simpa using fun c hc => (h.plain c hc).2),
    List.takeWhile_cons_of_neg (by simpa [or_iff_not_imp_left] using hseparator), List.append_nil]

theorem trimEnd_append (tail : List Char) :
    Text.trimEnd (host ++ separator :: tail) = host ++ separator :: Text.trimEnd tail := by
  have hblank : ∀ c ∈ host ++ [separator], Text.isBlank c = false := by
    refine List.forall_mem_append.2 ⟨h.isBlank, List.forall_mem_singleton.2 ?_⟩
    rcases hseparator with rfl | rfl <;> decide
  rw [List.append_cons, Text.trimEnd_append hblank, List.append_assoc, List.singleton_append]

theorem after_append (tail : List Char) :
    Text.after schemeMark (host ++ separator :: Text.trimEnd tail) =
      (Text.after schemeMark tail).map Text.trimEnd := by
  have hcolon : separator ≠ ':' := by rcases hseparator with rfl | rfl <;> decide
  rw [after_host h.slash_not_mem h.last hcolon,
    Text.after_trimEnd schemeMark_ne_nil isBlank_schemeMark]

omit hseparator in
theorem domainOf_self : domainOf (String.ofList host) = some (String.ofList (Text.lower host)) := by
  have hnone : Text.after schemeMark host = none :=
    (Text.after_eq_none_iff schemeMark_ne_nil).2 fun hmark =>
      h.slash_not_mem (hmark.subset (by decide))
  refine domainOf_of_text h.ne_nil ?_
  rw [Text.trim_of_not_isBlank h.isBlank, domainText_of_not_after hnone, h.takeWhile_eq]

/-- Behind a scheme nothing that follows a host has a say in the domain. -/
theorem domainOf_behind_scheme (hscheme : IsSchemeText scheme) (tail : List Char) :
    domainOf (String.ofList (scheme ++ schemeMark ++ host ++ separator :: tail)) =
      some (String.ofList (Text.lower host)) := by
  have hcolon : ':' ∉ scheme := fun hmem => (hscheme _ hmem).2.1 rfl
  have hfront : ∀ c ∈ scheme ++ schemeMark, Text.isBlank c = false :=
    List.forall_mem_append.2 ⟨fun c hc => (hscheme c hc).1, isBlank_schemeMark⟩
  have htrim : Text.trim (scheme ++ schemeMark ++ host ++ separator :: tail) =
      scheme ++ (schemeMark ++ (host ++ separator :: Text.trimEnd tail)) := by
    rw [List.append_assoc _ host, Text.trim_append (by simp [schemeMark]) hfront,
      h.trimEnd_append hseparator, List.append_assoc]
  have hafter : Text.after schemeMark
      (scheme ++ (schemeMark ++ (host ++ separator :: Text.trimEnd tail))) =
        some (host ++ separator :: Text.trimEnd tail) := by
    rw [schemeMark, Text.after_append_of_not_mem hcolon, ← schemeMark,
      Text.after_append_self schemeMark_ne_nil]
  refine domainOf_of_text h.ne_nil ?_
  rw [htrim, domainText_of_after hafter, h.takeWhile_append hseparator]

end IsHostText

end Host

/-- **Domains.** The text of a host is its own domain, and behind a scheme it is the domain of the
URL whatever follows it. Without a scheme it is the domain as long as none ends in what follows; if
one does, the domain is that of what stands behind the first one. -/
theorem domainOf_host (host tail : List Char) (separator : Char) (hhost : IsHostText host)
    (hseparator : separator = '/' ∨ separator = '?') :
    domainOf (String.ofList host) = some (String.ofList (Text.lower host)) ∧
      (∀ scheme, IsSchemeText scheme →
        domainOf (String.ofList (scheme ++ schemeMark ++ host ++ separator :: tail)) =
          some (String.ofList (Text.lower host))) ∧
      (¬schemeMark <:+: tail →
        domainOf (String.ofList (host ++ separator :: tail)) =
          some (String.ofList (Text.lower host))) ∧
      ∀ rest, Text.after schemeMark tail = some rest →
        domainOf (String.ofList (host ++ separator :: tail)) =
          domainOf (String.ofList (schemeMark ++ rest)) := by
  have htrim : Text.trim (host ++ separator :: tail) = host ++ separator :: Text.trimEnd tail := by
    rw [Text.trim_append hhost.ne_nil hhost.isBlank, ← Text.trimEnd_append hhost.isBlank,
      hhost.trimEnd_append hseparator]
  have hafter := hhost.after_append hseparator tail
  refine ⟨hhost.domainOf_self, fun scheme hscheme => ?_, fun hnone => ?_, fun rest hrest => ?_⟩
  · exact hhost.domainOf_behind_scheme hseparator hscheme tail
  · rw [← Text.after_eq_none_iff schemeMark_ne_nil] at hnone
    rw [hnone] at hafter
    refine domainOf_of_text hhost.ne_nil ?_
    rw [htrim, domainText_of_not_after hafter, hhost.takeWhile_append hseparator]
  · rw [hrest] at hafter
    refine domainOf_congr ?_
    rw [htrim, domainText_of_after hafter, Text.trim_append schemeMark_ne_nil isBlank_schemeMark,
      domainText_of_after (Text.after_append_self schemeMark_ne_nil _)]

/-- A host with a port and with credentials, and a query that holds a URL. -/
theorem domainOf_host_credentials :
    let host := "Me@A.example:80".toList
    let plain := "to=b.example".toList
    let tail := "to=http://b.example/ ".toList
    IsHostText host ∧ IsSchemeText "HTTP".toList ∧ ¬schemeMark <:+: plain ∧
      domainOf (String.ofList host) = some "me@a.example:80" ∧
      domainOf (String.ofList ("HTTP".toList ++ schemeMark ++ host ++ '?' :: tail)) =
        some "me@a.example:80" ∧
      domainOf (String.ofList (host ++ '?' :: plain)) = some "me@a.example:80" ∧
      domainOf (String.ofList (host ++ '?' :: tail)) =
        domainOf (String.ofList (schemeMark ++ "b.example/ ".toList)) := by
  intro host plain tail
  have hhost : IsHostText host := by decide +kernel
  have hscheme : IsSchemeText "HTTP".toList := by decide +kernel
  have hplain : ¬schemeMark <:+: plain := by decide +kernel
  have hlower : String.ofList (Text.lower host) = "me@a.example:80" := by decide +kernel
  obtain ⟨-, -, hnone, -⟩ := domainOf_host host plain '?' hhost (.inr rfl)
  obtain ⟨hself, hbehind, -, hrest⟩ := domainOf_host host tail '?' hhost (.inr rfl)
  rw [hlower] at hself hbehind hnone
  exact ⟨hhost, hscheme, hplain, hself, hbehind _ hscheme, hnone hplain,
    hrest _ (by decide +kernel)⟩

/-- The domain of a URL without a scheme whose query holds a URL is that of the other URL. -/
theorem domainOf_embedded :
    let host := "a.example".toList
    let tail := "r?to=http://b.example/".toList
    IsHostText host ∧
      domainOf (String.ofList (host ++ '/' :: tail)) ≠ some (String.ofList (Text.lower host)) ∧
      domainOf (String.ofList (host ++ '/' :: tail)) = some "b.example" := by
  exact ⟨by decide +kernel, by decide +kernel, by decide +kernel⟩

end CrawlGraph.Url
