import CrawlGraph.Proofs.Url.HostName
import CrawlGraph.Seeds

/-!
# Seeds without a scheme

A line that is the name of a host, alone or with a path behind it, is a seed with `http://` in
front. With a port behind the name it stays as it is (`ofLine_line`, `ofLine_port`).
-/

namespace CrawlGraph.Seeds

open Url (HostName IsPathText)

variable {line : String}

theorem ofLine_of_isAbsolute (h : Url.isAbsolute line = true) : ofLine line = some line := by
  unfold ofLine
  rw [if_pos h]

theorem ofLine_of_hosted (h : Url.isAbsolute line = false)
    (hhosted : Url.isAbsolute ("http://" ++ line) = true) :
    ofLine line = some ("http://" ++ line) := by
  unfold ofLine
  rw [h, if_neg Bool.false_ne_true]
  exact if_pos hhosted

theorem ofLine_line_none (host : HostName) {path : List Char} (hpath : IsPathText path) :
    ofLine (host.line none path) = some ("http://" ++ host.line none path) := by
  obtain ⟨url, hurl, -⟩ := Url.hasUrl_line host none hpath (by simp)
  refine ofLine_of_hosted ?_ ?_
  · rw [Url.isAbsolute, Url.parse?_line_none host hpath, Option.isSome_none]
  · rw [Url.isAbsolute, hurl, Option.isSome_some]

/-- **Seeds.** A line that is the name of a host, alone or with a path, is a seed with `http://` in
front, which is a URL of that host. With a port it is a seed as it stands, which is a URL without a
host that has the name for its scheme, although with `http://` in front it would be one of the host.
-/
theorem ofLine_line (host : HostName) (port : ℕ) (path : List Char) (hport : port ≤ 65535)
    (hpath : IsPathText path) :
    let name := String.ofList host.text
    let line := host.line none path
    let withPort := host.line (some port) path
    (ofLine name = some ("http://" ++ name) ∧ host.HasUrl none ("http://" ++ name)) ∧
      (ofLine line = some ("http://" ++ line) ∧ host.HasUrl none ("http://" ++ line)) ∧
      (ofLine withPort = some withPort ∧ host.HasUrl (some port) ("http://" ++ withPort)) ∧
      ∃ url, Url.parse? withPort = some url ∧
        url.scheme = String.ofList (Text.lower host.text) ∧ url.authority = none := by
  intro name line withPort
  have hempty : IsPathText [] := ⟨by simp, by simp⟩
  have hname : name = host.line none [] := by
    show name = name ++ "" ++ ""
    rw [String.append_empty, String.append_empty]
  obtain ⟨url, hurl, hscheme, hauthority⟩ := Url.parse?_line_some host hpath port
  have habsolute : Url.isAbsolute withPort = true := by
    rw [Url.isAbsolute, hurl, Option.isSome_some]
  refine ⟨?_, ?_, ?_, url, hurl, hscheme, hauthority⟩
  · rw [hname]
    exact ⟨ofLine_line_none host hempty, Url.hasUrl_line host none hempty (by simp)⟩
  · exact ⟨ofLine_line_none host hpath, Url.hasUrl_line host none hpath (by simp)⟩
  · exact ⟨ofLine_of_isAbsolute habsolute, Url.hasUrl_line host (some port) hpath (by simpa)⟩

/-- A host with capitals, a port, and a path with an empty segment. -/
theorem ofLine_line_three :
    let host : HostName := ⟨["www".toList, "Example".toList, "com".toList], by decide, by simp⟩
    let path := "/a//B".toList
    8080 ≤ 65535 ∧ IsPathText path ∧
      ofLine "www.Example.com" = some "http://www.Example.com" ∧
      ofLine "www.Example.com/a//B" = some "http://www.Example.com/a//B" ∧
      ofLine "www.Example.com:8080/a//B" = some "www.Example.com:8080/a//B" ∧
      host.HasUrl (some 8080) "http://www.Example.com:8080/a//B" := by
  intro host path
  have hpath : IsPathText path := ⟨by simp [path], by simp [path]⟩
  obtain ⟨⟨hname, -⟩, ⟨hline, -⟩, ⟨hport, hurl⟩, -⟩ := ofLine_line host 8080 path (by decide) hpath
  exact ⟨by decide, hpath, hname, hline, hport, hurl⟩

/-- The line of a host and a port gets no scheme. -/
theorem ofLine_port :
    let host : HostName := ⟨["example".toList, "com".toList], by decide, by simp⟩
    host.line (some 8080) [] = "example.com:8080" ∧
      ofLine "example.com:8080" ≠ some "http://example.com:8080" ∧
      ofLine "example.com:8080" = some "example.com:8080" := by
  intro host
  exact ⟨by decide +kernel, by decide +kernel, by decide +kernel⟩

end CrawlGraph.Seeds
