import Mathlib
import CrawlGraph.Proofs.Graph.DomainLinks
import CrawlGraph.Proofs.Graph.References
import CrawlGraph.Proofs.Query.Saved
import CrawlGraph.Proofs.Text.Cut

/-!
# Searches

A search of a saved graph gives the URLs that its filter accepts, each once and in the order of
their identifiers (`searches_of_save`).

1. A filter accepts a node if each of its lists that is not empty has an entry that fits the node
   (`isMatch_iff`). So it accepts what the filters made of its single lists accept
   (`accepts_iff`), and still accepts a node after entries have been added to a list that was not
   empty (`Accepts.of_widens`).
2. The name of a domain is in small letters, so a search for it compares it, without the white space
   at its ends, with the names of the domains of the URLs (`accepts_name_iff`). A name without such
   white space gives the URLs of its own domain; one with it gives those of another domain, or none
   (`search_domain`, `search_spaced_domain`).
-/

namespace CrawlGraph

namespace Filter

/-! ## Filters -/

/-- What a filter asks of a node: in each list that is not empty, an entry that fits it. Letter case
is that of ASCII, and the white space around names and types does not count. -/
structure Accepts (filter : Filter) (node : Node) : Prop where
  domain : filter.domainNames ≠ [] → ∃ name ∈ filter.domainNames, ∃ domain,
    Url.domainOf node.url = some domain ∧
      Text.lower (Text.trim name.toList) = Text.lower domain.toList
  type : filter.contentTypes ≠ [] → ∃ wanted ∈ filter.contentTypes, ∃ type,
    node.contentType = some type ∧
      Text.lower (Text.trim wanted.toList) <+: Text.lower type.toList
  status : filter.statusCodes ≠ [] → node.statusCode ∈ filter.statusCodes

section Entries

variable {filter wider : Filter} {node : Node}

/-- A list of a filter that is empty or has an entry that fits. -/
theorem isEmpty_or_iff {α : Type} {entries : List α} {fits : Bool} {p : Prop}
    (h : fits = true ↔ p) : (entries.isEmpty || fits) = true ↔ (entries ≠ [] → p) := by
  rw [Bool.or_eq_true, List.isEmpty_iff, h, or_iff_not_imp_left]

theorem hasDomain_iff {names : List String} {domain : Option String} :
    (domain.map (hasDomain names)).getD false = true ↔
      ∃ name ∈ names, ∃ found, domain = some found ∧
        Text.lower (Text.trim name.toList) = Text.lower found.toList := by
  cases domain with
  | none => simp
  | some found => simp [hasDomain, Text.sameIgnoringCase, Text.trimmed]

theorem hasType_iff {wanted : List String} {type : Option String} :
    (type.map (hasType wanted)).getD false = true ↔
      ∃ name ∈ wanted, ∃ found, type = some found ∧
        Text.lower (Text.trim name.toList) <+: Text.lower found.toList := by
  cases type with
  | none => simp
  | some found => simp [hasType, Text.startsWith_iff]

theorem isMatch_iff : filter.isMatch node (Url.domainOf node.url) = true ↔ filter.Accepts node := by
  unfold isMatch
  rw [Bool.and_eq_true, Bool.and_eq_true, isEmpty_or_iff hasDomain_iff, isEmpty_or_iff hasType_iff,
    isEmpty_or_iff List.contains_iff_mem]
  exact ⟨fun h => ⟨h.1.1, h.1.2, h.2⟩, fun h => ⟨⟨h.domain, h.type⟩, h.status⟩⟩

/-- A filter accepts what each of its lists accepts on its own. -/
theorem accepts_iff :
    filter.Accepts node ↔
      Accepts { domainNames := filter.domainNames } node ∧
        Accepts { contentTypes := filter.contentTypes } node ∧
          Accepts { statusCodes := filter.statusCodes } node := by
  constructor
  · intro h
    exact ⟨⟨h.domain, absurd rfl, absurd rfl⟩, ⟨absurd rfl, h.type, absurd rfl⟩,
      ⟨absurd rfl, absurd rfl, h.status⟩⟩
  · rintro ⟨hdomain, htype, hstatus⟩
    exact ⟨hdomain.domain, htype.type, hstatus.status⟩

/-- A list of a filter with more entries, where there were any. -/
def Grows {α : Type} (entries more : List α) : Prop :=
  entries ⊆ more ∧ (entries = [] → more = [])

/-- A filter with more entries in lists that were not empty. -/
structure Widens (filter wider : Filter) : Prop where
  domainNames : Grows filter.domainNames wider.domainNames
  contentTypes : Grows filter.contentTypes wider.contentTypes
  statusCodes : Grows filter.statusCodes wider.statusCodes

theorem Accepts.of_widens (h : filter.Accepts node) (hwiden : filter.Widens wider) :
    wider.Accepts node where
  domain hne := by
    obtain ⟨name, hname, hfits⟩ := h.domain fun hnil => hne (hwiden.domainNames.2 hnil)
    exact ⟨name, hwiden.domainNames.1 hname, hfits⟩
  type hne := by
    obtain ⟨wanted, hwanted, hfits⟩ := h.type fun hnil => hne (hwiden.contentTypes.2 hnil)
    exact ⟨wanted, hwiden.contentTypes.1 hwanted, hfits⟩
  status hne :=
    hwiden.statusCodes.1 (h.status fun hnil => hne (hwiden.statusCodes.2 hnil))

end Entries

end Filter

/-! ## Searches of a saved graph -/

namespace Database

/-- A search of a store gives the URLs that have a property, each once and in the order of their
identifiers. -/
def SearchGives (db : Database) (job : Int64) (filter : Filter) (urls : List Node)
    (p : Node → Prop) : Prop :=
  ∃ found, db.search job filter = .ok found ∧ (found.map Node.id).Pairwise (· < ·) ∧
    ∀ node, node ∈ found ↔ node ∈ urls ∧ p node

theorem SearchGives.congr {db : Database} {job : Int64} {filter : Filter} {urls : List Node}
    {p q : Node → Prop} (h : db.SearchGives job filter urls p)
    (hiff : ∀ node ∈ urls, p node ↔ q node) : db.SearchGives job filter urls q := by
  obtain ⟨found, hfound, hids, hmem⟩ := h
  exact ⟨found, hfound, hids, fun node => (hmem node).trans (and_congr_right (hiff node))⟩

theorem searchGives_of_keeps {db : Database} {network : Network} {completedAt : String}
    (hkeeps : db.Keeps network completedAt) (h : network.Storable) (filter : Filter) :
    db.SearchGives network.job filter network.urls filter.Accepts := by
  have hids : (network.urls.map Node.id).Pairwise (· < ·) := by
    have hfits := h.fits
    unfold Network.Fits at hfits
    rw [h.ids_urls]
    exact pairwise_firstIds (by omega)
  refine ⟨_, search_of_keeps hkeeps h filter, hids.sublist (List.filter_sublist.map Node.id), ?_⟩
  intro node
  rw [List.mem_filter, Filter.isMatch_iff]

/-- The searches of a store are those of the URLs of a graph. -/
structure Searches (db : Database) (job : Int64) (urls : List Node) : Prop where
  gives : ∀ filter, db.SearchGives job filter urls filter.Accepts
  /-- A search gives what the searches with one of its lists each have in common. -/
  common : ∀ filter, ∃ found inDomains ofTypes withStatuses,
    db.search job filter = .ok found ∧
      db.search job { domainNames := filter.domainNames } = .ok inDomains ∧
      db.search job { contentTypes := filter.contentTypes } = .ok ofTypes ∧
      db.search job { statusCodes := filter.statusCodes } = .ok withStatuses ∧
      ∀ node, node ∈ found ↔ node ∈ inDomains ∧ node ∈ ofTypes ∧ node ∈ withStatuses
  /-- Lists that are empty restrict nothing. -/
  all : db.search job {} = .ok urls
  /-- More entries in a list that was not empty take nothing away. -/
  more : ∀ filter wider : Filter, filter.Widens wider → ∃ found foundMore,
    db.search job filter = .ok found ∧ db.search job wider = .ok foundMore ∧ found ⊆ foundMore

theorem searches_of_keeps {db : Database} {network : Network} {completedAt : String}
    (hkeeps : db.Keeps network completedAt) (h : network.Storable) :
    db.Searches network.job network.urls := by
  have hgives := searchGives_of_keeps hkeeps h
  constructor
  case gives => exact hgives
  case common =>
    intro filter
    obtain ⟨found, hfound, -, hmem⟩ := hgives filter
    obtain ⟨inDomains, hdomains, -, hmemDomains⟩ := hgives { domainNames := filter.domainNames }
    obtain ⟨ofTypes, htypes, -, hmemTypes⟩ := hgives { contentTypes := filter.contentTypes }
    obtain ⟨withStatuses, hstatuses, -, hmemStatuses⟩ :=
      hgives { statusCodes := filter.statusCodes }
    refine ⟨found, inDomains, ofTypes, withStatuses, hfound, hdomains, htypes, hstatuses, ?_⟩
    intro node
    rw [hmem, hmemDomains, hmemTypes, hmemStatuses, Filter.accepts_iff]
    tauto
  case all =>
    rw [search_of_keeps hkeeps h]
    exact congrArg Except.ok (List.filter_eq_self.2 fun _ _ => rfl)
  case more =>
    intro filter wider hwiden
    obtain ⟨found, hfound, -, hmem⟩ := hgives filter
    obtain ⟨foundMore, hfoundMore, -, hmemMore⟩ := hgives wider
    refine ⟨found, foundMore, hfound, hfoundMore, fun node hnode => ?_⟩
    obtain ⟨hurl, haccepts⟩ := (hmem node).1 hnode
    exact (hmemMore node).2 ⟨hurl, haccepts.of_widens hwiden⟩

end Database

/-- **Searches.** In a store into which the graph of a list of updates has been saved, each search
gives the URLs that its filter accepts. -/
theorem searches_of_save (job : Int64) (seeds : List String) (updates : List Update)
    (hfits : (Network.ofUpdates job seeds updates).Fits) (before saved : Database)
    (completedAt : String) (count : ℕ)
    (hsaved : before.saveNetwork (Network.ofUpdates job seeds updates) completedAt =
      (.ok count, saved)) :
    saved.Searches job (Network.ofUpdates job seeds updates).urls := by
  have hstorable := storable_ofUpdates hfits
  have hkeeps := Database.keeps_of_save hstorable.nodup_ids hsaved
  have hsearches := Database.searches_of_keeps hkeeps hstorable
  rw [job_ofUpdates] at hsearches
  exact hsearches

/-- A filter with names in other letters and with white space around them, and a URL without a
content type. -/
theorem searches_of_save_mixed :
    let network := Network.ofUpdates 1 [] [
      ⟨"a", "http://a.example/", 0, .exchange ⟨200, some "text/html", 10⟩⟩,
      ⟨"b", "http://a.example/b", 10, .exchange ⟨404, some "text/html", 10⟩⟩,
      ⟨"c", "http://b.example/", 20, .exchange ⟨200, none, 10⟩⟩,
      ⟨"d", "http://b.example/d", 30, .exchange ⟨200, some "Text/plain", 10⟩⟩]
    let filter : Filter :=
      { domainNames := ["c.example", " B.Example "], contentTypes := ["TEXT/ "],
        statusCodes := [200] }
    network.Fits ∧ ∃ count saved, ({} : Database).saveNetwork network "now" = (.ok count, saved) ∧
      saved.Searches 1 network.urls ∧
      (saved.search 1 filter).map (·.map Node.id) = .ok [4] := by
  intro network filter
  have hfits : network.Fits := fits_of_length (by decide)
  obtain ⟨saved, hsave⟩ := Database.exists_save {} network "now" rfl
  have hstorable : network.Storable := storable_ofUpdates hfits
  have hkeeps := Database.keeps_of_save hstorable.nodup_ids hsave
  have hsearch : saved.search 1 filter = .ok _ := Database.search_of_keeps hkeeps hstorable filter
  refine ⟨hfits, _, saved, hsave, searches_of_save 1 [] _ hfits {} saved "now" _ hsave, ?_⟩
  rw [hsearch]
  exact congrArg Except.ok (by decide +kernel)

/-! ## Searches for a domain -/

section Names

variable {url name : String}

/-- The name of a domain is in small letters. -/
theorem toLower_of_domainOf (h : Url.domainOf url = some name) {c : Char} (hc : c ∈ name.toList) :
    c.toLower = c := by
  unfold Url.domainOf at h
  dsimp only at h
  split at h
  · cases h
  · cases h
    rw [String.toList_ofList] at hc
    obtain ⟨d, -, rfl⟩ := List.mem_map.1 hc
    exact Char.toLower_toLower_eq_toLower d

theorem lower_of_toLower {cs : List Char} (h : ∀ c ∈ cs, c.toLower = c) : Text.lower cs = cs := by
  unfold Text.lower
  rw [List.map_congr_left h, List.map_id']

/-- A search for the name of a domain compares it, without white space at its ends, with the names
of the domains of the URLs. -/
theorem accepts_name_iff (h : Url.domainOf url = some name) {node : Node} :
    Filter.Accepts { domainNames := [name] } node ↔
      Url.domainOf node.url = some (Text.trimmed name) := by
  have hname : Text.lower (Text.trim name.toList) = Text.trim name.toList :=
    lower_of_toLower fun c hc => toLower_of_domainOf h (Text.mem_of_mem_trim hc)
  have hsame : ∀ domain, Url.domainOf node.url = some domain →
      (Text.lower (Text.trim name.toList) = Text.lower domain.toList ↔
        domain = Text.trimmed name) := by
    intro domain hdomain
    rw [hname, lower_of_toLower fun c => toLower_of_domainOf hdomain]
    unfold Text.trimmed
    rw [eq_comm, ← String.toList_inj, String.toList_ofList]
  constructor
  · intro haccepts
    obtain ⟨_, hmem, domain, hdomain, hequal⟩ := haccepts.domain (List.cons_ne_nil _ _)
    obtain rfl := List.mem_singleton.1 hmem
    rw [hdomain, (hsame domain hdomain).1 hequal]
  · intro hdomain
    exact ⟨fun _ => ⟨name, List.mem_singleton_self _, _, hdomain, (hsame _ hdomain).2 rfl⟩,
      absurd rfl, absurd rfl⟩

end Names

section Finished

variable {job : Int64} {seeds : List String} {updates : List Update} {domain : Node}
  (hdomain : domain ∈ (Network.ofUpdates job seeds updates).domains)

include hdomain

/-- A domain has its name from a URL. -/
theorem exists_domainOf : ∃ url, Url.domainOf url = some domain.url := by
  rw [domains_eq] at hdomain
  obtain ⟨entry, hentry, rfl⟩ := List.mem_map.1 hdomain
  obtain ⟨node, -, hname⟩ := mem_map_fst_domainIds.1 (List.mem_map_of_mem hentry)
  exact ⟨node.url, Graph.url_finishedDomain _ entry ▸ hname⟩

/-- The URLs of a domain are those that have its name. -/
theorem domainId_eq_id_iff (h : (Network.ofUpdates job seeds updates).Fits) {node : Node}
    (hnode : node ∈ (Network.ofUpdates job seeds updates).urls) :
    node.domainId = domain.id ↔ Url.domainOf node.url = some domain.url := by
  rw [urls_ofUpdates h] at hnode
  obtain ⟨placed, hplaced, rfl⟩ := List.mem_map.1 hnode
  rw [domains_eq] at hdomain
  obtain ⟨entry, hentry, rfl⟩ := List.mem_map.1 hdomain
  rw [Graph.id_finishedDomain, Graph.url_finishedDomain]
  exact domainId_eq_iff h hplaced hentry

end Finished

/-- **Searches for a domain.** In a store into which the graph of a list of updates has been saved,
the search for the name of a domain gives the URLs of this domain, unless white space stands at an
end of the name. Then it gives those of the domain that has the name without it. -/
theorem search_domain (job : Int64) (seeds : List String) (updates : List Update)
    (hfits : (Network.ofUpdates job seeds updates).Fits) (before saved : Database)
    (completedAt : String) (count : ℕ)
    (hsaved : before.saveNetwork (Network.ofUpdates job seeds updates) completedAt =
      (.ok count, saved)) :
    let urls := (Network.ofUpdates job seeds updates).urls
    ∃ domains, saved.domains job = .ok domains ∧ ∀ domain ∈ domains,
      (Text.trimmed domain.url = domain.url →
        saved.SearchGives job { domainNames := [domain.url] } urls (·.domainId = domain.id)) ∧
      (Text.trimmed domain.url ≠ domain.url →
        saved.SearchGives job { domainNames := [domain.url] } urls fun node =>
          Url.domainOf node.url = some (Text.trimmed domain.url) ∧ node.domainId ≠ domain.id) := by
  intro urls
  have hstorable := storable_ofUpdates hfits
  have hkeeps := Database.keeps_of_save hstorable.nodup_ids hsaved
  have hdomains := (Database.shows_of_keeps hstorable hkeeps).domains
  have hgives := Database.searchGives_of_keeps hkeeps hstorable
  rw [job_ofUpdates] at hdomains hgives
  refine ⟨_, hdomains, fun domain hdomain => ?_⟩
  obtain ⟨url, hname⟩ := exists_domainOf hdomain
  have hnamed : saved.SearchGives job { domainNames := [domain.url] } urls fun node =>
      Url.domainOf node.url = some (Text.trimmed domain.url) :=
    (hgives _).congr fun node _ => accepts_name_iff hname
  constructor
  · intro htrimmed
    refine hnamed.congr fun node hnode => ?_
    rw [htrimmed, domainId_eq_id_iff hdomain hfits hnode]
  · intro htrimmed
    refine hnamed.congr fun node hnode => (and_iff_left_of_imp fun hother => ?_).symm
    rw [Ne, domainId_eq_id_iff hdomain hfits hnode, hother, Option.some_inj]
    exact htrimmed

/-- Domains with a port, with credentials and of a URL without a scheme, and one whose name starts
with a space. -/
theorem search_domain_four :
    let network := Network.ofUpdates 1 [] [
      ⟨"a", " HTTP://A.example:80?q", 0, .metadata none true⟩,
      ⟨"b", "http://Me@b.example/", 10, .metadata none false⟩,
      ⟨"c", "c.example/x", 20, .metadata none false⟩,
      ⟨"d", "http:// c.example/", 30, .metadata none false⟩,
      ⟨"e", "https://a.EXAMPLE:80/e", 40, .metadata none false⟩]
    network.Fits ∧
      network.domains.map (fun domain => (domain.id, domain.url)) =
        [(6, "a.example:80"), (7, "me@b.example"), (8, "c.example"), (9, " c.example")] ∧
      ∃ count saved, ({} : Database).saveNetwork network "now" = (.ok count, saved) ∧
        saved.domains 1 = .ok network.domains ∧ ∀ domain ∈ network.domains,
          (Text.trimmed domain.url = domain.url → saved.SearchGives 1
            { domainNames := [domain.url] } network.urls (·.domainId = domain.id)) ∧
          (Text.trimmed domain.url ≠ domain.url → saved.SearchGives 1
            { domainNames := [domain.url] } network.urls fun node =>
              Url.domainOf node.url = some (Text.trimmed domain.url) ∧
                node.domainId ≠ domain.id) := by
  intro network
  have hfits : network.Fits := fits_of_length (by decide)
  obtain ⟨saved, hsave⟩ := Database.exists_save {} network "now" rfl
  have hstorable : network.Storable := storable_ofUpdates hfits
  have hkeeps := Database.keeps_of_save hstorable.nodup_ids hsave
  have hdomains : saved.domains 1 = .ok network.domains :=
    (Database.shows_of_keeps hstorable hkeeps).domains
  obtain ⟨domains, hdomains', hgives⟩ := search_domain 1 [] _ hfits {} saved "now" _ hsave
  rw [← Except.ok.inj (hdomains.symm.trans hdomains')] at hgives
  exact ⟨hfits, by decide +kernel, _, saved, hsave, hdomains, hgives⟩

/-- The search for the name of a domain that starts with a space misses the URL of this domain and
gives that of another one. -/
theorem search_spaced_domain :
    let network := Network.ofUpdates 1 [] [
      ⟨"a", "http:// a.example/", 0, .metadata none true⟩,
      ⟨"b", "http://a.example/", 10, .metadata none true⟩]
    ∃ count saved, ({} : Database).saveNetwork network "now" = (.ok count, saved) ∧
      saved.domains 1 = .ok network.domains ∧ ∃ domain ∈ network.domains,
        domain.url = " a.example" ∧
        (network.urls.filter (·.domainId = domain.id)).map Node.url = ["http:// a.example/"] ∧
        (saved.search 1 { domainNames := [domain.url] }).map (·.map Node.url) =
          .ok ["http://a.example/"] ∧
        ¬saved.SearchGives 1 { domainNames := [domain.url] } network.urls
          (·.domainId = domain.id) := by
  intro network
  have hfits : network.Fits := fits_of_length (by decide)
  obtain ⟨saved, hsave⟩ := Database.exists_save {} network "now" rfl
  have hstorable : network.Storable := storable_ofUpdates hfits
  have hkeeps := Database.keeps_of_save hstorable.nodup_ids hsave
  have hdomains : saved.domains 1 = .ok network.domains :=
    (Database.shows_of_keeps hstorable hkeeps).domains
  obtain ⟨domain, hdomain, hurl, hmembers, hmatches⟩ : ∃ domain ∈ network.domains,
      domain.url = " a.example" ∧
      (network.urls.filter (·.domainId = domain.id)).map Node.url = ["http:// a.example/"] ∧
      (network.urls.filter fun node => Filter.isMatch { domainNames := [domain.url] } node
        (Url.domainOf node.url)).map Node.url = ["http://a.example/"] := by decide +kernel
  have hsearch : saved.search 1 { domainNames := [domain.url] } = .ok _ :=
    Database.search_of_keeps hkeeps hstorable _
  refine ⟨_, saved, hsave, hdomains, domain, hdomain, hurl, hmembers, ?_, ?_⟩
  · rw [hsearch]
    exact congrArg Except.ok hmatches
  · rintro ⟨found, hfound, -, hmem⟩
    obtain rfl := Except.ok.inj (hsearch.symm.trans hfound)
    -- the URL of the domain would have to be found
    obtain ⟨node, hnode, hnodeUrl⟩ : ∃ node ∈ network.urls.filter (·.domainId = domain.id),
        node.url = "http:// a.example/" := List.mem_map.1 (hmembers ▸ List.mem_singleton_self _)
    obtain ⟨hnode, hid⟩ := List.mem_filter.1 hnode
    have hfoundUrl := List.mem_map_of_mem (f := Node.url)
      ((hmem node).2 ⟨hnode, of_decide_eq_true hid⟩)
    rw [hmatches, hnodeUrl] at hfoundUrl
    exact absurd hfoundUrl (by decide)

end CrawlGraph
