import CrawlGraph.Proofs.Graph.DomainLinks

/-!
# URLs and the domains of a graph

A URL of a finished graph that has a domain has one of the graph, and each domain of the graph has
such a URL (`populated_ofUpdates`).
-/

namespace CrawlGraph

/-- A graph whose URLs are in its domains, and whose domains are those of its URLs. -/
structure Network.Populated (network : Network) : Prop where
  kind_urls : ∀ node ∈ network.urls, node.kind = .url
  kind_domains : ∀ node ∈ network.domains, node.kind = .domain
  pos : ∀ domain ∈ network.domains, 0 < domain.id
  nodup : (network.domains.map Node.id).Nodup
  inhabited : ∀ domain ∈ network.domains, ∃ node ∈ network.urls, node.domainId = domain.id
  placed : ∀ node ∈ network.urls, node.domainId ≠ missingId →
    ∃ domain ∈ network.domains, node.domainId = domain.id

namespace Network.Populated

variable {network : Network} (h : network.Populated) {domain : Node}
  (hdomain : domain ∈ network.domains)

include h hdomain

theorem ne_zero : domain.id ≠ 0 := by
  intro hid
  have hpos := h.pos domain hdomain
  rw [hid] at hpos
  exact absurd hpos (by decide)

theorem ne_missing : domain.id ≠ missingId := by
  intro hid
  have hpos := h.pos domain hdomain
  rw [hid] at hpos
  exact absurd hpos (by decide)

end Network.Populated

section Finished

variable {job : Int64} {seeds : List String} {updates : List Update}

/-- The URLs and domains of a finished graph belong together. -/
theorem populated_ofUpdates (h : (Network.ofUpdates job seeds updates).Fits) :
    (Network.ofUpdates job seeds updates).Populated := by
  constructor
  case nodup =>
    rw [ids_domains]
    exact h.nodup_domainIds
  all_goals simp only [urls_ofUpdates h, domains_eq, List.forall_mem_map]
  case kind_urls =>
    intro node hnode
    obtain ⟨_, hcounted, rfl⟩ := List.mem_map.1 hnode
    obtain ⟨_, hsession, rfl⟩ := List.mem_map.1 hcounted
    obtain ⟨_, _, rfl⟩ := List.mem_map.1 hsession
    rfl
  case kind_domains =>
    intro entry _
    rw [Graph.finishedDomain_eq, Graph.domainNode_eq]
  case pos =>
    intro entry hentry
    rw [Graph.id_finishedDomain]
    exact h.pos_domainIds hentry
  case inhabited =>
    intro entry hentry
    obtain ⟨node, hnode, hname⟩ := mem_map_fst_domainIds.1 (List.mem_map_of_mem hentry)
    refine ⟨_, List.mem_map_of_mem hnode, ?_⟩
    rw [Graph.id_finishedDomain]
    exact (domainId_eq_iff h hnode hentry).2 hname
  case placed =>
    intro node hnode hplaced
    have hdomain : Url.domainOf node.url ≠ none := fun hnone =>
      hplaced ((domainId_eq_missing_iff h hnode).2 hnone)
    obtain ⟨name, hname⟩ := Option.ne_none_iff_exists'.1 hdomain
    obtain ⟨id, hentry, hid⟩ := exists_entry h hnode hname
    refine ⟨_, List.mem_map_of_mem hentry, ?_⟩
    rw [Graph.id_finishedDomain]
    exact hid

end Finished

end CrawlGraph
