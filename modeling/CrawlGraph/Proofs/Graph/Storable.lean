import CrawlGraph.Proofs.Graph.Domains
import CrawlGraph.Proofs.Graph.NodeJson

/-!
# Graphs that can be stored

What the records of a graph need so that they can be told apart and read back: nodes are numbered
from one, their buckets are in order, and the lists name nodes of the graph. All that a builder
finishes is such a graph (`storable_ofUpdates`).
-/

namespace CrawlGraph

/-- A graph whose records can be told apart and read back. -/
structure Network.Storable (network : Network) : Prop where
  fits : network.Fits
  ids : (network.urls ++ network.domains).map Node.id =
    firstIds (network.urls.length + network.domains.length)
  nested : ∀ node ∈ network.urls ++ network.domains, node.Nested 2
  urlCount : network.urlCount = Int64.ofNat network.urls.length
  domainCount : network.domainCount = Int64.ofNat network.domains.length
  rootUrls : ∃ nodes : List Node,
    nodes.Sublist network.urls ∧ network.rootUrls = nodes.map Node.id
  malformedUrls : ∃ nodes : List Node,
    nodes.Sublist network.urls ∧ network.malformedUrls = nodes.map Node.id
  rootDomains : network.rootDomains = network.domains.map Node.id

namespace Network.Storable

variable {network : Network} (h : network.Storable)

include h

theorem nodup_ids : ((network.urls ++ network.domains).map Node.id).Nodup := by
  rw [h.ids]
  exact nodup_of_pairwise_lt (pairwise_firstIds h.fits)

theorem ids_urls : network.urls.map Node.id = firstIds network.urls.length := by
  have hids := congrArg (List.take network.urls.length) h.ids
  rw [List.map_append, List.take_left' (List.length_map _), firstIds_add,
    List.take_left' (length_firstIds _)] at hids
  exact hids

theorem url?_id {node : Node} (hnode : node ∈ network.urls) : network.url? node.id = some node := by
  have hnodup := h.nodup_ids
  rw [List.map_append] at hnodup
  exact find?_of_unique hnode (beq_self_eq_true _) fun other hother hid =>
    List.inj_on_of_nodup_map hnodup.of_append_left hother hnode (eq_of_beq hid)

end Network.Storable

/-! ## Finished graphs -/

section Finished

variable {job : Int64} {seeds : List String} {updates : List Update}

theorem nested_urls (h : (Network.ofUpdates job seeds updates).Fits) :
    ∀ node ∈ (Network.ofUpdates job seeds updates).urls, node.Nested 2 := by
  rw [urls_ofUpdates h]
  intro node hnode
  obtain ⟨_, hplaced, rfl⟩ := List.mem_map.1 hnode
  obtain ⟨_, hcounted, rfl⟩ := List.mem_map.1 hplaced
  obtain ⟨_, hsession, rfl⟩ := List.mem_map.1 hcounted
  obtain ⟨_, _, rfl⟩ := List.mem_map.1 hsession
  exact Node.nested_of_nil rfl 2

/-- Buckets of content types stand in the order of the types, and those of status codes inside them
in the order of the codes. -/
theorem nested_domainNode (urls : List Node) (name : String) (id : Int64) :
    (Graph.domainNode urls name id).Nested 2 := by
  rw [Graph.domainNode_eq]
  refine ⟨ascending_bucketsOf Answer.typeKey Answer.inType _, ?_⟩
  intro type htype
  have hchildren := (bucketOf_inType (bucketOf_of_mem Answer.typeKey Answer.inType htype)).2
  constructor
  · rw [hchildren]
    exact ascending_bucketsOf Answer.statusKey Answer.inStatus _
  · intro status hstatus
    rw [hchildren] at hstatus
    exact (bucketOf_inStatus (bucketOf_of_mem Answer.statusKey Answer.inStatus hstatus)).2

theorem nested_domains :
    ∀ node ∈ (Network.ofUpdates job seeds updates).domains, node.Nested 2 := by
  rw [domains_ofUpdates]
  intro node hnode
  obtain ⟨⟨name, id⟩, -, rfl⟩ := List.mem_map.1 hnode
  obtain ⟨outlinks, hlinked⟩ := Graph.linkDomain_eq
    (Graph.edges (Builder.ofUpdates job seeds updates).placed)
    (Graph.domainNode (Builder.ofUpdates job seeds updates).placed name id)
  show (Graph.linkDomain _ _).Nested 2
  rw [hlinked]
  exact nested_domainNode _ name id

/-- What a builder finishes can be stored. -/
theorem storable_ofUpdates (h : (Network.ofUpdates job seeds updates).Fits) :
    (Network.ofUpdates job seeds updates).Storable where
  fits := h
  ids := ids_ofUpdates
  nested node hnode := by
    rcases List.mem_append.1 hnode with hnode | hnode
    · exact nested_urls h node hnode
    · exact nested_domains node hnode
  urlCount := by
    rw [length_urls, Network.ofUpdates, applyAll_start, finish_eq]
    rfl
  domainCount := by
    rw [length_domains, Network.ofUpdates, applyAll_start, finish_eq]
  rootUrls := by
    rw [Network.ofUpdates, applyAll_start, finish_eq]
    exact ⟨_, List.filter_sublist, rfl⟩
  malformedUrls := by
    rw [Network.ofUpdates, applyAll_start, finish_eq]
    exact ⟨_, List.filter_sublist, rfl⟩
  rootDomains := by
    rw [ids_domains, Network.ofUpdates, applyAll_start, finish_eq]

end Finished

end CrawlGraph
