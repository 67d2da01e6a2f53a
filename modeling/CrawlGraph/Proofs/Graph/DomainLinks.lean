import CrawlGraph.Proofs.Graph.Sums

/-!
# Domains and their links

Each domain of a finished graph stands for the URLs of its name, and its links are those of its URLs
to URLs of other domains: `domains_agree`.

1. Links that are added one after another are there once each, and none of them leads back
   (`mem_outlinks_foldl_link`, `nodup_outlinks_foldl_link`).
2. So a domain is linked to another one if one of its URLs is the parent of a URL of the other
   (`mem_linkedDomains`, `mem_outlinks_finishedDomain`).
3. The URLs with the identifier of a domain are those of its name (`domainId_eq_iff`), and only a URL
   whose name tells no domain has none (`domainId_eq_missing_iff`).
-/

namespace CrawlGraph

namespace Graph

/-! ## Adding links -/

theorem mem_outlinks_link {node : Node} {id id' : Int64} :
    id ∈ (node.link id').outlinks ↔ id ∈ node.outlinks ∨ id ≠ node.id ∧ id = id' := by
  unfold Node.link
  split
  · rename_i hlacks
    obtain ⟨hself, -⟩ := lacksOutlink_iff.1 hlacks
    rw [List.mem_append, List.mem_singleton]
    refine or_congr_right ⟨?_, And.right⟩
    rintro rfl
    exact ⟨hself, rfl⟩
  · rename_i hlacks
    refine ⟨.inl, ?_⟩
    rintro (hmem | ⟨hself, rfl⟩)
    · exact hmem
    · by_contra hnew
      exact hlacks (lacksOutlink_iff.2 ⟨hself, hnew⟩)

theorem id_link (node : Node) (id : Int64) : (node.link id).id = node.id := by
  obtain ⟨outlinks, hlinked⟩ := link_eq node id
  rw [hlinked]

theorem mem_outlinks_foldl_link {node : Node} {ids : List Int64} {id : Int64} :
    id ∈ (ids.foldl Node.link node).outlinks ↔ id ∈ node.outlinks ∨ id ≠ node.id ∧ id ∈ ids := by
  induction ids generalizing node with
  | nil => simp
  | cons id' ids ih =>
    rw [List.foldl_cons, ih, mem_outlinks_link, id_link, List.mem_cons, or_assoc, and_or_left]

theorem nodup_outlinks_foldl_link {node : Node} (h : node.outlinks.Nodup) (ids : List Int64) :
    (ids.foldl Node.link node).outlinks.Nodup := by
  induction ids generalizing node with
  | nil => exact h
  | cons id ids ih =>
    refine ih ?_
    unfold Node.link
    split
    · rename_i hlacks
      exact List.nodup_append.2 ⟨h, List.nodup_singleton id, by
        rintro found hfound _ hid rfl
        rw [List.mem_singleton.1 hid] at hfound
        exact (lacksOutlink_iff.1 hlacks).2 hfound⟩
    · exact h

/-- The domains that a domain is linked to, with those that are named more than once. -/
def linkedDomains (edges : List (Node × Node)) (domain : Node) : List Int64 :=
  (edges.filter fun (parent, child) =>
    parent.domainId == domain.id && child.domainId != missingId).map fun edge => edge.2.domainId

theorem linkDomain_eq_foldl (edges : List (Node × Node)) (domain : Node) :
    linkDomain edges domain = (linkedDomains edges domain).foldl Node.link domain := by
  unfold linkDomain linkedDomains
  rw [List.foldl_map]

theorem mem_linkedDomains {urls : List Node} {domain : Node} {id : Int64} :
    id ∈ linkedDomains (edges urls) domain ↔
      id ≠ missingId ∧ ∃ child ∈ urls, child.domainId = id ∧
        ∃ parent, parent? urls child = some parent ∧ parent.domainId = domain.id := by
  unfold linkedDomains
  simp only [List.mem_map, List.mem_filter, mem_edges, Bool.and_eq_true, beq_iff_eq, bne_iff_ne]
  constructor
  · rintro ⟨⟨parent, child⟩, ⟨⟨hchild, hparent⟩, hdomain, hne⟩, rfl⟩
    exact ⟨hne, child, hchild, rfl, parent, hparent, hdomain⟩
  · rintro ⟨hne, child, hchild, rfl, parent, hparent, hdomain⟩
    exact ⟨(parent, child), ⟨⟨hchild, hparent⟩, hdomain, hne⟩, rfl⟩

/-! ## Single domains -/

/-- A domain with an identifier, its URLs counted and linked. -/
def finishedDomain (urls : List Node) (entry : String × Int64) : Node :=
  linkDomain (edges urls) (domainNode urls entry.1 entry.2)

theorem finishedDomain_eq (urls : List Node) (entry : String × Int64) :
    finishedDomain urls entry =
      { domainNode urls entry.1 entry.2 with
        outlinks := (finishedDomain urls entry).outlinks } := by
  obtain ⟨outlinks, hlinked⟩ := linkDomain_eq (edges urls) (domainNode urls entry.1 entry.2)
  unfold finishedDomain
  rw [hlinked]

section Fields

variable (urls : List Node) (entry : String × Int64)

theorem id_finishedDomain : (finishedDomain urls entry).id = entry.2 := by
  rw [finishedDomain_eq, domainNode_eq]

theorem url_finishedDomain : (finishedDomain urls entry).url = entry.1 := by
  rw [finishedDomain_eq, domainNode_eq]

theorem isSeed_finishedDomain :
    (finishedDomain urls entry).isSeed = (membersOf urls entry.1).any (·.isSeed) := by
  rw [finishedDomain_eq, domainNode_eq]

theorem totals_finishedDomain :
    (finishedDomain urls entry).totals =
      ((membersOf urls entry.1).map Node.answer).foldl Totals.add {} := by
  rw [finishedDomain_eq, domainNode_eq]

theorem children_finishedDomain :
    (finishedDomain urls entry).children =
      bucketsOf Answer.typeKey Answer.inType ((membersOf urls entry.1).map Node.answer) := by
  rw [finishedDomain_eq, domainNode_eq]

theorem domainId_finishedDomain : (finishedDomain urls entry).domainId = missingId := by
  rw [finishedDomain_eq, domainNode_eq]

theorem outlinks_finishedDomain :
    (finishedDomain urls entry).outlinks =
      ((linkedDomains (edges urls) (domainNode urls entry.1 entry.2)).foldl Node.link
        (domainNode urls entry.1 entry.2)).outlinks := by
  unfold finishedDomain
  rw [linkDomain_eq_foldl]

end Fields

/-- A domain is linked to the other domains of the URLs that were found on its own. -/
theorem mem_outlinks_finishedDomain {urls : List Node} {entry : String × Int64} {id : Int64} :
    id ∈ (finishedDomain urls entry).outlinks ↔
      id ≠ entry.2 ∧ id ≠ missingId ∧ ∃ child ∈ urls, child.domainId = id ∧
        ∃ parent, parent? urls child = some parent ∧ parent.domainId = entry.2 := by
  rw [outlinks_finishedDomain, mem_outlinks_foldl_link, mem_linkedDomains, id_domainNode]
  simp [domainNode_eq]

theorem nodup_outlinks_finishedDomain (urls : List Node) (entry : String × Int64) :
    (finishedDomain urls entry).outlinks.Nodup := by
  rw [outlinks_finishedDomain]
  refine nodup_outlinks_foldl_link ?_ _
  rw [domainNode_eq]
  exact List.nodup_nil

end Graph

/-! ## Domains and their URLs -/

section Finished

variable {job : Int64} {seeds : List String} {updates : List Update}

theorem domains_eq :
    (Network.ofUpdates job seeds updates).domains =
      (Builder.ofUpdates job seeds updates).domainIds.map
        (Graph.finishedDomain (Builder.ofUpdates job seeds updates).placed) :=
  domains_ofUpdates

theorem names_domains :
    (Network.ofUpdates job seeds updates).domains.map Node.url =
      (Builder.ofUpdates job seeds updates).domainNames := by
  rw [domains_eq, List.map_map, ← Builder.map_fst_domainIds]
  exact List.map_congr_left fun entry _ => Graph.url_finishedDomain _ entry

/-- The URL of a capture tells the name of a domain, and each domain has such a capture. -/
theorem mem_map_fst_domainIds {name : String} :
    name ∈ (Builder.ofUpdates job seeds updates).domainIds.map Prod.fst ↔
      ∃ node ∈ (Builder.ofUpdates job seeds updates).placed, Url.domainOf node.url = some name := by
  rw [Builder.map_fst_domainIds, Builder.mem_domainNames]
  simp only [Builder.placed, List.mem_map, exists_exists_and_eq_and]
  rfl

section Fits

variable (h : (Network.ofUpdates job seeds updates).Fits)

include h

theorem Network.Fits.ne_missing {entry : String × Int64}
    (hentry : entry ∈ (Builder.ofUpdates job seeds updates).domainIds) : entry.2 ≠ missingId := by
  intro hid
  have hpos := h.pos_domainIds hentry
  rw [hid] at hpos
  exact absurd hpos (by decide)

/-- A URL that tells a domain has its identifier. -/
theorem exists_entry {node : Node} (hnode : node ∈ (Builder.ofUpdates job seeds updates).placed)
    {name : String} (hname : Url.domainOf node.url = some name) :
    ∃ id, (name, id) ∈ (Builder.ofUpdates job seeds updates).domainIds ∧ node.domainId = id := by
  obtain ⟨⟨_, id⟩, hentry, rfl⟩ := List.mem_map.1 (mem_map_fst_domainIds.2 ⟨node, hnode, hname⟩)
  exact ⟨id, hentry, (domainId_eq_iff h hnode hentry).2 hname⟩

/-- Only a URL that tells no domain has none. -/
theorem domainId_eq_missing_iff {node : Node}
    (hnode : node ∈ (Builder.ofUpdates job seeds updates).placed) :
    node.domainId = missingId ↔ Url.domainOf node.url = none := by
  constructor
  · intro hid
    cases hname : Url.domainOf node.url with
    | none => rfl
    | some name =>
      obtain ⟨id, hentry, hid'⟩ := exists_entry h hnode hname
      exact absurd (hid'.symm.trans hid) (h.ne_missing hentry)
  · intro hname
    obtain ⟨counted, -, rfl⟩ := List.mem_map.1 hnode
    have hcounted : Url.domainOf counted.url = none := hname
    unfold Graph.placeIn
    rw [hcounted]
    rfl

end Fits

end Finished

/-- Each domain stands for the URLs of its name, and is linked to the domains of what was found on
these. -/
structure Network.DomainsAgree (network : Network) : Prop where
  names : (network.domains.map Node.url).Nodup
  inhabited : ∀ d ∈ network.domains, ∃ u ∈ network.urls, u.domainId = d.id
  domainId_iff : ∀ u ∈ network.urls, ∀ d ∈ network.domains,
    u.domainId = d.id ↔ Url.domainOf u.url = some d.url
  missing_iff : ∀ u ∈ network.urls, u.domainId = missingId ↔ Url.domainOf u.url = none
  seed_iff : ∀ d ∈ network.domains,
    d.isSeed = true ↔ ∃ u ∈ network.urls, u.domainId = d.id ∧ u.isSeed = true
  /-- A domain is linked to another one if a URL of the other has its parent in it. -/
  outlink_iff : ∀ a ∈ network.domains, ∀ b ∈ network.domains, a ≠ b →
    (b.id ∈ a.outlinks ↔ ∃ c ∈ network.urls, c.domainId = b.id ∧
      ∃ p ∈ network.urls, c.parentId = p.id ∧ p.domainId = a.id)
  nodup_outlinks : ∀ d ∈ network.domains, d.outlinks.Nodup
  not_self : ∀ d ∈ network.domains, d.id ∉ d.outlinks

/-- **Domains.** Each domain of a finished graph stands for the URLs of its name. -/
theorem domains_agree (job : Int64) (seeds : List String) (updates : List Update)
    (h : (Network.ofUpdates job seeds updates).Fits) :
    (Network.ofUpdates job seeds updates).DomainsAgree := by
  have hfresh := h.unlinked
  constructor
  case names =>
    rw [names_domains]
    exact Builder.nodup_domainNames
  all_goals simp only [urls_ofUpdates h, domains_eq, List.forall_mem_map]
  case inhabited =>
    intro entry hentry
    obtain ⟨node, hnode, hname⟩ := mem_map_fst_domainIds.1 (List.mem_map_of_mem hentry)
    refine ⟨_, List.mem_map_of_mem hnode, ?_⟩
    rw [Graph.id_finishedDomain]
    exact (domainId_eq_iff h hnode hentry).2 hname
  case domainId_iff =>
    intro node hnode entry hentry
    rw [Graph.id_finishedDomain, Graph.url_finishedDomain]
    exact domainId_eq_iff h hnode hentry
  case missing_iff =>
    intro node hnode
    have hmissing := domainId_eq_missing_iff h hnode
    exact hmissing
  case seed_iff =>
    intro entry hentry
    rw [Graph.isSeed_finishedDomain, Graph.id_finishedDomain, List.any_eq_true]
    simp only [List.mem_map, exists_exists_and_eq_and]
    constructor
    · rintro ⟨node, hmember, hseed⟩
      obtain ⟨hnode, hname⟩ := Graph.mem_membersOf.1 hmember
      exact ⟨node, hnode, (domainId_eq_iff h hnode hentry).2 hname, hseed⟩
    · rintro ⟨node, hnode, hid, hseed⟩
      have hname := (domainId_eq_iff h hnode hentry).1 hid
      exact ⟨node, Graph.mem_membersOf.2 ⟨hnode, hname⟩, hseed⟩
  case outlink_iff =>
    intro a ha b hb hne
    have hid : b.2 ≠ a.2 := by
      intro heq
      exact hne (by rw [List.inj_on_of_nodup_map h.nodup_domainIds hb ha heq])
    rw [Graph.mem_outlinks_finishedDomain, Graph.id_finishedDomain, Graph.id_finishedDomain]
    simp only [List.mem_map, exists_exists_and_eq_and]
    constructor
    · rintro ⟨-, -, child, hchild, hchildId, parent, hparent, hparentId⟩
      have hmem := Graph.mem_of_parent? hparent
      exact ⟨child, hchild, hchildId, parent, hmem,
        (Graph.parentId_eq_id hfresh hmem).2 hparent, hparentId⟩
    · rintro ⟨child, hchild, hchildId, parent, hmem, hparent, hparentId⟩
      exact ⟨hid, h.ne_missing hb, child, hchild, hchildId, parent,
        (Graph.parentId_eq_id hfresh hmem).1 hparent, hparentId⟩
  case nodup_outlinks => exact fun entry _ => Graph.nodup_outlinks_finishedDomain _ entry
  case not_self =>
    intro entry _ hmem
    rw [Graph.mem_outlinks_finishedDomain, Graph.id_finishedDomain] at hmem
    exact hmem.1 rfl

/-- Two domains that are linked to each other, a URL that was found on itself, and one without a
domain. -/
theorem domains_agree_of_mutual :
    let network := Network.ofUpdates 1 [] [
      ⟨"a", "http://a.example/", 0, .metadata (some "http://b.example/") true⟩,
      ⟨"b", "http://b.example/", 10, .metadata (some "http://a.example/") false⟩,
      ⟨"c", "http://b.example/c", 20, .metadata (some "http://a.example/") false⟩,
      ⟨"d", "http://a.example/", 30, .metadata (some "http://a.example/") false⟩,
      ⟨"e", "file:///e", 40, .metadata (some "http://a.example/") false⟩]
    network.Fits ∧ network.DomainsAgree ∧
      network.domains.map (fun domain => (domain.id, domain.url, domain.isSeed, domain.outlinks)) =
        [(6, "a.example", true, [7]), (7, "b.example", false, [6])] := by
  intro network
  have hfits : network.Fits := fits_of_length (by decide)
  exact ⟨hfits, domains_agree _ _ _ hfits, by decide +kernel⟩

end CrawlGraph
