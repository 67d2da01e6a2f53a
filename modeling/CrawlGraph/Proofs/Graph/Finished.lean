import CrawlGraph.Proofs.Graph.Sessions

/-!
# Finished graphs

What `Builder.finish` makes, field by field, and the identifiers of its nodes: with `n` nodes they
are the first `n` identifiers, those of the URLs before those of the domains (`ids_ofUpdates`). As
long as the counters stay within 64 bits (`Network.Fits`) they are distinct, and a URL has the
identifier of the domain that its name says (`domainId_eq_iff`).
-/

namespace CrawlGraph

/-- The nodes of a graph are no more than the counters of identifiers can count. No memory holds as
many nodes as would break this. -/
def Network.Fits (network : Network) : Prop :=
  network.urls.length + network.domains.length < 2 ^ 63

/-! ## The parts of a finished graph -/

namespace Builder

/-- The nodes of the captures, each with its own capture counted. -/
def counted (builder : Builder) : List Node := builder.sessions.map Session.counted

/-- The names of the domains of a builder. -/
def domainNames (builder : Builder) : List String := Graph.domainNames builder.counted

/-- The domains of a builder with their identifiers. -/
def domainIds (builder : Builder) : List (String × Int64) :=
  builder.domainNames.zipIdx.map fun (name, i) =>
    (name, builder.numbering.urls + Int64.ofNat (i + 1))

/-- The nodes of the captures, each with the identifier of its domain. -/
def placed (builder : Builder) : List Node := builder.counted.map (Graph.placeIn builder.domainIds)

end Builder

theorem finish_eq (builder : Builder) :
    builder.finish =
      let edges := Graph.edges builder.placed
      let urls := builder.placed.map (Graph.linkUrl edges)
      { job := builder.job
        urlCount := builder.numbering.urls
        domainCount := Int64.ofNat builder.domainNames.length
        urls
        domains := builder.domainIds.map fun (name, id) =>
          Graph.linkDomain edges (Graph.domainNode builder.placed name id)
        rootUrls := (urls.filter fun node => node.isSeed || node.isRoot).map Node.id
        malformedUrls := (urls.filter fun node => !node.isComplete).map Node.id
        rootDomains := builder.domainIds.map Prod.snd } := by
  simp only [Builder.finish, numberDomains_eq, Numbering.openDomains, Int64.zero_add]
  rfl

/-- The graph of a list of updates. -/
def Network.ofUpdates (job : Int64) (seeds : List String) (updates : List Update) : Network :=
  ((Builder.start job seeds).applyAll updates).finish

theorem job_ofUpdates (job : Int64) (seeds : List String) (updates : List Update) :
    (Network.ofUpdates job seeds updates).job = job := by
  rw [Network.ofUpdates, applyAll_start, finish_eq]
  rfl

/-! ## Nodes of captures -/

theorem ids_placed (job : Int64) (seeds : List String) (updates : List Update) :
    (Builder.ofUpdates job seeds updates).placed.map Node.id =
      firstIds (Builder.ofUpdates job seeds updates).placed.length := by
  unfold Builder.placed Builder.counted
  rw [List.map_map, List.map_map, List.length_map, List.length_map]
  exact ids_sessionsOf seeds updates

/-- Nodes that have been numbered and not linked. -/
structure Graph.Unlinked (urls : List Node) : Prop where
  ids : (urls.map Node.id).Pairwise (· < ·)
  pos : ∀ node ∈ urls, 0 < node.id
  outlinks : ∀ node ∈ urls, node.outlinks = []

theorem unlinked_placed {job : Int64} {seeds : List String} {updates : List Update}
    (h : (Builder.ofUpdates job seeds updates).placed.length < 2 ^ 63) :
    Graph.Unlinked (Builder.ofUpdates job seeds updates).placed where
  ids := by
    rw [ids_placed]
    exact pairwise_firstIds h
  pos node hnode := by
    refine pos_of_mem_firstIds h ?_
    rw [← ids_placed]
    exact List.mem_map_of_mem hnode
  outlinks node hnode := by
    obtain ⟨_, hcounted, rfl⟩ := List.mem_map.1 hnode
    obtain ⟨_, hsession, rfl⟩ := List.mem_map.1 hcounted
    obtain ⟨_, _, rfl⟩ := List.mem_map.1 hsession
    rfl

/-! ## What links change -/

namespace Graph

theorem link_eq (node : Node) (id : Int64) : ∃ outlinks, node.link id = { node with outlinks } := by
  unfold Node.link
  split
  · exact ⟨_, rfl⟩
  · exact ⟨node.outlinks, by cases node; rfl⟩

theorem exists_adopt_eq (node child : Node) :
    ∃ outlinks totals, node.adopt child = { node with outlinks, totals } := by
  unfold Node.adopt
  split
  · obtain ⟨outlinks, hlink⟩ := link_eq node child.id
    rw [hlink]
    exact ⟨outlinks, _, rfl⟩
  · exact ⟨node.outlinks, node.totals, by cases node; rfl⟩

/-- Links of a URL change its parent, its outlinks and its sums only. -/
theorem exists_linkUrl_eq (edges : List (Node × Node)) (node : Node) :
    ∃ parentId outlinks totals,
      linkUrl edges node = { node with parentId, outlinks, totals } := by
  refine ⟨((edges.find? (·.2.id == node.id)).map fun edge => edge.1.id).getD missingId, ?_⟩
  unfold linkUrl
  refine List.foldlRecOn
    (motive := fun linked : Node => ∃ outlinks totals,
      linked = { node with parentId := _, outlinks, totals })
    _ _ ⟨node.outlinks, node.totals, by cases node; rfl⟩ ?_
  rintro _ ⟨outlinks, totals, rfl⟩ child -
  exact exists_adopt_eq _ child

theorem id_linkUrl (edges : List (Node × Node)) (node : Node) :
    (linkUrl edges node).id = node.id := by
  obtain ⟨parentId, outlinks, totals, hlinked⟩ := exists_linkUrl_eq edges node
  rw [hlinked]

theorem url_linkUrl (edges : List (Node × Node)) (node : Node) :
    (linkUrl edges node).url = node.url := by
  obtain ⟨parentId, outlinks, totals, hlinked⟩ := exists_linkUrl_eq edges node
  rw [hlinked]

theorem id_domainNode (urls : List Node) (name : String) (id : Int64) :
    (domainNode urls name id).id = id := by
  unfold domainNode
  exact List.foldlRecOn (motive := fun domain : Node => domain.id = id) _ _ rfl
    fun _ hid _ _ => hid

/-- Links of a domain change its outlinks only. -/
theorem linkDomain_eq (edges : List (Node × Node)) (domain : Node) :
    ∃ outlinks, linkDomain edges domain = { domain with outlinks } := by
  unfold linkDomain
  refine List.foldlRecOn
    (motive := fun linked : Node => ∃ outlinks : List Int64, linked = { domain with outlinks })
    _ _ ⟨domain.outlinks, by cases domain; rfl⟩ ?_
  rintro _ ⟨outlinks, rfl⟩ ⟨_, child⟩ -
  exact link_eq { domain with outlinks } child.domainId

theorem id_linkDomain (edges : List (Node × Node)) (domain : Node) :
    (linkDomain edges domain).id = domain.id := by
  obtain ⟨outlinks, hlinked⟩ := linkDomain_eq edges domain
  rw [hlinked]

end Graph

/-! ## Domains -/

namespace Builder

variable {builder : Builder}

theorem mem_domainNames {name : String} :
    name ∈ builder.domainNames ↔ ∃ node ∈ builder.counted, Url.domainOf node.url = some name := by
  simp [domainNames, Graph.domainNames]

theorem map_fst_domainIds : builder.domainIds.map Prod.fst = builder.domainNames := by
  unfold domainIds
  rw [List.map_map]
  exact List.zipIdx_map_fst 0 _

theorem map_snd_domainIds :
    builder.domainIds.map Prod.snd =
      (List.range builder.domainNames.length).map fun i =>
        builder.numbering.urls + Int64.ofNat (i + 1) := by
  unfold domainIds
  rw [List.range_eq_range', ← List.zipIdx_map_snd 0, List.map_map, List.map_map]
  rfl

theorem nodup_domainNames : builder.domainNames.Nodup := nodup_eraseDups _

theorem nodup_map_fst_domainIds : (builder.domainIds.map Prod.fst).Nodup := by
  rw [map_fst_domainIds]
  exact nodup_domainNames

theorem find?_domainIds {entry : String × Int64} (h : entry ∈ builder.domainIds) :
    builder.domainIds.find? (·.1 == entry.1) = some entry :=
  find?_of_unique h (beq_self_eq_true _) fun _ hother heq =>
    List.inj_on_of_nodup_map nodup_map_fst_domainIds hother h (eq_of_beq heq)

theorem domainId_placeIn {node : Node} {entry : String × Int64} (h : entry ∈ builder.domainIds)
    (hname : Url.domainOf node.url = some entry.1) :
    (Graph.placeIn builder.domainIds node).domainId = entry.2 := by
  show (((Url.domainOf node.url).bind fun name =>
    (builder.domainIds.find? (·.1 == name)).map Prod.snd)).getD missingId = entry.2
  rw [hname, Option.bind_some, find?_domainIds h]
  rfl

theorem length_domainNames_le (builder : Builder) :
    builder.domainNames.length ≤ builder.sessions.length := by
  calc builder.domainNames.length
      ≤ (builder.counted.filterMap fun node => Url.domainOf node.url).length :=
        length_eraseDups_le _
    _ ≤ builder.counted.length := List.length_filterMap_le _ _
    _ = builder.sessions.length := List.length_map _

end Builder

/-! ## Graphs of updates -/

section Updates

variable {job : Int64} {seeds : List String} {updates : List Update}

theorem length_placed (job : Int64) (seeds : List String) (updates : List Update) :
    (Builder.ofUpdates job seeds updates).placed.length = (sessionKeys updates).length := by
  simp [Builder.placed, Builder.counted, Builder.ofUpdates, sessionsOf]

theorem urls_eq_linkUrl :
    (Network.ofUpdates job seeds updates).urls =
      (Builder.ofUpdates job seeds updates).placed.map
        (Graph.linkUrl (Graph.edges (Builder.ofUpdates job seeds updates).placed)) := by
  rw [Network.ofUpdates, applyAll_start, finish_eq]

theorem domains_ofUpdates :
    (Network.ofUpdates job seeds updates).domains =
      (Builder.ofUpdates job seeds updates).domainIds.map fun (name, id) =>
        Graph.linkDomain (Graph.edges (Builder.ofUpdates job seeds updates).placed)
          (Graph.domainNode (Builder.ofUpdates job seeds updates).placed name id) := by
  rw [Network.ofUpdates, applyAll_start, finish_eq]

theorem length_urls (job : Int64) (seeds : List String) (updates : List Update) :
    (Network.ofUpdates job seeds updates).urls.length = (sessionKeys updates).length := by
  rw [urls_eq_linkUrl, List.length_map, length_placed]

theorem length_domains (job : Int64) (seeds : List String) (updates : List Update) :
    (Network.ofUpdates job seeds updates).domains.length =
      (Builder.ofUpdates job seeds updates).domainNames.length := by
  rw [domains_ofUpdates]
  simp [Builder.domainIds]

/-- A graph fits if its updates do. -/
theorem fits_of_length (h : 2 * updates.length < 2 ^ 63) :
    (Network.ofUpdates job seeds updates).Fits := by
  have hkeys : (sessionKeys updates).length ≤ updates.length := by
    simpa [sessionKeys] using length_eraseDups_le (updates.map (·.sessionKey))
  have hnames : (Builder.ofUpdates job seeds updates).domainNames.length ≤
      (sessionKeys updates).length := by
    simpa [Builder.ofUpdates, sessionsOf] using
      Builder.length_domainNames_le (Builder.ofUpdates job seeds updates)
  unfold Network.Fits
  rw [length_urls, length_domains]
  omega

theorem ids_urls :
    (Network.ofUpdates job seeds updates).urls.map Node.id =
      firstIds (sessionKeys updates).length := by
  rw [← length_placed job seeds, ← ids_placed, urls_eq_linkUrl, List.map_map]
  exact List.map_congr_left fun node _ => Graph.id_linkUrl _ node

theorem ids_domains :
    (Network.ofUpdates job seeds updates).domains.map Node.id =
      (Builder.ofUpdates job seeds updates).domainIds.map Prod.snd := by
  rw [domains_ofUpdates, List.map_map]
  refine List.map_congr_left ?_
  rintro ⟨name, id⟩ -
  exact (Graph.id_linkDomain _ _).trans (Graph.id_domainNode _ name id)

/-- The identifiers of all nodes, those of the URLs before those of the domains. -/
theorem ids_ofUpdates :
    let network := Network.ofUpdates job seeds updates
    (network.urls ++ network.domains).map Node.id =
      firstIds (network.urls.length + network.domains.length) := by
  intro network
  rw [List.map_append, ids_urls, ids_domains, Builder.map_snd_domainIds, length_urls,
    length_domains, firstIds_add]
  rfl

section Fits

variable (h : (Network.ofUpdates job seeds updates).Fits)

include h

theorem Network.Fits.nodup_domainIds :
    ((Builder.ofUpdates job seeds updates).domainIds.map Prod.snd).Nodup := by
  have hnodup := nodup_of_pairwise_lt (pairwise_firstIds h)
  rw [← ids_ofUpdates, List.map_append, ids_domains] at hnodup
  exact hnodup.of_append_right

theorem Network.Fits.pos_domainIds {entry : String × Int64}
    (hentry : entry ∈ (Builder.ofUpdates job seeds updates).domainIds) : 0 < entry.2 := by
  refine pos_of_mem_firstIds h ?_
  rw [← ids_ofUpdates, List.map_append, ids_domains]
  exact List.mem_append_right _ (List.mem_map_of_mem hentry)

/-- A URL has the identifier of the domain that its name says. -/
theorem domainId_eq_iff {node : Node} (hnode : node ∈ (Builder.ofUpdates job seeds updates).placed)
    {entry : String × Int64} (hentry : entry ∈ (Builder.ofUpdates job seeds updates).domainIds) :
    node.domainId = entry.2 ↔ Url.domainOf node.url = some entry.1 := by
  obtain ⟨counted, hcounted, rfl⟩ := List.mem_map.1 hnode
  refine ⟨?_, Builder.domainId_placeIn hentry⟩
  intro hid
  show Url.domainOf counted.url = _
  cases hname : Url.domainOf counted.url with
  | none =>
    have hmissing : missingId = entry.2 := by simpa [Graph.placeIn, hname] using hid
    exact absurd (hmissing ▸ h.pos_domainIds hentry) (by decide)
  | some name =>
    -- the domain of that name is the one of the entry, as it has the same identifier
    have hmem : name ∈ (Builder.ofUpdates job seeds updates).domainIds.map Prod.fst := by
      rw [Builder.map_fst_domainIds]
      exact Builder.mem_domainNames.2 ⟨counted, hcounted, hname⟩
    obtain ⟨other, hother, rfl⟩ := List.mem_map.1 hmem
    have hid' := Builder.domainId_placeIn hother hname
    rw [List.inj_on_of_nodup_map h.nodup_domainIds hother hentry (hid'.symm.trans hid)]

end Fits

end Updates

end CrawlGraph
