import CrawlGraph.Proofs.Graph.Finished

/-!
# Links between URLs

Finishing a graph gives each URL its parent and its outlinks in one pass over the edges. Both ends
of an edge are written at different nodes; `linkUrl_edges` says what each node gets from all of
them: the identifier of `parent?`, and the identifiers of the URLs whose parent it is, in their own
order.
-/

namespace CrawlGraph

namespace Graph

/-- The identifier of the parent of a node. -/
def parentId (urls : List Node) (node : Node) : Int64 :=
  ((parent? urls node).map Node.id).getD missingId

/-- The nodes that were found on a node. -/
def foundOn (urls : List Node) (node : Node) : List Node :=
  urls.filter fun child => (parent? urls child).map Node.id == some node.id

/-- A node with its parent, its outlinks, and those found on it counted. -/
def linked (urls : List Node) (node : Node) : Node :=
  { node with
    parentId := parentId urls node
    outlinks := (foundOn urls node).map Node.id
    totals := (foundOn urls node).foldl
      (fun totals child => totals.count child.statusCode child.contentLength) node.totals }

/-! ## Parents -/

theorem parent?_eq_some {urls : List Node} {node parent : Node} :
    parent? urls node = some parent ↔
      (∃ via, node.via = some via ∧ urls.find? (·.url == via) = some parent) ∧
        parent.id ≠ node.id := by
  simp [parent?, Option.filter_eq_some_iff, Option.bind_eq_some_iff]

theorem mem_of_parent? {urls : List Node} {node parent : Node}
    (h : parent? urls node = some parent) : parent ∈ urls := by
  obtain ⟨⟨via, -, hfind⟩, -⟩ := parent?_eq_some.1 h
  exact List.mem_of_find?_eq_some hfind

theorem mem_foundOn {urls : List Node} {node child : Node} :
    child ∈ foundOn urls node ↔
      child ∈ urls ∧ ∃ parent, parent? urls child = some parent ∧ parent.id = node.id := by
  simp [foundOn]

theorem foundOn_ne_self {urls : List Node} {node child : Node} (h : child ∈ foundOn urls node) :
    child.id ≠ node.id := by
  obtain ⟨-, parent, hparent, hid⟩ := mem_foundOn.1 h
  intro heq
  exact (parent?_eq_some.1 hparent).2 (hid.trans heq.symm)

/-! ## Adopting -/

theorem lacksOutlink_iff {node : Node} {id : Int64} :
    node.lacksOutlink id = true ↔ id ≠ node.id ∧ id ∉ node.outlinks := by
  simp [Node.lacksOutlink]

theorem adopt_eq {node child : Node} (hself : child.id ≠ node.id)
    (hnew : child.id ∉ node.outlinks) :
    node.adopt child =
      { node with
        outlinks := node.outlinks ++ [child.id]
        totals := node.totals.count child.statusCode child.contentLength } := by
  have h := lacksOutlink_iff.2 ⟨hself, hnew⟩
  unfold Node.adopt Node.link
  rw [if_pos h, if_pos h]
  rfl

/-- A node that adopts others, none of them twice and not itself, counts each of them once. -/
theorem foldl_adopt (children : List Node) (node : Node)
    (hself : ∀ child ∈ children, child.id ≠ node.id)
    (hnodup : (node.outlinks ++ children.map Node.id).Nodup) :
    children.foldl Node.adopt node =
      { node with
        outlinks := node.outlinks ++ children.map Node.id
        totals := children.foldl
          (fun totals child => totals.count child.statusCode child.contentLength)
          node.totals } := by
  induction children generalizing node with
  | nil => cases node; simp
  | cons child children ih =>
    have hnew : child.id ∉ node.outlinks := by
      intro hmem
      exact (List.nodup_append.1 hnodup).2.2 _ hmem _ (List.mem_map_of_mem List.mem_cons_self) rfl
    rw [List.foldl_cons, adopt_eq (hself child List.mem_cons_self) hnew, ih]
    · simp
    · intro other hother
      exact hself other (List.mem_cons_of_mem _ hother)
    · simpa using hnodup

/-! ## Edges -/

theorem mem_edges {urls : List Node} {edge : Node × Node} :
    edge ∈ edges urls ↔ edge.2 ∈ urls ∧ parent? urls edge.2 = some edge.1 := by
  obtain ⟨parent, child⟩ := edge
  simp only [edges, List.mem_filterMap, Option.map_eq_some_iff, Prod.mk.injEq]
  constructor
  · rintro ⟨_, hmem, _, hparent, rfl, rfl⟩
    exact ⟨hmem, hparent⟩
  · rintro ⟨hmem, hparent⟩
    exact ⟨child, hmem, parent, hparent, rfl, rfl⟩

theorem children_of_edges (urls : List Node) (node : Node) :
    ((edges urls).filter (·.1.id == node.id)).map Prod.snd = foundOn urls node := by
  -- the parents are those among all URLs, also where the induction is on a part of them
  suffices ∀ part : List Node,
      ((part.filterMap fun child => (parent? urls child).map fun parent => (parent, child)).filter
        (·.1.id == node.id)).map Prod.snd =
      part.filter fun child => (parent? urls child).map Node.id == some node.id from this urls
  intro part
  induction part with
  | nil => rfl
  | cons child part ih =>
    cases h : parent? urls child with
    | none => simpa [h] using ih
    | some parent => by_cases hid : parent.id = node.id <;> simpa [h, hid] using ih

section Unlinked

variable {urls : List Node} (h : Unlinked urls)

include h

theorem Unlinked.eq_of_id {a b : Node} (ha : a ∈ urls) (hb : b ∈ urls) (hid : a.id = b.id) :
    a = b :=
  List.inj_on_of_nodup_map (nodup_of_pairwise_lt h.ids) ha hb hid

theorem parent_of_edges {node : Node} (hnode : node ∈ urls) :
    (((edges urls).find? (·.2.id == node.id)).map fun edge => edge.1.id).getD missingId =
      parentId urls node := by
  unfold parentId
  have hchild : ∀ edge ∈ edges urls, (edge.2.id == node.id) = true → edge.2 = node := by
    intro edge hedge hid
    exact h.eq_of_id (mem_edges.1 hedge).1 hnode (eq_of_beq hid)
  cases hparent : parent? urls node with
  | none =>
    have hfind : (edges urls).find? (·.2.id == node.id) = none := by
      rw [List.find?_eq_none]
      intro edge hedge hid
      have hsome := (mem_edges.1 hedge).2
      rw [hchild edge hedge hid, hparent] at hsome
      cases hsome
    rw [hfind]
    rfl
  | some parent =>
    have hfind : (edges urls).find? (·.2.id == node.id) = some (parent, node) := by
      refine find?_of_unique (mem_edges.2 ⟨hnode, hparent⟩) (beq_self_eq_true _) ?_
      intro edge hedge hid
      have hsome := (mem_edges.1 hedge).2
      rw [hchild edge hedge hid, hparent] at hsome
      exact Prod.ext (Option.some.inj hsome).symm (hchild edge hedge hid)
    rw [hfind]
    rfl

theorem linkUrl_edges {node : Node} (hnode : node ∈ urls) :
    linkUrl (edges urls) node = linked urls node := by
  unfold linkUrl linked
  rw [children_of_edges, parent_of_edges h hnode, foldl_adopt]
  · simp only [h.outlinks node hnode, List.nil_append]
  · intro child hchild
    exact foundOn_ne_self hchild
  · simp only [h.outlinks node hnode, List.nil_append]
    exact (nodup_of_pairwise_lt h.ids).sublist (List.filter_sublist.map Node.id)

/-! ## What the links say -/

theorem linked_eq_linked {a b : Node} (ha : a ∈ urls) (hb : b ∈ urls) :
    linked urls a = linked urls b ↔ a.id = b.id := by
  constructor
  · intro heq
    have hid : (linked urls a).id = (linked urls b).id := by rw [heq]
    exact hid
  · intro hid
    rw [h.eq_of_id ha hb hid]

theorem parentId_eq_id {node parent : Node} (hparent : parent ∈ urls) :
    parentId urls node = parent.id ↔ parent? urls node = some parent := by
  unfold parentId
  constructor
  · intro hid
    cases hfound : parent? urls node with
    | none =>
      rw [hfound] at hid
      have hpos := h.pos parent hparent
      rw [← hid] at hpos
      exact absurd hpos (by decide)
    | some found =>
      rw [hfound] at hid
      rw [h.eq_of_id (mem_of_parent? hfound) hparent hid]
  · intro hfound
    rw [hfound]
    rfl

/-- A search by URL finds the node with the least identifier. -/
theorem find?_url {url : String} {node : Node} (hnode : node ∈ urls) :
    urls.find? (·.url == url) = some node ↔
      node.url = url ∧ ∀ other ∈ urls, other.url = url → node.id ≤ other.id := by
  have hurl : ∀ found, urls.find? (·.url == url) = some found → found.url = url := by
    intro found hfound
    simpa using List.find?_some hfound
  have hleast : ∀ found, urls.find? (·.url == url) = some found →
      ∀ other ∈ urls, other.url = url → found.id ≤ other.id := by
    intro found hfound other hother hother'
    obtain ⟨-, before, after, heq, hbefore⟩ := List.find?_eq_some_iff_append.1 hfound
    have hids := h.ids
    rw [heq, List.map_append, List.map_cons, List.pairwise_append, List.pairwise_cons] at hids
    rw [heq, List.mem_append, List.mem_cons] at hother
    rcases hother with hother | rfl | hother
    · simpa [hother'] using hbefore other hother
    · exact Int64.le_refl _
    · exact Int64.le_of_lt (hids.2.1.1 _ (List.mem_map_of_mem hother))
  constructor
  · intro hfound
    exact ⟨hurl node hfound, hleast node hfound⟩
  · rintro ⟨hnodeUrl, hnodeLeast⟩
    obtain ⟨found, hfound⟩ : ∃ found, urls.find? (·.url == url) = some found :=
      Option.isSome_iff_exists.1 (List.find?_isSome.2 ⟨node, hnode, by simpa using hnodeUrl⟩)
    have hmem := List.mem_of_find?_eq_some hfound
    have hid := Int64.le_antisymm (hleast found hfound node hnode hnodeUrl)
      (hnodeLeast found hmem (hurl found hfound))
    rw [hfound, h.eq_of_id hmem hnode hid]

theorem parent?_iff_first {node parent : Node} (hparent : parent ∈ urls) :
    parent? urls node = some parent ↔
      node.via = some parent.url ∧
        (∀ other ∈ urls, other.url = parent.url → parent.id ≤ other.id) ∧ parent.id ≠ node.id := by
  rw [parent?_eq_some, ← and_assoc]
  apply and_congr_left
  intro _
  constructor
  · rintro ⟨via, hvia, hfound⟩
    obtain ⟨rfl, hleast⟩ := (find?_url h hparent).1 hfound
    exact ⟨hvia, hleast⟩
  · rintro ⟨hvia, hleast⟩
    exact ⟨parent.url, hvia, (find?_url h hparent).2 ⟨rfl, hleast⟩⟩

theorem id_mem_outlinks {node child : Node} (hnode : node ∈ urls) (hchild : child ∈ urls) :
    child.id ∈ (linked urls node).outlinks ↔ parent? urls child = some node := by
  show child.id ∈ (foundOn urls node).map Node.id ↔ _
  rw [List.mem_map]
  constructor
  · rintro ⟨other, hother, hid⟩
    obtain ⟨hmem, parent, hparent, hparentId⟩ := mem_foundOn.1 hother
    obtain rfl := h.eq_of_id hmem hchild hid
    rw [hparent, h.eq_of_id (mem_of_parent? hparent) hnode hparentId]
  · intro hparent
    exact ⟨child, mem_foundOn.2 ⟨hchild, node, hparent, rfl⟩, rfl⟩

theorem pairwise_outlinks (node : Node) : (linked urls node).outlinks.Pairwise (· < ·) :=
  h.ids.sublist (List.filter_sublist.map Node.id)

end Unlinked

end Graph

/-! ## Finished graphs -/

section Finished

variable {job : Int64} {seeds : List String} {updates : List Update}

theorem Network.Fits.unlinked (h : (Network.ofUpdates job seeds updates).Fits) :
    Graph.Unlinked (Builder.ofUpdates job seeds updates).placed := by
  refine unlinked_placed ?_
  rw [length_placed, ← length_urls job seeds]
  exact Nat.lt_of_le_of_lt (Nat.le_add_right _ _) h

/-- The URLs of a finished graph are the captures with their links. -/
theorem urls_ofUpdates (h : (Network.ofUpdates job seeds updates).Fits) :
    (Network.ofUpdates job seeds updates).urls =
      (Builder.ofUpdates job seeds updates).placed.map
        (Graph.linked (Builder.ofUpdates job seeds updates).placed) := by
  rw [urls_eq_linkUrl]
  exact List.map_congr_left fun node hnode => Graph.linkUrl_edges h.unlinked hnode

theorem via_urls (h : (Network.ofUpdates job seeds updates).Fits) :
    (Network.ofUpdates job seeds updates).urls.map Node.via =
      ((Builder.start job seeds).applyAll updates).sessions.map Session.via? := by
  rw [urls_ofUpdates h, applyAll_start]
  simp only [Builder.placed, Builder.counted, List.map_map]
  rfl

end Finished

/-- The two ends of each link agree. -/
structure Network.LinksAgree (network : Network) : Prop where
  /-- A URL is an outlink of its parent and of no other one. -/
  outlink_iff : ∀ p ∈ network.urls, ∀ c ∈ network.urls, c.id ∈ p.outlinks ↔ c.parentId = p.id
  /-- The parent is the first capture of the URL that a URL was found on, unless that is itself. -/
  parent_iff : ∀ p ∈ network.urls, ∀ c ∈ network.urls,
    c.parentId = p.id ↔
      c.via = some p.url ∧ (∀ q ∈ network.urls, q.url = p.url → p.id ≤ q.id) ∧ p ≠ c
  /-- What has no parent says so. -/
  orphan : ∀ c ∈ network.urls, (∀ p ∈ network.urls, c.parentId ≠ p.id) → c.parentId = missingId
  ascending : ∀ p ∈ network.urls, p.outlinks.Pairwise (· < ·)
  not_self : ∀ p ∈ network.urls, p.id ∉ p.outlinks
  disjoint : ∀ p ∈ network.urls, ∀ q ∈ network.urls, ∀ id,
    id ∈ p.outlinks → id ∈ q.outlinks → p = q

/-- **Edges.** The links of a finished graph agree, where each URL was found on what its capture
resolves to. -/
theorem links_agree (job : Int64) (seeds : List String) (updates : List Update)
    (h : (Network.ofUpdates job seeds updates).Fits) :
    (Network.ofUpdates job seeds updates).LinksAgree ∧
      (Network.ofUpdates job seeds updates).urls.map Node.via =
        ((Builder.start job seeds).applyAll updates).sessions.map Session.via? := by
  have hfresh := h.unlinked
  refine ⟨?_, via_urls h⟩
  constructor <;> simp only [urls_ofUpdates h, List.forall_mem_map]
  case outlink_iff =>
    intro p hp c hc
    exact (Graph.id_mem_outlinks hfresh hp hc).trans (Graph.parentId_eq_id hfresh hp).symm
  case parent_iff =>
    intro p hp c hc
    refine (Graph.parentId_eq_id hfresh hp).trans ((Graph.parent?_iff_first hfresh hp).trans ?_)
    exact and_congr_right fun _ => and_congr_right fun _ =>
      (not_congr (Graph.linked_eq_linked hfresh hp hc)).symm
  case orphan =>
    intro c hc hnone
    cases hparent : Graph.parent? (Builder.ofUpdates job seeds updates).placed c with
    | none =>
      show ((Graph.parent? _ c).map Node.id).getD missingId = missingId
      rw [hparent]
      rfl
    | some p =>
      have hp := Graph.mem_of_parent? hparent
      exact absurd ((Graph.parentId_eq_id hfresh hp).2 hparent) (hnone p hp)
  case ascending => exact fun p _ => Graph.pairwise_outlinks hfresh p
  case not_self =>
    intro p hp hmem
    exact (Graph.parent?_eq_some.1 ((Graph.id_mem_outlinks hfresh hp hp).1 hmem)).2 rfl
  case disjoint =>
    intro p hp q hq id hidp hidq
    obtain ⟨c, hc, rfl⟩ := List.mem_map.1 hidp
    have hc := (Graph.mem_foundOn.1 hc).1
    have hparent := (Graph.id_mem_outlinks hfresh hp hc).1 hidp
    rw [(Graph.id_mem_outlinks hfresh hq hc).1 hidq] at hparent
    rw [Option.some.inj hparent]

/-- Two captures found on each other are each other's parents. -/
theorem links_agree_of_mutual :
    let network := Network.ofUpdates 1 [] [
      ⟨"a", "http://a.example/", 0, .metadata (some "http://b.example/") false⟩,
      ⟨"b", "http://b.example/", 10, .metadata (some "http://a.example/") false⟩]
    network.Fits ∧ network.LinksAgree ∧
      network.urls.map (fun node => (node.id, node.parentId, node.outlinks)) =
        [(1, 2, [2]), (2, 1, [1])] := by
  intro network
  have hfits : network.Fits := fits_of_length (by decide)
  exact ⟨hfits, (links_agree _ _ _ hfits).1, by decide +kernel⟩

end CrawlGraph
