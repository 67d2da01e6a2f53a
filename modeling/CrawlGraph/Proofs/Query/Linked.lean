import CrawlGraph.Proofs.Graph.Members
import CrawlGraph.Proofs.Graph.References
import CrawlGraph.Proofs.Graph.UrlSums
import CrawlGraph.Proofs.Query.Readable
import CrawlGraph.Proofs.Query.Saved

/-!
# Links read from a store

The links that a saved graph is asked for are the parents that it was built with, read the other way
round (`showsLinks_of_save`).

1. The outlinks of a URL are the URLs whose parent it is, in their order (`outlinks_url`), and those
   of a domain are the other domains with a URL whose parent is in it (`mem_outlinks_domain`).
2. What a node of a saved graph links to is read from the store as long as it is there
   (`outlinks_of_keeps`), and for a domain asked for its domains all of it counts
   (`children_of_domain`).
3. In any store whose nodes can be read, only links without a record are left out
   (`links_of_readable`).
-/

namespace CrawlGraph

/-! ## Links of a graph -/

section Finished

variable {job : Int64} {seeds : List String} {updates : List Update} {node domain : Node}

/-- A domain is linked to no other one twice. -/
theorem nodup_outlinks_domain
    (hdomain : domain ∈ (Network.ofUpdates job seeds updates).domains) :
    domain.outlinks.Nodup := by
  rw [domains_eq] at hdomain
  obtain ⟨entry, -, rfl⟩ := List.mem_map.1 hdomain
  exact Graph.nodup_outlinks_finishedDomain _ entry

variable (h : (Network.ofUpdates job seeds updates).Fits)

include h

/-- The outlinks of a URL are the URLs whose parent it is. -/
theorem outlinks_url (hnode : node ∈ (Network.ofUpdates job seeds updates).urls) :
    node.outlinks = ((Network.ofUpdates job seeds updates).urls.filter
      (·.parentId = node.id)).map Node.id := by
  have hmem := hnode
  rw [urls_ofUpdates h] at hmem
  obtain ⟨placed, hplaced, rfl⟩ := List.mem_map.1 hmem
  have hfound := congrArg (List.map Node.id) (filter_parentId h hplaced)
  rw [List.map_map] at hfound
  simp only [← beq_eq_decide]
  exact hfound.symm

/-- A domain is linked to the other domains with a URL whose parent is in it. -/
theorem mem_outlinks_domain (hnode : node ∈ (Network.ofUpdates job seeds updates).domains)
    (hdomain : domain ∈ (Network.ofUpdates job seeds updates).domains) :
    node.id ∈ domain.outlinks ↔ node.id ≠ domain.id ∧
      ∃ child ∈ (Network.ofUpdates job seeds updates).urls, child.domainId = node.id ∧
        ∃ parent ∈ (Network.ofUpdates job seeds updates).urls,
          child.parentId = parent.id ∧ parent.domainId = domain.id := by
  have hfresh := h.unlinked
  rw [domains_eq] at hnode hdomain
  obtain ⟨entry, hentry, rfl⟩ := List.mem_map.1 hnode
  obtain ⟨from', -, rfl⟩ := List.mem_map.1 hdomain
  rw [urls_ofUpdates h, Graph.mem_outlinks_finishedDomain, Graph.id_finishedDomain,
    Graph.id_finishedDomain]
  simp only [List.mem_map, exists_exists_and_eq_and]
  refine and_congr_right fun _ => ?_
  constructor
  · rintro ⟨-, child, hchild, hid, parent, hparent, hparentId⟩
    have hmem := Graph.mem_of_parent? hparent
    exact ⟨child, hchild, hid, parent, hmem, (Graph.parentId_eq_id hfresh hmem).2 hparent,
      hparentId⟩
  · rintro ⟨child, hchild, hid, parent, hmem, hparent, hparentId⟩
    exact ⟨h.ne_missing hentry, child, hchild, hid, parent,
      (Graph.parentId_eq_id hfresh hmem).1 hparent, hparentId⟩

/-- What a domain is linked to is a domain. -/
theorem outlinks_domain_subset (hdomain : domain ∈ (Network.ofUpdates job seeds updates).domains) :
    domain.outlinks ⊆ (Network.ofUpdates job seeds updates).domains.map Node.id := by
  intro id hid
  rw [domains_eq] at hdomain
  obtain ⟨entry, -, rfl⟩ := List.mem_map.1 hdomain
  obtain ⟨-, hne, child, hchild, rfl, -⟩ := Graph.mem_outlinks_finishedDomain.1 hid
  exact (domainId_mem_domains h hchild).resolve_left hne

end Finished

/-! ## Links in a store -/

/-- Each identifier of a list is that of one of the nodes, so these can be put in its order. -/
theorem exists_map_id_eq {nodes : List Node} {ids : List Int64} (h : ids ⊆ nodes.map Node.id) :
    ∃ found : List Node, found.map Node.id = ids ∧ found ⊆ nodes := by
  induction ids with
  | nil => exact ⟨[], rfl, List.nil_subset _⟩
  | cons id ids ih =>
    obtain ⟨hid, hids⟩ := List.cons_subset.1 h
    obtain ⟨node, hnode, rfl⟩ := List.mem_map.1 hid
    obtain ⟨found, rfl, hfound⟩ := ih hids
    exact ⟨node :: found, rfl, List.cons_subset.2 ⟨hnode, hfound⟩⟩

namespace Database

section Keeps

variable {db : Database} {network : Network} {completedAt : String}
  (hkeeps : db.Keeps network completedAt) (h : network.Storable) {node : Node}
  (hnode : node ∈ network.urls ++ network.domains)

include hkeeps h hnode

/-- What a node links to is found as long as it is in the graph. -/
theorem outlinks_of_keeps {found : List Node} (hids : node.outlinks = found.map Node.id)
    (hfound : found ⊆ network.urls ++ network.domains) :
    db.outlinks network.job node.id = .ok found := by
  unfold outlinks
  rw [node?_of_keeps hkeeps h hnode]
  show db.nodes network.job node.outlinks = _
  rw [hids]
  exact nodes_of_keeps hkeeps h hfound

/-- A URL is linked to no domains. -/
theorem children_of_url (hkind : node.kind = .url) : db.children network.job node.id = .ok [] := by
  unfold children
  rw [node?_of_keeps hkeeps h hnode]
  show (if node.kind = .domain then _ else _) = _
  rw [if_neg (by rw [hkind]; decide)]
  rfl

/-- All that a domain links to are domains. -/
theorem children_of_domain (hkind : node.kind = .domain) {found : List Node}
    (hids : node.outlinks = found.map Node.id) (hfound : found ⊆ network.urls ++ network.domains)
    (hkinds : ∀ other ∈ found, other.kind = .domain) :
    db.children network.job node.id = .ok found := by
  have hnodes : db.nodes network.job node.outlinks = .ok found := by
    rw [hids]
    exact nodes_of_keeps hkeeps h hfound
  unfold children
  rw [node?_of_keeps hkeeps h hnode]
  show (if node.kind = .domain then _ else _) = _
  rw [if_pos hkind, hnodes]
  exact congrArg Except.ok (List.filter_eq_self.2 fun other hother =>
    decide_eq_true (hkinds other hother))

end Keeps

theorem map_some_filterMap {α β : Type} (f : α → Option β) (items : List α) :
    (items.filterMap f).map some = (items.filter fun item => (f item).isSome).map f := by
  induction items with
  | nil => rfl
  | cons item items ih =>
    cases hitem : f item with
    | none => simpa [hitem] using ih
    | some found => simpa [hitem] using ih

/-- In a store whose nodes can be read, the links to nodes without a record are left out, and no
others. -/
theorem links_of_readable {db : Database} {job : Int64} (h : db.Readable job) {id : Int64}
    {node : Node} (hnode : db.stored? job id = some node) :
    ∃ linked, db.outlinks job id = .ok linked ∧
      linked.map some = (node.outlinks.filter fun other =>
        (db.value? (StoreKey.node job other)).isSome).map (db.stored? job) := by
  refine ⟨node.outlinks.filterMap (db.stored? job), ?_, ?_⟩
  · unfold outlinks
    rw [node?_of_readable h, hnode]
    exact nodes_of_readable h node.outlinks
  · simp only [← isSome_stored? h]
    exact map_some_filterMap _ _

end Database

/-- The links of a store are those of a graph. -/
structure Database.ShowsLinks (db : Database) (job : Int64) (network : Network) : Prop where
  ascending : (network.urls.map Node.id).Pairwise (· < ·)
  url : ∀ u ∈ network.urls,
    db.outlinks job u.id = .ok (network.urls.filter (·.parentId = u.id)) ∧
      db.children job u.id = .ok []
  /-- A domain is linked to the other domains of the URLs whose parents are in it. -/
  domain : ∀ d ∈ network.domains, ∃ linked,
    db.outlinks job d.id = .ok linked ∧ db.children job d.id = .ok linked ∧
      (linked.map Node.id).Nodup ∧
      ∀ other, other ∈ linked ↔ other ∈ network.domains ∧ other.id ≠ d.id ∧
        ∃ c ∈ network.urls, c.domainId = other.id ∧
          ∃ p ∈ network.urls, c.parentId = p.id ∧ p.domainId = d.id

theorem showsLinks_of_keeps {job : Int64} {seeds : List String} {updates : List Update}
    (h : (Network.ofUpdates job seeds updates).Fits) {db : Database} {completedAt : String}
    (hkeeps : db.Keeps (Network.ofUpdates job seeds updates) completedAt) :
    db.ShowsLinks (Network.ofUpdates job seeds updates).job
      (Network.ofUpdates job seeds updates) := by
  set network := Network.ofUpdates job seeds updates with hnetwork
  have hstorable : network.Storable := storable_ofUpdates h
  have hpopulated : network.Populated := populated_ofUpdates h
  constructor
  case ascending => exact pairwise_ids_urls h
  case url =>
    intro u hu
    have hnode : u ∈ network.urls ++ network.domains := List.mem_append_left _ hu
    refine ⟨Database.outlinks_of_keeps hkeeps hstorable hnode (outlinks_url h hu) ?_,
      Database.children_of_url hkeeps hstorable hnode (hpopulated.kind_urls u hu)⟩
    exact fun child hchild => List.mem_append_left _ (List.mem_of_mem_filter hchild)
  case domain =>
    intro d hd
    have hnode : d ∈ network.urls ++ network.domains := List.mem_append_right _ hd
    obtain ⟨linked, hids, hlinked⟩ := exists_map_id_eq (outlinks_domain_subset h hd)
    have hfound : linked ⊆ network.urls ++ network.domains :=
      fun other hother => List.mem_append_right _ (hlinked hother)
    refine ⟨linked, Database.outlinks_of_keeps hkeeps hstorable hnode hids.symm hfound,
      Database.children_of_domain hkeeps hstorable hnode (hpopulated.kind_domains d hd) hids.symm
        hfound fun other hother => hpopulated.kind_domains other (hlinked hother), ?_, ?_⟩
    · rw [hids]
      exact nodup_outlinks_domain hd
    · intro other
      constructor
      · intro hother
        refine ⟨hlinked hother, (mem_outlinks_domain h (hlinked hother) hd).1 ?_⟩
        exact hids ▸ List.mem_map_of_mem hother
      · rintro ⟨hdomain, hlinks⟩
        have hid := (mem_outlinks_domain h hdomain hd).2 hlinks
        rw [← hids] at hid
        obtain ⟨found, hmem, hsame⟩ := List.mem_map.1 hid
        rwa [← List.inj_on_of_nodup_map hpopulated.nodup (hlinked hmem) hdomain hsame]

/-- **Links.** In a store into which the graph of a list of updates has been saved, a URL is linked
to the URLs whose parent it is, and a domain to the other domains of the URLs whose parents are in
it. In a store in which the nodes of a job can be read, the links to nodes without a record are left
out, and no others. -/
theorem showsLinks_of_save :
    (∀ (job : Int64) (seeds : List String) (updates : List Update) (before saved : Database)
        (completedAt : String) (count : ℕ),
      let network := Network.ofUpdates job seeds updates
      network.Fits → before.saveNetwork network completedAt = (.ok count, saved) →
      saved.ShowsLinks job network) ∧
    ∀ (db : Database) (job id : Int64) (node : Node), db.Readable job →
      db.node? job id = .ok (some node) → ∃ linked, db.outlinks job id = .ok linked ∧
        linked.map some = (node.outlinks.filter fun other =>
          (db.value? (StoreKey.node job other)).isSome).map (db.stored? job) := by
  constructor
  · intro job seeds updates before saved completedAt count network hfits hsaved
    have hkeeps := Database.keeps_of_save (storable_ofUpdates hfits).nodup_ids hsaved
    have hlinks := showsLinks_of_keeps hfits hkeeps
    rwa [job_ofUpdates] at hlinks
  · intro db job id node hreadable hnode
    rw [Database.node?_of_readable hreadable] at hnode
    exact Database.links_of_readable hreadable (Except.ok.inj hnode)

/-- Two domains that are linked to each other, one of them to a third one, too; and a node with
links to a node that is stored and to one that is not. -/
theorem showsLinks_of_save_mutual :
    let network := Network.ofUpdates 7 [] [
      ⟨"a", "http://a.example/", 0, .metadata (some "http://b.example/") true⟩,
      ⟨"b", "http://b.example/", 10, .metadata (some "http://a.example/") false⟩,
      ⟨"c", "http://b.example/c", 20, .metadata (some "http://a.example/") false⟩,
      ⟨"d", "http://c.example/", 30, .metadata (some "http://a.example/") false⟩]
    let key (id : Int64) : Bytes := Utf8.ofString (StoreKey.node 7 id)
    let a : Node := { id := 1, kind := .url, url := "http://a.example/", outlinks := [500, 2] }
    let b : Node := { id := 2, kind := .url, url := "http://b.example/" }
    let db : Database :=
      { table := (Table.empty.put (key 2) b.toJson.bytes).put (key 1) a.toJson.bytes }
    (network.Fits ∧ ∃ count saved, db.saveNetwork network "now" = (.ok count, saved) ∧
      saved.ShowsLinks 7 network ∧
      (network.urls ++ network.domains).map (fun node => (node.id, node.outlinks)) =
        [(1, [2, 3, 4]), (2, [1]), (3, []), (4, []), (5, [6, 7]), (6, [5]), (7, [])]) ∧
    db.Readable 7 ∧ db.node? 7 1 = .ok (some a) ∧ ∃ linked, db.outlinks 7 1 = .ok linked ∧
      linked.map some = (a.outlinks.filter fun other =>
        (db.value? (StoreKey.node 7 other)).isSome).map (db.stored? 7) ∧
      linked.map Node.id = [2] := by
  intro network key a b db
  obtain ⟨hsaves, hreads⟩ := showsLinks_of_save
  have hfits : network.Fits := fits_of_length (by decide)
  obtain ⟨saved, hsave⟩ := Database.exists_save db network "now" rfl
  have hreadable : db.Readable 7 :=
    ((Database.readable_empty 7).put (key 2) rfl).put (key 1) rfl
  have hnode : db.node? 7 1 = .ok (some a) := by
    have hvalue : db.value? (StoreKey.node 7 1) = some a.toJson.bytes :=
      (Table.get?_put _ _ _ _).trans (if_pos rfl)
    have hnested : a.Nested 0 := Node.nested_of_nil rfl 0
    exact Database.read?_of_value hvalue (Node.isPlain_toJson hnested)
      (Node.ofJson?_toJson hnested (by decide))
  obtain ⟨linked, hlinked, hkept⟩ := hreads db 7 1 a hreadable hnode
  have hids : (db.outlinks 7 1).map (List.map Node.id) = .ok [2] := by decide +kernel
  rw [hlinked] at hids
  exact ⟨⟨hfits, _, saved, hsave, hsaves 7 [] _ db saved "now" _ hfits hsave, by decide +kernel⟩,
    hreadable, hnode, linked, hlinked, hkept, Except.ok.inj hids⟩

end CrawlGraph
