import CrawlGraph.Proofs.Graph.DomainLinks
import CrawlGraph.Proofs.Store.Saved

/-!
# Identifiers and what refers to them

The nodes of a finished graph are numbered one after another, first the URLs and then the domains,
and all that refers to a node refers to one that is there (`refersWithin_ofUpdates`).

1. As long as the counters stay within 64 bits, the first `n` identifiers are the numbers from one to
   `n` (`toInt_firstIds`), so those of the URLs come before those of the domains
   (`toInt_ids_ofUpdates`).
2. The parent and the outlinks of a URL are captures, and the outlinks of a domain are domains of
   captures (`id_mem_urls`, `domainId_mem_domains`).
3. The lists name the URLs with a property (`lists_filter`).
-/

namespace CrawlGraph

theorem toInt_firstIds {n : ℕ} (h : n < 2 ^ 63) :
    (firstIds n).map Int64.toInt = (List.range' 1 n).map fun i : ℕ => (i : ℤ) := by
  unfold firstIds
  rw [List.range'_eq_map_range, List.map_map, List.map_map]
  refine List.map_congr_left fun i hi => ?_
  have hi := List.mem_range.1 hi
  show (Int64.ofNat (i + 1)).toInt = ((1 + i : ℕ) : ℤ)
  rw [Int64.toInt_ofNat_of_lt (by omega), Nat.add_comm]

/-- A list names the URLs with a property, each once, in ascending order. -/
def Network.Lists (network : Network) (ids : List Int64) (p : Node → Prop) : Prop :=
  ids.Pairwise (· < ·) ∧ ∀ id, id ∈ ids ↔ ∃ node ∈ network.urls, node.id = id ∧ p node

/-- Nodes are numbered one after another, and all that refers to a node refers to one that is there.
-/
structure Network.RefersWithin (network : Network) : Prop where
  urlIds : network.urls.map (·.id.toInt) = (List.range' 1 network.urls.length).map fun i : ℕ => (i : ℤ)
  domainIds : network.domains.map (·.id.toInt) =
    (List.range' (network.urls.length + 1) network.domains.length).map fun i : ℕ => (i : ℤ)
  urlCount : network.urlCount.toInt = network.urls.length
  domainCount : network.domainCount.toInt = network.domains.length
  domainId : ∀ node ∈ network.urls ++ network.domains,
    node.domainId = missingId ∨ node.domainId ∈ network.domains.map Node.id
  parentId : ∀ node ∈ network.urls,
    node.parentId = missingId ∨ node.parentId ∈ network.urls.map Node.id
  urlOutlinks : ∀ node ∈ network.urls, ∀ id ∈ node.outlinks, id ∈ network.urls.map Node.id
  domainOutlinks : ∀ node ∈ network.domains, ∀ id ∈ node.outlinks, id ∈ network.domains.map Node.id
  rootUrls : network.Lists network.rootUrls fun node => node.isSeed = true ∨ node.parentId ≤ 0
  malformedUrls : network.Lists network.malformedUrls fun node =>
    node.parsed.request = false ∨ node.parsed.response = false ∨ node.parsed.metadata = false
  rootDomains : network.rootDomains = network.domains.map Node.id
  /-- The records of all nodes, of the three lists and of the two counts have keys of their own. -/
  records : network.records.length = network.urls.length + network.domains.length + 5 ∧
    (network.records.map Prod.fst).Nodup

/-- The URLs that pass a test. -/
theorem lists_filter {network : Network} (h : (network.urls.map Node.id).Pairwise (· < ·))
    (test : Node → Bool) {p : Node → Prop} (htest : ∀ node, test node = true ↔ p node) :
    network.Lists ((network.urls.filter test).map Node.id) p := by
  refine ⟨h.sublist (List.filter_sublist.map Node.id), fun id => ?_⟩
  simp only [List.mem_map, List.mem_filter, htest, and_assoc]
  exact exists_congr fun node => and_congr_right fun _ => and_comm

theorem length_records (network : Network) :
    network.records.length = network.urls.length + network.domains.length + 5 := by
  unfold Network.records Network.named
  simp only [List.length_append, List.length_map, List.length_cons, List.length_nil]

section Finished

variable {job : Int64} {seeds : List String} {updates : List Update}

theorem rootUrls_ofUpdates :
    (Network.ofUpdates job seeds updates).rootUrls =
      ((Network.ofUpdates job seeds updates).urls.filter fun node =>
        node.isSeed || node.isRoot).map Node.id := by
  unfold Network.ofUpdates
  rw [finish_eq]

theorem malformedUrls_ofUpdates :
    (Network.ofUpdates job seeds updates).malformedUrls =
      ((Network.ofUpdates job seeds updates).urls.filter fun node =>
        !node.isComplete).map Node.id := by
  unfold Network.ofUpdates
  rw [finish_eq]

section Fits

variable (h : (Network.ofUpdates job seeds updates).Fits)

include h

/-- The URLs are numbered from one on, and the domains behind them. -/
theorem toInt_ids_ofUpdates :
    let network := Network.ofUpdates job seeds updates
    network.urls.map (·.id.toInt) =
        (List.range' 1 network.urls.length).map (fun i : ℕ => (i : ℤ)) ∧
      network.domains.map (·.id.toInt) =
        (List.range' (network.urls.length + 1) network.domains.length).map fun i : ℕ => (i : ℤ) := by
  intro network
  have hids : (network.urls ++ network.domains).map Node.id = _ := ids_ofUpdates
  have hids := congrArg (List.map Int64.toInt) hids
  rw [toInt_firstIds h, List.map_map, List.map_append, ← List.range'_append_1, List.map_append,
    Nat.add_comm 1] at hids
  refine List.append_inj hids ?_
  rw [List.length_map, List.length_map, List.length_range']

theorem pairwise_ids_urls :
    ((Network.ofUpdates job seeds updates).urls.map Node.id).Pairwise (· < ·) := by
  have hids := pairwise_firstIds h
  rw [← ids_ofUpdates, List.map_append] at hids
  exact (List.pairwise_append.1 hids).1

/-- Captures are URLs of the graph. -/
theorem id_mem_urls {node : Node} (hnode : node ∈ (Builder.ofUpdates job seeds updates).placed) :
    node.id ∈ (Network.ofUpdates job seeds updates).urls.map Node.id := by
  rw [urls_ofUpdates h, List.map_map]
  exact List.mem_map.2 ⟨node, hnode, rfl⟩

/-- The domain of a capture is a domain of the graph. -/
theorem domainId_mem_domains {node : Node}
    (hnode : node ∈ (Builder.ofUpdates job seeds updates).placed) :
    node.domainId = missingId ∨
      node.domainId ∈ (Network.ofUpdates job seeds updates).domains.map Node.id := by
  cases hname : Url.domainOf node.url with
  | none => exact .inl ((domainId_eq_missing_iff h hnode).2 hname)
  | some name =>
    obtain ⟨id, hentry, hid⟩ := exists_entry h hnode hname
    rw [ids_domains, hid]
    exact .inr (List.mem_map_of_mem hentry)

end Fits

end Finished

/-- **References.** The nodes of a finished graph are numbered one after another, and all that
refers to a node refers to one that is there. -/
theorem refersWithin_ofUpdates (job : Int64) (seeds : List String) (updates : List Update)
    (h : (Network.ofUpdates job seeds updates).Fits) :
    (Network.ofUpdates job seeds updates).RefersWithin := by
  have hstorable := storable_ofUpdates h
  obtain ⟨hurls, hdomains⟩ := toInt_ids_ofUpdates h
  constructor
  case urlIds => exact hurls
  case domainIds => exact hdomains
  case urlCount =>
    rw [hstorable.urlCount]
    exact Int64.toInt_ofNat_of_lt (Nat.lt_of_le_of_lt (Nat.le_add_right _ _) h)
  case domainCount =>
    rw [hstorable.domainCount]
    exact Int64.toInt_ofNat_of_lt (Nat.lt_of_le_of_lt (Nat.le_add_left _ _) h)
  case domainId =>
    intro node hnode
    rcases List.mem_append.1 hnode with hnode | hnode
    · rw [urls_ofUpdates h] at hnode
      obtain ⟨placed, hplaced, rfl⟩ := List.mem_map.1 hnode
      have hdomain := domainId_mem_domains h hplaced
      exact hdomain
    · rw [domains_eq] at hnode
      obtain ⟨entry, -, rfl⟩ := List.mem_map.1 hnode
      exact .inl (Graph.domainId_finishedDomain _ entry)
  case parentId =>
    intro node hnode
    rw [urls_ofUpdates h] at hnode
    obtain ⟨placed, -, rfl⟩ := List.mem_map.1 hnode
    show Graph.parentId _ placed = missingId ∨ Graph.parentId _ placed ∈ _
    unfold Graph.parentId
    cases hparent : Graph.parent? (Builder.ofUpdates job seeds updates).placed placed with
    | none => exact .inl rfl
    | some parent => exact .inr (id_mem_urls h (Graph.mem_of_parent? hparent))
  case urlOutlinks =>
    intro node hnode id hid
    rw [urls_ofUpdates h] at hnode
    obtain ⟨placed, -, rfl⟩ := List.mem_map.1 hnode
    obtain ⟨child, hchild, rfl⟩ := List.mem_map.1 hid
    exact id_mem_urls h (Graph.mem_foundOn.1 hchild).1
  case domainOutlinks =>
    intro node hnode id hid
    rw [domains_eq] at hnode
    obtain ⟨entry, -, rfl⟩ := List.mem_map.1 hnode
    obtain ⟨-, hne, child, hchild, rfl, -⟩ := Graph.mem_outlinks_finishedDomain.1 hid
    exact (domainId_mem_domains h hchild).resolve_left hne
  case rootUrls =>
    rw [rootUrls_ofUpdates]
    exact lists_filter (pairwise_ids_urls h) _ fun node => by simp [Node.isRoot]
  case malformedUrls =>
    rw [malformedUrls_ofUpdates]
    refine lists_filter (pairwise_ids_urls h) _ fun node => ?_
    rw [Node.isComplete, Bool.not_eq_true', Bool.and_eq_false_iff, Bool.and_eq_false_iff, or_assoc]
  case rootDomains => exact hstorable.rootDomains
  case records => exact ⟨length_records _, nodup_keys hstorable.nodup_ids⟩

/-- A seed without a response, and a URL that was found on it. -/
theorem refersWithin_of_two :
    let network := Network.ofUpdates 7 [] [
      ⟨"a", "http://a.example/", 0, .metadata none true⟩,
      ⟨"b", "http://b.example/", 10, .metadata (some "http://a.example/") false⟩,
      ⟨"b", "http://b.example/", 20, .exchange ⟨200, none, 5⟩⟩]
    network.Fits ∧ network.RefersWithin ∧
      (network.urls ++ network.domains).map (fun node => (node.id, node.domainId, node.parentId)) =
        [(1, 3, -1), (2, 4, 1), (3, -1, -1), (4, -1, -1)] ∧
      (network.rootUrls, network.malformedUrls, network.rootDomains) = ([1], [1], [3, 4]) := by
  intro network
  have hfits : network.Fits := fits_of_length (by decide)
  exact ⟨hfits, refersWithin_ofUpdates _ _ _ hfits, by decide +kernel, by decide +kernel⟩

end CrawlGraph
