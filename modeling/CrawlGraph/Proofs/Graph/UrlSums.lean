import CrawlGraph.Proofs.Graph.Storable

/-!
# Sums of URLs

A URL of a finished graph counts itself and each of its outlinks, every one of them once and by its
own answer, and nothing that was found further on: `countsOutlinks_ofUpdates`.

1. Exact sums over the answers of nodes are numbers of nodes and the sum of their lengths
   (`Totals.Sum.countsNodes`).
2. A URL counts its own answer first (`totals_placed`) and then those of the captures that were
   found on it (`totals_linked`). None of them is counted twice (`subperm_foundOn`), so the sums are
   exact (`sum_linked`).
3. The captures that were found on a URL are those whose parent it is (`filter_parentId`), and the
   ones that its outlinks name (`outlinked_linked`).
-/

namespace CrawlGraph

/-- Sums over nodes: how many they are, how many of them were captured with and without success, and
the bytes of their contents, where a negative length counts as none. -/
structure Totals.CountsNodes (totals : Totals) (nodes : List Node) : Prop where
  urls : totals.urls.toInt = nodes.length
  success : totals.success.toInt =
    nodes.countP fun node => 200 ≤ node.statusCode ∧ node.statusCode < 400
  failed : totals.failed.toInt =
    nodes.countP fun node => ¬(200 ≤ node.statusCode ∧ node.statusCode < 400)
  size : totals.size.toInt = (nodes.map fun node => max 0 node.contentLength.toInt).sum

/-- The URLs that the outlinks of a node name. -/
def Network.outlinked (network : Network) (node : Node) : List Node :=
  node.outlinks.filterMap network.url?

/-- A URL of a graph counts itself and its outlinks, each of them once. -/
structure Network.CountsOutlinks (network : Network) (node : Node) : Prop where
  /-- Each outlink names a URL of the graph. -/
  ids : (network.outlinked node).map Node.id = node.outlinks
  nodup : (node.id :: node.outlinks).Nodup
  urls : node.totals.urls.toInt = 1 + node.outlinks.length
  totals : node.totals.CountsNodes (node :: network.outlinked node)

/-! ## Sums over nodes -/

theorem isSuccess_iff {statusCode : Int32} :
    isSuccess statusCode = true ↔ 200 ≤ statusCode ∧ statusCode < 400 := by
  simp [isSuccess]

/-- A sum to which a node adds one or nothing is a number of nodes. -/
theorem Counter.sum_eq_countP {counter : Counter} {p : Node → Prop} [DecidablePred p]
    (h : ∀ node : Node, counter.weight node.answer = if p node then 1 else 0) (nodes : List Node) :
    counter.sum (nodes.map Node.answer) = nodes.countP fun node => p node := by
  induction nodes with
  | nil => rfl
  | cons node nodes ih =>
    rw [List.map_cons, ← List.singleton_append, sum_append, sum_singleton, ih, h, List.countP_cons,
      Nat.add_comm]
    simp only [decide_eq_true_iff]

theorem Counter.size_sum (nodes : List Node) :
    (size.sum (nodes.map Node.answer) : ℤ) =
      (nodes.map fun node => max 0 node.contentLength.toInt).sum := by
  induction nodes with
  | nil => rfl
  | cons node nodes ih =>
    rw [List.map_cons, ← List.singleton_append, sum_append, sum_singleton, Nat.cast_add, ih,
      List.map_cons, List.sum_cons, max_comm, ← Int.toNat_eq_max]
    rfl

/-- Exact sums over answers are sums over the nodes that they stand at. -/
theorem Totals.Sum.countsNodes {totals : Totals} {nodes : List Node}
    (h : totals.Sum (nodes.map Node.answer)) : totals.CountsNodes nodes where
  urls := by
    rw [show totals.urls = Counter.urls.read totals from rfl, h .urls,
      Counter.sum_eq_countP (p := fun _ => True) fun _ => rfl]
    simp
  success := by
    rw [show totals.success = Counter.success.read totals from rfl, h .success]
    refine congrArg Nat.cast (Counter.sum_eq_countP (fun node => ?_) nodes)
    simp only [Counter.weight, isSuccess_iff]
    rfl
  failed := by
    rw [show totals.failed = Counter.failed.read totals from rfl, h .failed]
    refine congrArg Nat.cast (Counter.sum_eq_countP (fun node => ?_) nodes)
    simp only [Counter.weight, isSuccess_iff, ite_not]
    rfl
  size := by
    rw [show totals.size = Counter.size.read totals from rfl, h .size]
    exact Counter.size_sum nodes

/-! ## Finished graphs -/

section Finished

variable {job : Int64} {seeds : List String} {updates : List Update}

theorem totals_placed {node : Node} (h : node ∈ (Builder.ofUpdates job seeds updates).placed) :
    node.totals = Totals.add {} node.answer := by
  obtain ⟨_, hcounted, rfl⟩ := List.mem_map.1 h
  obtain ⟨_, hsession, rfl⟩ := List.mem_map.1 hcounted
  obtain ⟨_, -, rfl⟩ := List.mem_map.1 hsession
  rfl

/-- A capture counts its own answer, and then those of the captures that are found on it. -/
theorem totals_linked {node : Node} (h : node ∈ (Builder.ofUpdates job seeds updates).placed) :
    (Graph.linked (Builder.ofUpdates job seeds updates).placed node).totals =
      ((node :: Graph.foundOn (Builder.ofUpdates job seeds updates).placed node).map
        Node.answer).foldl Totals.add {} := by
  rw [List.map_cons, List.foldl_cons, ← totals_placed h, List.foldl_map]
  rfl

variable (h : (Network.ofUpdates job seeds updates).Fits)

include h

section Placed

variable {node : Node} (hnode : node ∈ (Builder.ofUpdates job seeds updates).placed)

include hnode

/-- A capture and those that are found on it are different captures. -/
theorem subperm_foundOn :
    ((node :: Graph.foundOn (Builder.ofUpdates job seeds updates).placed node).map
        Node.answer).Subperm ((Builder.ofUpdates job seeds updates).placed.map Node.answer) := by
  have hnodup : (Builder.ofUpdates job seeds updates).placed.Nodup :=
    List.Nodup.of_map Node.id (nodup_of_pairwise_lt h.unlinked.ids)
  have hself : node ∉ Graph.foundOn (Builder.ofUpdates job seeds updates).placed node :=
    fun hself => Graph.foundOn_ne_self hself rfl
  have hsubset : node :: Graph.foundOn (Builder.ofUpdates job seeds updates).placed node ⊆
      (Builder.ofUpdates job seeds updates).placed :=
    List.cons_subset.2 ⟨hnode, fun _ hother => (Graph.mem_foundOn.1 hother).1⟩
  obtain ⟨same, hperm, hsub⟩ :=
    List.subperm_of_subset (List.nodup_cons.2 ⟨hself, hnodup.filter _⟩) hsubset
  exact ⟨same.map Node.answer, hperm.map _, hsub.map _⟩

/-- The sums of a capture are the exact ones. -/
theorem sum_linked (hsize : (updates.map Update.size).sum < 2 ^ 63) :
    (Graph.linked (Builder.ofUpdates job seeds updates).placed node).totals.Sum
      ((node :: Graph.foundOn (Builder.ofUpdates job seeds updates).placed node).map
        Node.answer) := by
  rw [totals_linked hnode]
  refine sum_foldl_count fun counter => ?_
  exact Nat.lt_of_le_of_lt (counter.sum_subperm (subperm_foundOn h hnode))
    (countable_placed h hsize counter)

/-- The URLs whose parent a capture is are those that are found on it. -/
theorem filter_parentId :
    (Network.ofUpdates job seeds updates).urls.filter (·.parentId == node.id) =
      (Graph.foundOn (Builder.ofUpdates job seeds updates).placed node).map
        (Graph.linked (Builder.ofUpdates job seeds updates).placed) := by
  rw [urls_ofUpdates h, List.filter_map]
  refine congrArg (List.map _) (List.filter_congr fun child _ => ?_)
  show (Graph.parentId _ child == node.id) = _
  have hpos := h.unlinked.pos node hnode
  unfold Graph.parentId
  cases (Graph.parent? (Builder.ofUpdates job seeds updates).placed child).map Node.id with
  | some id => rfl
  | none =>
    have hne : missingId ≠ node.id := by
      rintro hid
      rw [← hid] at hpos
      exact absurd hpos (by decide)
    simpa using hne

end Placed

/-- The outlinks of a capture name the captures that are found on it. -/
theorem outlinked_linked (node : Node) :
    (Network.ofUpdates job seeds updates).outlinked
        (Graph.linked (Builder.ofUpdates job seeds updates).placed node) =
      (Graph.foundOn (Builder.ofUpdates job seeds updates).placed node).map
        (Graph.linked (Builder.ofUpdates job seeds updates).placed) := by
  have hfound : ∀ child ∈ Graph.foundOn (Builder.ofUpdates job seeds updates).placed node,
      (Network.ofUpdates job seeds updates).url? child.id =
        some (Graph.linked (Builder.ofUpdates job seeds updates).placed child) := by
    intro child hchild
    have hmem := List.mem_map_of_mem
      (f := Graph.linked (Builder.ofUpdates job seeds updates).placed) (Graph.mem_foundOn.1 hchild).1
    rw [← urls_ofUpdates h] at hmem
    exact (storable_ofUpdates h).url?_id hmem
  show ((Graph.foundOn _ node).map Node.id).filterMap (Network.url? _) = _
  rw [List.filterMap_map, ← List.filterMap_eq_map]
  exact List.filterMap_congr hfound

end Finished

/-- **Sums of URLs.** Each URL of a finished graph counts itself and its outlinks, each of them once
and by its own answer. -/
theorem countsOutlinks_ofUpdates (job : Int64) (seeds : List String) (updates : List Update)
    (h : (Network.ofUpdates job seeds updates).Fits)
    (hsize : (updates.map Update.size).sum < 2 ^ 63) :
    ∀ node ∈ (Network.ofUpdates job seeds updates).urls,
      (Network.ofUpdates job seeds updates).CountsOutlinks node := by
  intro node hnode
  rw [urls_ofUpdates h] at hnode
  obtain ⟨placed, hplaced, rfl⟩ := List.mem_map.1 hnode
  have hfound := outlinked_linked h placed
  set captures := (Builder.ofUpdates job seeds updates).placed
  have hids : (Graph.linked captures placed).outlinks =
      (Graph.foundOn captures placed).map Node.id := rfl
  have htotals : (Graph.linked captures placed).totals.Sum
      ((Graph.linked captures placed ::
        (Graph.foundOn captures placed).map (Graph.linked captures)).map Node.answer) := by
    rw [List.map_cons, List.map_map]
    exact sum_linked h hplaced hsize
  constructor
  case ids =>
    rw [hfound, List.map_map]
    rfl
  case nodup =>
    rw [List.nodup_cons]
    refine ⟨fun hself => ?_, ?_⟩
    · obtain ⟨child, hchild, hid⟩ := List.mem_map.1 hself
      exact Graph.foundOn_ne_self hchild hid
    · exact nodup_of_pairwise_lt (Graph.pairwise_outlinks h.unlinked placed)
  case urls =>
    rw [htotals.countsNodes.urls, hids]
    simp [Nat.add_comm]
  case totals =>
    rw [hfound]
    exact htotals.countsNodes

/-- Two captures that were found on each other, and one that was found on the second of them: the
first one does not count the third. -/
theorem countsOutlinks_of_chain :
    let updates : List Update := [
      ⟨"a", "http://a.example/", 0, .metadata (some "http://b.example/") false⟩,
      ⟨"b", "http://b.example/", 10, .metadata (some "http://a.example/") false⟩,
      ⟨"c", "http://c.example/", 20, .metadata (some "http://b.example/") false⟩,
      ⟨"a", "http://a.example/", 30, .response ⟨200, none, 100⟩⟩,
      ⟨"b", "http://b.example/", 40, .response ⟨404, none, 20⟩⟩,
      ⟨"c", "http://c.example/", 50, .exchange ⟨399, none, -7⟩⟩]
    let network := Network.ofUpdates 1 [] updates
    network.Fits ∧ (updates.map Update.size).sum < 2 ^ 63 ∧
      (∀ node ∈ network.urls, network.CountsOutlinks node) ∧
      network.urls.map (fun node => (node.outlinks, node.totals)) =
        [([2], ⟨2, 1, 1, 120⟩), ([1, 3], ⟨3, 2, 1, 120⟩), ([], ⟨1, 1, 0, 0⟩)] := by
  intro updates network
  have hfits : network.Fits := fits_of_length (by decide)
  have hsize : (updates.map Update.size).sum < 2 ^ 63 := by decide +kernel
  exact ⟨hfits, hsize, countsOutlinks_ofUpdates 1 [] updates hfits hsize, by decide +kernel⟩

end CrawlGraph
