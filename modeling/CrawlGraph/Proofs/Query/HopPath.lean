import CrawlGraph.Proofs.Graph.References
import CrawlGraph.Proofs.Query.Readable
import CrawlGraph.Proofs.Query.Saved

/-!
# Paths up to a root

The path from a node goes from each node to the one that is stored as its parent, looks up no
identifier twice and ends only where it has to; in a saved graph that is at a root, unless the
parents lead back to the path or the path has its greatest length (`wayUp_hopPath`).

1. One step up is put in front of what the steps above it give (`Climbs.cons`), and each end of a
   path is one of the four that are allowed, so the path climbs as long as what it looks up can be
   read (`climbs_pathFrom`, by induction on the number of nodes that are left).
2. In a saved graph a parent is a URL of the graph (`parentId_mem_urls`), so no path ends before a
   missing one (`root_of_climbs`), and what has no parent is in the list of roots
   (`seeds_of_keeps`).
-/

namespace CrawlGraph

namespace Node

/-- The identifiers that are looked up for the nodes of a path: where it starts, and then the parent
of each node but the last. -/
def lookups : (start : Int64) → (path : List Node) → List Int64
  | _, [] => []
  | start, node :: path => start :: lookups node.parentId path

/-- The identifier that a path leads to: the parent of its last node. -/
def above : (start : Int64) → (path : List Node) → Int64
  | start, [] => start
  | _, node :: path => above node.parentId path

theorem above_of_getLast? {start : Int64} {path : List Node} {last : Node}
    (hlast : last ∈ path.getLast?) : above start path = last.parentId := by
  induction path generalizing start with
  | nil => cases hlast
  | cons node path ih =>
    cases path with
    | nil =>
      cases hlast
      rfl
    | cons next path =>
      show above node.parentId (next :: path) = last.parentId
      exact ih hlast

end Node

/-! ## Paths -/

/-- A path from an identifier up along the parents, in a store that keeps the given nodes. -/
structure WayUp (stored : Int64 → Option Node) (start : Int64) (path : List Node) : Prop where
  /-- It starts with what is stored there, and is empty only if that is nothing. -/
  first : path.head? = stored start
  next : path.IsChain fun child parent => 0 < child.parentId ∧ stored child.parentId = some parent
  distinct : (Node.lookups start path).Nodup
  length_le : path.length ≤ Database.longestPath
  /-- It ends where there is no parent, before one without a record, before one that has been looked
  up, or at its greatest length. -/
  ends : ∀ last ∈ path.getLast?,
    last.parentId ≤ 0 ∨
      last.parentId ∉ Node.lookups start path ∧ stored last.parentId = none ∨
      last.parentId ∈ Node.lookups start path ∨ path.length = Database.longestPath

/-- A path that has been climbed with `fuel` nodes allowed, around identifiers that have been
visited. -/
structure Climbs (stored : Int64 → Option Node) (fuel : ℕ) (visited : List Int64) (start : Int64)
    (path : List Node) : Prop where
  nodes : path.map some = (Node.lookups start path).map stored
  next : path.IsChain fun child parent => 0 < child.parentId ∧ stored child.parentId = some parent
  distinct : (Node.lookups start path).Nodup
  fresh : ∀ id ∈ Node.lookups start path, id ∉ visited
  length_le : path.length ≤ fuel
  ends : (∃ last ∈ path.getLast?, last.parentId ≤ 0) ∨ stored (Node.above start path) = none ∨
    Node.above start path ∈ visited ∨ Node.above start path ∈ Node.lookups start path ∨
    path.length = fuel

namespace Climbs

variable {stored : Int64 → Option Node} {fuel : ℕ} {visited : List Int64} {start : Int64}
  {node : Node} {path : List Node}

theorem head? (h : Climbs stored fuel visited start path) (hpath : path ≠ []) :
    path.head? = stored start := by
  obtain ⟨node, path, rfl⟩ := List.exists_cons_of_ne_nil hpath
  exact (List.cons.inj h.nodes).1

theorem stored_of_mem (h : Climbs stored fuel visited start path) (hnode : node ∈ path) :
    ∃ id, stored id = some node := by
  have hmem : some node ∈ path.map some := List.mem_map_of_mem hnode
  rw [h.nodes] at hmem
  obtain ⟨id, -, hid⟩ := List.mem_map.1 hmem
  exact ⟨id, hid⟩

/-- A path that ends before its first node. -/
theorem nil (hends : stored start = none ∨ start ∈ visited ∨ fuel = 0) :
    Climbs stored fuel visited start [] where
  nodes := rfl
  next := .nil
  distinct := List.nodup_nil
  fresh _ hid := absurd hid List.not_mem_nil
  length_le := Nat.zero_le _
  ends := by
    rcases hends with hnone | hvisited | hfuel
    · exact .inr (.inl hnone)
    · exact .inr (.inr (.inl hvisited))
    · exact .inr (.inr (.inr (.inr hfuel.symm)))

/-- A path of one node without a parent. -/
theorem root (hfresh : start ∉ visited) (hnode : stored start = some node)
    (hroot : node.parentId ≤ 0) : Climbs stored (fuel + 1) visited start [node] where
  nodes := by rw [Node.lookups, List.map_cons, List.map_cons, hnode]; rfl
  next := .singleton _
  distinct := List.nodup_singleton _
  fresh _ hid := List.mem_singleton.1 hid ▸ hfresh
  length_le := Nat.succ_le_succ (Nat.zero_le _)
  ends := .inl ⟨node, rfl, hroot⟩

/-- A node is put in front of the path from its parent. -/
theorem cons (hfresh : start ∉ visited) (hnode : stored start = some node)
    (hup : 0 < node.parentId) (h : Climbs stored fuel (start :: visited) node.parentId path) :
    Climbs stored (fuel + 1) visited start (node :: path) where
  nodes := by rw [List.map_cons, h.nodes, Node.lookups, List.map_cons, hnode]
  next := h.next.cons fun parent hparent => by
    have hpath : path ≠ [] := by
      rintro rfl
      cases hparent
    exact ⟨hup, (h.head? hpath).symm.trans hparent⟩
  distinct := List.nodup_cons.2 ⟨fun hid => h.fresh _ hid List.mem_cons_self, h.distinct⟩
  fresh := by
    intro id hid
    rcases List.mem_cons.1 hid with rfl | hid
    · exact hfresh
    · exact fun hvisited => h.fresh id hid (List.mem_cons_of_mem _ hvisited)
  length_le := Nat.succ_le_succ h.length_le
  ends := by
    rcases h.ends with ⟨last, hlast, hroot⟩ | hnone | hvisited | hlooked | hlength
    · refine .inl ⟨last, ?_, hroot⟩
      cases path with
      | nil => cases hlast
      | cons next path => exact hlast
    · exact .inr (.inl hnone)
    · -- what was visited above is what was visited here and the one that is looked up here
      rcases List.mem_cons.1 hvisited with hself | hvisited
      · exact .inr (.inr (.inr (.inl (List.mem_cons.2 (.inl hself)))))
      · exact .inr (.inr (.inl hvisited))
    · exact .inr (.inr (.inr (.inl (List.mem_cons_of_mem _ hlooked))))
    · exact .inr (.inr (.inr (.inr (congrArg Nat.succ hlength))))

/-- A path that has been climbed from the start, with all nodes allowed. -/
theorem wayUp (h : Climbs stored Database.longestPath [] start path) :
    WayUp stored start path where
  first := by
    by_cases hpath : path = []
    · subst hpath
      rcases h.ends with ⟨last, hlast, -⟩ | hnone | hvisited | hlooked | hlength
      · cases hlast
      · exact hnone.symm
      · cases hvisited
      · cases hlooked
      · cases hlength
    · exact h.head? hpath
  next := h.next
  distinct := h.distinct
  length_le := h.length_le
  ends := by
    intro last hlast
    have habove : Node.above start path = last.parentId := Node.above_of_getLast? hlast
    by_cases hlooked : last.parentId ∈ Node.lookups start path
    · exact .inr (.inr (.inl hlooked))
    rcases h.ends with ⟨other, hother, hroot⟩ | hnone | hvisited | hlooked' | hlength
    · cases hlast.symm.trans hother
      exact .inl hroot
    · exact .inr (.inl ⟨hlooked, habove ▸ hnone⟩)
    · cases hvisited
    · exact absurd (habove ▸ hlooked') hlooked
    · exact .inr (.inr (.inr hlength))

end Climbs

namespace Database

section Reads

/-! ## Climbing

What is looked up on the way has to be read without failure. The look-ups stay among identifiers
that are closed under parents: all of them in a store that can be read, and those of the URLs in a
store that keeps a graph beside other records. -/

variable {db : Database} {job : Int64} {stored : Int64 → Option Node} (known : Int64 → Prop)
  (hread : ∀ id, known id → db.node? job id = .ok (stored id))
  (hup : ∀ id node, known id → stored id = some node → 0 < node.parentId → known node.parentId)

include hread hup

theorem climbs_pathFrom (fuel : ℕ) (visited : List Int64) {start : Int64} (hstart : known start) :
    ∃ path, db.pathFrom job fuel visited start = .ok path ∧
      Climbs stored fuel visited start path := by
  induction fuel generalizing visited start with
  | zero => exact ⟨[], rfl, .nil (.inr (.inr rfl))⟩
  | succ fuel ih =>
    unfold pathFrom
    by_cases hvisited : start ∈ visited
    · rw [if_pos (by simpa using hvisited)]
      exact ⟨[], rfl, .nil (.inr (.inl hvisited))⟩
    rw [if_neg (by simpa using hvisited), hread start hstart]
    cases hnode : stored start with
    | none => exact ⟨[], rfl, .nil (.inl hnode)⟩
    | some node =>
      by_cases hroot : node.parentId ≤ 0
      · refine ⟨[node], ?_, .root hvisited hnode hroot⟩
        show (if node.parentId ≤ 0 then _ else _) = _
        rw [if_pos hroot]
        rfl
      · have hpos : 0 < node.parentId := Int64.not_le.1 hroot
        obtain ⟨path, hpath, hclimbs⟩ :=
          ih (start :: visited) (hup start node hstart hnode hpos)
        refine ⟨node :: path, ?_, .cons hvisited hnode hpos hclimbs⟩
        show (if node.parentId ≤ 0 then _ else _) = _
        rw [if_neg hroot, hpath]
        rfl

end Reads

end Database

/-! ## Saved graphs -/

section Finished

variable {job : Int64} {seeds : List String} {updates : List Update}
  (h : (Network.ofUpdates job seeds updates).Fits)

include h

/-- What a URL names as its parent is a URL. -/
theorem parentId_mem_urls {node : Node} (hnode : node ∈ (Network.ofUpdates job seeds updates).urls)
    (hpos : 0 < node.parentId) :
    node.parentId ∈ (Network.ofUpdates job seeds updates).urls.map Node.id := by
  rw [urls_ofUpdates h] at hnode
  obtain ⟨placed, -, rfl⟩ := List.mem_map.1 hnode
  have hid : (Graph.linked (Builder.ofUpdates job seeds updates).placed placed).parentId =
      ((Graph.parent? (Builder.ofUpdates job seeds updates).placed placed).map Node.id).getD
        missingId := rfl
  cases hparent : Graph.parent? (Builder.ofUpdates job seeds updates).placed placed with
  | none =>
    rw [hid, hparent] at hpos
    exact absurd hpos (by decide)
  | some parent =>
    rw [hid, hparent]
    exact id_mem_urls h (Graph.mem_of_parent? hparent)

/-- A path along URLs ends at a root, before a URL that it has passed, or at its greatest length. -/
theorem root_of_climbs {start : Int64} {path : List Node} {last : Node}
    (hclimbs : Climbs (Network.ofUpdates job seeds updates).url? Database.longestPath [] start path)
    (hlast : last ∈ path.getLast?) :
    last ∈ (Network.ofUpdates job seeds updates).urls.filter
        (fun node => node.isSeed || node.isRoot) ∨
      last.parentId ∈ Node.lookups start path ∨ path.length = Database.longestPath := by
  obtain ⟨id, hid⟩ := hclimbs.stored_of_mem (List.mem_of_mem_getLast? hlast)
  have hmem : last ∈ (Network.ofUpdates job seeds updates).urls := List.mem_of_find?_eq_some hid
  by_cases hroot : last.parentId ≤ 0
  · exact .inl (List.mem_filter.2 ⟨hmem, by simp [Node.isRoot, hroot]⟩)
  rcases hclimbs.wayUp.ends last hlast with hroot' | ⟨-, hnone⟩ | hlooked | hlength
  · exact absurd hroot' hroot
  · -- a parent is a URL, so it is not missing
    obtain ⟨parent, hparent, hparentId⟩ :=
      List.mem_map.1 (parentId_mem_urls h hmem (Int64.not_le.1 hroot))
    rw [← hparentId, (storable_ofUpdates h).url?_id hparent] at hnone
    cases hnone
  · exact .inr (.inl hlooked)
  · exact .inr (.inr hlength)

variable {db : Database} {completedAt : String}
  (hkeeps : db.Keeps (Network.ofUpdates job seeds updates) completedAt)

include hkeeps

/-- The list of roots gives the URLs that are seeds or have no parent. -/
theorem seeds_of_keeps :
    db.seeds (Network.ofUpdates job seeds updates).job =
      .ok ((Network.ofUpdates job seeds updates).urls.filter fun node =>
        node.isSeed || node.isRoot) := by
  refine Database.list_of_keeps hkeeps (storable_ofUpdates h) ?_ ?_
  · intro node hnode
    exact List.mem_append_left _ (List.mem_of_mem_filter hnode)
  · rw [← rootUrls_ofUpdates]
    exact List.mem_cons_self

/-- The way up from a URL leads along URLs. -/
theorem climbs_of_keeps {node : Node} (hnode : node ∈ (Network.ofUpdates job seeds updates).urls) :
    ∃ path, db.hopPath (Network.ofUpdates job seeds updates).job node.id = .ok path ∧
      Climbs (Network.ofUpdates job seeds updates).url? Database.longestPath [] node.id path := by
  have hstorable := storable_ofUpdates h
  refine Database.climbs_pathFrom
    (· ∈ (Network.ofUpdates job seeds updates).urls.map Node.id) ?_ ?_ _ []
    (List.mem_map_of_mem hnode)
  · intro id hid
    obtain ⟨other, hother, rfl⟩ := List.mem_map.1 hid
    rw [Database.node?_of_keeps hkeeps hstorable (List.mem_append_left _ hother),
      hstorable.url?_id hother]
  · intro id other _ hother hpos
    exact parentId_mem_urls h (List.mem_of_find?_eq_some hother) hpos

end Finished

/-- **Hop paths.** In a store in which the nodes of a job can be read, there is a path up from each
identifier. In a store into which the graph of a list of updates has been saved, the path from a URL
ends at one of the roots, unless it ends before a URL that it has passed or at its greatest length.
-/
theorem wayUp_hopPath :
    (∀ (db : Database) (job : Int64), db.Readable job → ∀ start, ∃ path,
      db.hopPath job start = .ok path ∧ WayUp (db.stored? job) start path) ∧
    ∀ (job : Int64) (seeds : List String) (updates : List Update) (before saved : Database)
        (completedAt : String) (count : ℕ),
      let network := Network.ofUpdates job seeds updates
      network.Fits → before.saveNetwork network completedAt = (.ok count, saved) →
      ∃ roots, saved.seeds job = .ok roots ∧ ∀ node ∈ network.urls, ∃ path,
        saved.hopPath job node.id = .ok path ∧ WayUp network.url? node.id path ∧
          ∃ last ∈ path.getLast?, last ∈ roots ∨ last.parentId ∈ Node.lookups node.id path ∨
            path.length = Database.longestPath := by
  constructor
  · intro db job hreadable start
    obtain ⟨path, hpath, hclimbs⟩ : ∃ path, db.hopPath job start = .ok path ∧
        Climbs (db.stored? job) Database.longestPath [] start path :=
      Database.climbs_pathFrom (fun _ => True)
        (fun id _ => Database.node?_of_readable hreadable id) (fun _ _ _ _ _ => trivial) _ []
        trivial
    exact ⟨path, hpath, hclimbs.wayUp⟩
  · intro job seeds updates before saved completedAt count network hfits hsaved
    have hjob : network.job = job := job_ofUpdates job seeds updates
    have hstorable : network.Storable := storable_ofUpdates hfits
    have hkeeps := Database.keeps_of_save hstorable.nodup_ids hsaved
    have hroots := seeds_of_keeps hfits hkeeps
    rw [hjob] at hroots
    refine ⟨_, hroots, fun node hnode => ?_⟩
    obtain ⟨path, hpath, hclimbs⟩ := climbs_of_keeps hfits hkeeps hnode
    rw [hjob] at hpath
    have hway := hclimbs.wayUp
    refine ⟨path, hpath, hway, ?_⟩
    have hne : path ≠ [] := by
      rintro rfl
      have hnone := hway.first
      rw [hstorable.url?_id hnode] at hnone
      cases hnone
    have hlast := List.getLast?_eq_some_getLast hne
    exact ⟨path.getLast hne, hlast, root_of_climbs hfits hclimbs hlast⟩

/-- Two nodes that are each other's parents; and a graph in which one URL has such parents and
another one is found on a root. -/
theorem wayUp_hopPath_mutual :
    let a : Node := { id := 1, kind := .url, url := "http://a.example/", parentId := 2 }
    let b : Node := { id := 2, kind := .url, url := "http://b.example/", parentId := 1 }
    let key (id : Int64) : Bytes := Utf8.ofString (StoreKey.node 7 id)
    let db : Database :=
      { table := (Table.empty.put (key 1) a.toJson.bytes).put (key 2) b.toJson.bytes }
    let network := Network.ofUpdates 7 [] [
      ⟨"a", "http://a.example/", 0, .metadata (some "http://b.example/") false⟩,
      ⟨"b", "http://b.example/", 10, .metadata (some "http://a.example/") false⟩,
      ⟨"c", "http://c.example/", 20, .metadata (some "http://b.example/") false⟩,
      ⟨"d", "http://d.example/", 30, .metadata none false⟩,
      ⟨"e", "http://e.example/", 40, .metadata (some "http://d.example/") false⟩]
    (db.Readable 7 ∧ ∃ path, db.hopPath 7 1 = .ok path ∧ WayUp (db.stored? 7) 1 path ∧
      path.map Node.id = [1, 2]) ∧
    network.Fits ∧ ∃ count saved, db.saveNetwork network "now" = (.ok count, saved) ∧
      ∃ roots, saved.seeds 7 = .ok roots ∧ ∀ node ∈ network.urls, ∃ path,
        saved.hopPath 7 node.id = .ok path ∧ WayUp network.url? node.id path ∧
          ∃ last ∈ path.getLast?, last ∈ roots ∨ last.parentId ∈ Node.lookups node.id path ∨
            path.length = Database.longestPath := by
  intro a b key db network
  obtain ⟨hreads, hsaves⟩ := wayUp_hopPath
  have hreadable : db.Readable 7 :=
    ((Database.readable_empty 7).put (key 1) rfl).put (key 2) rfl
  have hfits : network.Fits := fits_of_length (by decide)
  obtain ⟨saved, hsave⟩ := Database.exists_save db network "now" rfl
  obtain ⟨path, hpath, hway⟩ := hreads db 7 hreadable 1
  have hids : (db.hopPath 7 1).map (List.map Node.id) = .ok [1, 2] := by decide +kernel
  rw [hpath] at hids
  exact ⟨⟨hreadable, path, hpath, hway, Except.ok.inj hids⟩, hfits, _, saved, hsave,
    hsaves 7 [] _ db saved "now" _ hfits hsave⟩

end CrawlGraph
