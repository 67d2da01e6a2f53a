import CrawlGraph.Export.Files
import CrawlGraph.Proofs.Graph.StoredValue
import CrawlGraph.Proofs.Store.Saved
import CrawlGraph.Proofs.Store.Scope

/-!
# What an export gathers

After a graph has been saved into a store that kept nothing of its job, an export gathers just the
nodes of the graph (`ofTable_of_save`).

1. A scan reads each record of a graph (`ofValue_stored`), and finds in them the nodes of the graph
   and nothing else (`filterMap_stored`).
2. The nodes that it finds stand in the order of the keys of their records
   (`inKeyOrder_filterMap`).
-/

namespace CrawlGraph

open Scan (shown?)

/-- The node that a scan finds in a record. -/
def Node.ofRecord? (record : Bytes × Bytes) : Option Node := (Node.ofValue record.2).toOption.join

theorem Node.ofRecord?_of_ok {record : Bytes × Bytes} {found : Option Node}
    (h : Node.ofValue record.2 = .ok found) : Node.ofRecord? record = found := by
  unfold Node.ofRecord?
  rw [h]
  rfl

/-- Nodes stand in the order of their keys. -/
def InKeyOrder (job : Int64) (nodes : List Node) : Prop :=
  nodes.Pairwise fun first second =>
    Utf8.ofString (StoreKey.node job first.id) < Utf8.ofString (StoreKey.node job second.id)

theorem InKeyOrder.filter {job : Int64} {nodes : List Node} (h : InKeyOrder job nodes)
    (keeps : Node → Bool) : InKeyOrder job (nodes.filter keeps) :=
  List.Pairwise.filter keeps h

/-- Where no record fails to be read, a scan gives the nodes of its kind. -/
theorem Scan.mapM_shown? {kind : NodeKind} {records : List (Bytes × Bytes)}
    (h : ∀ record ∈ records, ∃ found, Node.ofValue record.2 = .ok found) :
    (records.filterMap (shown? kind)).mapM Item.node =
      .ok ((records.filterMap Node.ofRecord?).filter (·.kind = kind)) := by
  induction records with
  | nil => rfl
  | cons record records ih =>
    obtain ⟨found, hfound⟩ := h record List.mem_cons_self
    have hrest := ih fun other hother => h other (List.mem_cons_of_mem _ hother)
    rw [List.filterMap_cons, List.filterMap_cons, ← item?_eq_shown?, Node.ofRecord?_of_ok hfound]
    unfold item?
    rw [hfound]
    cases found with
    | none => exact hrest
    | some node =>
      by_cases hkind : node.kind = kind
      · simp only [hkind, if_true, List.mapM_cons, hrest, List.filter_cons, decide_true]
        rfl
      · simp only [hkind, if_false, hrest, List.filter_cons, decide_false, Bool.false_eq_true]

theorem inKeyOrder_filterMap {job : Int64} {records : List (Bytes × Bytes)}
    (hascending : Sorted.Ascending records)
    (hkey : ∀ record ∈ records, ∀ node, Node.ofRecord? record = some node →
      record.1 = Utf8.ofString (StoreKey.node job node.id)) :
    InKeyOrder job (records.filterMap Node.ofRecord?) := by
  refine List.pairwise_filterMap.2 (List.Pairwise.imp_of_mem ?_ hascending)
  intro first second hfirst hsecond hlt node hnode other hother
  rw [← hkey first hfirst node hnode, ← hkey second hsecond other hother]
  exact hlt

/-! ## Records of a graph -/

/-- No list and no count is a node. -/
theorem ofValue_named {network : Network} {entry : String × Json}
    (hentry : entry ∈ network.named) : Node.ofValue entry.2.bytes = .ok none := by
  simp only [Network.named, List.mem_cons, List.not_mem_nil, or_false] at hentry
  rcases hentry with rfl | rfl | rfl | rfl | rfl
  · exact Node.ofValue_ids _
  · exact Node.ofValue_ids _
  · exact Node.ofValue_ids _
  · exact Node.ofValue_int64 _
  · exact Node.ofValue_int64 _

section Stored

variable {network : Network} (h : network.Storable) {completedAt : String}

include h

/-- A scan reads all that is stored of a graph, and only nodes as nodes. -/
theorem ofValue_stored {record : Bytes × Bytes} (hrecord : record ∈ network.stored completedAt) :
    Node.ofValue record.2 = .ok none ∨
      ∃ node, Node.ofValue record.2 = .ok (some node) ∧
        record.1 = Utf8.ofString (StoreKey.node network.job node.id) := by
  rcases List.mem_append.1 hrecord with hrecord | hmark
  · rcases List.mem_append.1 hrecord with hrecord | hnamed
    · obtain ⟨node, hnode, rfl⟩ := List.mem_map.1 hrecord
      exact .inr ⟨node, Node.ofValue_bytes (h.nested node hnode) (by decide), rfl⟩
    · obtain ⟨entry, hentry, rfl⟩ := List.mem_map.1 hnamed
      exact .inl (ofValue_named hentry)
  · obtain rfl := List.mem_singleton.1 hmark
    exact .inl (Node.ofValue_completion _)

/-- The nodes among the records of a graph are those of the graph. -/
theorem filterMap_stored (completedAt : String) :
    (network.stored completedAt).filterMap Node.ofRecord? = network.urls ++ network.domains := by
  have hnodes : ((network.urls ++ network.domains).map fun node =>
      (Utf8.ofString (StoreKey.node network.job node.id), node.toJson.bytes)).filterMap
        Node.ofRecord? = network.urls ++ network.domains := by
    rw [List.filterMap_map]
    refine (List.filterMap_congr fun node hnode => ?_).trans List.filterMap_some
    exact Node.ofRecord?_of_ok (Node.ofValue_bytes (h.nested node hnode) (by decide))
  have hmark : Node.ofRecord? (Utf8.ofString (StoreKey.named network.job StoreKey.buildComplete),
      (network.completion completedAt).toJson.bytes) = none :=
    Node.ofRecord?_of_ok (Node.ofValue_completion _)
  unfold Network.stored Network.records
  rw [List.filterMap_append, List.filterMap_append, hnodes, List.filterMap_cons, hmark,
    List.filterMap_nil, List.append_nil, List.append_right_eq_self, List.filterMap_eq_nil_iff]
  intro record hrecord
  obtain ⟨entry, hentry, rfl⟩ := List.mem_map.1 hrecord
  exact Node.ofRecord?_of_ok (ofValue_named hentry)

/-! ## Gathering -/

/-- **Gathering.** After a graph has been saved into a store that kept nothing of its job, an export
gathers its nodes, in the order of their keys. -/
theorem ofTable_of_save (hurls : ∀ node ∈ network.urls, node.kind = .url)
    (hdomains : ∀ node ∈ network.domains, node.kind = .domain) {db saved : Database} {count : ℕ}
    (hfresh : db.table.ofJob network.job = [])
    (hsaved : db.saveNetwork network completedAt = (.ok count, saved)) :
    ∃ urls domains, Export.ofTable (.ok saved.table) network.job = .ok (urls, domains) ∧
      (urls.Perm network.urls ∧ InKeyOrder network.job urls) ∧
      (domains.Perm network.domains ∧ InKeyOrder network.job domains) := by
  have hperm : (saved.table.ofJob network.job).Perm (network.stored completedAt) :=
    Database.perm_ofJob (nodup_keys_stored h.nodup_ids completedAt)
      (fun _ hrecord => isInScope_stored hrecord) hfresh (Database.putAll_stored hsaved)
  have hread : ∀ record ∈ saved.table.ofJob network.job,
      ∃ found, Node.ofValue record.2 = .ok found := by
    intro record hrecord
    rcases ofValue_stored h (hperm.mem_iff.1 hrecord) with hnone | ⟨node, hnode, -⟩
    · exact ⟨none, hnone⟩
    · exact ⟨some node, hnode⟩
  set found := (saved.table.ofJob network.job).filterMap Node.ofRecord?
  have hfound : found.Perm (network.urls ++ network.domains) :=
    filterMap_stored h completedAt ▸ hperm.filterMap _
  have horder : InKeyOrder network.job found := by
    refine inKeyOrder_filterMap (saved.table.ascending_ofJob network.job) ?_
    intro record hrecord node hnode
    rcases ofValue_stored h (hperm.mem_iff.1 hrecord) with hnone | ⟨other, hother, hkey⟩
    · cases hnode.symm.trans (Node.ofRecord?_of_ok hnone)
    · cases hnode.symm.trans (Node.ofRecord?_of_ok hother)
      exact hkey
  have hurl : (network.urls ++ network.domains).filter (·.kind = .url) = network.urls := by
    rw [List.filter_append, List.filter_eq_self.2 (by simpa using hurls),
      List.filter_eq_nil_iff.2 (by simp +contextual [hdomains]), List.append_nil]
  have hdomain : (network.urls ++ network.domains).filter (·.kind = .domain) =
      network.domains := by
    rw [List.filter_append, List.filter_eq_nil_iff.2 (by simp +contextual [hurls]),
      List.filter_eq_self.2 (by simpa using hdomains), List.nil_append]
  refine ⟨found.filter (·.kind = .url), found.filter (·.kind = .domain), ?_,
    ⟨hurl ▸ hfound.filter _, horder.filter _⟩, ⟨hdomain ▸ hfound.filter _, horder.filter _⟩⟩
  unfold Export.ofTable
  simp only [Scan.collect_scope, Scan.mapM_shown? hread]
  rfl

end Stored

end CrawlGraph
