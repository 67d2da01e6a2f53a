import CrawlGraph.Proofs.Graph.Storable
import CrawlGraph.Proofs.Graph.StoreKey
import CrawlGraph.Proofs.Store.Table

/-!
# What a saved graph leaves in a store

After a graph has been saved, each of its records is in the store, whatever was there before
(`keeps_of_save`). The records have different keys (`nodup_keys`), so none of them overwrites
another one, and the mark of the build, which is written after them, overwrites none either
(`nodup_keys_stored`).
-/

namespace CrawlGraph

/-- The names of the records of a graph: the identifiers of its nodes, and those of the lists and
counts. -/
def Network.names (network : Network) : List String :=
  (network.urls ++ network.domains).map (fun node => toString node.id) ++ network.named.map Prod.fst

/-- All that is stored of a graph: its records, and the mark that its build is complete. -/
def Network.stored (network : Network) (completedAt : String) : List (Bytes × Bytes) :=
  network.records ++
    [(Utf8.ofString (StoreKey.named network.job StoreKey.buildComplete),
      (network.completion completedAt).toJson.bytes)]

theorem keys_records (network : Network) :
    network.records.map Prod.fst =
      network.names.map fun name => Utf8.ofString (StoreKey.named network.job name) := by
  unfold Network.records Network.names
  simp only [List.map_append, List.map_map]
  rfl

/-- The names of the lists and counts, and that of the mark. -/
theorem names_named (network : Network) :
    network.named.map Prod.fst ++ [StoreKey.buildComplete] = StoreKey.reserved := rfl

theorem ne_mark_of_named {network : Network} {entry : String × Json}
    (hentry : entry ∈ network.named) : entry.1 ≠ StoreKey.buildComplete := by
  have hnodup := StoreKey.nodup_reserved
  rw [← names_named network, List.nodup_append] at hnodup
  exact hnodup.2.2 _ (List.mem_map_of_mem hentry) _ (List.mem_singleton_self _)

theorem mark_not_mem_keys (network : Network) :
    Utf8.ofString (StoreKey.named network.job StoreKey.buildComplete) ∉
      network.records.map Prod.fst := by
  rw [keys_records]
  intro hmem
  obtain ⟨name, hname, heq⟩ := List.mem_map.1 hmem
  obtain rfl := StoreKey.bytes_injective network.job heq
  rcases List.mem_append.1 hname with hnode | hnamed
  · obtain ⟨node, -, hid⟩ := List.mem_map.1 hnode
    apply StoreKey.toString_id_ne node.id
    rw [hid, ← names_named network]
    exact List.mem_append_right _ (List.mem_singleton_self _)
  · obtain ⟨entry, hentry, hmark⟩ := List.mem_map.1 hnamed
    exact ne_mark_of_named hentry hmark

section Names

variable {network : Network} (h : ((network.urls ++ network.domains).map Node.id).Nodup)

include h

theorem nodup_names : network.names.Nodup := by
  have hnamed : (network.named.map Prod.fst).Nodup :=
    (names_named network ▸ StoreKey.nodup_reserved).of_append_left
  unfold Network.names
  rw [List.nodup_append]
  refine ⟨?_, hnamed, ?_⟩
  · have hmap := h.map StoreKey.toString_id_injective
    rw [List.map_map] at hmap
    exact hmap
  · intro name hname other hother heq
    obtain ⟨node, -, rfl⟩ := List.mem_map.1 hname
    apply StoreKey.toString_id_ne node.id
    rw [heq, ← names_named network]
    exact List.mem_append_left _ hother

theorem nodup_keys : (network.records.map Prod.fst).Nodup := by
  rw [keys_records]
  exact (nodup_names h).map (StoreKey.bytes_injective network.job)

theorem nodup_keys_stored (completedAt : String) :
    ((network.stored completedAt).map Prod.fst).Nodup := by
  unfold Network.stored
  rw [List.map_append, List.nodup_append]
  refine ⟨nodup_keys h, List.nodup_singleton _, ?_⟩
  rintro key hkey mark hmark rfl
  obtain rfl := List.mem_singleton.1 hmark
  exact mark_not_mem_keys network hkey

end Names

namespace Database

/-- A store keeps all records of a graph, and the mark of its build. -/
structure Keeps (db : Database) (network : Network) (completedAt : String) : Prop where
  nodes : ∀ node ∈ network.urls ++ network.domains,
    db.value? (StoreKey.node network.job node.id) = some node.toJson.bytes
  named : ∀ entry ∈ network.named,
    db.value? (StoreKey.named network.job entry.1) = some entry.2.bytes
  mark : db.value? (StoreKey.named network.job StoreKey.buildComplete) =
    some (network.completion completedAt).toJson.bytes

variable {db saved : Database} {network : Network} {completedAt : String} {count : ℕ}

theorem saveNetwork_eq_ok :
    db.saveNetwork network completedAt = (.ok count, saved) ↔
      ∃ written, db.putAll network.records = .ok written ∧
        written.write (StoreKey.named network.job StoreKey.buildComplete)
          (network.completion completedAt).toJson = .ok saved ∧ network.records.length = count := by
  unfold saveNetwork
  cases db.putAll network.records with
  | error failure => simp
  | ok written =>
    cases hmark : written.write (StoreKey.named network.job StoreKey.buildComplete)
        (network.completion completedAt).toJson with
    | error failure => simp [hmark]
    | ok marked => simp [hmark, and_comm]

/-- A batch gives the lists and counts of a graph, whatever its nodes are. -/
theorem value?_of_putAll (hall : db.putAll network.records = .ok saved) {entry : String × Json}
    (hentry : entry ∈ network.named) :
    saved.value? (StoreKey.named network.job entry.1) = some entry.2.bytes := by
  have hnames : (network.named.map Prod.fst).Nodup :=
    (names_named network ▸ StoreKey.nodup_reserved).of_append_left
  have hkeys := hnames.map (StoreKey.bytes_injective network.job)
  rw [List.map_map] at hkeys
  obtain ⟨next, -, hnamed⟩ := putAll_append_eq_ok.1 hall
  refine get?_putAll_of_mem hnamed ?_ (List.mem_map.2 ⟨entry, hentry, rfl⟩)
  rw [List.map_map]
  exact hkeys

/-- A batch leaves the mark as it is. -/
theorem mark_of_putAll (hall : db.putAll network.records = .ok saved) :
    saved.value? (StoreKey.named network.job StoreKey.buildComplete) =
      db.value? (StoreKey.named network.job StoreKey.buildComplete) :=
  get?_putAll_of_not_mem hall (mark_not_mem_keys network)

/-- A save that succeeds is a batch of all that is stored of a graph. -/
theorem putAll_stored (h : db.saveNetwork network completedAt = (.ok count, saved)) :
    db.putAll (network.stored completedAt) = .ok saved := by
  obtain ⟨written, hall, hmark, -⟩ := saveNetwork_eq_ok.1 h
  exact putAll_append_eq_ok.2 ⟨written, hall, putAll_cons_eq_ok.2 ⟨saved, hmark, rfl⟩⟩

/-- **Saving.** What has been saved is in the store, whatever was there before. -/
theorem keeps_of_save (hids : ((network.urls ++ network.domains).map Node.id).Nodup)
    (h : db.saveNetwork network completedAt = (.ok count, saved)) :
    saved.Keeps network completedAt := by
  have hget : ∀ key value, (key, value) ∈ network.stored completedAt →
      saved.table.get? key = some value := fun key value hmem =>
    get?_putAll_of_mem (putAll_stored h) (nodup_keys_stored hids completedAt) hmem
  have hrecord : ∀ key value, (key, value) ∈ network.records →
      saved.table.get? key = some value := fun key value hmem =>
    hget key value (List.mem_append_left _ hmem)
  constructor
  case nodes =>
    intro node hnode
    exact hrecord _ _ (List.mem_append_left _ (List.mem_map.2 ⟨node, hnode, rfl⟩))
  case named =>
    intro entry hentry
    exact hrecord _ _ (List.mem_append_right _ (List.mem_map.2 ⟨entry, hentry, rfl⟩))
  case mark => exact hget _ _ (List.mem_append_right _ (List.mem_singleton_self _))

/-- A graph is saved into a store that rejects nothing. -/
theorem exists_save (db : Database) (network : Network) (completedAt : String)
    (h : db.rejected = []) :
    ∃ saved, db.saveNetwork network completedAt = (.ok network.records.length, saved) := by
  have hfree : ∀ record ∈ network.records, record.1 ∉ db.rejected := by
    intro record _
    simp [h]
  obtain ⟨written, hall, hrejected⟩ := exists_putAll hfree
  have hmark : Utf8.ofString (StoreKey.named network.job StoreKey.buildComplete) ∉
      written.rejected := by simp [hrejected, h]
  exact ⟨_, saveNetwork_eq_ok.2 ⟨written, hall, put_eq_ok.2 ⟨hmark, rfl⟩, rfl⟩⟩

end Database

end CrawlGraph
