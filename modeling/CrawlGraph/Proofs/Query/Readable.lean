import CrawlGraph.Proofs.Failure
import CrawlGraph.Proofs.Graph.NodeJson
import CrawlGraph.Proofs.Store.Table
import CrawlGraph.Query.Search

/-!
# Stores whose nodes can be read

A store in which each record of a node of a job can be read answers every look-up of one
(`node?_of_readable`), so a list of identifiers gives the nodes that are there, in its order
(`nodes_of_readable`). The empty store is such a store, and stays one when nodes without buckets are
written to it (`Readable.put`).
-/

namespace CrawlGraph.Database

/-- The node that a store keeps under an identifier, if there is a record and it can be read. -/
def stored? (db : Database) (job id : Int64) : Option Node :=
  (db.value? (StoreKey.node job id)).bind Node.ofBytes?

/-- Each record of a node of a job can be read. -/
def Readable (db : Database) (job : Int64) : Prop :=
  ∀ id bytes, db.value? (StoreKey.node job id) = some bytes → (Node.ofBytes? bytes).isSome

theorem readable_empty (job : Int64) : ({} : Database).Readable job := by
  intro id bytes hvalue
  cases hvalue

variable {db : Database} {job : Int64} (h : db.Readable job)

include h

theorem Readable.put (key : Bytes) {node : Node} (hnode : node.children = []) :
    Readable { db with table := db.table.put key node.toJson.bytes } job := by
  have hnested : node.Nested 0 := Node.nested_of_nil hnode 0
  intro id bytes hvalue
  rw [value?, Table.get?_put] at hvalue
  split at hvalue
  · cases hvalue
    rw [Node.ofBytes?, Json.bytes, Json.parse?_compactText (Node.isPlain_toJson hnested),
      Option.bind_some, Node.ofJson?_toJson hnested (by decide)]
    rfl
  · exact h id bytes hvalue

theorem node?_of_readable (id : Int64) : db.node? job id = .ok (db.stored? job id) := by
  unfold node? read? stored?
  cases hvalue : db.value? (StoreKey.node job id) with
  | none => rfl
  | some bytes =>
    obtain ⟨node, hnode⟩ := Option.isSome_iff_exists.1 (h id bytes hvalue)
    have hread : (Json.parse? bytes).bind (Node.ofJson? Json.maxDepth) = some node := hnode
    simp only [hread, Option.bind_some, hnode]

/-- An identifier has a record just when a node is stored under it. -/
theorem isSome_stored? (id : Int64) :
    (db.stored? job id).isSome = (db.value? (StoreKey.node job id)).isSome := by
  unfold stored?
  cases hvalue : db.value? (StoreKey.node job id) with
  | none => rfl
  | some bytes => exact h id bytes hvalue

theorem nodes_of_readable (ids : List Int64) :
    db.nodes job ids = .ok (ids.filterMap (db.stored? job)) := by
  unfold nodes
  rw [mapM_eq_ok fun id _ => node?_of_readable h id]
  show Except.ok ((ids.map (db.stored? job)).filterMap id) = _
  rw [List.filterMap_map, Function.id_comp]

end CrawlGraph.Database
