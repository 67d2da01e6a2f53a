import CrawlGraph.Failure
import CrawlGraph.Graph.Network
import CrawlGraph.Store.Table

/-!
# Databases

What one store keeps: a table, and the keys that may not be written. A batch of records is written
as a whole or not at all.

Main definitions: `Database.put`, `Database.putAll`, and the reading and writing of nodes and lists.
-/

namespace CrawlGraph

/-- What one store keeps. -/
structure Database where
  table : Table := .empty
  /-- The keys that may not be written. -/
  rejected : List Bytes := []

namespace Database

/-- Gives a key a value. -/
def put (db : Database) (key value : Bytes) : Except Failure Database :=
  if db.rejected.contains key then .error (.store .rejected)
  else .ok { db with table := db.table.put key value }

/-- Gives each key its value, in order, or leaves all as it is. -/
def putAll (db : Database) (records : List (Bytes × Bytes)) : Except Failure Database :=
  records.foldlM (fun db record => db.put record.1 record.2) db

/-- Gives each key its value, in order, and counts the records, or leaves all as it is. -/
def insertAll (db : Database) (records : List (Bytes × Bytes)) : Except Failure (Nat × Database) :=
  records.foldlM
    (fun (count, db) record => (db.put record.1 record.2).map fun db => (count + 1, db)) (0, db)

/-- Takes a key away. -/
def delete (db : Database) (key : Bytes) : Database := { db with table := db.table.delete key }

/-- From now on, refuses to write a key. -/
def reject (db : Database) (key : Bytes) : Database := { db with rejected := key :: db.rejected }

/-- The value of a text key. -/
def value? (db : Database) (key : String) : Option Bytes := db.table.get? (Utf8.ofString key)

/-- The value of a text key, read as JSON of some kind. -/
def read? {α : Type} (db : Database) (key : String) (read : Json → Option α) :
    Except Failure (Option α) :=
  match db.value? key with
  | none => .ok none
  | some bytes =>
    match (Json.parse? bytes).bind read with
    | none => .error .undecodable
    | some a => .ok (some a)

/-- Gives a text key a JSON value. -/
def write (db : Database) (key : String) (json : Json) : Except Failure Database :=
  db.put (Utf8.ofString key) json.bytes

/-- The node with an identifier. -/
def node? (db : Database) (job id : Int64) : Except Failure (Option Node) :=
  db.read? (StoreKey.node job id) (Node.ofJson? Json.maxDepth)

/-- Stores a node under its identifier. -/
def writeNode (db : Database) (job : Int64) (node : Node) : Except Failure Database :=
  db.write (StoreKey.node job node.id) node.toJson

/-- The list of a name; a missing one is empty. -/
def ids (db : Database) (job : Int64) (name : String) : Except Failure (List Int64) :=
  (db.read? (StoreKey.named job name) (Json.asList? Json.maxDepth Json.asInt64?)).map (·.getD [])

/-- Stores a list under a name. -/
def writeIds (db : Database) (job : Int64) (name : String) (ids : List Int64) :
    Except Failure Database := db.write (StoreKey.named job name) (idsToJson ids)

/-- Stores all of a graph, and then the mark that the build is complete. The number of records is
that without the mark. -/
def saveNetwork (db : Database) (network : Network) (completedAt : String) :
    Except Failure Nat × Database :=
  match db.putAll network.records with
  | .error failure => (.error failure, db)
  | .ok saved =>
    match saved.write (StoreKey.named network.job StoreKey.buildComplete)
        (network.completion completedAt).toJson with
    | .error failure => (.error failure, saved)
    | .ok marked => (.ok network.records.length, marked)

end Database

end CrawlGraph
