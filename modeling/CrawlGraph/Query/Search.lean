import CrawlGraph.Query.Filter
import CrawlGraph.Store.Database
import CrawlGraph.Url.Reference

/-!
# Queries

What can be asked of a stored graph. A key or identifier without a record gives nothing; only a
record that cannot be read is a failure.

Main definitions: `Query`, `Query.answer`, and a function of `Database` for each query.
-/

namespace CrawlGraph

namespace Database

/-- The nodes with the given identifiers, in their order; those without a record are left out. -/
def nodes (db : Database) (job : Int64) (ids : List Int64) : Except Failure (List Node) :=
  (ids.mapM fun id => db.node? job id).map fun found => found.filterMap id

/-- The nodes that a node links to, in the order of the links. -/
def outlinks (db : Database) (job id : Int64) : Except Failure (List Node) := do
  match ← db.node? job id with
  | none => return []
  | some node => db.nodes job node.outlinks

/-- The domains that a domain links to. -/
def children (db : Database) (job id : Int64) : Except Failure (List Node) := do
  match ← db.node? job id with
  | none => return []
  | some node =>
    if node.kind = .domain then
      return (← db.nodes job node.outlinks).filter (·.kind = .domain)
    else return []

/-- The nodes of a list. -/
def list (db : Database) (job : Int64) (name : String) : Except Failure (List Node) := do
  db.nodes job (← db.ids job name)

/-- All domains. -/
def domains (db : Database) (job : Int64) : Except Failure (List Node) :=
  db.list job StoreKey.rootDomains

/-- The URLs that are seeds or have no parent. -/
def seeds (db : Database) (job : Int64) : Except Failure (List Node) :=
  db.list job StoreKey.rootUrls

/-- The URLs of which records are missing. -/
def malformed (db : Database) (job : Int64) : Except Failure (List Node) :=
  db.list job StoreKey.malformedUrls

/-- The number of URLs. -/
def urlCount (db : Database) (job : Int64) : Except Failure Int64 :=
  (db.read? (StoreKey.named job StoreKey.urlCount) Json.asInt64?).map (·.getD 0)

/-- The URLs that a filter asks for, in the order of their identifiers. -/
def search (db : Database) (job : Int64) (filter : Filter) : Except Failure (List Node) := do
  let count := (← db.urlCount job).toInt.toNat
  let found ← db.nodes job ((List.range count).map fun i => Int64.ofNat (i + 1))
  return found.filter fun node => filter.isMatch node (Url.domainOf node.url)

/-- The number of nodes on a path. -/
def longestPath : Nat := 4096

/-- The way up from a node, at most `fuel` nodes, around those that have been visited. -/
def pathFrom (db : Database) (job : Int64) :
    (fuel : Nat) → (visited : List Int64) → Int64 → Except Failure (List Node)
  | 0, _, _ => .ok []
  | fuel + 1, visited, id =>
    if visited.contains id then .ok []
    else do
      match ← db.node? job id with
      | none => return []
      | some node =>
        if node.parentId ≤ 0 then return [node]
        else return node :: (← pathFrom db job fuel (id :: visited) node.parentId)

/-- A node, its parent and so on, up to a node without a parent. The path also ends at a node
without a record, before a node that it has visited, and at its greatest length. -/
def hopPath (db : Database) (job id : Int64) : Except Failure (List Node) :=
  db.pathFrom job longestPath [] id

/-- The mark of the last build that was completed. -/
def status (db : Database) (job : Int64) : Except Failure (Option Completion) :=
  db.read? (StoreKey.named job StoreKey.buildComplete) (Completion.ofJson? Json.maxDepth)

/-- The text of a value. -/
def text? (db : Database) (key : String) : Option String := (db.value? key).map Utf8.toStringLossy

/-- A value as JSON; one that is not JSON is a string. -/
def json (db : Database) (key : String) : Json :=
  match db.text? key with
  | none => .null
  | some text =>
    match (Json.parse? (Utf8.ofString text)).filter (·.isSound Json.maxDepth) with
    | some json => json.sortFields
    | none => .ofString text

end Database

/-- A question about a stored graph. -/
inductive Query where
  | get (key : String)
  | node (id : Int64)
  | outlinks (id : Int64)
  | children (id : Int64)
  | domains
  | seeds
  | malformed
  | hopPath (id : Int64)
  | search (filter : Filter)
  | status
  deriving DecidableEq, Repr

/-- A node as JSON, with its fields in the order of their names. -/
def Node.value (node : Node) : Json := node.toJson.sortFields

/-- Nodes as JSON. -/
def Node.values (nodes : List Node) : Json := .array (nodes.map Node.value)

/-- The answer to a question, as JSON. -/
def Query.answer (db : Database) (job : Int64) : Query → Except Failure Json
  | .get key => .ok (db.json key)
  | .node id => (db.node? job id).map (Json.ofOption Node.value)
  | .outlinks id => (db.outlinks job id).map Node.values
  | .children id => (db.children job id).map Node.values
  | .domains => (db.domains job).map Node.values
  | .seeds => (db.seeds job).map Node.values
  | .malformed => (db.malformed job).map Node.values
  | .hopPath id => (db.hopPath job id).map Node.values
  | .search filter => (db.search job filter).map Node.values
  | .status => (db.status job).map (Json.ofOption fun completion => completion.toJson.sortFields)

end CrawlGraph
