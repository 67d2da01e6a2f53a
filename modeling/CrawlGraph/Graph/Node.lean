import CrawlGraph.Sorted

/-!
# Nodes

The vertices of a crawl graph: captured URLs, domains, and the buckets in which a domain counts its
URLs by content type and, inside that, by status code.

Main definitions: `Node`, `Node.count`, `Node.countByType`, `Node.link`.
-/

namespace CrawlGraph

/-- What a node stands for. -/
inductive NodeKind where
  | url
  | domain
  /-- A part of the URLs of a domain. -/
  | bucket
  deriving DecidableEq, Repr, Inhabited

/-- How many URLs there are, how many of them were captured with and without success, and the number
of bytes of their contents. -/
structure Totals where
  urls : Int64 := 0
  success : Int64 := 0
  failed : Int64 := 0
  size : Int64 := 0
  deriving DecidableEq, Repr, Inhabited

/-- Which records of a capture have been seen. -/
structure Parsed where
  request : Bool := false
  response : Bool := false
  metadata : Bool := false
  deriving DecidableEq, Repr, Inhabited

/-- The identifier that stands for no node. -/
def missingId : Int64 := -1

/-- A vertex of a crawl graph. -/
structure Node where
  id : Int64
  kind : NodeKind
  /-- The URL, the name of the domain, or the key of the bucket. -/
  url : String
  isSeed : Bool := false
  contentType : Option String := none
  statusCode : Int32 := 0
  contentLength : Int64 := 0
  /-- Where the record of the response starts in its archive. -/
  offset : UInt64 := 0
  /-- Where the URL was found. -/
  via : Option String := none
  parentId : Int64 := missingId
  domainId : Int64 := missingId
  outlinks : List Int64 := []
  parsed : Parsed := {}
  /-- The sums over the URLs of a domain or bucket, or over a URL and those found on it. -/
  totals : Totals := {}
  /-- The buckets by key. -/
  children : List (String × Node) := []
  deriving Repr, Inhabited

/-- The key of the bucket of URLs without a content type. -/
def unknownType : String := "unknown"

/-- Whether a status code tells success. -/
def isSuccess (statusCode : Int32) : Bool := 200 ≤ statusCode && statusCode < 400

/-- The sums with one more URL. -/
def Totals.count (totals : Totals) (statusCode : Int32) (contentLength : Int64) : Totals :=
  { urls := totals.urls + 1
    success := if isSuccess statusCode then totals.success + 1 else totals.success
    failed := if isSuccess statusCode then totals.failed else totals.failed + 1
    size := totals.size + max contentLength 0 }

namespace Node

/-- Whether all records of a capture have been seen. -/
def isComplete (node : Node) : Bool :=
  node.parsed.request && node.parsed.response && node.parsed.metadata

/-- Whether a node has no parent. -/
def isRoot (node : Node) : Bool := node.parentId ≤ 0

/-- Counts one more URL in the sums of a node. -/
def count (node : Node) (statusCode : Int32) (contentLength : Int64) : Node :=
  { node with totals := node.totals.count statusCode contentLength }

/-- An empty bucket. -/
def bucket (key : String) (contentType : Option String) (statusCode : Int32) : Node :=
  { id := 0, kind := .bucket, url := key, contentType, statusCode }

/-- Counts one more URL in the bucket of its status code. -/
def countByStatus (node : Node) (statusCode : Int32) (contentLength : Int64)
    (contentType : Option String) : Node :=
  let key := toString statusCode
  { node with
    children := Sorted.update key
      (fun found => (found.getD (bucket key contentType statusCode)).count statusCode contentLength)
      node.children }

/-- Counts one more URL in a node, in the bucket of its content type and in that of its status code.
-/
def countByType (node : Node) (statusCode : Int32) (contentLength : Int64)
    (contentType : Option String) : Node :=
  let key := contentType.getD unknownType
  let counted (found : Option Node) : Node :=
    ((found.getD (bucket key contentType 0)).count statusCode contentLength).countByStatus
      statusCode contentLength contentType
  { node.count statusCode contentLength with
    children := Sorted.update key counted node.children }

/-- Whether a node can get an outlink: it is neither the node's own nor there already. -/
def lacksOutlink (node : Node) (id : Int64) : Bool := id != node.id && !node.outlinks.contains id

/-- Adds an outlink, if the node lacks it. -/
def link (node : Node) (id : Int64) : Node :=
  if node.lacksOutlink id then { node with outlinks := node.outlinks ++ [id] } else node

/-- Adds an outlink to a node and counts the node, if the outlink was lacking. -/
def adopt (node child : Node) : Node :=
  if node.lacksOutlink child.id then
    (node.link child.id).count child.statusCode child.contentLength
  else node

end Node

end CrawlGraph
