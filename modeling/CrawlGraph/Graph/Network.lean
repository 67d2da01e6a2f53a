import CrawlGraph.Graph.StoreKey
import CrawlGraph.Graph.NodeJson

/-!
# Finished graphs

All nodes of one build, with the lists and counts that go with them, and the records under which
they are stored.

Main definitions: `Network`, `Network.records`, `Completion`.
-/

namespace CrawlGraph

open Json (ofString ofInt ofFields)

/-- The graph of one build. -/
structure Network where
  job : Int64
  urlCount : Int64
  domainCount : Int64
  /-- The URLs in the order of their identifiers. -/
  urls : List Node
  /-- The domains in the order of their identifiers. -/
  domains : List Node
  /-- The URLs that are seeds or have no parent. -/
  rootUrls : List Int64
  /-- The URLs of which records are missing. -/
  malformedUrls : List Int64
  rootDomains : List Int64
  deriving Repr

/-- What is stored once a build is complete. -/
structure Completion where
  completedAt : String
  urlCount : Int64
  domainCount : Int64
  malformedCount : Int64
  deriving DecidableEq, Repr

/-- Identifiers as an array. -/
def idsToJson (ids : List Int64) : Json := .array (ids.map fun id => ofInt id.toInt)

/-- The bytes of a value on one line. -/
def Json.bytes (json : Json) : Bytes := Utf8.encode json.compactText

namespace Completion

/-- The mark of a complete build as an object. -/
def toJson (completion : Completion) : Json :=
  ofFields [("completedAt", ofString completion.completedAt),
    ("urlCount", ofInt completion.urlCount.toInt),
    ("domainCount", ofInt completion.domainCount.toInt),
    ("malformedCount", ofInt completion.malformedCount.toInt)]

/-- Reads the mark of a complete build. -/
def ofJson? (room : Nat) (json : Json) : Option Completion := do
  let fields ← json.asRecord? room ["completedAt", "urlCount", "domainCount", "malformedCount"] 4
  return {
    completedAt := ← fields.required? "completedAt" Json.asString?
    urlCount := ← fields.required? "urlCount" Json.asInt64?
    domainCount := ← fields.required? "domainCount" Json.asInt64?
    malformedCount := ← fields.required? "malformedCount" Json.asInt64? }

end Completion

namespace Network

/-- The URL node with an identifier. -/
def url? (network : Network) (id : Int64) : Option Node := network.urls.find? (·.id == id)

/-- The domain node with a name. -/
def domain? (network : Network) (name : String) : Option Node :=
  network.domains.find? (·.url == name)

/-- The lists and counts, with their names. -/
def named (network : Network) : List (String × Json) :=
  [(StoreKey.rootUrls, idsToJson network.rootUrls),
    (StoreKey.malformedUrls, idsToJson network.malformedUrls),
    (StoreKey.rootDomains, idsToJson network.rootDomains),
    (StoreKey.urlCount, ofInt network.urlCount.toInt),
    (StoreKey.domainCount, ofInt network.domainCount.toInt)]

/-- The keys and values of all nodes, lists and counts. -/
def records (network : Network) : List (Bytes × Bytes) :=
  (network.urls ++ network.domains).map (fun node =>
      (Utf8.ofString (StoreKey.node network.job node.id), node.toJson.bytes)) ++
    network.named.map fun (name, json) =>
      (Utf8.ofString (StoreKey.named network.job name), json.bytes)

/-- The number of URLs of which records are missing. -/
def malformedCount (network : Network) : Int64 := Int64.ofNat network.malformedUrls.length

/-- The mark of a build that is complete at the given time. -/
def completion (network : Network) (completedAt : String) : Completion :=
  { completedAt, urlCount := network.urlCount, domainCount := network.domainCount,
    malformedCount := network.malformedCount }

end Network

end CrawlGraph
