import CrawlGraph.Graph.Node
import CrawlGraph.Json.Decode
import CrawlGraph.Json.Parser
import CrawlGraph.Json.Printer

/-!
# Nodes in JSON

The text under which a node is stored: an object with its fields in order, in which `children` is
left out if there are none. A node is read from any object or array that has the required fields.

Main definitions: `Node.toJson`, `Node.text`, `Node.ofJson?`, `Node.ofBytes?`.
-/

namespace CrawlGraph

open Json (ofString ofInt ofOption ofFields)

/-- The name of a kind. -/
def NodeKind.name : NodeKind → String
  | .url => "url"
  | .domain => "domain"
  | .bucket => "bucket"

/-- The kind of a name. -/
def NodeKind.ofName? (name : String) : Option NodeKind :=
  [NodeKind.url, .domain, .bucket].find? (·.name = name)

/-- A kind is its name, or an object whose only key is its name and has the value null. -/
def NodeKind.ofJson? (room : Nat) : Json → Option NodeKind
  | .object [(some name, .null)] => if room = 0 then none else NodeKind.ofName? name
  | json => json.asString?.bind NodeKind.ofName?

namespace Node

/-- The fields of a node, its children aside. -/
def fields (node : Node) : List (String × Json) :=
  [("id", ofInt node.id.toInt), ("kind", ofString node.kind.name), ("url", ofString node.url),
    ("isSeed", .bool node.isSeed), ("contentType", ofOption ofString node.contentType),
    ("statusCode", ofInt node.statusCode.toInt), ("contentLength", ofInt node.contentLength.toInt),
    ("offset", ofInt node.offset.toNat), ("viaUrl", ofOption ofString node.via),
    ("parentId", ofInt node.parentId.toInt), ("domainId", ofInt node.domainId.toInt),
    ("outlinks", .array (node.outlinks.map fun id => ofInt id.toInt)),
    ("requestParsed", .bool node.parsed.request), ("responseParsed", .bool node.parsed.response),
    ("metadataParsed", .bool node.parsed.metadata), ("totUrls", ofInt node.totals.urls.toInt),
    ("totSuccess", ofInt node.totals.success.toInt), ("totFailed", ofInt node.totals.failed.toInt),
    ("totSize", ofInt node.totals.size.toInt)]

mutual

/-- A node as an object. -/
def toJson (node : Node) : Json :=
  match node with
  | { id, kind, url, isSeed, contentType, statusCode, contentLength, offset, via, parentId,
      domainId, outlinks, parsed, totals, children } =>
    let own : Node :=
      { id, kind, url, isSeed, contentType, statusCode, contentLength, offset, via, parentId,
        domainId, outlinks, parsed, totals }
    let inner := childFields children
    ofFields (own.fields ++
      if inner.isEmpty then [] else [("children", ofFields inner)])

/-- Nodes with their keys, as fields of an object. -/
def childFields : List (String × Node) → List (String × Json)
  | [] => []
  | (key, node) :: children => (key, toJson node) :: childFields children

end

/-- The text under which a node is stored. -/
def text (node : Node) : String := node.toJson.compact

/-- The names of the fields, in order. -/
def fieldNames : List String :=
  ["id", "kind", "url", "isSeed", "contentType", "statusCode", "contentLength", "offset", "viaUrl",
    "parentId", "domainId", "outlinks", "requestParsed", "responseParsed", "metadataParsed",
    "totUrls", "totSuccess", "totFailed", "totSize", "children"]

/-- Reads a node from its fields, with its children given. -/
def ofFields? (room : Nat) (fields : Json.Fields) (children : List (String × Node)) :
    Option Node := do
  return {
    id := ← fields.required? "id" Json.asInt64?
    kind := ← fields.required? "kind" (NodeKind.ofJson? room)
    url := ← fields.required? "url" Json.asString?
    isSeed := ← fields.required? "isSeed" Json.asBool?
    contentType := ← fields.optional? "contentType" Json.asString?
    statusCode := ← fields.required? "statusCode" Json.asInt32?
    contentLength := ← fields.required? "contentLength" Json.asInt64?
    offset := ← fields.required? "offset" Json.asUInt64?
    via := ← fields.optional? "viaUrl" Json.asString?
    parentId := ← fields.required? "parentId" Json.asInt64?
    domainId := ← fields.required? "domainId" Json.asInt64?
    outlinks := ← fields.required? "outlinks" (Json.asList? room Json.asInt64?)
    parsed := {
      request := ← fields.required? "requestParsed" Json.asBool?
      response := ← fields.required? "responseParsed" Json.asBool?
      metadata := ← fields.required? "metadataParsed" Json.asBool? }
    totals := {
      urls := ← fields.required? "totUrls" Json.asInt64?
      success := ← fields.required? "totSuccess" Json.asInt64?
      failed := ← fields.required? "totFailed" Json.asInt64?
      size := ← fields.required? "totSize" Json.asInt64? }
    children }

/-- Reads a node, where `fuel` bounds how deep its children are nested and `room` how many
containers may stand inside each other. -/
def readWithin : (fuel room : Nat) → Json → Option Node
  | 0, _, _ => none
  | fuel + 1, room, json => do
    let fields ← json.asRecord? room fieldNames (fieldNames.length - 1)
    let children ← fields.withDefault? "children"
      (fun json => do
        let inner ← json.asObject? (room - 1)
        let nodes ← inner.mapM fun (key, json) =>
          (readWithin fuel (room - 2) json).map fun node => (key, node)
        some (Sorted.ofList nodes)) []
    ofFields? (room - 1) fields children

/-- Reads a node in which no more than `room` containers stand inside each other. Each level of
children takes up two of them. -/
def ofJson? (room : Nat) (json : Json) : Option Node := readWithin room room json

/-- Reads the text under which a node is stored. -/
def ofBytes? (bytes : Bytes) : Option Node := (Json.parse? bytes).bind (ofJson? Json.maxDepth)

end Node

end CrawlGraph
