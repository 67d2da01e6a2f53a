import CrawlGraph.Graph.Node
import CrawlGraph.Json.Decode
import CrawlGraph.Json.Parser
import CrawlGraph.Json.Printer
import CrawlGraph.Text.Ascii
import CrawlGraph.Text.Blank
import CrawlGraph.Text.Cut

/-!
# Search filters

A filter names the domains, content types and status codes that a search asks for. An empty list
asks for nothing.

Main definitions: `Filter.isMatch`, `Filter.ofBytes?`.
-/

namespace CrawlGraph

open Json (ofString ofInt ofFields)

/-- What a search asks for. -/
structure Filter where
  domainNames : List String := []
  contentTypes : List String := []
  statusCodes : List Int32 := []
  deriving DecidableEq, Repr

namespace Filter

/-- Whether a filter asks for nothing. -/
def isEmpty (filter : Filter) : Bool :=
  filter.domainNames.isEmpty && filter.contentTypes.isEmpty && filter.statusCodes.isEmpty

/-- Whether one of the names is that of the domain, letter case and white space around it aside. -/
def hasDomain (names : List String) (domain : String) : Bool :=
  names.any fun name => Text.sameIgnoringCase (Text.trimmed name) domain

/-- Whether the content type starts with one of those wanted, letter case and white space around
them aside. -/
def hasType (wanted : List String) (contentType : String) : Bool :=
  wanted.any fun type =>
    Text.startsWith (Text.lower (Text.trim type.toList)) (Text.lower contentType.toList)

/-- Whether a node of a domain is what a filter asks for. -/
def isMatch (filter : Filter) (node : Node) (domain : Option String) : Bool :=
  (filter.domainNames.isEmpty || (domain.map (hasDomain filter.domainNames)).getD false) &&
    (filter.contentTypes.isEmpty ||
      (node.contentType.map (hasType filter.contentTypes)).getD false) &&
    (filter.statusCodes.isEmpty || filter.statusCodes.contains node.statusCode)

/-- A filter as an object. -/
def toJson (filter : Filter) : Json :=
  ofFields [("domainNames", .array (filter.domainNames.map ofString)),
    ("contentTypes", .array (filter.contentTypes.map ofString)),
    ("statusCodes", .array (filter.statusCodes.map fun code => ofInt code.toInt))]

/-- The text of a filter. -/
def text (filter : Filter) : String := filter.toJson.compact

/-- Reads a filter; a list that is not given is empty. -/
def ofJson? (room : Nat) (json : Json) : Option Filter := do
  let fields ← json.asRecord? room ["domainNames", "contentTypes", "statusCodes"] 0
  let list {α : Type} (name : String) (read : Json → Option α) : Option (List α) :=
    fields.withDefault? name (Json.asList? (room - 1) read) []
  return {
    domainNames := ← list "domainNames" Json.asString?
    contentTypes := ← list "contentTypes" Json.asString?
    statusCodes := ← list "statusCodes" Json.asInt32? }

/-- Reads the text of a filter. -/
def ofBytes? (bytes : Bytes) : Option Filter := (Json.parse? bytes).bind (ofJson? Json.maxDepth)

end Filter

end CrawlGraph
