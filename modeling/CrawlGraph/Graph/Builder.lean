import CrawlGraph.Graph.Numbering
import CrawlGraph.Graph.Network
import CrawlGraph.Update
import CrawlGraph.Url.Reference

/-!
# Building graphs

A builder collects updates into one node for each session key. Finishing it derives all else from
these nodes: what each was found on, the domains, the edges and the sums.

Main definitions: `Builder.apply`, `Builder.finish`.
-/

namespace CrawlGraph

/-- What a request says about where its URL was found. -/
structure Hints where
  referrer : Option String := none
  host : Option String := none
  deriving DecidableEq, Repr

/-- A capture: the key of its updates, and what they say. -/
structure Session where
  key : String
  node : Node
  hints : Hints := {}
  deriving Repr

/-- The captures of a job, in the order in which they were first seen. -/
structure Builder where
  job : Int64
  /-- The URLs the crawl started from, in normal form. -/
  seeds : List String
  numbering : Numbering := {}
  sessions : List Session := []
  deriving Repr

/-- Takes over the answer to a request. -/
def Node.answered (node : Node) (answer : Answer) (offset : UInt64) : Node :=
  { node with
    statusCode := answer.statusCode
    contentType := answer.contentType
    contentLength := answer.contentLength
    offset }

/-- Takes over a fact from the record at an offset. -/
def Session.learn (session : Session) (offset : UInt64) : Fact → Session
  | .request referrer host =>
    { session with
      node := { session.node with parsed := { session.node.parsed with request := true } }
      hints := { referrer, host } }
  | .response answer =>
    let node := session.node.answered answer offset
    { session with node := { node with parsed := { node.parsed with response := true } } }
  | .metadata via seed =>
    { session with
      node := { session.node with
        parsed := { session.node.parsed with metadata := true }
        via := via.or session.node.via
        isSeed := session.node.isSeed || seed } }
  | .exchange answer =>
    let node := session.node.answered answer offset
    { session with
      node := { node with parsed := { request := true, response := true, metadata := true } } }

namespace Builder

/-- A builder for a job, whose crawl started from the given URLs. -/
def start (job : Int64) (seeds : List String) : Builder := { job, seeds := seeds.map Url.normalize }

/-- Forgets all captures. -/
def init (builder : Builder) : Builder := { builder with numbering := {}, sessions := [] }

/-- The node of the first capture of a URL. -/
def nodeOf? (builder : Builder) (url : String) : Option Node :=
  (builder.sessions.find? (·.node.url == url)).map Session.node

/-- Takes over an update into the session it belongs to. The node is a seed if its URL is one of
those that the crawl started from. -/
def merge (builder : Builder) (update : Update) (session : Session) : Session :=
  let isSeed := session.node.isSeed || builder.seeds.contains (Url.normalize session.node.url)
  { session with node := { session.node with isSeed } }.learn update.offset update.fact

/-- Takes over an update. The first one of a session makes a new node. -/
def apply (builder : Builder) (update : Update) : Builder :=
  if builder.sessions.any (·.key == update.sessionKey) then
    { builder with
      sessions := builder.sessions.map fun session =>
        if session.key == update.sessionKey then builder.merge update session else session }
  else
    let numbering := builder.numbering.addUrl
    let node : Node :=
      { id := numbering.urls, kind := .url, url := update.url, offset := update.offset }
    { builder with
      numbering
      sessions :=
        builder.sessions ++ [builder.merge update { key := update.sessionKey, node }] }

/-- Takes over updates in order. -/
def applyAll (builder : Builder) (updates : List Update) : Builder := updates.foldl apply builder

end Builder

/-- The bases against which a session resolves a relative reference: the referrer, the host that was
asked, and the URL itself. -/
def Session.bases (session : Session) : List String :=
  session.hints.referrer.toList ++
    (session.hints.host.map fun host => "http://" ++ host ++ "/").toList ++ [session.node.url]

/-- The URL on which the URL of a session was found. -/
def Session.via? (session : Session) : Option String :=
  session.node.via.bind fun via =>
    if Url.isAbsolute via then some via
    else session.bases.findSome? fun base => Url.resolve base via

/-- The node of a session with its own capture counted. -/
def Session.counted (session : Session) : Node :=
  { session.node with via := session.via? }.count session.node.statusCode
    session.node.contentLength

namespace Graph

/-- The domain names of URLs, each once, in the order in which they first occur. -/
def domainNames (urls : List Node) : List String :=
  (urls.filterMap fun node => Url.domainOf node.url).eraseDups

/-- The node of a domain that has been given an identifier, with its URLs counted in order. -/
def domainNode (urls : List Node) (name : String) (id : Int64) : Node :=
  let members := urls.filter fun node => Url.domainOf node.url == some name
  let start : Node := { id, kind := .domain, url := name, isSeed := members.any (·.isSeed) }
  members.foldl
    (fun domain node =>
      domain.countByType node.statusCode node.contentLength node.contentType) start

/-- Gives each name the next identifier for a domain. -/
def numberDomains (numbering : Numbering) : List String → List (String × Int64) × Numbering
  | [] => ([], numbering)
  | name :: names =>
    let numbering := numbering.addDomain
    let (rest, last) := numberDomains numbering names
    ((name, numbering.lastDomain) :: rest, last)

/-- A URL with the identifier of its domain. -/
def placeIn (domains : List (String × Int64)) (node : Node) : Node :=
  let id := (Url.domainOf node.url).bind fun name => (domains.find? (·.1 == name)).map Prod.snd
  { node with domainId := id.getD missingId }

/-- The node that a URL was found on: the first one with the URL it was found on, if that is not the
node itself. -/
def parent? (urls : List Node) (node : Node) : Option Node :=
  (node.via.bind fun via => urls.find? (·.url == via)).filter (·.id != node.id)

/-- Each URL that was found on another one, after that one, in the order of those found. -/
def edges (urls : List Node) : List (Node × Node) :=
  urls.filterMap fun child => (parent? urls child).map fun parent => (parent, child)

/-- A URL with its parent and with the URLs that were found on it. -/
def linkUrl (edges : List (Node × Node)) (node : Node) : Node :=
  let parentId := ((edges.find? (·.2.id == node.id)).map fun edge => edge.1.id).getD missingId
  let children := (edges.filter (·.1.id == node.id)).map Prod.snd
  children.foldl Node.adopt { node with parentId }

/-- A domain with the domains of the URLs that were found on its own. -/
def linkDomain (edges : List (Node × Node)) (domain : Node) : Node :=
  let found := edges.filter fun (parent, child) =>
    parent.domainId == domain.id && child.domainId != missingId
  found.foldl (fun domain (_, child) => domain.link child.domainId) domain

end Graph

/-- Derives the graph from the captures. -/
def Builder.finish (builder : Builder) : Network :=
  let counted := builder.sessions.map Session.counted
  let (domains, numbering) :=
    Graph.numberDomains builder.numbering.openDomains (Graph.domainNames counted)
  let placed := counted.map (Graph.placeIn domains)
  let edges := Graph.edges placed
  let urls := placed.map (Graph.linkUrl edges)
  { job := builder.job
    urlCount := numbering.urls
    domainCount := numbering.domains
    urls
    domains := domains.map fun (name, id) =>
      Graph.linkDomain edges (Graph.domainNode placed name id)
    rootUrls := (urls.filter fun node => node.isSeed || node.isRoot).map Node.id
    malformedUrls := (urls.filter fun node => !node.isComplete).map Node.id
    rootDomains := domains.map Prod.snd }

end CrawlGraph
