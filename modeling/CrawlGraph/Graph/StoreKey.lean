import CrawlGraph.Text.Utf8

/-!
# Store keys

Where the parts of a graph are stored. Each key starts with the number of the job and a slash.
-/

namespace CrawlGraph.StoreKey

/-- The key of a list or count with a name of its own. -/
def named (job : Int64) (name : String) : String := toString job ++ "/" ++ name

/-- The key of a node. -/
def node (job id : Int64) : String := named job (toString id)

/-- What all keys of a job start with. -/
def scope (job : Int64) : Bytes := Utf8.ofString (named job "")

/-- The name of the URLs that are seeds or have no parent. -/
def rootUrls : String := "root-url-list"

/-- The name of the URLs of which records are missing. -/
def malformedUrls : String := "malformed-url-list"

/-- The name of the list of domains. -/
def rootDomains : String := "root-domain-list"

/-- The name of the number of URLs. -/
def urlCount : String := "url-count"

/-- The name of the number of domains. -/
def domainCount : String := "domain-count"

/-- The name of the mark of a complete build. -/
def buildComplete : String := "build-complete"

end CrawlGraph.StoreKey
