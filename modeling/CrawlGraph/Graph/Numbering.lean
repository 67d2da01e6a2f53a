/-!
# Identifiers

Two sequences of identifiers for one build. URLs are counted from one; domains are counted from the
last URL on, so that no URL and domain share an identifier.
-/

namespace CrawlGraph

/-- How many identifiers have been given out, and where those of domains start. -/
structure Numbering where
  urls : Int64 := 0
  base : Int64 := 0
  domains : Int64 := 0
  deriving DecidableEq, Repr

namespace Numbering

/-- Counts one more URL; its identifier is `urls`. -/
def addUrl (numbering : Numbering) : Numbering := { numbering with urls := numbering.urls + 1 }

/-- Starts the domains after the last URL. -/
def openDomains (numbering : Numbering) : Numbering :=
  { numbering with base := numbering.urls, domains := 0 }

/-- Counts one more domain; its identifier is `lastDomain`. -/
def addDomain (numbering : Numbering) : Numbering :=
  { numbering with domains := numbering.domains + 1 }

/-- The identifier of the last domain. -/
def lastDomain (numbering : Numbering) : Int64 := numbering.base + numbering.domains

end Numbering

end CrawlGraph
