/-!
# Updates

What single records of an archive say about captures. The updates of one capture share a session
key.
-/

namespace CrawlGraph

/-- What came back for a request. -/
structure Answer where
  statusCode : Int32
  contentType : Option String
  contentLength : Int64
  deriving DecidableEq, Repr

/-- What one record says about a capture. -/
inductive Fact where
  /-- What was asked; it serves only to resolve a relative via URL. -/
  | request (referrer host : Option String)
  /-- What came back. -/
  | response (answer : Answer)
  /-- Where the URL was found, and whether the crawl started from it. -/
  | metadata (via : Option String) (seed : Bool)
  /-- What came back, in a record that says all there is to say about the capture. -/
  | exchange (answer : Answer)
  deriving DecidableEq, Repr

/-- A fact about the capture that a session key names. -/
structure Update where
  sessionKey : String
  url : String
  /-- Where the record starts in its archive. -/
  offset : UInt64
  fact : Fact
  deriving DecidableEq, Repr

end CrawlGraph
