/-!
# Faults of compressed data
-/

namespace CrawlGraph.Gzip

/-- Why compressed data cannot be read on. -/
inductive Fault where
  /-- The data ends before it should. -/
  | cut
  /-- The data contradicts its format or its check values. -/
  | corrupt
  deriving DecidableEq, Repr

end CrawlGraph.Gzip
