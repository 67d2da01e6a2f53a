import CrawlGraph.Index

/-!
# Index outcomes as JSON
-/

namespace CrawlGraph

open Json (ofString ofInt ofFields)

/-- What has been taken from an archive file, as JSON. -/
def ArchiveTally.toJson (file : ArchiveTally) : Json :=
  ofFields [("name", ofString file.name), ("path", ofString file.path),
    ("format", ofString file.format.name), ("compressed", .bool file.isCompressed),
    ("records", ofInt file.records), ("skippedRecords", ofInt file.skippedRecords),
    ("truncated", .bool file.isTruncated)]

/-- The outcome of indexing, as JSON. -/
def IndexOutcome.toJson (outcome : IndexOutcome) : Json :=
  ofFields [("job", ofInt outcome.id.job.toInt),
    ("harvestResultNumber", ofInt outcome.id.run.toInt),
    ("files", .array (outcome.files.map ArchiveTally.toJson)),
    ("skippedFiles", .array (outcome.skippedFiles.map ofString)),
    ("urlCount", ofInt outcome.urlCount.toInt), ("domainCount", ofInt outcome.domainCount.toInt),
    ("rootCount", ofInt outcome.rootCount), ("malformedCount", ofInt outcome.malformedCount),
    ("recordsWritten", ofInt outcome.recordsWritten)]

end CrawlGraph
