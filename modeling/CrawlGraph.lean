import CrawlGraph.Archive.Cursor
import CrawlGraph.Archive.Error
import CrawlGraph.Archive.Format
import CrawlGraph.Archive.Headers
import CrawlGraph.Archive.Message
import CrawlGraph.Archive.Open
import CrawlGraph.Archive.Reading
import CrawlGraph.Archive.Record
import CrawlGraph.Archive.RecordUpdate
import CrawlGraph.CommandLine.Help
import CrawlGraph.CommandLine.Parser
import CrawlGraph.CommandLine.Request
import CrawlGraph.CommandLine.Rule
import CrawlGraph.CommandLine.Run
import CrawlGraph.Disk.Basic
import CrawlGraph.Disk.Path
import CrawlGraph.Export.Files
import CrawlGraph.Export.Line
import CrawlGraph.Failure
import CrawlGraph.Graph.Builder
import CrawlGraph.Graph.Network
import CrawlGraph.Graph.Node
import CrawlGraph.Graph.NodeJson
import CrawlGraph.Graph.Numbering
import CrawlGraph.Graph.StoreKey
import CrawlGraph.Gzip.Checksum
import CrawlGraph.Gzip.Code
import CrawlGraph.Gzip.Fault
import CrawlGraph.Gzip.Inflate
import CrawlGraph.Gzip.Member
import CrawlGraph.Index
import CrawlGraph.IndexJson
import CrawlGraph.Json.Basic
import CrawlGraph.Json.Decode
import CrawlGraph.Json.Parser
import CrawlGraph.Json.Printer
import CrawlGraph.Main
import CrawlGraph.Message
import CrawlGraph.Proofs.Archive.Cursor
import CrawlGraph.Proofs.Archive.Reading
import CrawlGraph.Proofs.Archive.Replaced
import CrawlGraph.Proofs.Archive.Truncated
import CrawlGraph.Proofs.Archive.Written
import CrawlGraph.Proofs.Archive.WrittenFields
import CrawlGraph.Proofs.Disk.Opened
import CrawlGraph.Proofs.Graph.ByName
import CrawlGraph.Proofs.Graph.DomainLinks
import CrawlGraph.Proofs.Graph.Domains
import CrawlGraph.Proofs.Graph.Finished
import CrawlGraph.Proofs.Graph.Identifiers
import CrawlGraph.Proofs.Graph.Links
import CrawlGraph.Proofs.Graph.NodeJson
import CrawlGraph.Proofs.Graph.Order
import CrawlGraph.Proofs.Graph.References
import CrawlGraph.Proofs.Graph.Sessions
import CrawlGraph.Proofs.Graph.Storable
import CrawlGraph.Proofs.Graph.StoreKey
import CrawlGraph.Proofs.Graph.Sums
import CrawlGraph.Proofs.Grouping
import CrawlGraph.Proofs.Json.Atoms
import CrawlGraph.Proofs.Json.Decode
import CrawlGraph.Proofs.Json.RoundTrip
import CrawlGraph.Proofs.Query.Saved
import CrawlGraph.Proofs.Query.Status
import CrawlGraph.Proofs.Sorted
import CrawlGraph.Proofs.Store.Access
import CrawlGraph.Proofs.Store.ByteMap
import CrawlGraph.Proofs.Store.Contents
import CrawlGraph.Proofs.Store.Progress
import CrawlGraph.Proofs.Store.Saved
import CrawlGraph.Proofs.Store.Scan
import CrawlGraph.Proofs.Store.Schedule
import CrawlGraph.Proofs.Store.Table
import CrawlGraph.Proofs.Text.Cut
import CrawlGraph.Proofs.Text.Number
import CrawlGraph.Proofs.Text.Utf8
import CrawlGraph.Query.Filter
import CrawlGraph.Query.Search
import CrawlGraph.Seeds
import CrawlGraph.Sorted
import CrawlGraph.Store.Database
import CrawlGraph.Store.Image
import CrawlGraph.Store.Pool
import CrawlGraph.Store.Scan
import CrawlGraph.Store.Table
import CrawlGraph.Store.Workspace
import CrawlGraph.Text.Ascii
import CrawlGraph.Text.Blank
import CrawlGraph.Text.Cut
import CrawlGraph.Text.Number
import CrawlGraph.Text.Quoted
import CrawlGraph.Text.Utf8
import CrawlGraph.Unicode.CombiningClass
import CrawlGraph.Unicode.Composition
import CrawlGraph.Unicode.Direction
import CrawlGraph.Unicode.HostMapping
import CrawlGraph.Unicode.Joining
import CrawlGraph.Unicode.Mark
import CrawlGraph.Unicode.Normal
import CrawlGraph.Unicode.Printable
import CrawlGraph.Unicode.Ranges
import CrawlGraph.Update
import CrawlGraph.UpdateJson
import CrawlGraph.Url.Address
import CrawlGraph.Url.Basic
import CrawlGraph.Url.DomainName
import CrawlGraph.Url.Host
import CrawlGraph.Url.Parse
import CrawlGraph.Url.Percent
import CrawlGraph.Url.Punycode
import CrawlGraph.Url.Reference
import CrawlGraph.Url.Segments
import CrawlGraph.Proofs.Query.Isolation
import CrawlGraph.Proofs.Store.Attempts
import CrawlGraph.Proofs.Disk.Files
import CrawlGraph.Proofs.Export.Exported
import CrawlGraph.Proofs.Query.Restored
import CrawlGraph.Proofs.Index.Intake
import CrawlGraph.Proofs.Index.Bounds
import CrawlGraph.Proofs.Index.Refused
import CrawlGraph.Proofs.Query.HopPath
import CrawlGraph.Proofs.Query.Searched
import CrawlGraph.Proofs.Query.Linked
import CrawlGraph.Proofs.Export.Reread
import CrawlGraph.Proofs.Archive.Content
import CrawlGraph.Proofs.Archive.Headers
import CrawlGraph.Proofs.Archive.Keys
import CrawlGraph.Proofs.Archive.Signature
import CrawlGraph.Proofs.Archive.WrittenResponse
import CrawlGraph.Proofs.Archive.Lengths
import CrawlGraph.Proofs.Graph.Buckets
import CrawlGraph.Proofs.Query.Types
import CrawlGraph.Proofs.Url.Domain
import CrawlGraph.Proofs.Seeds
import CrawlGraph.Proofs.Store.Lookup
