import CrawlGraph.Sorted
import CrawlGraph.Text.Utf8

/-!
# Tables

Records of bytes in ascending order of their keys. The order is that of the bytes, from the first
one on, and is part of the type.

Main definitions: `Table`, `Table.get?`, `Table.put`, `Table.delete`, `Table.putAll`.
-/

namespace CrawlGraph

/-- Values by key, in the order of the keys. -/
structure Table where
  records : List (Bytes × Bytes)
  ascending : Sorted.Ascending records

namespace Table

/-- The table without records. -/
def empty : Table := { records := [], ascending := List.Pairwise.nil }

instance : Inhabited Table := ⟨empty⟩

/-- The value of a key. -/
def get? (table : Table) (key : Bytes) : Option Bytes := Sorted.find? key table.records

/-- Gives a key a value. -/
def put (table : Table) (key value : Bytes) : Table :=
  { records := Sorted.insert key value table.records
    ascending := table.ascending.insert key value }

/-- Takes a key away. -/
def delete (table : Table) (key : Bytes) : Table :=
  { records := Sorted.erase key table.records, ascending := table.ascending.erase key }

/-- Gives each key its value, in order. -/
def putAll (table : Table) (records : List (Bytes × Bytes)) : Table :=
  records.foldl (fun table record => table.put record.1 record.2) table

end Table

end CrawlGraph
