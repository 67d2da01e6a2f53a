import CrawlGraph.Store.Database

/-!
# Scans

A scan goes through the records of a store in the order of their keys and gives the nodes of one
kind. It reads a page of records when it runs out of them, so it sees changes to what it has not
read yet.

Values that are no nodes are passed over; a value that cannot be read is given as a failure in its
place.

Main definitions: `Scan.Item`, `Scan.start`, `Scan.next`, `Scan.collect`.
-/

namespace CrawlGraph

/-- The order in which a scan goes through the keys. -/
inductive Direction where
  | forward
  | backward
  deriving DecidableEq, Repr

/-- The number of records that are read at a time. -/
def pageLength : Nat := 64

/-- What a scan gives: a node or a failure, and the key of the record behind it. There is none
behind a page that cannot be read. -/
structure Scan.Item where
  key : Option Bytes
  node : Except Failure Node

/-- What a scan looks for, and how far it has come. -/
structure Scan where
  direction : Direction
  kind : NodeKind
  /-- What the keys have to start with. -/
  within : Option Bytes
  /-- Where the scan starts, or the last key that it has read. -/
  position : Bytes
  /-- Whether nothing has been read yet. -/
  isFresh : Bool := true
  /-- What has been read and not given yet. -/
  buffer : List Scan.Item := []
  /-- Whether there is nothing more to read. -/
  isDone : Bool := false

/-- The node that a value is, if it is one. An object with a field `kind` has to be a node. -/
def Node.ofValue (value : Bytes) : Except Failure (Option Node) :=
  match (Json.parse? value).filter (·.isSound Json.maxDepth) with
  | none => .error .undecodable
  | some (.object fields) =>
    if fields.any (·.1 == some "kind") then
      match Node.ofJson? Json.maxDepth (Json.object fields).sortFields with
      | none => .error .undecodable
      | some node => .ok (some node)
    else .ok none
  | some _ => .ok none

namespace Scan

/-- A scan from a key on, which belongs to the keys of a forward scan only. -/
def start (direction : Direction) (kind : NodeKind) (key : Bytes) (within : Option Bytes) : Scan :=
  { direction, kind, within, position := key }

/-- The next page of records. -/
def page (scan : Scan) (table : Table) : List (Bytes × Bytes) :=
  match scan.direction with
  | .forward =>
    let isNext (key : Bytes) : Bool :=
      scan.position < key || (scan.isFresh && scan.position == key)
    (table.records.filter fun record => isNext record.1).take pageLength
  | .backward =>
    (table.records.filter fun record => record.1 < scan.position).reverse.take pageLength

/-- Whether a key lies within the scan. -/
def isWithin (scan : Scan) (key : Bytes) : Bool :=
  match scan.within with
  | none => true
  | some beginning => beginning.isPrefixOf key

/-- What a record gives to a scan for a kind. -/
def item? (kind : NodeKind) (record : Bytes × Bytes) : Option Item :=
  match Node.ofValue record.2 with
  | .error failure => some { key := record.1, node := .error failure }
  | .ok (some node) => if node.kind = kind then some { key := record.1, node := .ok node } else none
  | .ok none => none

/-- The scan after reading a page. -/
def load (scan : Scan) (table : Table) : Scan :=
  let page := scan.page table
  let inside := page.takeWhile fun record => scan.isWithin record.1
  { scan with
    position := ((inside.getLast?).map Prod.fst).getD scan.position
    isFresh := false
    buffer := scan.buffer ++ inside.filterMap (item? scan.kind)
    isDone := page.length < pageLength || inside.length < page.length }

/-- The next item after at most `fuel` pages, and the scan after it. A page that cannot be read ends
the scan. -/
def nextWithin : (fuel : Nat) → Scan → Except Failure Table → Option Item × Scan
  | fuel, scan, source =>
    match scan.buffer with
    | item :: buffer => (some item, { scan with buffer })
    | [] =>
      if scan.isDone then (none, scan)
      else
        match fuel, source with
        | _, .error failure =>
          (some { key := none, node := .error failure }, { scan with isDone := true })
        | 0, _ => (none, scan)
        | fuel + 1, .ok table => nextWithin fuel (scan.load table) source

/-- The next item of a scan, and the scan after it. A page without items is followed by the next
one, and no more than all records are read. -/
def next (scan : Scan) (source : Except Failure Table) : Option Item × Scan :=
  let fuel := match source with
    | .ok table => table.records.length + 1
    | .error _ => 0
  nextWithin fuel scan source

/-- The next items of a scan, at most `count`. -/
def take : (count : Nat) → Scan → Except Failure Table → List Item × Scan
  | 0, scan, _ => ([], scan)
  | count + 1, scan, source =>
    match scan.next source with
    | (none, scan) => ([], scan)
    | (some item, scan) =>
      let (items, scan) := take count scan source
      (item :: items, scan)

/-- All items of a scan of records that do not change. -/
def items (scan : Scan) (source : Except Failure Table) : List Item :=
  let count := match source with
    | .ok table => table.records.length
    | .error _ => 0
  (scan.take (count + 1) source).1

/-- All nodes of a scan, or the first failure. -/
def collect (scan : Scan) (source : Except Failure Table) : Except Failure (List Node) :=
  (scan.items source).mapM Item.node

end Scan

end CrawlGraph
