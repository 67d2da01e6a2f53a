import CrawlGraph.Gzip.Member
import CrawlGraph.Store.Table

/-!
# Tables as files

The bytes of the file of a table: a mark, and then the key and the value of each record in the order
of the keys, each after its length in eight bytes.

Main definitions: `Table.image`, `Table.ofImage?`.
-/

namespace CrawlGraph.Table

/-- The bytes that the file of a table starts with. -/
def mark : Bytes := Utf8.ofString "crawl graph\n"

/-- A number in eight bytes, the least significant one first. -/
def eightBytes (n : Nat) : Bytes := (List.range 8).map fun i => UInt8.ofNat (n >>> (8 * i))

/-- Bytes after their length. -/
def sized (bytes : Bytes) : Bytes := eightBytes bytes.length ++ bytes

/-- The bytes of the file of a table. -/
def image (table : Table) : Bytes :=
  mark ++ table.records.flatMap fun record => sized record.1 ++ sized record.2

/-- The first bytes, as many as are asked for, and the rest. -/
def takeBytes? : Nat → Bytes → Option (Bytes × Bytes)
  | 0, bytes => some ([], bytes)
  | _ + 1, [] => none
  | n + 1, b :: bytes => (takeBytes? n bytes).map fun (first, rest) => (b :: first, rest)

theorem length_of_takeBytes? {n : Nat} {bytes first rest : Bytes}
    (h : takeBytes? n bytes = some (first, rest)) : rest.length + n = bytes.length := by
  induction n generalizing bytes first with
  | zero => simp_all [takeBytes?]
  | succ n ih =>
    cases bytes with
    | nil => simp [takeBytes?] at h
    | cons b bytes =>
      obtain ⟨⟨first', rest'⟩, h', heq⟩ := Option.map_eq_some_iff.1 h
      cases heq
      have := ih h'
      simp only [List.length_cons]
      omega

/-- Bytes after their length, and the rest. -/
def takeSized? (bytes : Bytes) : Option (Bytes × Bytes) :=
  (takeBytes? 8 bytes).bind fun (size, rest) => takeBytes? (Gzip.littleEndian size) rest

theorem length_of_takeSized? {bytes first rest : Bytes}
    (h : takeSized? bytes = some (first, rest)) : rest.length < bytes.length := by
  obtain ⟨⟨size, middle⟩, h₁, h₂⟩ := Option.bind_eq_some_iff.1 h
  have := length_of_takeBytes? h₁
  have := length_of_takeBytes? h₂
  omega

/-- Records one after another. -/
def readRecords? (bytes : Bytes) : Option (List (Bytes × Bytes)) :=
  if bytes.isEmpty then some []
  else
    match _hk : takeSized? bytes with
    | none => none
    | some (key, afterKey) =>
      match _hv : takeSized? afterKey with
      | none => none
      | some (value, rest) => (readRecords? rest).map ((key, value) :: ·)
termination_by bytes.length
decreasing_by
  have := length_of_takeSized? _hk
  have := length_of_takeSized? _hv
  omega

/-- Reads the file of a table. -/
def ofImage? (bytes : Bytes) : Option Table := do
  let (start, rest) ← takeBytes? mark.length bytes
  if start ≠ mark then none
  let records ← readRecords? rest
  return records.foldr (fun record table => table.put record.1 record.2) empty

end CrawlGraph.Table
