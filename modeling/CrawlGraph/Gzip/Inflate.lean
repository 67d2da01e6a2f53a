import CrawlGraph.Gzip.Code
import CrawlGraph.Text.Utf8

/-!
# Compressed blocks

The blocks of compressed data: stored bytes, or symbols in a code that is either fixed or written in
front of them. A symbol is a byte, the end of the block, or the length of a piece that repeats
earlier data; what such a piece takes from before the start of the data is zero bytes.

Main definition: `inflate`, which gives what can be read and what ended the reading.
-/

namespace CrawlGraph.Gzip

/-- The bits of a byte, the lowest first. -/
def bitsOf (b : UInt8) : Bits := (List.range 8).map fun i => b.toNat.testBit i

/-- The number that bits stand for, the lowest first. -/
def valueOf (bits : Bits) : Nat := bits.foldr (fun bit n => 2 * n + bit.toNat) 0

/-- Reads a number of `n` bits. -/
def takeBits (n : Nat) (bits : Bits) : Except Fault (Nat × Bits) :=
  let taken := bits.take n
  if taken.length = n then .ok (valueOf taken, bits.drop n) else .error .cut

theorem length_of_takeBits {n value : Nat} {bits rest : Bits}
    (h : takeBits n bits = .ok (value, rest)) : rest.length + n = bits.length := by
  unfold takeBits at h
  simp only [List.length_take] at h
  split at h
  · simp only [Except.ok.injEq, Prod.mk.injEq] at h
    rw [← h.2, List.length_drop]
    omega
  · simp at h

/-- The least length, and the number of further bits, of each symbol for a length. -/
def lengthTable : List (Nat × Nat) :=
  [(3, 0), (4, 0), (5, 0), (6, 0), (7, 0), (8, 0), (9, 0), (10, 0), (11, 1), (13, 1), (15, 1),
    (17, 1), (19, 2), (23, 2), (27, 2), (31, 2), (35, 3), (43, 3), (51, 3), (59, 3), (67, 4),
    (83, 4), (99, 4), (115, 4), (131, 5), (163, 5), (195, 5), (227, 5), (258, 0)]

/-- The least distance, and the number of further bits, of each symbol for a distance. -/
def distanceTable : List (Nat × Nat) :=
  [(1, 0), (2, 0), (3, 0), (4, 0), (5, 1), (7, 1), (9, 2), (13, 2), (17, 3), (25, 3), (33, 4),
    (49, 4), (65, 5), (97, 5), (129, 6), (193, 6), (257, 7), (385, 7), (513, 8), (769, 8),
    (1025, 9), (1537, 9), (2049, 10), (3073, 10), (4097, 11), (6145, 11), (8193, 12), (12289, 12),
    (16385, 13), (24577, 13)]

/-- Reads the number that a symbol of a table starts. -/
def readFrom (table : List (Nat × Nat)) (symbol : Nat) (bits : Bits) : Except Fault (Nat × Bits) :=
  match table[symbol]? with
  | none => .error .corrupt
  | some (least, more) => (takeBits more bits).map fun (n, rest) => (least + n, rest)

/-- One step of a block. -/
inductive Symbol where
  | byte (b : UInt8)
  /-- The bytes from `distance` places back, as many as `length`. -/
  | piece (length distance : Nat)
  | stop

/-- Reads a symbol with all its parts. -/
def readSymbol (literals distances : Code) (bits : Bits) : Except Fault (Symbol × Bits) := do
  let (symbol, bits) ← literals.read bits
  if symbol < 256 then return (.byte (UInt8.ofNat symbol), bits)
  else if symbol = 256 then return (.stop, bits)
  else
    let (length, bits) ← readFrom lengthTable (symbol - 257) bits
    let (symbol, bits) ← distances.read bits
    let (distance, bits) ← readFrom distanceTable symbol bits
    return (.piece length distance, bits)

theorem length_of_readFrom {table : List (Nat × Nat)} {symbol n : Nat} {bits rest : Bits}
    (h : readFrom table symbol bits = .ok (n, rest)) : rest.length ≤ bits.length := by
  unfold readFrom at h
  split at h
  · simp at h
  · rename_i least more _
    cases ht : takeBits more bits with
    | error fault => rw [ht] at h; simp [Except.map] at h
    | ok pair =>
      rw [ht] at h
      simp only [Except.map, Except.ok.injEq, Prod.mk.injEq] at h
      have := length_of_takeBits ht
      rw [← h.2]
      omega

theorem length_of_readSymbol {literals distances : Code} {symbol : Symbol} {bits rest : Bits}
    (h : readSymbol literals distances bits = .ok (symbol, rest)) : rest.length < bits.length := by
  unfold readSymbol at h
  cases h1 : literals.read bits with
  | error fault => rw [h1] at h; simp [bind, Except.bind] at h
  | ok first =>
    have l1 := Code.length_of_read (h1 : literals.read bits = Except.ok (first.1, first.2))
    rw [h1] at h
    simp only [bind, Except.bind] at h
    split at h
    · simp only [pure, Except.pure, Except.ok.injEq, Prod.mk.injEq] at h
      rw [← h.2]; exact l1
    · split at h
      · simp only [pure, Except.pure, Except.ok.injEq, Prod.mk.injEq] at h
        rw [← h.2]; exact l1
      · cases h2 : readFrom lengthTable (first.1 - 257) first.2 with
        | error fault => rw [h2] at h; simp at h
        | ok second =>
          have l2 := length_of_readFrom (h2 : _ = Except.ok (second.1, second.2))
          rw [h2] at h
          cases h3 : distances.read second.2 with
          | error fault => simp [h3] at h
          | ok third =>
            have l3 := Code.length_of_read (h3 : _ = Except.ok (third.1, third.2))
            simp only [h3] at h
            cases h4 : readFrom distanceTable third.1 third.2 with
            | error fault => rw [h4] at h; simp at h
            | ok fourth =>
              have l4 := length_of_readFrom (h4 : _ = Except.ok (fourth.1, fourth.2))
              rw [h4] at h
              simp only [pure, Except.pure, Except.ok.injEq, Prod.mk.injEq] at h
              rw [← h.2]
              omega

/-- Appends `count` bytes, each a copy of the one `distance` places before it. -/
def repeatBytes (distance : Nat) : (count : Nat) → Array UInt8 → Array UInt8
  | 0, out => out
  | count + 1, out =>
    let byte := if distance ≤ out.size then out[out.size - distance]?.getD 0 else 0
    repeatBytes distance count (out.push byte)

/-- What reading has given so far, and what ended it: a fault, or the end of a block or of all
blocks with the bits after it. -/
abbrev Progress := Array UInt8 × Except Fault Bits

/-- Reads symbols up to the end of a block. -/
def readSymbols (literals distances : Code) (out : Array UInt8) (bits : Bits) : Progress :=
  match _h : readSymbol literals distances bits with
  | .error fault => (out, .error fault)
  | .ok (.stop, rest) => (out, .ok rest)
  | .ok (.byte b, rest) => readSymbols literals distances (out.push b) rest
  | .ok (.piece length distance, rest) =>
    readSymbols literals distances (repeatBytes distance length out) rest
termination_by bits.length
decreasing_by all_goals exact length_of_readSymbol (by assumption)

/-- The code of bytes and lengths in blocks that do not bring their own. -/
def fixedLiterals : Option Code :=
  Code.ofLengths? false
    (List.replicate 144 8 ++ List.replicate 112 9 ++ List.replicate 24 7 ++ List.replicate 8 8)

/-- The code of distances in blocks that do not bring their own. -/
def fixedDistances : Option Code := Code.ofLengths? false (List.replicate 32 5)

/-- Reads `count` numbers of three bits. -/
def readTriples : (count : Nat) → Bits → Except Fault (List Nat × Bits)
  | 0, bits => .ok ([], bits)
  | count + 1, bits => do
    let (n, bits) ← takeBits 3 bits
    let (ns, bits) ← readTriples count bits
    return (n :: ns, bits)

/-- The order in which the lengths of the code for lengths are written. -/
def lengthOrder : List Nat := [16, 17, 18, 0, 8, 7, 9, 6, 10, 5, 11, 4, 12, 3, 13, 2, 14, 1, 15]

/-- Reads codeword lengths up to a count; `lengths` holds those read so far, in reverse. Each step
reads at least one of them, so `fuel` need not exceed the count. -/
def readLengths (code : Code) (count : Nat) :
    (fuel : Nat) → (lengths : List Nat) → Bits → Except Fault (List Nat × Bits)
  | fuel, lengths, bits =>
    if count < lengths.length then .error .corrupt
    else if lengths.length = count then .ok (lengths.reverse, bits)
    else
      match fuel with
      | 0 => .error .corrupt
      | fuel + 1 => do
        let (symbol, bits) ← code.read bits
        let again (n least more : Nat) : Except Fault (List Nat × Bits) := do
          let (extra, bits) ← takeBits more bits
          readLengths code count fuel (List.replicate (least + extra) n ++ lengths) bits
        match symbol, lengths with
        | 16, [] => .error .corrupt
        | 16, last :: _ => again last 3 2
        | 17, _ => again 0 3 3
        | 18, _ => again 0 11 7
        | n, _ => readLengths code count fuel (n :: lengths) bits

/-- The value of a code that may not exist. -/
def valid {α : Type} : Option α → Except Fault α
  | some a => .ok a
  | none => .error .corrupt

/-- Reads the codes that stand in front of a block. -/
def readCodes (bits : Bits) : Except Fault ((Code × Code) × Bits) := do
  let (literals, bits) ← takeBits 5 bits
  let (distances, bits) ← takeBits 5 bits
  let (count, bits) ← takeBits 4 bits
  if 29 < literals || 29 < distances then .error .corrupt
  else
    let (triples, bits) ← readTriples (count + 4) bits
    let lengths := (List.range 19).map fun symbol => triples.getD (lengthOrder.idxOf symbol) 0
    let code ← valid (Code.ofLengths? false lengths)
    let total := literals + 257 + (distances + 1)
    let (lengths, bits) ← readLengths code total total [] bits
    let first ← valid (Code.ofLengths? true (lengths.take (literals + 257)))
    let second ← valid (Code.ofLengths? true (lengths.drop (literals + 257)))
    return ((first, second), bits)

/-- The bits from the next whole byte on. -/
def wholeBytes (bits : Bits) : Bits := bits.drop (bits.length % 8)

/-- The bytes that whole groups of eight bits stand for. -/
def readBytes : (count : Nat) → Array UInt8 → Bits → Progress
  | 0, out, bits => (out, .ok bits)
  | count + 1, out, bits =>
    match takeBits 8 bits with
    | .error fault => (out, .error fault)
    | .ok (n, bits) => readBytes count (out.push (UInt8.ofNat n)) bits

/-- Reads a block of stored bytes. -/
def readStored (out : Array UInt8) (bits : Bits) : Progress :=
  let header := do
    let (count, bits) ← takeBits 16 (wholeBytes bits)
    let (check, bits) ← takeBits 16 bits
    if count + check = 0xFFFF then .ok (count, bits) else .error .corrupt
  match header with
  | .error fault => (out, .error fault)
  | .ok (count, bits) => readBytes count out bits

/-- Reads a block of the given type. -/
def readBlock (type : Nat) (out : Array UInt8) (bits : Bits) : Progress :=
  if type = 0 then readStored out bits
  else
    let codes := match type with
      | 1 => do return ((← valid fixedLiterals, ← valid fixedDistances), bits)
      | 2 => readCodes bits
      | _ => .error .corrupt
    match codes with
    | .error fault => (out, .error fault)
    | .ok ((literals, distances), bits) => readSymbols literals distances out bits

/-- Reads blocks up to the last one. Each has at least three bits, so `fuel` need not exceed the
number of bits. -/
def readBlocks : (fuel : Nat) → Array UInt8 → Bits → Progress
  | 0, out, _ => (out, .error .cut)
  | fuel + 1, out, bits =>
    match takeBits 3 bits with
    | .error fault => (out, .error fault)
    | .ok (header, bits) =>
      let (out, outcome) := readBlock (header / 2) out bits
      match outcome with
      | .error fault => (out, .error fault)
      | .ok bits => if header % 2 = 1 then (out, .ok bits) else readBlocks fuel out bits

/-- What compressed data gives, and either the bytes after it or what is wrong with it. -/
def inflate (data : Bytes) : Bytes × Except Fault Bytes :=
  let bits := data.flatMap bitsOf
  let (out, outcome) := readBlocks (bits.length + 1) #[] bits
  (out.toList, outcome.map fun rest => data.drop (data.length - rest.length / 8))

end CrawlGraph.Gzip
