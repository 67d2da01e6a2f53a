import CrawlGraph.Gzip.Checksum
import CrawlGraph.Gzip.Parts

/-!
# Compressed files

A compressed file is a sequence of members, each with a header, compressed data, and the checksum
and length of what the data gives. `decompress` gives the data of all members, in the pieces in
which a reader gets it, and the fault that ends it, if the file does not end after a whole member.
-/

namespace CrawlGraph.Gzip

/-- Whether a file starts as compressed files do. -/
def hasMagic : Bytes → Bool
  | 0x1F :: 0x8B :: _ => true
  | _ => false

/-- Takes `n` bytes off. -/
def takeBytes (n : Nat) (bytes : Bytes) : Except Fault (Bytes × Bytes) :=
  if (bytes.take n).length = n then .ok (bytes.take n, bytes.drop n) else .error .cut

/-- The number that bytes stand for, the lowest first. -/
def littleEndian (bytes : Bytes) : Nat := bytes.foldr (fun b n => 256 * n + b.toNat) 0

/-- The longest text that a header may hold. -/
def maxHeaderText : Nat := 65535

/-- Takes a text and the zero byte after it off. -/
def skipText (bytes : Bytes) : Except Fault Bytes :=
  let text := bytes.takeWhile (· != 0)
  if maxHeaderText < text.length then .error .corrupt
  else
    match bytes.drop text.length with
    | [] => .error .cut
    | _ :: rest => .ok rest

/-- Takes bytes and the two bytes before them off, which tell their number. -/
def skipExtra (bytes : Bytes) : Except Fault Bytes := do
  let (count, rest) ← takeBytes 2 bytes
  Prod.snd <$> takeBytes (littleEndian count) rest

/-- Takes something off that need not be there. -/
def skipIf (isThere : Bool) (skip : Bytes → Except Fault Bytes) (bytes : Bytes) :
    Except Fault Bytes :=
  if isThere then skip bytes else .ok bytes

/-- Takes the checksum of a header off. -/
def skipCheck (header bytes : Bytes) : Except Fault Bytes := do
  let (check, rest) ← takeBytes 2 bytes
  if littleEndian check = (crc32 header).toNat % UInt16.size then .ok rest else .error .corrupt

/-- Takes the header of a member off. -/
def skipHeader (bytes : Bytes) : Except Fault Bytes := do
  let (fixed, rest) ← takeBytes 10 bytes
  let flags := (fixed.getD 3 0).toNat
  if !hasMagic fixed || fixed.getD 2 0 != 8 || flags ≥ 32 then .error .corrupt
  else
    let afterExtra ← skipIf (flags.testBit 2) skipExtra rest
    let afterName ← skipIf (flags.testBit 3) skipText afterExtra
    let afterComment ← skipIf (flags.testBit 4) skipText afterName
    let header := bytes.take (bytes.length - afterComment.length)
    skipIf (flags.testBit 1) (skipCheck header) afterComment

/-- Takes the checksum and the length of some data off. -/
def skipTrailer (data bytes : Bytes) : Except Fault Bytes := do
  let (trailer, rest) ← takeBytes 8 bytes
  if littleEndian (trailer.take 4) = (crc32 data).toNat &&
      littleEndian (trailer.drop 4) = data.length % UInt32.size then .ok rest
  else .error .corrupt

/-- The parts of which no more than the bytes `rest` are left. -/
def leftOf (parts : List Bytes) (rest : Bytes) : List Bytes :=
  dropBytes (parts.flatten.length - rest.length) parts

/-- The pieces that a member gives, and either the parts after it or what is wrong with it. -/
def readMember (parts : List Bytes) : List Bytes × Except Fault (List Bytes) :=
  match skipHeader parts.flatten with
  | .error fault => ([], .error fault)
  | .ok data =>
    let (pieces, outcome) := inflateParts [] 0 (leftOf parts data)
    match outcome with
    | .error fault => (pieces, .error fault)
    | .ok parts => (pieces, (skipTrailer pieces.flatten parts.flatten).map (leftOf parts))

/-- The pieces that the first `fuel` members give, and the fault that ends them. -/
def readMembers : (fuel : Nat) → (parts : List Bytes) → List Bytes × Option Fault
  | 0, _ => ([], none)
  | fuel + 1, parts =>
    if parts.flatten.isEmpty then ([], none)
    else
      let (pieces, outcome) := readMember parts
      match outcome with
      | .error fault => (pieces, some fault)
      | .ok parts =>
        let (more, fault) := readMembers fuel parts
        (pieces ++ more, fault)

/-- The pieces that the members of a compressed file give, and the fault that ends them. No member
is empty, so there are no more of them than bytes. -/
def decompress (bytes : Bytes) : List Bytes × Option Fault :=
  if bytes.isEmpty then ([], some .cut) else readMembers bytes.length (parts bytes)

end CrawlGraph.Gzip
