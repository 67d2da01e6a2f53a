/-!
# UTF-8

Characters as bytes and back. Decoding is total: an ill-formed sequence gives one gap for each of
its maximal subparts. `decodeLossy` fills a gap with U+FFFD, `decode?` refuses it.

Main definitions: `encode`, `decodeGaps`, `decodeLossy`, `decode?`.
-/

namespace CrawlGraph

/-- A sequence of bytes. -/
abbrev Bytes := List UInt8

namespace Utf8

/-- The bytes of a text. -/
def encode (cs : List Char) : Bytes := cs.flatMap String.utf8EncodeChar

/-- Whether a byte may continue a sequence. -/
def isTail (b : UInt8) : Bool := 0x80 ≤ b && b ≤ 0xBF

/-- The number of bytes that continue a sequence starting with `lead`, and the range of the first
of them; none if no sequence starts so. -/
def shape (lead : UInt8) : Option (Nat × UInt8 × UInt8) :=
  if lead < 0xC2 then none
  else if lead ≤ 0xDF then some (1, 0x80, 0xBF)
  else if lead = 0xE0 then some (2, 0xA0, 0xBF)
  else if lead = 0xED then some (2, 0x80, 0x9F)
  else if lead ≤ 0xEF then some (2, 0x80, 0xBF)
  else if lead = 0xF0 then some (3, 0x90, 0xBF)
  else if lead ≤ 0xF3 then some (3, 0x80, 0xBF)
  else if lead = 0xF4 then some (3, 0x80, 0x8F)
  else none

/-- The payload of a byte that continues a sequence. -/
def payload (b : UInt8) : Nat := b.toNat % 64

/-- How many of the following bytes belong to the sequence that `lead` starts, and the character if
the sequence is whole. -/
def first (lead : UInt8) (rest : Bytes) : Option Char × Nat :=
  if lead < 0x80 then (some (Char.ofNat lead.toNat), 0)
  else
    match shape lead, rest with
    | some (more, low, high), b :: rest =>
      if low ≤ b && b ≤ high then
        match more, rest with
        | 1, _ => (some (Char.ofNat (lead.toNat % 32 * 64 + payload b)), 1)
        | 2, c :: _ =>
          if isTail c then
            (some (Char.ofNat ((lead.toNat % 16 * 64 + payload b) * 64 + payload c)), 2)
          else (none, 1)
        | 3, c :: rest =>
          if isTail c then
            match rest with
            | d :: _ =>
              if isTail d then
                (some (Char.ofNat
                  (((lead.toNat % 8 * 64 + payload b) * 64 + payload c) * 64 + payload d)), 3)
              else (none, 2)
            | [] => (none, 2)
          else (none, 1)
        | _, _ => (none, 1)
      else (none, 0)
    | _, _ => (none, 0)

/-- The characters that bytes stand for, with `none` for each maximal ill-formed subpart. -/
def decodeGaps : Bytes → List (Option Char)
  | [] => []
  | lead :: rest =>
    let (c, more) := first lead rest
    c :: decodeGaps (rest.drop more)
termination_by bytes => bytes.length
decreasing_by simp only [List.length_drop, List.length_cons]; omega

/-- The characters that bytes stand for, with U+FFFD for each maximal ill-formed subpart. -/
def decodeLossy (bytes : Bytes) : List Char := (decodeGaps bytes).map (·.getD '\uFFFD')

/-- The characters that well-formed bytes stand for. -/
def decode? (bytes : Bytes) : Option (List Char) := (decodeGaps bytes).mapM id

/-- The bytes of a string. -/
def ofString (s : String) : Bytes := encode s.toList

/-- The string that well-formed bytes stand for. -/
def toString? (bytes : Bytes) : Option String := (decode? bytes).map String.ofList

/-- The string that bytes stand for, with U+FFFD for each maximal ill-formed subpart. -/
def toStringLossy (bytes : Bytes) : String := String.ofList (decodeLossy bytes)

end Utf8

end CrawlGraph
