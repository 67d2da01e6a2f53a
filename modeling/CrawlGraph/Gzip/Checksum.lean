import CrawlGraph.Text.Utf8

/-!
# Cyclic checksums

The remainder of bytes, read as a polynomial over two elements, by the polynomial of degree 32 that
compressed files use. Both ends of the remainder are complemented.
-/

namespace CrawlGraph.Gzip

/-- The remainder after one more bit. -/
def crcBit (remainder : UInt32) : UInt32 :=
  if remainder &&& 1 = 1 then (remainder >>> 1) ^^^ 0xEDB88320 else remainder >>> 1

/-- The remainder after one more byte. -/
def crcByte (remainder : UInt32) (b : UInt8) : UInt32 :=
  Nat.repeat crcBit 8 (remainder ^^^ b.toUInt32)

/-- The checksum of bytes. -/
def crc32 (bytes : Bytes) : UInt32 := ~~~ (bytes.foldl crcByte 0xFFFFFFFF)

end CrawlGraph.Gzip
