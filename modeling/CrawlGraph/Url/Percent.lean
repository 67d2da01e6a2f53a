import CrawlGraph.Text.Utf8

/-!
# Percent encoding

Which characters each part of a URL writes as percent triplets, and the triplets themselves. A
character outside ASCII is always written as the triplets of its UTF-8 bytes.
-/

namespace CrawlGraph.Url

/-- Control characters and everything outside ASCII. -/
def inControlSet (c : Char) : Bool := c.toNat < 0x20 || 0x7E < c.toNat

/-- What a fragment writes as triplets. -/
def inFragmentSet (c : Char) : Bool := inControlSet c || " \"<>\x60".toList.contains c

/-- What a path segment writes as triplets. -/
def inPathSet (c : Char) : Bool := inFragmentSet c || "#?\x7b\x7d".toList.contains c

/-- What a user name or password writes as triplets. -/
def inUserSet (c : Char) : Bool := inPathSet c || "/:;=@[\\]^|".toList.contains c

/-- What a query writes as triplets; the schemes with a host add the apostrophe. -/
def inQuerySet (special : Bool) (c : Char) : Bool :=
  inControlSet c || " \"#<>".toList.contains c || (special && c == '\'')

/-- A hexadecimal digit, with capitals. -/
def hexDigit (n : Nat) : Char :=
  if n < 10 then Char.ofNat ('0'.toNat + n) else Char.ofNat ('A'.toNat + n - 10)

/-- The triplet of a byte. -/
def triplet (b : UInt8) : List Char := ['%', hexDigit (b.toNat / 16), hexDigit (b.toNat % 16)]

/-- A text with the characters of a set written as triplets. -/
def percentEncode (inSet : Char → Bool) (cs : List Char) : List Char :=
  cs.flatMap fun c => if inSet c then (String.utf8EncodeChar c).flatMap triplet else [c]

/-- The value of a hexadecimal digit. -/
def hexValue? (c : Char) : Option Nat :=
  if c.isDigit then some (c.toNat - '0'.toNat)
  else if 'a' ≤ c ∧ c ≤ 'f' then some (c.toNat - 'a'.toNat + 10)
  else if 'A' ≤ c ∧ c ≤ 'F' then some (c.toNat - 'A'.toNat + 10)
  else none

/-- The bytes of a text, with each percent triplet read as its byte. -/
def percentDecode : List Char → Bytes
  | [] => []
  | '%' :: h :: l :: cs =>
    match hexValue? h, hexValue? l with
    | some high, some low => UInt8.ofNat (16 * high + low) :: percentDecode cs
    | _, _ => String.utf8EncodeChar '%' ++ percentDecode (h :: l :: cs)
  | c :: cs => String.utf8EncodeChar c ++ percentDecode cs

end CrawlGraph.Url
