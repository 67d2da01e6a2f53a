import CrawlGraph.Text.Cut
import CrawlGraph.Text.Number
import CrawlGraph.Url.Percent

/-!
# Numeric hosts

Version 4 and version 6 addresses as they stand in URLs. A version 4 address has one to four numbers
in decimal, octal (after `0`) or hexadecimal (after `0x`), of which the last fills all remaining
bytes. A version 6 address has eight pieces, where `::` stands for the zero pieces that are missing
and the last two pieces may be written as a version 4 address.

Main definitions: `readIpv4`, `ipv4Text`, `readIpv6`, `ipv6Text`.
-/

namespace CrawlGraph.Url

/-- The number that digits of a base stand for, if each is a digit of that base. -/
def readDigits (base : Nat) (cs : List Char) : Option Nat :=
  cs.foldlM
    (fun n c => (hexValue? c).bind fun d => if d < base then some (base * n + d) else none) 0

/-- One number of a version 4 address. -/
def readIpv4Number : List Char → Option Nat
  | [] => none
  | ['0'] => some 0
  | '0' :: 'x' :: cs => readDigits 16 cs
  | '0' :: 'X' :: cs => readDigits 16 cs
  | '0' :: cs => readDigits 8 cs
  | cs => readDigits 10 cs

/-- The labels of a host, without the empty one that a final dot leaves. -/
def hostLabels (host : List Char) : List (List Char) :=
  let labels := host.splitOnP (· == '.')
  if labels.getLast? == some [] then labels.dropLast else labels

/-- Whether the last label of a host is a number: such a host must be a version 4 address. -/
def endsInNumber (host : List Char) : Bool :=
  match (hostLabels host).getLast? with
  | none => false
  | some label => (!label.isEmpty && label.all Char.isDigit) || (readIpv4Number label).isSome

/-- The address that the numbers of a version 4 address give: each but the last is one byte, and the
last one fills the rest. -/
def ipv4Value (numbers : List Nat) : Option Nat :=
  match numbers.reverse with
  | [] => none
  | last :: leading =>
    if 3 < leading.length || leading.any (255 < ·) ||
        Nat.pow 256 (4 - leading.length) ≤ last then none
    else some (leading.foldr (fun n (value, place) => (value + n * place, place / 256))
      (last, 16777216)).1

/-- A version 4 address in any of its forms. -/
def readIpv4 (host : List Char) : Option Nat :=
  ((hostLabels host).mapM readIpv4Number).bind ipv4Value

/-- The four bytes of an address in decimal, with dots between. -/
def ipv4Text (address : Nat) : String :=
  ".".intercalate <| [16777216, 65536, 256, 1].map fun place => toString (address / place % 256)

/-- One piece of a version 6 address: one to four hexadecimal digits. -/
def readPiece (cs : List Char) : Option Nat :=
  if cs.isEmpty || 4 < cs.length then none else readDigits 16 cs

/-- One byte of an embedded version 4 address: decimal, without leading zeros. -/
def readByte (cs : List Char) : Option Nat :=
  if 1 < cs.length && cs.head? == some '0' then none
  else (Text.digits? cs).bind fun n => if n < 256 then some n else none

/-- The two pieces that an embedded version 4 address fills. -/
def readEmbedded (cs : List Char) : Option (List Nat) :=
  match (cs.splitOnP (· == '.')).mapM readByte with
  | some [a, b, c, d] => some [256 * a + b, 256 * c + d]
  | _ => none

/-- The pieces between colons; the last may be an embedded version 4 address if `final`. -/
def readPieces (final : Bool) (cs : List Char) : Option (List Nat) :=
  if cs.isEmpty then some []
  else
    let parts := cs.splitOnP (· == ':')
    let last := parts.getLast?.getD []
    if final && last.contains '.' then do
      let leading ← parts.dropLast.mapM readPiece
      let embedded ← readEmbedded last
      some (leading ++ embedded)
    else parts.mapM readPiece

/-- What stands before and after the first double colon. -/
def cutAtDoubleColon : List Char → Option (List Char × List Char)
  | ':' :: ':' :: cs => some ([], cs)
  | c :: cs => (cutAtDoubleColon cs).map fun (before, after) => (c :: before, after)
  | [] => none

/-- The eight pieces of a version 6 address. -/
def readIpv6 (cs : List Char) : Option (List Nat) :=
  match cutAtDoubleColon cs with
  | none => do
    let pieces ← readPieces true cs
    if pieces.length = 8 then some pieces else none
  | some (before, after) => do
    let left ← readPieces false before
    let right ← readPieces true after
    let count := left.length + right.length
    if count < 8 then some (left ++ List.replicate (8 - count) 0 ++ right) else none

/-- The number of zeros that pieces start with. -/
def leadingZeros (pieces : List Nat) : Nat := (pieces.takeWhile (· == 0)).length

/-- The place and length of the first longest run of zero pieces. -/
def longestZeroRun (pieces : List Nat) : Nat × Nat :=
  (List.range pieces.length).foldl
    (fun best i =>
      let n := leadingZeros (pieces.drop i)
      if best.2 < n then (i, n) else best) (0, 0)

/-- A number in hexadecimal, in small letters. -/
def hexText (n : Nat) : String := String.ofList (Nat.toDigits 16 n)

/-- A version 6 address with its first longest run of two or more zero pieces written as `::`. -/
def ipv6Text (pieces : List Nat) : String :=
  let colons (ps : List Nat) := ":".intercalate (ps.map hexText)
  let (start, count) := longestZeroRun pieces
  if 1 < count then colons (pieces.take start) ++ "::" ++ colons (pieces.drop (start + count))
  else colons pieces

end CrawlGraph.Url
