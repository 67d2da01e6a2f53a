/-!
# Tables of code points

Properties of characters are kept as lists of code points in hexadecimal: single ones, and ranges
with a hyphen between their bounds. What a table gives for its code points stands after an equals
sign.

Main definitions: `readRanges`, `readShifts`, `readSequences`, `covers`.
-/

namespace CrawlGraph.Unicode

/-- The code points between two bounds, which both belong to it. -/
structure Range where
  low : Nat
  high : Nat

/-- Whether a code point lies in a range. -/
def Range.contains (range : Range) (n : Nat) : Bool := range.low ≤ n && n ≤ range.high

/-- Whether a code point lies in one of some ranges. -/
def covers (table : List Range) (n : Nat) : Bool := table.any (·.contains n)

/-- A range whose code points become those from another one on. -/
structure Shift where
  source : Range
  target : Nat

/-- The number that hexadecimal digits in capitals stand for. -/
def readHex (digits : List Char) : Nat :=
  digits.foldl (fun n c => 16 * n + (c.toNat - (if c.isDigit then '0'.toNat else 'A'.toNat - 10))) 0

/-- What stands before and after the first `mark`; all of the text if there is none. -/
def halves (mark : Char) (text : List Char) : List Char × List Char :=
  (text.takeWhile (· != mark), (text.dropWhile (· != mark)).drop 1)

/-- A range, or a single code point. -/
def readRange (text : List Char) : Range :=
  let (low, high) := halves '-' text
  { low := readHex low, high := readHex (if high.isEmpty then low else high) }

/-- The entries of a table. -/
def entries (table : List String) : List (List Char) :=
  table.flatMap fun line => line.toList.splitOnP (· == ' ')

/-- A table of ranges. -/
def readRanges (table : List String) : List Range := (entries table).map readRange

/-- A table of ranges, each with the code point that its first one becomes. -/
def readShifts (table : List String) : List Shift :=
  (entries table).map fun entry =>
    let (source, target) := halves '=' entry
    { source := readRange source, target := readHex target }

/-- A table of single code points, each with the ones it stands for, between full stops. -/
def readSequences (table : List String) : List (Nat × List Nat) :=
  (entries table).map fun entry =>
    let (code, parts) := halves '=' entry
    (readHex code, (parts.splitOnP (· == '.')).map readHex)

end CrawlGraph.Unicode
