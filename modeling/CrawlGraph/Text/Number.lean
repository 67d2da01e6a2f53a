/-!
# Decimal integers

Reading decimal integers. A sign and leading zeros are allowed, separators are not, and at least one
digit is required. The value is unbounded; each reader of a bounded kind refuses what does not fit.

Main definitions: `readNat`, `readInt`, and the bounded `readUInt64`, `readInt64`, `readInt32`.
-/

namespace CrawlGraph.Text

/-- The number that a sequence of decimal digits stands for, given the number before it. -/
def digitsFrom : Nat → List Char → Option Nat
  | n, [] => some n
  | n, c :: cs => if c.isDigit then digitsFrom (10 * n + (c.toNat - '0'.toNat)) cs else none

/-- The number that one or more decimal digits stand for. -/
def digits? (cs : List Char) : Option Nat := if cs.isEmpty then none else digitsFrom 0 cs

/-- A number with an optional plus sign. -/
def readNat : List Char → Option Nat
  | '+' :: cs => digits? cs
  | cs => digits? cs

/-- A number with an optional sign. -/
def readInt : List Char → Option Int
  | '-' :: cs => (digits? cs).map fun n => -(n : Int)
  | cs => (readNat cs).map fun n => (n : Int)

/-- The integer as a signed 64-bit number, if it fits. -/
def int64? (n : Int) : Option Int64 :=
  if Int64.minValue.toInt ≤ n ∧ n ≤ Int64.maxValue.toInt then some (Int64.ofInt n) else none

/-- The integer as a signed 32-bit number, if it fits. -/
def int32? (n : Int) : Option Int32 :=
  if Int32.minValue.toInt ≤ n ∧ n ≤ Int32.maxValue.toInt then some (Int32.ofInt n) else none

/-- The integer as an unsigned 64-bit number, if it fits. -/
def uint64? (n : Int) : Option UInt64 :=
  if 0 ≤ n ∧ n.toNat < UInt64.size then some (UInt64.ofNat n.toNat) else none

/-- A decimal number in the unsigned 64-bit range. -/
def readUInt64 (cs : List Char) : Option UInt64 := (readNat cs).bind fun n => uint64? n

/-- A decimal number in the signed 64-bit range. -/
def readInt64 (cs : List Char) : Option Int64 := (readInt cs).bind int64?

/-- A decimal number in the signed 32-bit range. -/
def readInt32 (cs : List Char) : Option Int32 := (readInt cs).bind int32?

end CrawlGraph.Text
