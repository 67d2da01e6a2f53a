/-!
# Punycode

The ASCII form of a label that holds other characters: its ASCII characters, a hyphen if there are
any, and then where the others are to be inserted, in the order of their code points. Each insertion
is the distance from the last one, written in base 36 with digits whose weights adapt to the
distances seen so far.

Main definitions: `Punycode.encode?`, `Punycode.decode?`.
-/

namespace CrawlGraph.Url.Punycode

/-- The value of a digit. -/
def digit? (c : Char) : Option Nat :=
  if c.isLower then some (c.toNat - 'a'.toNat)
  else if c.isUpper then some (c.toNat - 'A'.toNat)
  else if c.isDigit then some (c.toNat - '0'.toNat + 26)
  else none

/-- The digit of a value below 36. -/
def digitChar (n : Nat) : Char :=
  if n < 26 then Char.ofNat (n + 'a'.toNat) else Char.ofNat (n - 26 + '0'.toNat)

/-- The value from which a digit is followed by another one. -/
def threshold (bias place : Nat) : Nat := min 26 (max 1 (place - bias))

/-- The bias that a large enough distance adds, counted in places. -/
def biasFrom (places distance : Nat) : Nat :=
  if 455 < distance then biasFrom (places + 36) (distance / 35)
  else places + 36 * distance / (distance + 38)
termination_by distance

/-- The bias after a distance, when a label has `count` characters. -/
def nextBias (isFirst : Bool) (distance count : Nat) : Nat :=
  let distance := if isFirst then distance / 700 else distance / 2
  biasFrom 0 (distance + distance / count)

/-- Reads one distance from a text; a number beyond 32 bits is refused. -/
def readDistance (bias : Nat) :
    (place weight value : Nat) → List Char → Option (Nat × List Char)
  | _, _, _, [] => none
  | place, weight, value, c :: cs =>
    match digit? c with
    | none => none
    | some digit =>
      let value := value + digit * weight
      let low := threshold bias place
      if UInt32.size ≤ value then none
      else if digit < low then some (value, cs)
      else if UInt32.size ≤ weight * (36 - low) then none
      else readDistance bias (place + 36) (weight * (36 - low)) value cs

theorem length_of_readDistance {bias place weight value distance : Nat} {cs rest : List Char}
    (h : readDistance bias place weight value cs = some (distance, rest)) :
    rest.length < cs.length := by
  induction cs generalizing place weight value with
  | nil => simp [readDistance] at h
  | cons c cs ih =>
    rw [readDistance] at h
    split at h
    · simp at h
    · dsimp only at h
      split at h
      · simp at h
      · split at h
        · simp only [Option.some.injEq, Prod.mk.injEq] at h
          simp [← h.2]
        · split at h
          · simp at h
          · exact Nat.lt_succ_of_lt (ih h)

/-- Whether a number is a code point other than a surrogate. -/
def isCodePoint (n : Nat) : Bool := n < 0xD800 || (0xDFFF < n && n < 0x110000)

/-- Inserts characters into a label until the text ends. The next one is at least `code`, and at
least at `index` if it is that one. -/
def insertAll (label : List Char) (isFirst : Bool) (bias code index : Nat) (cs : List Char) :
    Option (List Char) :=
  if cs.isEmpty then some label
  else
    match h : readDistance bias 36 1 0 cs with
    | none => none
    | some (distance, rest) =>
      let count := label.length + 1
      let code := code + (index + distance) / count
      let index := (index + distance) % count
      if isCodePoint code then
        insertAll (label.take index ++ Char.ofNat code :: label.drop index) false
          (nextBias isFirst distance count) code (index + 1) rest
      else none
termination_by cs.length
decreasing_by exact length_of_readDistance h

/-- The label that a text of ASCII characters stands for. -/
def decode? (cs : List Char) : Option (List Char) :=
  if 2000 < cs.length || cs.any (0x80 ≤ ·.toNat) then none
  else
    match cs.reverse.span (· != '-') with
    | (insertions, _ :: basic@(_ :: _)) =>
      insertAll basic.reverse true 72 0x80 0 insertions.reverse
    | _ => insertAll [] true 72 0x80 0 cs

theorem div_lt_of_threshold (bias place n : Nat) (h : ¬n < threshold bias place) :
    (n - threshold bias place) / (36 - threshold bias place) < n := by
  have low : 1 ≤ threshold bias place := by unfold threshold; omega
  have := Nat.div_le_self (n - threshold bias place) (36 - threshold bias place)
  omega

/-- A distance as digits. -/
def writeDistance (bias place n : Nat) : List Char :=
  if h : n < threshold bias place then [digitChar n]
  else
    digitChar (threshold bias place +
        (n - threshold bias place) % (36 - threshold bias place)) ::
      writeDistance bias (place + 36) ((n - threshold bias place) / (36 - threshold bias place))
termination_by n
decreasing_by exact div_lt_of_threshold bias place n h

/-- How far the writing of a label has come: the digits so far, the distance since the last
insertion, the bias and the number of characters inserted. -/
structure Progress where
  digits : List Char := []
  distance : Nat
  bias : Nat
  count : Nat
  isFirst : Bool

/-- Passes a character of the label while those with the code point `code` are inserted. -/
def Progress.pass (code : Nat) (p : Progress) (c : Char) : Progress :=
  if c.toNat < code then { p with distance := p.distance + 1 }
  else if c.toNat = code then
    { digits := p.digits ++ writeDistance p.bias 36 p.distance
      distance := 0
      bias := nextBias p.isFirst p.distance (p.count + 1)
      count := p.count + 1
      isFirst := false }
  else p

/-- Inserts the characters with each of the code points in turn; `code` is the least that may come.
-/
def Progress.insert (label : List Char) : (codes : List Nat) → (code : Nat) → Progress → Progress
  | [], _, p => p
  | next :: codes, code, p =>
    let start := { p with distance := p.distance + (next - code) * (p.count + 1) }
    let passed := label.foldl (Progress.pass next) start
    Progress.insert label codes (next + 1) { passed with distance := passed.distance + 1 }

/-- The ASCII form of a label. Labels of more than a thousand characters have none. -/
def encode? (label : List Char) : Option (List Char) :=
  if 1000 < label.length then none
  else
    let basic := label.filter (·.toNat < 0x80)
    let codes := (((label.filter (0x80 ≤ ·.toNat)).map Char.toNat).mergeSort (· ≤ ·)).eraseReps
    let start : Progress := { distance := 0, bias := 72, count := basic.length, isFirst := true }
    let digits := (start.insert label codes 0x80).digits
    some (if basic.isEmpty then digits else basic ++ '-' :: digits)

end CrawlGraph.Url.Punycode
