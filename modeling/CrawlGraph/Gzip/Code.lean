import CrawlGraph.Gzip.Fault

/-!
# Prefix-free codes

The codes of a compressed block. A code is given by the number of bits of each symbol: the shorter
codewords come first, those of one length in the order of their symbols, and each is the next one
free.

Main definitions: `Code.ofLengths?`, `Code.read`.
-/

namespace CrawlGraph.Gzip

/-- Bits in the order in which they are read. -/
abbrev Bits := List Bool

/-- The codewords that start with some bits already read. -/
inductive Tree where
  | unused
  | leaf (symbol : Nat)
  | branch (zero one : Tree)

/-- A code, whose codewords all have at least one bit. -/
structure Code where
  zero : Tree
  one : Tree

/-- Reads the rest of a codeword. -/
def Tree.read : Tree → Bits → Except Fault (Nat × Bits)
  | .unused, _ => .error .corrupt
  | .leaf symbol, bits => .ok (symbol, bits)
  | .branch _ _, [] => .error .cut
  | .branch zero one, bit :: bits => if bit then one.read bits else zero.read bits

/-- Reads a symbol. -/
def Code.read (code : Code) : Bits → Except Fault (Nat × Bits)
  | [] => .error .cut
  | bit :: bits => if bit then code.one.read bits else code.zero.read bits

theorem Tree.length_of_read {tree : Tree} {bits rest : Bits} {symbol : Nat}
    (h : tree.read bits = .ok (symbol, rest)) : rest.length ≤ bits.length := by
  induction tree generalizing bits with
  | unused => simp [Tree.read] at h
  | leaf s =>
    simp only [Tree.read, Except.ok.injEq, Prod.mk.injEq] at h
    simp [h.2]
  | branch zero one ihz iho =>
    cases bits with
    | nil => simp [Tree.read] at h
    | cons bit bits =>
      rw [Tree.read] at h
      split at h
      · exact Nat.le_succ_of_le (iho h)
      · exact Nat.le_succ_of_le (ihz h)

theorem Code.length_of_read {code : Code} {bits rest : Bits} {symbol : Nat}
    (h : code.read bits = .ok (symbol, rest)) : rest.length < bits.length := by
  cases bits with
  | nil => simp [Code.read] at h
  | cons bit bits =>
    rw [Code.read] at h
    split at h <;> exact Nat.lt_succ_of_le (Tree.length_of_read h)

/-- Lays out symbols, in the order of their lengths, from the left below a node at `depth`, and
gives back those that do not fit. -/
def Tree.layOut : (below depth : Nat) → List (Nat × Nat) → Tree × List (Nat × Nat)
  | _, _, [] => (.unused, [])
  | below, depth, (length, symbol) :: rest =>
    if length ≤ depth then (.leaf symbol, rest)
    else
      match below with
      | 0 => (.unused, (length, symbol) :: rest)
      | below + 1 =>
        let (zero, rest) := Tree.layOut below (depth + 1) ((length, symbol) :: rest)
        let (one, rest) := Tree.layOut below (depth + 1) rest
        (.branch zero one, rest)

/-- Whether every sequence of bits starts with a codeword. -/
def Tree.isFull : Tree → Bool
  | .unused => false
  | .leaf _ => true
  | .branch zero one => zero.isFull && one.isFull

/-- The code in which each symbol has the given number of bits, if its codewords use up all
sequences. A code of at most one symbol need not, if `mayBeSparse` says so. -/
def Code.ofLengths? (mayBeSparse : Bool) (lengths : List Nat) : Option Code :=
  let used := (lengths.zipIdx.filter (·.1 != 0)).mergeSort (fun a b => a.1 ≤ b.1)
  let (zero, rest) := Tree.layOut 14 1 used
  let (one, rest) := Tree.layOut 14 1 rest
  if (zero.isFull && one.isFull && rest.isEmpty) || (mayBeSparse && used.length ≤ 1) then
    some { zero, one }
  else none

end CrawlGraph.Gzip
