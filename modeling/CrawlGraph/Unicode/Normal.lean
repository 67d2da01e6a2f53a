import CrawlGraph.Unicode.CombiningClass
import CrawlGraph.Unicode.Composition

/-!
# Canonical composition

The normal form in which every character that has a composed form is composed and marks stand in the
order of their combining classes.

A text is first taken apart. Then each run of marks is sorted by combining class, where marks of one
class keep their order. At last each character is composed with the latest starter before it, unless
a mark between them stands in its way.

Main definition: `compose`.
-/

namespace CrawlGraph.Unicode

/-- The parts of a Hangul syllable, or the character itself. -/
def hangulParts (c : Char) : List Char :=
  let n := c.toNat
  if 0xAC00 ≤ n && n ≤ 0xD7A3 then
    let index := n - 0xAC00
    let trail := index % 28
    let pair := [Char.ofNat (0x1100 + index / 588), Char.ofNat (0x1161 + index % 588 / 28)]
    if trail = 0 then pair else pair ++ [Char.ofNat (0x11A7 + trail)]
  else [c]

/-- The parts of a character that the first `fuel` steps of taking it apart give. -/
def partsWithin : (fuel : Nat) → Char → List Char
  | 0, c => [c]
  | fuel + 1, c =>
    match composites.find? (·.1 == c.toNat) with
    | some (_, parts) => parts.flatMap fun n => partsWithin fuel (Char.ofNat n)
    | none => hangulParts c

/-- The parts of a character. No character comes apart more than three times. -/
def parts (c : Char) : List Char := if c.toNat < 0xC0 then [c] else partsWithin 4 c

/-- Puts a mark behind those of the same or a lower class in a run that is sorted by class. -/
def insertMark (c : Char) : List Char → List Char
  | [] => [c]
  | d :: run => if combiningClass c < combiningClass d then c :: d :: run else d :: insertMark c run

/-- A text with each run of marks sorted by class; `run` holds the marks read last. -/
def sortMarks (run : List Char) : List Char → List Char
  | [] => run
  | c :: cs =>
    if combiningClass c = 0 then run ++ c :: sortMarks [] cs else sortMarks (insertMark c run) cs

/-- The character that two are composed to. -/
def pair? (a b : Char) : Option Char :=
  let m := a.toNat
  let n := b.toNat
  if 0x1100 ≤ m && m ≤ 0x1112 && 0x1161 ≤ n && n ≤ 0x1175 then
    some (Char.ofNat (0xAC00 + ((m - 0x1100) * 21 + (n - 0x1161)) * 28))
  else if 0xAC00 ≤ m && m ≤ 0xD7A3 && (m - 0xAC00) % 28 == 0 && 0x11A8 ≤ n && n ≤ 0x11C2 then
    some (Char.ofNat (m + (n - 0x11A7)))
  else (composites.find? (·.2 == [m, n])).map fun entry => Char.ofNat entry.1

/-- Composes the rest of a text with the latest starter. `kept` holds what stands between the two,
in reverse, and the class of the last of it is the one that a mark has to exceed. -/
def composeFrom (starter : Char) (kept : List Char) : List Char → List Char
  | [] => starter :: kept.reverse
  | c :: cs =>
    let rank := combiningClass c
    let isFree :=
      match kept with
      | [] => true
      | last :: _ => combiningClass last < rank
    match if isFree then pair? starter c else none with
    | some whole => composeFrom whole kept cs
    | none =>
      if rank = 0 then starter :: kept.reverse ++ composeFrom c [] cs
      else composeFrom starter (c :: kept) cs

/-- Composes a text that starts with marks. -/
def composeSorted : List Char → List Char
  | [] => []
  | c :: cs => if combiningClass c = 0 then composeFrom c [] cs else c :: composeSorted cs

/-- The composed form of a text. -/
def compose (cs : List Char) : List Char := composeSorted (sortMarks [] (cs.flatMap parts))

end CrawlGraph.Unicode
