import CrawlGraph.Url.Basic

/-!
# Reading path segments

Segments are read from left to right onto a stack. A segment of one dot adds nothing, one of two
dots takes the last segment off, and as the last of a path either leaves an empty segment. A segment
that looks like a drive letter is never taken off, and in a file URL the first one stays the first.
-/

namespace CrawlGraph.Url

/-- A letter and a colon or bar. -/
def isDrive : List Char → Bool
  | [letter, mark] => letter.isAlpha && (mark == ':' || mark == '|')
  | _ => false

/-- A letter and a colon. -/
def isPlainDrive (segment : List Char) : Bool := isDrive segment && segment.getLast? == some ':'

/-- Whether a text starts with a drive letter that ends with its segment. -/
def startsWithDrive : List Char → Bool
  | a :: b :: rest =>
    isDrive [a, b] &&
      match rest with
      | [] => true
      | c :: _ => c == '/' || c == '\\' || c == '?' || c == '#'
  | _ => false

/-- A segment with its percent-encoded dots written as dots, if it then consists of dots only. -/
def dots : List Char → Option Nat
  | [] => some 0
  | '.' :: cs => (dots cs).map (· + 1)
  | '%' :: '2' :: 'e' :: cs => (dots cs).map (· + 1)
  | '%' :: '2' :: 'E' :: cs => (dots cs).map (· + 1)
  | _ => none

/-- The segments read so far, the last one first, and whether the first one is a drive letter, which
leaves no room for a host. -/
structure Stack where
  segments : List (List Char) := []
  dropsHost : Bool := false

/-- The stack without its last segment, if that may be taken off. -/
def Stack.pop (stack : Stack) : Stack :=
  match stack.segments with
  | [] => stack
  | top :: below => if isDrive top then stack else { stack with segments := below }

/-- The stack with one more encoded segment; `final` tells that no slash follows it. -/
def Stack.push (file final : Bool) (stack : Stack) (segment : List Char) : Stack :=
  let close (s : Stack) : Stack := if final then { s with segments := [] :: s.segments } else s
  match dots segment with
  | some 1 => close stack
  | some 2 => close stack.pop
  | _ =>
    if file && stack.segments.isEmpty then
      if isDrive segment then
        { segments := [[segment.headD 'A', ':']], dropsHost := true }
      else if isPlainDrive (segment.take 2) then
        { stack with segments := [segment.drop 2, segment.take 2] }
      else { stack with segments := [segment] }
    else { stack with segments := segment :: stack.segments }

/-- The first segment of a text, whether a slash ends it, and what follows. -/
def spanSegment (special : Bool) : List Char → List Char × Bool × List Char
  | [] => ([], false, [])
  | c :: cs =>
    if c == '/' || (special && c == '\\') then ([], true, cs)
    else if c == '?' || c == '#' then ([], false, c :: cs)
    else
      let (segment, slash, rest) := spanSegment special cs
      (c :: segment, slash, rest)

theorem length_spanSegment (special : Bool) (cs : List Char) :
    (spanSegment special cs).2.1 = true → (spanSegment special cs).2.2.length < cs.length := by
  induction cs with
  | nil => simp [spanSegment]
  | cons c cs ih =>
    rw [spanSegment]
    split
    · simp
    · split
      · simp
      · intro h
        exact Nat.lt_succ_of_lt (ih h)

/-- Reads segments onto a stack, up to a query, a fragment or the end. -/
def readSegments (special file : Bool) (stack : Stack) (cs : List Char) : Stack × List Char :=
  let found := spanSegment special cs
  let stack := stack.push file (!found.2.1) (percentEncode inPathSet found.1)
  if found.2.1 then readSegments special file stack found.2.2 else (stack, found.2.2)
termination_by cs.length
decreasing_by exact length_spanSegment special cs (by assumption)

/-- The path that a stack holds. The empty segments that the path of a file starts with do not
count. -/
def Stack.path (file : Bool) (stack : Stack) : Path :=
  let list := stack.segments.reverse
  if file then
    let rest := list.dropWhile List.isEmpty
    .segments (if rest.isEmpty then [[]] else rest)
  else .segments list

end CrawlGraph.Url
