import CrawlGraph.Archive.Error
import CrawlGraph.Archive.Headers

/-!
# Places in archives

What can be read from a place in an archive: a line, the next line that is not blank, or a block of
bytes. An archive can break off with a fault, which is told in the place of its end.

Main definitions: `Cursor`, `Step`, `Cursor.line`, `Cursor.headerLine`, `Cursor.block`. Each line
that is found brings the cursor forward.
-/

namespace CrawlGraph.Archive

/-- A place in an archive: how many bytes come before it, what comes after it, and the fault that
takes the place of the end, if there is one. -/
structure Cursor where
  position : Nat
  rest : Bytes
  fault : Option InputFault
  deriving DecidableEq, Repr

/-- The cursor `count` bytes further on. -/
def Cursor.skip (cursor : Cursor) (count : Nat) : Cursor :=
  { cursor with position := cursor.position + count, rest := cursor.rest.drop count }

/-- What reading from a cursor gives, with the cursor after it. -/
inductive Step (α : Type) where
  | found (value : α) (next : Cursor)
  /-- The archive ends here. -/
  | ended (next : Cursor)
  | failed (error : Error) (next : Cursor)

/-- Reads on after something was found. -/
def Step.andThen {α β : Type} (step : Step α) (next : α → Cursor → Step β) : Step β :=
  match step with
  | .found value cursor => next value cursor
  | .ended cursor => .ended cursor
  | .failed error cursor => .failed error cursor

/-- The next line, without its line end. The last line need not have one. -/
def Cursor.line (cursor : Cursor) : Step Bytes :=
  match cutLine cursor.rest with
  | some (line, rest) =>
    .found (dropReturn line)
      { cursor with position := cursor.position + (line.length + 1), rest }
  | none =>
    match cursor.fault with
    | some fault => .failed (.input fault) cursor
    | none =>
      if cursor.rest.isEmpty then .ended cursor
      else .found (dropReturn cursor.rest) (cursor.skip cursor.rest.length)

theorem Cursor.length_of_line {cursor next : Cursor} {line : Bytes}
    (h : cursor.line = .found line next) : next.rest.length < cursor.rest.length := by
  unfold Cursor.line at h
  split at h
  · rename_i hc
    simp only [Step.found.injEq] at h
    rw [← h.2]
    exact length_of_cutLine hc
  · split at h
    · simp at h
    · split at h
      · simp at h
      · rename_i hne
        simp only [Step.found.injEq] at h
        rw [← h.2]
        simp only [Cursor.skip, List.drop_length, List.length_nil]
        exact List.length_pos_iff.2 (by simpa using hne)

/-- White space of ASCII, the vertical tab aside. -/
def isBlankByte (b : UInt8) : Bool := b == 0x20 || b == 0x09 || b == 0x0A || b == 0x0C || b == 0x0D

/-- The next line that is not blank, with the place where it starts. -/
def Cursor.headerLine (cursor : Cursor) : Step (Nat × String) :=
  match _h : cursor.line with
  | .found line next =>
    if line.all isBlankByte then next.headerLine
    else .found (cursor.position, Utf8.toStringLossy line) next
  | .ended next => .ended next
  | .failed error next => .failed error next
termination_by cursor.rest.length
decreasing_by exact Cursor.length_of_line (by assumption)

/-- The next `length` bytes, which are the block of the record that starts at `offset`. -/
def Cursor.block (cursor : Cursor) (length offset : Nat) : Step Bytes :=
  let block := cursor.rest.take length
  if block.length = length then .found block (cursor.skip length)
  else
    match cursor.fault with
    | some fault => .failed (.input fault) cursor
    | none =>
      .failed (.truncated (.block offset length block.length)) (cursor.skip block.length)

theorem Cursor.length_of_headerLine {cursor next : Cursor} {found : Nat × String}
    (h : cursor.headerLine = .found found next) : next.rest.length < cursor.rest.length := by
  induction hn : cursor.rest.length using Nat.strongRecOn generalizing cursor with
  | _ n ih =>
    rw [Cursor.headerLine] at h
    split at h
    · rename_i line after hl
      have hlt := Cursor.length_of_line hl
      split at h
      · have := ih _ (hn ▸ hlt) h rfl
        omega
      · simp only [Step.found.injEq] at h
        rw [← h.2]
        omega
    · simp at h
    · simp at h

theorem Cursor.length_of_block {cursor next : Cursor} {length offset : Nat} {block : Bytes}
    (h : cursor.block length offset = .found block next) :
    next.rest.length ≤ cursor.rest.length := by
  unfold Cursor.block at h
  dsimp only at h
  split at h
  · simp only [Step.found.injEq] at h
    rw [← h.2]
    simp [Cursor.skip]
  · split at h <;> simp at h

end CrawlGraph.Archive
