import CrawlGraph.Gzip.Inflate

/-!
# Compressed data in parts

A compressed file is read part by part, and the decoder works on the parts that have been read. It
hands out what it has decoded whenever its window is full or the next part is needed, and at the end
of the data. Where it comes upon corrupt data, it hands out nothing more: what it has decoded since
it last did so is lost, and what it handed out before is with the reader.

Main definitions: `parts`, `inflateParts`.
-/

namespace CrawlGraph.Gzip

/-- The number of bytes that are asked for at a time: of a file when it is opened, which makes its
first part, and of the decoder. -/
def readSize : Nat := 8192

/-- The number of bytes in each part of a file after the first. -/
def partSize : Nat := 32768

/-- The number of decoded bytes for which the decoder has room. -/
def windowSize : Nat := 32768

/-- Cuts bytes into chunks of a size, of which the last one may be shorter. None is empty. -/
def chunks (size : Nat) : Bytes → List Bytes
  | [] => []
  | b :: bytes => (b :: bytes.take (size - 1)) :: chunks size (bytes.drop (size - 1))
termination_by bytes => bytes.length
decreasing_by
  rw [List.length_drop]
  exact Nat.lt_succ_of_le (Nat.sub_le _ _)

/-- Cuts bytes into a first chunk of one size and further ones of another. -/
def chunksFrom (first size : Nat) (bytes : Bytes) : List Bytes :=
  bytes.take first :: chunks size (bytes.drop first)

/-- The parts in which a file is read. -/
def parts (bytes : Bytes) : List Bytes := chunksFrom readSize partSize bytes

/-- The pieces in which the decoder hands out what it decodes from a part, when it has handed out
`given` bytes before. A piece ends where the window does; but one that is shorter than what was
asked for is handed out together with the next. -/
def pieces (given : Nat) (bytes : Bytes) : List Bytes :=
  let room := windowSize - given % windowSize
  chunksFrom (if room < readSize then room + windowSize else room) windowSize bytes

/-- What the decoder hands out of compressed data, and either the parts that come after the data or
what is wrong with it. It has read `ready` of the data before, and has handed out `given` bytes. -/
def inflateParts : (ready : Bytes) → (given : Nat) → (parts : List Bytes) →
    List Bytes × Except Fault (List Bytes)
  | _, _, [] => ([], .error .cut)
  | ready, given, part :: parts =>
    let (out, outcome) := inflate (ready ++ part)
    let handedOut := pieces given (out.drop given)
    match outcome with
    | .ok rest => (handedOut, .ok (rest :: parts))
    -- the last of the pieces is the one that the fault comes upon
    | .error .corrupt => (handedOut.dropLast, .error .corrupt)
    | .error .cut =>
      let (more, outcome) := inflateParts (ready ++ part) out.length parts
      (handedOut ++ more, outcome)

/-- Takes `n` bytes off parts. -/
def dropBytes : (n : Nat) → (parts : List Bytes) → List Bytes
  | 0, parts => parts
  | _, [] => []
  | n, part :: parts =>
    if n < part.length then part.drop n :: parts else dropBytes (n - part.length) parts

end CrawlGraph.Gzip
