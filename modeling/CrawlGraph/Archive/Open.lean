import CrawlGraph.Archive.Reading
import CrawlGraph.Gzip.Member

/-!
# Opening archives

An archive file is opened by its name and what it holds. It must start as archives of its format do,
after white space; as much of that start is required as the first piece of the file holds.

Main definition: `openArchive`.
-/

namespace CrawlGraph.Archive

/-- An archive that has been opened. -/
structure Opened where
  path : String
  isCompressed : Bool
  reading : Reading
  deriving DecidableEq, Repr

/-- The number of bytes in the first piece of a file. -/
def pieceSize : Nat := 8192

/-- How archives of a format start. -/
def Format.signature : Format → Bytes
  | .warc => Utf8.ofString "WARC/"
  | .arc => Utf8.ofString fileMark

/-- Whether the first piece of a file starts as the format asks. -/
def hasSignature (format : Format) (piece : Bytes) : Bool :=
  let start := piece.dropWhile isBlankByte
  start.take format.signature.length == format.signature.take start.length

/-- The first piece of a file, all its bytes and the fault that ends them. -/
def readFile (isCompressed : Bool) (content : Bytes) :
    Except InputFault (Bytes × Bytes × Option InputFault) :=
  if isCompressed then
    if !Gzip.hasMagic content then .error .uncompressed
    else
      let (pieces, fault) := Gzip.decompress content
      let fault := fault.map InputFault.compression
      match pieces.find? (!·.isEmpty), fault with
      | some piece, _ => .ok (piece.take pieceSize, pieces.flatten, fault)
      | none, some fault => .error fault
      | none, none => .ok ([], [], none)
  else .ok (content.take pieceSize, content, none)

/-- Opens the archive at a path, where `content` is what stands there. -/
def openArchive (path : String) (content : Except InputFault Bytes) : Except Error Opened :=
  match formatOf? path with
  | none => .error (.unknownFormat path)
  | some (format, isCompressed) =>
    match content.bind (readFile isCompressed) with
    | .error fault => .error (.unopened path fault)
    | .ok (piece, bytes, fault) =>
      if piece.isEmpty then .error (.truncated .emptyFile)
      else if !hasSignature format piece then .error (.header (.wrongSignature format))
      else .ok { path, isCompressed, reading := Reading.start format bytes fault }

end CrawlGraph.Archive
