import CrawlGraph.Json.Basic
import CrawlGraph.Text.Number
import CrawlGraph.Text.Utf8
import CrawlGraph.Url.Percent

/-!
# Reading JSON

Bytes are read as one JSON value with white space around it. Ill-formed bytes may stand inside
strings only, and a string that has them stands for no text.

Main definition: `Json.parse?`.
-/

namespace CrawlGraph.Json

/-- Characters, with a gap where bytes are ill-formed. -/
abbrev Input := List (Option Char)

/-- White space between the parts of a value. -/
def isSpace (c : Option Char) : Bool :=
  c == some ' ' || c == some '\n' || c == some '\r' || c == some '\t'

/-- What follows white space. -/
def skipSpace (input : Input) : Input := input.dropWhile isSpace

/-- What follows a fixed text. -/
def expect : List Char → Input → Option Input
  | [], input => some input
  | c :: cs, some d :: input => if c = d then expect cs input else none
  | _ :: _, _ => none

/-- What one place of a string stands for. -/
inductive Piece where
  | char (c : Char)
  /-- A code of sixteen bits, which may be half of a character. -/
  | code (n : Nat)
  /-- Ill-formed bytes. -/
  | gap
  deriving DecidableEq

/-- The number that four hexadecimal digits stand for, and what follows them. -/
def readCode : Input → Option (Nat × Input)
  | some a :: some b :: some c :: some d :: input => do
    let value ← [a, b, c, d].foldlM (fun n c => (Url.hexValue? c).map (16 * n + ·)) 0
    some (value, input)
  | _ => none

/-- The character that an escape of one letter stands for. -/
def escaped? (c : Char) : Option Char :=
  if c = '"' || c = '\\' || c = '/' then some c
  else if c = 'b' then some '\x08'
  else if c = 'f' then some '\x0C'
  else if c = 'n' then some '\n'
  else if c = 'r' then some '\r'
  else if c = 't' then some '\t'
  else none

/-- The pieces of a string up to its closing quotation mark, and what follows. -/
def readPieces : Input → Option (List Piece × Input)
  | [] => none
  | none :: input => (readPieces input).map fun (pieces, rest) => (.gap :: pieces, rest)
  | some '"' :: input => some ([], input)
  | some '\\' :: some 'u' :: some a :: some b :: some c :: some d :: input => do
    let (n, _) ← readCode [some a, some b, some c, some d]
    let (pieces, rest) ← readPieces input
    some (.code n :: pieces, rest)
  | some '\\' :: some e :: input => do
    let c ← escaped? e
    let (pieces, rest) ← readPieces input
    some (.char c :: pieces, rest)
  | some c :: input =>
    if c = '\\' || c.toNat < 0x20 then none
    else (readPieces input).map fun (pieces, rest) => (.char c :: pieces, rest)

/-- The text that pieces stand for. Two codes that are the halves of a surrogate pair stand for one
character. -/
def textOf? : List Piece → Option (List Char)
  | [] => some []
  | .char c :: pieces => (textOf? pieces).map (c :: ·)
  | .gap :: _ => none
  | .code high :: .code low :: pieces =>
    if 0xD800 ≤ high && high ≤ 0xDBFF then
      if 0xDC00 ≤ low && low ≤ 0xDFFF then
        (textOf? pieces).map
          (Char.ofNat (0x10000 + (high - 0xD800) * 0x400 + (low - 0xDC00)) :: ·)
      else none
    else if 0xDC00 ≤ high && high ≤ 0xDFFF then none
    else (textOf? (.code low :: pieces)).map (Char.ofNat high :: ·)
  | .code n :: pieces =>
    if 0xD800 ≤ n && n ≤ 0xDFFF then none else (textOf? pieces).map (Char.ofNat n :: ·)

/-- A string after its opening quotation mark. -/
def readString (input : Input) : Option (Option String × Input) :=
  (readPieces input).map fun (pieces, rest) => ((textOf? pieces).map String.ofList, rest)

/-- The characters of numbers. -/
def isNumberChar (c : Char) : Bool :=
  c.isDigit || c == '-' || c == '+' || c == '.' || c == 'e' || c == 'E'

/-- Whether a text is an exponent with its mark. -/
def isExponent : List Char → Bool
  | c :: '+' :: cs => (c == 'e' || c == 'E') && !cs.isEmpty && cs.all Char.isDigit
  | c :: '-' :: cs => (c == 'e' || c == 'E') && !cs.isEmpty && cs.all Char.isDigit
  | c :: cs => (c == 'e' || c == 'E') && !cs.isEmpty && cs.all Char.isDigit
  | [] => true

/-- Whether a text is what may follow the whole part of a number. -/
def isNumberEnd : List Char → Bool
  | '.' :: cs => !(cs.takeWhile Char.isDigit).isEmpty && isExponent (cs.dropWhile Char.isDigit)
  | cs => isExponent cs

/-- The number that a text is. The whole part has no superfluous zeros. -/
def Number.ofText? (text : List Char) : Option Number :=
  let (isNegative, unsigned) :=
    match text with
    | '-' :: cs => (true, cs)
    | cs => (false, cs)
  let whole := unsigned.takeWhile Char.isDigit
  let rest := unsigned.dropWhile Char.isDigit
  if whole.isEmpty || (whole.head? == some '0' && whole.length != 1) || !isNumberEnd rest then none
  else if rest.isEmpty && !(isNegative && whole == ['0']) then
    (Text.digits? whole).map fun n => .int (if isNegative then -(n : Int) else n)
  else some (.decimal text)

/-- The characters of the number that an input starts with. -/
def numberPart (input : Input) : List Char :=
  (input.takeWhile fun c => (c.map isNumberChar).getD false).filterMap id

mutual

/-- Reads a value. Each step reads something or goes into a container, so twice the length of the
input is fuel enough. -/
def readValue : (fuel : Nat) → Input → Option (Json × Input)
  | 0, _ => none
  | fuel + 1, input =>
    match skipSpace input with
    | some '[' :: rest =>
      match skipSpace rest with
      | some ']' :: rest => some (.array [], rest)
      | rest => (readItems fuel rest).map fun (items, rest) => (.array items, rest)
    | some '\x7b' :: rest =>
      match skipSpace rest with
      | some '\x7d' :: rest => some (.object [], rest)
      | rest => (readFields fuel rest).map fun (fields, rest) => (.object fields, rest)
    | some '"' :: rest => (readString rest).map fun (text, rest) => (.string text, rest)
    | some 't' :: rest => (expect "rue".toList rest).map fun rest => (.bool true, rest)
    | some 'f' :: rest => (expect "alse".toList rest).map fun rest => (.bool false, rest)
    | some 'n' :: rest => (expect "ull".toList rest).map fun rest => (.null, rest)
    | rest =>
      let text := numberPart rest
      (Number.ofText? text).map fun n => (.number n, rest.drop text.length)

/-- Reads the items of an array that is not empty, and its closing bracket. -/
def readItems : (fuel : Nat) → Input → Option (List Json × Input)
  | 0, _ => none
  | fuel + 1, input => do
    let (item, rest) ← readValue fuel input
    match skipSpace rest with
    | some ',' :: rest =>
      let (items, rest) ← readItems fuel rest
      some (item :: items, rest)
    | some ']' :: rest => some ([item], rest)
    | _ => none

/-- Reads the fields of an object that is not empty, and its closing bracket. -/
def readFields : (fuel : Nat) → Input → Option (List (Option String × Json) × Input)
  | 0, _ => none
  | fuel + 1, input =>
    match skipSpace input with
    | some '"' :: rest => do
      let (key, rest) ← readString rest
      let rest ← expect [':'] (skipSpace rest)
      let (value, rest) ← readValue fuel rest
      match skipSpace rest with
      | some ',' :: rest =>
        let (fields, rest) ← readFields fuel rest
        some ((key, value) :: fields, rest)
      | some '\x7d' :: rest => some ([(key, value)], rest)
      | _ => none
    | _ => none

end

/-- The value that bytes are written as. -/
def parse? (bytes : Bytes) : Option Json := do
  let input := Utf8.decodeGaps bytes
  let (json, rest) ← readValue (2 * input.length + 2) input
  if (skipSpace rest).isEmpty then some json else none

end CrawlGraph.Json
