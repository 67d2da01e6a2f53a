import CrawlGraph.Sorted

/-!
# JSON

JSON values as they are written: fields in order and with repetitions, numbers as integers or, if
they are written otherwise, as their text. A string that stands for no text, because it has
ill-formed bytes or half a surrogate pair, is `none`: such strings may stand only where nothing is
read.

Main definitions: `Json`, `Json.isSound`, `Json.sortFields`.
-/

namespace CrawlGraph

/-- A number of a JSON text. -/
inductive Json.Number where
  | int (n : Int)
  /-- A number with a fraction or an exponent, or a negative zero. -/
  | decimal (text : List Char)
  deriving DecidableEq, Repr

/-- A JSON value. -/
inductive Json where
  | null
  | bool (b : Bool)
  | number (n : Json.Number)
  | string (text : Option String)
  | array (items : List Json)
  | object (fields : List (Option String × Json))
  deriving Repr, Inhabited

namespace Json

/-- A string that stands for a text. -/
def ofString (s : String) : Json := .string (some s)

/-- An integer. -/
def ofInt (n : Int) : Json := .number (.int n)

/-- A value that may be missing. -/
def ofOption {α : Type} (f : α → Json) : Option α → Json
  | none => .null
  | some a => f a

/-- An object with the given fields. -/
def ofFields (fields : List (String × Json)) : Json :=
  .object (fields.map fun (key, value) => (some key, value))

/-- The number of containers that may stand inside each other. -/
def maxDepth : Nat := 127

/-- The least power of ten that no number may reach. -/
def hugeExponent : Nat := 310

/-- Whether a decimal number is small enough for a number of 64 bits with an exponent: it must round
to less than 2 to the power of 1024. -/
def isSmall (digits : List Char) (exponent : Int) : Bool :=
  let digits := digits.dropWhile (· == '0')
  let places : Int := digits.length + exponent
  if digits.isEmpty || places < 300 then true
  else if hugeExponent < places then false
  else
    let value := digits.foldl (fun n c => 10 * n + (c.toNat - '0'.toNat)) 0
    value * Nat.pow 10 exponent.toNat <
      (Nat.pow 2 1024 - Nat.pow 2 970) * Nat.pow 10 (-exponent).toNat

/-- The digits of a decimal number and the power of ten they count. -/
def scientific (text : List Char) : List Char × Int :=
  let isMark (c : Char) : Bool := c == 'e' || c == 'E'
  let unsigned := text.dropWhile (· == '-')
  let mantissa := unsigned.takeWhile (!isMark ·)
  let power := (unsigned.dropWhile (!isMark ·)).drop 1
  let digits := (power.filter Char.isDigit).foldl (fun n c => 10 * n + (c.toNat - '0'.toNat)) 0
  let fraction := (mantissa.dropWhile (· != '.')).drop 1
  (mantissa.filter Char.isDigit,
    (if power.head? == some '-' then -(digits : Int) else digits) - fraction.length)

/-- Whether a number is in range. -/
def Number.isFinite : Number → Bool
  | .int n => isSmall (Nat.toDigits 10 n.natAbs) 0
  | .decimal text => isSmall (scientific text).1 (scientific text).2

mutual

/-- Whether all of a value can be read: its strings stand for texts, its numbers are in range, and
no more than `room` containers stand inside each other. -/
def isSound (room : Nat) : Json → Bool
  | .null => true
  | .bool _ => true
  | .number n => n.isFinite
  | .string text => text.isSome
  | .array items =>
    match room with
    | 0 => false
    | room + 1 => areSound room items
  | .object fields =>
    match room with
    | 0 => false
    | room + 1 => fieldsSound room fields

/-- `isSound` for all items of an array. -/
def areSound (room : Nat) : List Json → Bool
  | [] => true
  | item :: items => isSound room item && areSound room items

/-- `isSound` for all fields of an object. -/
def fieldsSound (room : Nat) : List (Option String × Json) → Bool
  | [] => true
  | (key, value) :: fields => key.isSome && isSound room value && fieldsSound room fields

end

mutual

/-- A value with the fields of each object in the order of their keys. Of fields with one key the
last one stays. -/
def sortFields : Json → Json
  | .null => .null
  | .bool b => .bool b
  | .number n => .number n
  | .string text => .string text
  | .array items => .array (sortItems items)
  | .object fields =>
    .object ((Sorted.ofList (sortedFields fields)).map fun (key, value) => (some key, value))

/-- `sortFields` for all items of an array. -/
def sortItems : List Json → List Json
  | [] => []
  | item :: items => sortFields item :: sortItems items

/-- `sortFields` for all fields of an object; a key that stands for no text is left out. -/
def sortedFields : List (Option String × Json) → List (String × Json)
  | [] => []
  | (some key, value) :: fields => (key, sortFields value) :: sortedFields fields
  | (none, _) :: fields => sortedFields fields

end

end Json

end CrawlGraph
