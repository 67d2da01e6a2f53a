import CrawlGraph.Json.Basic
import CrawlGraph.Text.Quoted

/-!
# JSON texts

The text of a JSON value, on one line or with a line for each item. Quotation marks, backslashes and
control characters are written as escapes, all other characters as they are.

Main definitions: `Json.compact`, `Json.pretty`.
-/

namespace CrawlGraph.Json

/-- A character in a string. -/
def escapeChar (c : Char) : List Char :=
  if c = '"' then ['\\', '"']
  else if c = '\\' then ['\\', '\\']
  else if c = '\x08' then ['\\', 'b']
  else if c = '\t' then ['\\', 't']
  else if c = '\n' then ['\\', 'n']
  else if c = '\x0C' then ['\\', 'f']
  else if c = '\r' then ['\\', 'r']
  else if c.toNat < 0x20 then
    ['\\', 'u', '0', '0', Nat.digitChar (c.toNat / 16), Nat.digitChar (c.toNat % 16)]
  else [c]

/-- A string. A string that stands for no text is written as an empty one. -/
def stringText (s : Option String) : List Char :=
  '"' :: (s.getD "").toList.flatMap escapeChar ++ ['"']

/-- A number. -/
def Number.text : Number → List Char
  | .int n => (toString n).toList
  | .decimal text => text

/-- Texts with commas between. -/
def withCommas (texts : List (List Char)) : List Char := [','].intercalate texts

/-- The bracket that an object starts with. -/
def openBrace : Char := '\x7b'

/-- The bracket that an object ends with. -/
def closeBrace : Char := '\x7d'

/-- The texts of `true` and `false`. -/
def boolText (b : Bool) : List Char := (if b then "true" else "false").toList

mutual

/-- The text of a value, without white space. -/
def compactText : Json → List Char
  | .null => "null".toList
  | .bool b => boolText b
  | .number n => n.text
  | .string s => stringText s
  | .array items => '[' :: withCommas (compactItems items) ++ [']']
  | .object fields => openBrace :: withCommas (compactFields fields) ++ [closeBrace]

/-- The texts of the items of an array. -/
def compactItems : List Json → List (List Char)
  | [] => []
  | item :: items => compactText item :: compactItems items

/-- The texts of the fields of an object. -/
def compactFields : List (Option String × Json) → List (List Char)
  | [] => []
  | (key, value) :: fields => (stringText key ++ ':' :: compactText value) :: compactFields fields

end

/-- The text of a value on one line. -/
def compact (json : Json) : String := String.ofList (compactText json)

/-- Texts on lines of their own between brackets, indented by `indent` and one step more. -/
def block (indent : Nat) (first last : Char) (texts : List (List Char)) : List Char :=
  if texts.isEmpty then [first, last]
  else
    let line (n : Nat) : List Char := '\n' :: List.replicate (2 * n) ' '
    first :: withCommas (texts.map (line (indent + 1) ++ ·)) ++ line indent ++ [last]

mutual

/-- The text of a value with a line for each item, where `indent` counts the steps it is indented
by. -/
def prettyText (indent : Nat) : Json → List Char
  | .null => "null".toList
  | .bool b => boolText b
  | .number n => n.text
  | .string s => stringText s
  | .array items => block indent '[' ']' (prettyItems (indent + 1) items)
  | .object fields => block indent openBrace closeBrace (prettyFields (indent + 1) fields)

/-- The texts of the items of an array. -/
def prettyItems (indent : Nat) : List Json → List (List Char)
  | [] => []
  | item :: items => prettyText indent item :: prettyItems indent items

/-- The texts of the fields of an object. -/
def prettyFields (indent : Nat) : List (Option String × Json) → List (List Char)
  | [] => []
  | (key, value) :: fields =>
    (stringText key ++ ':' :: ' ' :: prettyText indent value) :: prettyFields indent fields

end

/-- The text of a value with a line for each item. -/
def pretty (json : Json) : String := String.ofList (prettyText 0 json)

end CrawlGraph.Json
