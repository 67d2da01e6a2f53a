/-!
# Cutting texts

Texts cut at a separator, at the ends of their lines, or after a fixed beginning.
-/

namespace CrawlGraph.Text

/-- What stands before and after the first `c`, if there is one. -/
def cutAt (c : Char) : List Char → Option (List Char × List Char)
  | [] => none
  | x :: xs =>
    if x = c then some ([], xs) else (cutAt c xs).map fun (before, after) => (x :: before, after)

/-- What follows `start` in a text that begins with it. -/
def dropStart : (start text : List Char) → Option (List Char)
  | [], text => some text
  | _ :: _, [] => none
  | s :: start, t :: text => if s = t then dropStart start text else none

/-- Whether a text begins with `start`. -/
def startsWith (start text : List Char) : Bool := (dropStart start text).isSome

/-- Whether a text ends with `tail`. -/
def endsWith (tail text : List Char) : Bool := startsWith tail.reverse text.reverse

/-- What follows the first place where `mark` stands. -/
def after (mark : List Char) : List Char → Option (List Char)
  | [] => if mark = [] then some [] else none
  | t :: text =>
    match dropStart mark (t :: text) with
    | some rest => some rest
    | none => after mark text

/-- The pieces between line feeds. The text after the last line feed counts only if it is not
empty. -/
def feeds : List Char → List (List Char × Bool)
  | [] => []
  | '\n' :: cs => ([], true) :: feeds cs
  | c :: cs =>
    match feeds cs with
    | [] => [([c], false)]
    | (line, ended) :: rest => (c :: line, ended) :: rest

/-- The lines of a text. A line ends with a line feed, or with a carriage return and a line feed;
the last one may end with the text, and a carriage return that ends it then belongs to it. -/
def lines (cs : List Char) : List (List Char) :=
  (feeds cs).map fun (line, ended) =>
    if ended && line.getLast? == some '\r' then line.dropLast else line

end CrawlGraph.Text
