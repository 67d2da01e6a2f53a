import CrawlGraph.Unicode.Printable

/-!
# Quoted texts

A text in quotation marks, in which everything that could not be seen is written as an escape.
-/

namespace CrawlGraph.Text

/-- A number in hexadecimal, with small letters. -/
def hexText (n : Nat) : List Char := Nat.toDigits 16 n

/-- How a character stands in a quoted text. -/
def quoteChar (c : Char) : List Char :=
  if c = '"' then ['\\', '"']
  else if c = '\\' then ['\\', '\\']
  else if c = '\n' then ['\\', 'n']
  else if c = '\r' then ['\\', 'r']
  else if c = '\t' then ['\\', 't']
  else if c = '\x00' then ['\\', '0']
  else if Unicode.isPrintable c then [c]
  else "\\u\x7b".toList ++ hexText c.toNat ++ ['\x7d']

/-- A text in quotation marks. -/
def quoted (s : String) : String := "\"" ++ String.ofList (s.toList.flatMap quoteChar) ++ "\""

end CrawlGraph.Text
