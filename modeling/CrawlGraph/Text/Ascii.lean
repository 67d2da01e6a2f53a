/-!
# Letter case of ASCII

Case is folded on the 26 ASCII letters only: any other character, accented letters included, is its
own lower case.
-/

namespace CrawlGraph.Text

/-- A text with its ASCII capitals made small. -/
def lower (cs : List Char) : List Char := cs.map Char.toLower

/-- `lower` on strings. -/
def lowered (s : String) : String := String.ofList (lower s.toList)

/-- Whether two texts differ at most in the case of ASCII letters. -/
def sameIgnoringCase (a b : String) : Bool := lower a.toList == lower b.toList

end CrawlGraph.Text
