import CrawlGraph.Text.Blank
import CrawlGraph.Url.Parse

/-!
# References between captures

What the graph asks of a URL as it stands in a capture: the domain it is filed under, the form in
which two spellings are compared, and what a reference on a page points to.

Main definitions: `domainOf`, `normalize`, `isAbsolute`, `resolve`.
-/

namespace CrawlGraph.Url

/-- The part of a URL between its scheme and the next slash or question mark. -/
def domainText (cs : List Char) : List Char :=
  ((Text.after "://".toList cs).getD cs).takeWhile fun c => !(c == '/' || c == '?')

/-- The domain that a URL is filed under: host, port and credentials as written, in small letters.
-/
def domainOf (url : String) : Option String :=
  let domain := domainText (Text.trim url.toList)
  if domain.isEmpty then none else some (String.ofList (Text.lower domain))

/-- The canonical text of an absolute URL; any other text only loses the white space at its ends. -/
def normalize (url : String) : String :=
  let text := Text.trimmed url
  ((parse? text).map Url.toString).getD text

/-- Whether a text is a URL on its own. -/
def isAbsolute (url : String) : Bool := (parse? url).isSome

/-- What a reference points to: an absolute one is kept as written, any other one is resolved
against the base. -/
def resolve (base reference : String) : Option String :=
  let reference := Text.trimmed reference
  if reference.isEmpty then none
  else if isAbsolute reference then some reference
  else do
    let base ← parse? base
    let url ← join? base reference
    some url.toString

end CrawlGraph.Url
