import CrawlGraph.Url.Basic
import CrawlGraph.Url.DomainName

/-!
# Reading hosts

A host in brackets is a version 6 address. In a scheme that names hosts anything else is a domain
name, percent-decoded and brought to its ASCII form, or a version 4 address if its last label is a
number; in any other scheme it is kept, with control characters percent-encoded.
-/

namespace CrawlGraph.Url

/-- A version 6 address in brackets; `none` for a text that does not start with a bracket. -/
def readBracketed : List Char → Option (Option Host)
  | '[' :: cs =>
    some (if cs.getLast? == some ']' then (readIpv6 cs.dropLast).map .v6 else none)
  | _ => none

/-- A host of a scheme that names hosts. -/
def readDomainHost (text : List Char) : Option Host :=
  match readBracketed text with
  | some host => host
  | none => do
    let name ← Utf8.decode? (percentDecode text)
    let domain ← domainToAscii name
    if domain.isEmpty then none
    else if endsInNumber domain then (readIpv4 domain).map .v4
    else some (.name (String.ofList domain))

/-- Characters that the host of another scheme may not hold. -/
def forbiddenInHost (c : Char) : Bool := "\x00\t\n\r #/:<>?@[\\]^|".toList.contains c

/-- A host of another scheme, which may be empty. -/
def readOtherHost (text : List Char) : Option (Option Host) :=
  match readBracketed text with
  | some host => host.map some
  | none =>
    if text.any forbiddenInHost then none
    else if text.isEmpty then some none
    else some (some (.name (String.ofList (percentEncode inControlSet text))))

/-- The host part of a text, up to a colon outside brackets or the end of the authority, and what
follows it. -/
def spanHost (special : Bool) : (inBrackets : Bool) → List Char → List Char × List Char
  | _, [] => ([], [])
  | inBrackets, c :: cs =>
    if (c == ':' && !inBrackets) || c == '/' || c == '?' || c == '#' || (special && c == '\\') then
      ([], c :: cs)
    else
      let (host, rest) := spanHost special (c == '[' || (inBrackets && c != ']')) cs
      (c :: host, rest)

/-- The port after a host: digits up to the end of the authority. No digits and the default port of
the scheme both give no port; the result is `none` for a number over 65535 or another character. -/
def readPort (default : Option Nat) (cs : List Char) : Option (Option Nat × List Char) :=
  let digits := cs.takeWhile Char.isDigit
  let rest := cs.dropWhile Char.isDigit
  let ends := match rest with
    | [] => true
    | c :: _ => c == '/' || c == '\\' || c == '?' || c == '#'
  if !ends then none
  else
    match Text.digits? digits with
    | none => some (none, rest)
    | some port =>
      if 65535 < port then none
      else some (if some port = default then none else some port, rest)

end CrawlGraph.Url
