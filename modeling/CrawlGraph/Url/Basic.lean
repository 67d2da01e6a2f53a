import CrawlGraph.Url.Address

/-!
# URLs

The parts of a URL and the text they are written as.

A URL has a scheme, then either a path without an authority in front of it, or `//` and an authority
followed by a path of segments. A path that starts with no slash is kept as one text; such a URL
cannot serve as a base for relative references.

Main definitions: `Url`, `Url.toString`.
-/

namespace CrawlGraph.Url

/-- What a host is. -/
inductive Host where
  /-- A registered name. -/
  | name (text : String)
  /-- A version 4 address. -/
  | v4 (address : Nat)
  /-- A version 6 address, in eight pieces. -/
  | v6 (pieces : List Nat)
  deriving DecidableEq, Repr

/-- The text of a host. -/
def Host.text : Host → String
  | .name text => text
  | .v4 address => ipv4Text address
  | .v6 pieces => "[" ++ ipv6Text pieces ++ "]"

/-- Who serves a URL. An empty user name, password or host is `none`. -/
structure Authority where
  user : List Char
  password : List Char
  host : Option Host
  port : Option Nat
  deriving DecidableEq, Repr

/-- The text of an authority. -/
def Authority.text (a : Authority) : String :=
  let password := if a.password.isEmpty then "" else ":" ++ String.ofList a.password
  let credentials :=
    if a.user.isEmpty && a.password.isEmpty then "" else String.ofList a.user ++ password ++ "@"
  credentials ++ (a.host.map Host.text).getD "" ++ (a.port.map fun p => ":" ++ toString p).getD ""

/-- Where a URL points on its host. -/
inductive Path where
  /-- A text that does not start with a slash and has no segments. -/
  | rootless (text : List Char)
  /-- Segments, each with a slash before it. -/
  | segments (list : List (List Char))
  deriving DecidableEq, Repr

/-- The text of a path. -/
def Path.text : Path → List Char
  | .rootless text => text
  | .segments list => list.flatMap ('/' :: ·)

/-- What a scheme says about the rest of a URL. -/
inductive SchemeKind where
  /-- URLs of local files. -/
  | file
  /-- Schemes whose URLs always name a host. -/
  | hosted
  /-- Any other scheme. -/
  | other
  deriving DecidableEq, Repr

/-- The kind of a scheme, which is in small letters. -/
def schemeKind (scheme : String) : SchemeKind :=
  if scheme = "file" then .file
  else if ["http", "https", "ws", "wss", "ftp"].contains scheme then .hosted
  else .other

/-- Whether backslashes count as slashes and hosts are domain names. -/
def SchemeKind.isSpecial (kind : SchemeKind) : Bool := kind != .other

/-- The port that a scheme uses when none is given. -/
def defaultPort (scheme : String) : Option Nat :=
  if scheme = "http" || scheme = "ws" then some 80
  else if scheme = "https" || scheme = "wss" then some 443
  else if scheme = "ftp" then some 21
  else none

end CrawlGraph.Url

namespace CrawlGraph

/-- A parsed URL. -/
structure Url where
  scheme : String
  authority : Option Url.Authority
  path : Url.Path
  query : Option (List Char)
  fragment : Option (List Char)
  deriving DecidableEq, Repr

/-- The text of a URL. Without an authority, a path that starts with two slashes is written after
`/.`, so that it does not read as an authority. -/
def Url.toString (url : Url) : String :=
  let before :=
    match url.authority, url.path with
    | some authority, _ => "//" ++ authority.text
    | none, .segments ([] :: _ :: _) => "/."
    | none, _ => ""
  url.scheme ++ ":" ++ before ++ String.ofList url.path.text ++
    (url.query.map fun q => "?" ++ String.ofList q).getD "" ++
    (url.fragment.map fun f => "#" ++ String.ofList f).getD ""

/-- Whether relative references can be resolved against a URL. -/
def Url.isBase (url : Url) : Bool :=
  match url.path with
  | .rootless _ => false
  | .segments _ => true

end CrawlGraph
