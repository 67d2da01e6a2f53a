import CrawlGraph.Url.Host
import CrawlGraph.Url.Segments

/-!
# Reading URLs

A text is read as a URL on its own or as a reference relative to a base URL. Control characters and
spaces at its ends do not count, nor do tabs and line ends anywhere.

Main definitions: `Url.parse?`, `Url.join?`.
-/

namespace CrawlGraph.Url

/-- The characters of a text that count. -/
def significant (cs : List Char) : List Char :=
  let ignorable (c : Char) : Bool := c.toNat ≤ 0x20
  ((cs.dropWhile ignorable).reverse.dropWhile ignorable).reverse.filter fun c =>
    !(c == '\t' || c == '\n' || c == '\r')

/-- The scheme that a text starts with, in small letters, and what follows its colon. -/
def readScheme (cs : List Char) : Option (String × List Char) :=
  match cs, Text.cutAt ':' cs with
  | first :: _, some (scheme, rest) =>
    if first.isAlpha && scheme.all (fun c => c.isAlphanum || c == '+' || c == '-' || c == '.') then
      some (String.ofList (Text.lower scheme), rest)
    else none
  | _, _ => none

/-- Whether a character is a slash, or a backslash that counts as one. -/
def isSlash (c : Char) : Bool := c == '/' || c == '\\'

/-- The query and the fragment, each without its mark. -/
def readEnd (special : Bool) (cs : List Char) : Option (List Char) × Option (List Char) :=
  let query (text : List Char) := some (percentEncode (inQuerySet special) text)
  let fragment (text : List Char) := some (percentEncode inFragmentSet text)
  match cs with
  | '?' :: cs =>
    match Text.cutAt '#' cs with
    | some (before, after) => (query before, fragment after)
    | none => (query cs, none)
  | '#' :: cs => (none, fragment cs)
  | _ => (none, none)

/-- A URL with its query and fragment read from the rest of the text. -/
def withEnd (kind : SchemeKind) (scheme : String) (authority : Option Authority) (path : Path)
    (rest : List Char) : Url :=
  let (query, fragment) := readEnd kind.isSpecial rest
  { scheme, authority, path, query, fragment }

/-- The text of an authority, up to the slash, query or fragment after it. -/
def authorityText (special : Bool) (cs : List Char) : List Char :=
  cs.takeWhile fun c => !(c == '/' || c == '?' || c == '#' || (special && c == '\\'))

/-- The credentials before the last at sign of an authority, and what follows it. The result is
`none` if the credentials are empty and so is the rest of the authority, unless the text ends there;
without an at sign there are no credentials. -/
def readCredentials (special : Bool) (cs : List Char) :
    Option (List Char × List Char × List Char) :=
  let authority := authorityText special cs
  match Text.cutAt '@' authority.reverse with
  | none => some ([], [], cs)
  | some (host, credentials) =>
    let rest := cs.drop (credentials.length + 1)
    if credentials.isEmpty && host.isEmpty && !rest.isEmpty then none
    else
      let encode := percentEncode inUserSet
      match Text.cutAt ':' credentials.reverse with
      | none => some (encode credentials.reverse, [], rest)
      | some (user, password) => some (encode user, encode password, rest)

/-- The path after an authority. -/
def readRootedPath (kind : SchemeKind) (cs : List Char) : Path × List Char :=
  let read (cs : List Char) : Path × List Char :=
    let (stack, rest) := readSegments kind.isSpecial false {} cs
    (stack.path false, rest)
  match cs with
  | [] => (if kind.isSpecial then .segments [[]] else .segments [], [])
  | c :: rest =>
    if c == '/' || (kind.isSpecial && c == '\\') then read rest
    else if !kind.isSpecial && (c == '?' || c == '#') then (.segments [], c :: rest)
    else read (c :: rest)

/-- What follows the two slashes of a URL whose scheme is not that of files. -/
def readAuthority (kind : SchemeKind) (scheme : String) (cs : List Char) : Option Url := do
  let special := kind.isSpecial
  let (user, password, rest) ← readCredentials special cs
  let (hostText, rest) := spanHost special false rest
  let host ←
    if special then
      if hostText.isEmpty then none else (readDomainHost hostText).map some
    else readOtherHost hostText
  let (port, rest) ← match rest with
    | ':' :: digits => if host.isNone then none else readPort (defaultPort scheme) digits
    | _ => some (none, rest)
  if host.isNone && !(user.isEmpty && password.isEmpty) then none
  else
    let (path, rest) := readRootedPath kind rest
    some (withEnd kind scheme (some { user, password, host, port }) path rest)

/-- The authority of a file URL. -/
def fileAuthority (host : Option Host) : Authority :=
  { user := [], password := [], host, port := none }

/-- A file URL whose path is read onto a stack; the host goes if `yields` holds and the path starts
with a drive letter. -/
def readFilePath (host : Option Host) (yields : Bool) (stack : Stack) (cs : List Char) : Url :=
  let (stack, rest) := readSegments true true stack cs
  let host := if yields && stack.dropsHost then none else host
  withEnd .file "file" (some (fileAuthority host)) (stack.path true) rest

/-- A text without the slash or backslash it starts with. -/
def dropSlash : List Char → List Char
  | c :: cs => if isSlash c then cs else c :: cs
  | [] => []

/-- What follows the two slashes of a file URL. A drive letter in the place of the host belongs to
the path, and the host `localhost` is the empty one. -/
def readFileHost (cs : List Char) : Option Url :=
  let text := cs.takeWhile fun c => !(isSlash c || c == '?' || c == '#')
  if isDrive text then some (readFilePath none true {} cs)
  else
    let rest := dropSlash (cs.drop text.length)
    if text.isEmpty then some (readFilePath none true {} rest)
    else (readDomainHost text).map fun host =>
      readFilePath (if host = .name "localhost" then none else some host) true {} rest

/-- The segments of a path. -/
def Path.list : Path → List (List Char)
  | .rootless _ => []
  | .segments list => list

/-- The stack that a reference relative to `base` starts from: the segments of the base without the
last one, which stays only if it is the drive letter of a file. -/
def baseStack (file : Bool) (base : Url) : Stack :=
  match base.path.list.reverse with
  | [] => {}
  | last :: before => { segments := if file && isPlainDrive last then last :: before else before }

/-- The base with another query and no fragment, or with another fragment. -/
def replaceEnd (base : Url) (kind : SchemeKind) (cs : List Char) : Url :=
  let (query, fragment) := readEnd kind.isSpecial cs
  match cs with
  | [] => { base with fragment := none }
  | '#' :: _ => { base with fragment }
  | _ => { base with query, fragment }

/-- What follows the colon of a file URL, or a reference relative to a file URL. -/
def readFile (base : Option Url) (cs : List Char) : Option Url :=
  match cs, base with
  | c :: rest, base =>
    if isSlash c then
      match rest with
      | d :: after =>
        if isSlash d then readFileHost after else some (readFileRoot base rest)
      | [] => some (readFileRoot base rest)
    else
      match base with
      | none => some (readFilePath none false {} cs)
      | some url =>
        if c == '?' || c == '#' then some (replaceEnd url .file cs)
        else if startsWithDrive cs then some (readFilePath none false {} cs)
        else
          some (readFilePath (url.authority.bind Authority.host) false (baseStack true url) cs)
  | [], none => some (readFilePath none false {} [])
  | [], some url => some (replaceEnd url .file [])
where
  /-- What follows a single slash: the host and the drive letter of the base stay, unless the
  reference names a drive letter of its own. -/
  readFileRoot (base : Option Url) (rest : List Char) : Url :=
    match base with
    | none => readFilePath none false {} rest
    | some url =>
      if startsWithDrive rest then readFilePath none false {} rest
      else
        let first := url.path.list.headD []
        if isPlainDrive first then readFilePath none false { segments := [first] } rest
        else readFilePath (url.authority.bind Authority.host) false {} rest

/-- A reference without a scheme, relative to a base that is no file. -/
def readRelative (base : Url) (cs : List Char) : Option Url :=
  let kind := schemeKind base.scheme
  match cs with
  | [] => some (replaceEnd base kind cs)
  | c :: rest =>
    if c == '?' || c == '#' then some (replaceEnd base kind cs)
    else if isSlash c then
      let slashes := cs.takeWhile isSlash
      if 2 ≤ slashes.length then
        readAuthority kind base.scheme
          (if slashes.take 2 == ['/', '/'] then cs.drop 2 else cs.drop slashes.length)
      else
        let (stack, rest) := readSegments kind.isSpecial false {} rest
        some (withEnd kind base.scheme base.authority (stack.path false) rest)
    else
      let (stack, rest) := readSegments kind.isSpecial false (baseStack false base) cs
      some (withEnd kind base.scheme base.authority (stack.path false) rest)

/-- A URL of a scheme that may lack an authority. -/
def readOther (scheme : String) (cs : List Char) : Option Url :=
  match cs with
  | '/' :: '/' :: rest => readAuthority .other scheme rest
  | '/' :: rest =>
    let (stack, rest) := readSegments false false {} rest
    some (withEnd .other scheme none (stack.path false) rest)
  | _ =>
    let ends (c : Char) : Bool := c == '?' || c == '#'
    some (withEnd .other scheme none
      (.rootless (percentEncode inControlSet (cs.takeWhile (!ends ·)))) (cs.dropWhile (!ends ·)))

/-- Reads a text as a URL or as a reference relative to a base. -/
def read (base : Option Url) (text : String) : Option Url :=
  let cs := significant text.toList
  match readScheme cs with
  | some (scheme, rest) =>
    let kind := schemeKind scheme
    let same := base.filter fun url => url.scheme = scheme
    match kind with
    | .file => readFile same rest
    | .hosted =>
      let slashes := rest.takeWhile isSlash
      match same with
      | some url =>
        if slashes.length < 2 then readRelative url rest
        else readAuthority kind scheme (rest.drop slashes.length)
      | none => readAuthority kind scheme (rest.drop slashes.length)
    | .other => readOther scheme rest
  | none =>
    match base with
    | none => none
    | some url =>
      if cs.head? == some '#' then some (replaceEnd url (schemeKind url.scheme) cs)
      else if !url.isBase then none
      else if schemeKind url.scheme = .file then readFile base cs
      else readRelative url cs

/-- The URL that a text is, on its own. -/
def parse? (text : String) : Option Url := read none text

/-- The URL that a reference names, relative to a base. -/
def join? (base : Url) (reference : String) : Option Url := read (some base) reference

end CrawlGraph.Url
