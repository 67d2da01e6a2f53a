import CrawlGraph.Text.Ascii
import CrawlGraph.Text.Cut
import CrawlGraph.Unicode.Direction
import CrawlGraph.Unicode.HostMapping
import CrawlGraph.Unicode.Joining
import CrawlGraph.Unicode.Mark
import CrawlGraph.Unicode.Normal
import CrawlGraph.Url.Percent
import CrawlGraph.Url.Punycode

/-!
# Domain names

The ASCII form of a host name. A name in ASCII is only made small. In any other name variants of
characters are replaced, the result is composed, and each label with other than ASCII characters is
written in Punycode after `xn--`. A label that comes so written has to stand for one that could have
been written.

Main definition: `domainToAscii`.
-/

namespace CrawlGraph.Url

/-- Characters that no host name may hold. -/
def forbiddenInDomain (c : Char) : Bool :=
  c.toNat ≤ 0x20 || c.toNat == 0x7F || "#%/:<>?@[\\]^|".toList.contains c

/-- Whether a text consists of ASCII characters. -/
def isAscii (cs : List Char) : Bool := cs.all (·.toNat < 0x80)

/-- The labels of a domain name. -/
def labels (name : List Char) : List (List Char) := name.splitOnP (· == '.')

/-- What stands before the Punycode of a label. -/
def punycodeMark : List Char := "xn--".toList

/-- Whether a name consists of ASCII characters and has no label in Punycode. -/
def isPlainDomain (name : List Char) : Bool :=
  isAscii name && (labels (Text.lower name)).all fun label => !Text.startsWith punycodeMark label

/-- A joiner that lets letters join. -/
def joiner : Char := '\u200D'

/-- A joiner that keeps letters from joining. -/
def nonJoiner : Char := '\u200C'

/-- Whether each joiner stands after a virama or, if it keeps letters from joining, between letters
that would join. `before` holds what precedes, in reverse. -/
def joinersFit (before : List Char) : List Char → Bool
  | [] => true
  | c :: cs =>
    let afterVirama := (before.head?.map Unicode.combiningClass) == some 9
    let between :=
      (((before.dropWhile Unicode.isTransparent).head?.map Unicode.joinsNext).getD false) &&
        (((cs.dropWhile Unicode.isTransparent).head?.map Unicode.joinsLast).getD false)
    (if c = joiner then afterVirama else if c = nonJoiner then afterVirama || between else true) &&
      joinersFit (c :: before) cs

/-- Whether a label in Unicode is well formed: it does not start with a mark, and joiners stand
where they have an effect. -/
def isProperLabel (label : List Char) : Bool :=
  !((label.head?.map Unicode.isMark).getD false) && joinersFit [] label

/-- Whether a character makes a domain name one with mixed directions. -/
def isRightToLeft (c : Char) : Bool :=
  match Unicode.direction c with
  | .right | .arabicDigit => true
  | _ => false

/-- Whether a label reads in one direction: it starts with a letter, it ends with a letter or digit
that fits its direction, marks at the end aside, and a label from right to left has digits of one
kind and no letters from left to right. -/
def hasOneDirection (label : List Char) : Bool :=
  let all := label.map Unicode.direction
  let last := (all.reverse.dropWhile (· == .mark)).head?
  match all with
  | [] => true
  | .left :: _ =>
    all.all (fun d => !(d == .right || d == .arabicDigit)) &&
      (last == some .left || last == some .europeanDigit)
  | .right :: _ =>
    all.all (· != .left) && last != some .neutral &&
      !(all.contains .europeanDigit && all.contains .arabicDigit)
  | _ => false

/-- The Unicode form of a label that has been mapped and composed. -/
def readLabel (label : List Char) : Option (List Char) :=
  match Text.dropStart punycodeMark label with
  | none => if isAscii label || isProperLabel label then some label else none
  | some code => do
    let text ← Punycode.decode? code
    if !isAscii text && text.all (fun c => Unicode.hostForm? c == some [c]) &&
        Unicode.compose text == text && isProperLabel text then
      some text
    else none

/-- The ASCII form of a label in Unicode. -/
def writeLabel (label : List Char) : Option (List Char) :=
  if isAscii label then some label else (Punycode.encode? label).map (punycodeMark ++ ·)

/-- A domain name with its variants of characters replaced, in Unicode. -/
def domainToUnicode (name : List Char) : Option (List (List Char)) := do
  let mapped ← name.mapM Unicode.hostForm?
  let read ← (labels (Unicode.compose mapped.flatten)).mapM readLabel
  if read.any (·.any isRightToLeft) && !read.all hasOneDirection then none else some read

/-- The ASCII form of a host name. -/
def domainToAscii (name : List Char) : Option (List Char) := do
  let ascii ←
    if isPlainDomain name then some (Text.lower name)
    else do
      let written ← (← domainToUnicode name).mapM writeLabel
      some (['.'].intercalate written)
  if ascii.any forbiddenInDomain then none else some ascii

end CrawlGraph.Url
