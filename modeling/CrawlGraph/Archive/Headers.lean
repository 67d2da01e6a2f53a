import CrawlGraph.Text.Ascii
import CrawlGraph.Text.Blank
import CrawlGraph.Text.Cut
import CrawlGraph.Text.Utf8

/-!
# Headers

Pairs of a name and a value, in the order in which they stand, read from lines of bytes. A name may
occur more than once, and its letter case does not count when it is looked up.

Main definitions: `Headers.get?`, `Headers.ofLine?`, `cutLine`.
-/

namespace CrawlGraph.Archive

/-- Names and values in order. -/
abbrev Headers := List (String × String)

namespace Headers

/-- All values of a name. -/
def getAll (headers : Headers) (name : String) : List String :=
  (headers.filter fun (key, _) => Text.sameIgnoringCase key name).map Prod.snd

/-- The first value of a name. -/
def get? (headers : Headers) (name : String) : Option String :=
  (headers.find? fun (key, _) => Text.sameIgnoringCase key name).map Prod.snd

/-- Whether a name occurs. -/
def has (headers : Headers) (name : String) : Bool := (headers.get? name).isSome

/-- The pair that a line gives: what stands before and after its first colon, without the white
space at their ends. -/
def ofLine? (line : Bytes) : Option (String × String) :=
  (Text.cutAt ':' (Utf8.decodeLossy line)).map fun (name, value) =>
    (String.ofList (Text.trim name), String.ofList (Text.trim value))

end Headers

/-- The line feed, which ends a line. -/
def lineFeed : UInt8 := 0x0A

/-- A line without the carriage return that it ends with. -/
def dropReturn (line : Bytes) : Bytes := if line.getLast? = some 0x0D then line.dropLast else line

/-- What stands before and after the first line feed, if there is one. -/
def cutLine : Bytes → Option (Bytes × Bytes)
  | [] => none
  | b :: bytes =>
    if b = lineFeed then some ([], bytes)
    else (cutLine bytes).map fun (line, rest) => (b :: line, rest)

theorem eq_append_of_cutLine {bytes line rest : Bytes} (h : cutLine bytes = some (line, rest)) :
    bytes = line ++ lineFeed :: rest := by
  induction bytes generalizing line with
  | nil => simp [cutLine] at h
  | cons b bytes ih =>
    rw [cutLine] at h
    split at h
    · rename_i hb
      simp only [Option.some.injEq, Prod.mk.injEq] at h
      rw [← h.1, ← h.2, hb]
      rfl
    · obtain ⟨⟨before, after⟩, hc, hp⟩ := Option.map_eq_some_iff.1 h
      cases hp
      rw [ih hc]
      rfl

theorem length_of_cutLine {bytes line rest : Bytes} (h : cutLine bytes = some (line, rest)) :
    rest.length < bytes.length := by
  rw [eq_append_of_cutLine h]
  simp
  omega

end CrawlGraph.Archive
