/-!
# Paths

Paths as texts. Slashes separate names; repeated slashes and the name `.` mean nothing, and `..`
leads to the folder above.
-/

namespace CrawlGraph.Disk

/-- The names of a path that mean something. -/
def names (path : String) : List String :=
  ((path.toList.splitOnP (· == '/')).filter fun name => !(name == [] || name == ['.'])).map
    String.ofList

/-- The name of the file or folder that a path leads to, if its last step is a name. -/
def fileName? (path : String) : Option String := (names path).getLast?.filter (· != "..")

/-- Whether a path does not depend on the current folder. -/
def isRooted (path : String) : Bool := path.toList.head? == some '/'

/-- The path of a name in a folder. -/
def join (folder name : String) : String :=
  if isRooted name then name
  else if folder.isEmpty || folder.toList.getLast? == some '/' then folder ++ name
  else folder ++ "/" ++ name

/-- The path that a path stands for, where `~` as the first name stands for the home folder. -/
def expandHome (home path : String) : String :=
  match path.toList with
  | '~' :: rest =>
    if rest.isEmpty || rest.head? == some '/' then home ++ String.ofList rest else path
  | _ => path

end CrawlGraph.Disk
