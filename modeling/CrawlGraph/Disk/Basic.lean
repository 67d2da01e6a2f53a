import CrawlGraph.Disk.Path
import CrawlGraph.Store.Database

/-!
# Disks

Folders, files and databases by their place, which is the list of names that lead to it from the
root.

Main definitions: `Disk`, `Disk.locate`, `Disk.read`, `Disk.write`, `Disk.makeFolders`,
`Disk.tryClear`, `Disk.openDatabase`.
-/

namespace CrawlGraph

/-- What stands at a place. -/
inductive Entry where
  | folder
  | file (content : Bytes)
  | database (content : Database)

/-- The names that lead to a place from the root. -/
abbrev Place := List String

/-- What keeps a folder from being emptied. -/
structure Obstacle where
  fault : DiskFault
  /-- Which of the places inside the folder are left. -/
  isLeft : Place → Bool

/-- Everything on a disk, and the folder from which paths start. -/
structure Disk where
  current : Place := []
  entries : List (Place × Entry) := []
  /-- What keeps the folder at a place from being emptied, if anything does. -/
  obstacle? : Place → Option Obstacle := fun _ => none

namespace Disk

/-- What stands at a place. The root is a folder. -/
def at? (disk : Disk) (place : Place) : Option Entry :=
  if place = [] then some .folder else Sorted.find? place disk.entries

/-- Puts something at a place. -/
def set (disk : Disk) (place : Place) (entry : Entry) : Disk :=
  { disk with entries := Sorted.insert place entry disk.entries }

/-- Whether a folder stands at a place, and why not. -/
def requireFolder (disk : Disk) (place : Place) : Except DiskFault Unit :=
  match disk.at? place with
  | none => .error .missing
  | some .folder => .ok ()
  | some _ => .error .notFolder

/-- The place one step further. -/
def step (place : Place) (name : String) : Place :=
  if name = ".." then place.dropLast else place ++ [name]

/-- Where a path starts. -/
def startPlace (disk : Disk) (path : String) : Place := if isRooted path then [] else disk.current

/-- The place that a path leads to. All that it passes through has to be a folder. -/
def locate (disk : Disk) (path : String) : Except DiskFault Place :=
  if path.isEmpty then .error .missing
  else
    (names path).foldlM (fun place name => do
      disk.requireFolder place
      return step place name) (disk.startPlace path)

/-- What a path leads to. -/
def find (disk : Disk) (path : String) : Except DiskFault Entry := do
  match disk.at? (← disk.locate path) with
  | none => .error .missing
  | some entry => .ok entry

/-- Whether a path leads to something. -/
def exists? (disk : Disk) (path : String) : Bool := (disk.find path).isOk

/-- Whether a path leads to a folder. -/
def isFolder (disk : Disk) (path : String) : Bool :=
  match disk.find path with
  | .ok .folder => true
  | _ => false

/-- Whether a path leads to something other than a folder. -/
def isFile (disk : Disk) (path : String) : Bool :=
  match disk.find path with
  | .ok .folder => false
  | .ok _ => true
  | .error _ => false

/-- What a file holds. What a database holds is not readable as a file. -/
def read (disk : Disk) (path : String) : Except DiskFault Bytes := do
  match ← disk.find path with
  | .folder => .error .isFolder
  | .file content => .ok content
  | .database _ => .ok []

/-- The text that a file holds. -/
def readText (disk : Disk) (path : String) : Except DiskFault (List Char) := do
  match Utf8.decode? (← disk.read path) with
  | none => .error .notText
  | some text => .ok text

/-- Writes a file into a folder, in the place of any other file of its name. -/
def write (disk : Disk) (path : String) (content : Bytes) : Except DiskFault Disk := do
  let place ← disk.locate path
  match disk.at? place with
  | some .folder => .error .isFolder
  | _ =>
    disk.requireFolder place.dropLast
    return disk.set place (.file content)

/-- Makes the folder that a path leads to, and all those that it passes through. -/
def makeFolders (disk : Disk) (path : String) : Except DiskFault Disk :=
  let make (found : Disk × Place) (name : String) : Except DiskFault (Disk × Place) :=
    let (disk, place) := found
    let place := step place name
    match disk.at? place with
    | none => .ok (disk.set place .folder, place)
    | some .folder => .ok (disk, place)
    | some _ => .error .notFolder
  ((names path).foldlM make (disk, disk.startPlace path)).map Prod.fst

/-- Takes away what stands inside a folder, but for the places that are left. -/
def clearBut (disk : Disk) (place : Place) (isLeft : Place → Bool) : Disk :=
  { disk with
    entries := disk.entries.filter fun entry =>
      isLeft entry.1 || !(place.isPrefixOf entry.1 && entry.1 != place) }

/-- Takes away all that stands inside a folder. -/
def clear (disk : Disk) (place : Place) : Disk := disk.clearBut place fun _ => false

/-- Takes away all that stands inside a folder, unless there is an obstacle. -/
def tryClear (disk : Disk) (place : Place) : Except DiskFault Unit × Disk :=
  match disk.obstacle? place with
  | none => (.ok (), disk.clear place)
  | some obstacle => (.error obstacle.fault, disk.clearBut place obstacle.isLeft)

/-- The names of what stands in a folder, in their order. -/
def contents (disk : Disk) (place : Place) : List String :=
  disk.entries.filterMap fun entry =>
    match entry.1.reverse with
    | name :: above => if above.reverse = place then some name else none
    | [] => none

/-- Puts a database at a place where there is nothing or an empty file. -/
def makeDatabase (disk : Disk) (place : Place) : Except StoreFault Disk :=
  match disk.at? place with
  | some (.database _) => .ok disk
  | some .folder => .error .unopened
  | some (.file (_ :: _)) => .error .foreign
  | _ =>
    match disk.requireFolder place.dropLast with
    | .error _ => .error .unopened
    | .ok _ => .ok (disk.set place (.database {}))

/-- Opens the database with a name in a folder and gives its place. Both are made if there are none.
-/
def openDatabase (disk : Disk) (folder name : String) : Except Failure Place × Disk :=
  match disk.makeFolders folder with
  | .error fault => (.error (.disk fault), disk)
  | .ok disk =>
    match disk.locate (join folder (name ++ ".db")) with
    | .error _ => (.error (.store .unopened), disk)
    | .ok place =>
      match disk.makeDatabase place with
      | .error fault => (.error (.store fault), disk)
      | .ok disk => (.ok place, disk)

/-- The database at a place; one that is gone is empty. -/
def database (disk : Disk) (place : Place) : Database :=
  match Sorted.find? place disk.entries with
  | some (.database db) => db
  | _ => {}

end Disk

end CrawlGraph
