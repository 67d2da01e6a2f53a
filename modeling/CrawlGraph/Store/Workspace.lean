import CrawlGraph.Disk.Basic
import CrawlGraph.Store.Scan

/-!
# Open stores

A workspace is a disk with the stores that have been opened on it. A store is known by its number
and stays known after it has been closed, but then it refuses everything. What a store keeps is on
the disk, so a store that is opened again shows what was there when it was closed.

Main definitions: `Workspace`, `Workspace.openStore`, `Workspace.run`, `Workspace.close`, and the
reading and writing of single records and of batches.
-/

namespace CrawlGraph

/-- A store that has been opened. -/
structure Store where
  name : String
  /-- The folder that holds its database. -/
  folder : String
  place : Place
  isOpen : Bool := true
  deriving DecidableEq, Repr

/-- The number of a store. -/
abbrev Handle := Nat

/-- A disk and the stores opened on it, in the order of their numbers. -/
structure Workspace where
  disk : Disk := {}
  stores : List Store := []

namespace Workspace

/-- Opens the store with a name in a folder. -/
def openStore (ws : Workspace) (folder name : String) : Except Failure Handle × Workspace :=
  let (opened, disk) := ws.disk.openDatabase folder name
  match opened with
  | .error failure => (.error failure, { ws with disk })
  | .ok place => (.ok ws.stores.length, { disk, stores := ws.stores ++ [{ name, folder, place }] })

/-- Closes a store; closing it again changes nothing. -/
def close (ws : Workspace) (handle : Handle) : Workspace :=
  { ws with stores := ws.stores.modify handle fun store => { store with isOpen := false } }

/-- Whether a store is closed. -/
def isClosed (ws : Workspace) (handle : Handle) : Bool :=
  match ws.stores[handle]? with
  | none => true
  | some store => !store.isOpen

/-- What an open store keeps, and where. -/
def database (ws : Workspace) (handle : Handle) : Except Failure (Place × Database) :=
  match ws.stores[handle]? with
  | none => .error (.closed "")
  | some store =>
    if store.isOpen then .ok (store.place, ws.disk.database store.place)
    else .error (.closed store.name)

/-- What a query of an open store gives. -/
def ask {α : Type} (ws : Workspace) (handle : Handle) (query : Database → Except Failure α) :
    Except Failure α := do
  let (_, db) ← ws.database handle
  query db

/-- Does something with what an open store keeps. -/
def run {α : Type} (ws : Workspace) (handle : Handle)
    (action : Database → Except Failure α × Database) : Except Failure α × Workspace :=
  match ws.database handle with
  | .error failure => (.error failure, ws)
  | .ok (place, db) =>
    let (result, db) := action db
    (result, { ws with disk := ws.disk.set place (.database db) })

/-- Changes what an open store keeps, unless the change fails. -/
def change (ws : Workspace) (handle : Handle) (f : Database → Except Failure Database) :
    Except Failure Unit × Workspace :=
  ws.run handle fun db =>
    match f db with
    | .error failure => (.error failure, db)
    | .ok db => (.ok (), db)

/-- The value of a key of an open store. -/
def get (ws : Workspace) (handle : Handle) (key : Bytes) : Except Failure (Option Bytes) :=
  ws.ask handle fun db => .ok (db.table.get? key)

/-- Gives a key of an open store a value. -/
def put (ws : Workspace) (handle : Handle) (key value : Bytes) : Except Failure Unit × Workspace :=
  ws.change handle fun db => db.put key value

/-- Takes a key of an open store away, and tells whether it was there. -/
def delete (ws : Workspace) (handle : Handle) (key : Bytes) : Except Failure Bool × Workspace :=
  ws.run handle fun db => (.ok (db.table.get? key).isSome, db.delete key)

/-- Gives each key of an open store its value, in order, and tells how many records there were. If
one of them is refused, none is written. -/
def insertAll (ws : Workspace) (handle : Handle) (records : List (Bytes × Bytes)) :
    Except Failure Nat × Workspace :=
  ws.run handle fun db =>
    match db.insertAll records with
    | .error failure => (.error failure, db)
    | .ok (count, db) => (.ok count, db)

/-- From now on, has an open store refuse to write a key. -/
def reject (ws : Workspace) (handle : Handle) (key : Bytes) : Except Failure Unit × Workspace :=
  ws.run handle fun db => (.ok (), db.reject key)

/-- The records of an open store. -/
def table (ws : Workspace) (handle : Handle) : Except Failure Table :=
  ws.ask handle fun db => .ok db.table

end Workspace

end CrawlGraph
