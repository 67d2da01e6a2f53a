import CrawlGraph.Store.Workspace

/-!
# Pools

A pool holds a bounded number of open stores, one for each job and run. When there is no room for
another one, the store that was opened first is closed. Creating a store empties its folder first.

Main definitions: `Pool.create`, `Pool.get`, `Pool.ask`, `Pool.close`, `Pool.closeAll`.
-/

namespace CrawlGraph

/-- What a store is for. -/
structure RunId where
  job : Int64
  run : Int32
  deriving DecidableEq, Repr

/-- The name of a store. -/
def RunId.name (id : RunId) : String := toString id.job ++ "_" ++ toString id.run

/-- The stores that are held open. -/
structure Pool where
  root : String
  capacity : Nat
  /-- The open stores, each under what it is for. -/
  held : List (RunId × Handle) := []
  /-- What the open stores are for, the one opened first in front. -/
  queue : List RunId := held.map Prod.fst
  /-- There is always room for one store. -/
  capacity_pos : 0 < capacity

/-- The number of stores that are held open if no number is given. -/
def defaultCapacity : Nat := 10

namespace Pool

/-- An empty pool over a root folder; no capacity counts as one. -/
def start (root : String) (capacity : Nat) : Pool :=
  { root, capacity := max capacity 1, capacity_pos := by omega }

/-- The folder of a store. -/
def path (pool : Pool) (id : RunId) : String :=
  Disk.join (Disk.join (Disk.join pool.root (toString id.job)) (toString id.run)) "_resource"

/-- The store that is held for a job and run. -/
def find? (pool : Pool) (id : RunId) : Option Handle :=
  (List.find? (fun entry => entry.1 = id) pool.held).map Prod.snd

/-- Whether a store is held for a job and run. -/
def has (pool : Pool) (id : RunId) : Bool := (pool.find? id).isSome

/-- The number of stores that are held. -/
def size (pool : Pool) : Nat := pool.held.length

/-- Holds no store for a job and run any more. -/
def forget (pool : Pool) (id : RunId) : Pool :=
  { pool with held := pool.held.filter (·.1 ≠ id) }

/-- Holds a store for a job and run, as the last one that was opened. -/
def register (pool : Pool) (id : RunId) (handle : Handle) : Pool :=
  { pool.forget id with
    held := (pool.forget id).held ++ [(id, handle)]
    queue := pool.queue ++ [id] }

/-- A pool and the workspace in which its stores are open. -/
abbrev State := Pool × Workspace

/-- Closes and forgets the store of a job and run, if one is held. -/
def close (id : RunId) (state : State) : State :=
  let (pool, ws) := state
  match pool.find? id with
  | none => (pool, ws)
  | some handle =>
    ({ pool.forget id with queue := pool.queue.filter (· ≠ id) }, ws.close handle)

/-- Takes from the front of a queue, and closes and forgets the store that is held for it, as long
as the pool asks for it. What is held for none ends this. -/
def evictWhile (goesOn : Pool → Bool) : (queue : List RunId) → State → State
  | [], (pool, ws) => ({ pool with queue := [] }, ws)
  | id :: queue, (pool, ws) =>
    if goesOn pool then
      match pool.find? id with
      | none => ({ pool with queue }, ws)
      | some handle => evictWhile goesOn queue (pool.forget id, ws.close handle)
    else ({ pool with queue := id :: queue }, ws)

/-- Closes and forgets all stores. -/
def closeAll (state : State) : State := evictWhile (fun _ => true) state.1.queue state

/-- Makes room for one more store. -/
def evict (state : State) : State :=
  evictWhile (fun pool => pool.capacity ≤ pool.size) state.1.queue state

/-- Opens the store of a job and run and holds it. -/
def openStore (id : RunId) (state : State) : Except Failure Handle × State :=
  let (pool, ws) := state
  let (opened, ws) := ws.openStore (pool.path id) id.name
  match opened with
  | .error failure => (.error failure, (pool, ws))
  | .ok handle => (.ok handle, (pool.register id handle, ws))

/-- Takes away all that stands in a folder, if there is one. Where this fails, some of it may be gone.
-/
def emptyFolder (disk : Disk) (path : String) : Except Failure Unit × Disk :=
  match disk.locate path with
  | .error _ => (.ok (), disk)
  | .ok place =>
    match disk.at? place with
    | none => (.ok (), disk)
    | some .folder =>
      let (cleared, disk) := disk.tryClear place
      (cleared.mapError .disk, disk)
    | some _ => (.error (.disk .notFolder), disk)

/-- Opens an empty store for a job and run. One that is held is closed before. -/
def create (id : RunId) (state : State) : Except Failure Handle × State :=
  let (pool, ws) := evict (close id state)
  let (emptied, disk) := emptyFolder ws.disk (pool.path id)
  match emptied with
  | .error failure => (.error failure, (pool, { ws with disk }))
  | .ok () => openStore id (pool, { ws with disk })

/-- The store of a job and run: the one that is held or, with what it keeps, one that is opened now.
-/
def get (id : RunId) (state : State) : Except Failure Handle × State :=
  match state.1.find? id with
  | some handle => (.ok handle, state)
  | none => openStore id (evict state)

/-- What a query of the store of a job and run gives. -/
def ask {α : Type} (id : RunId) (query : Database → Except Failure α) (state : State) :
    Except Failure α × State :=
  let (opened, pool, ws) := get id state
  (opened.bind fun handle => ws.ask handle query, pool, ws)

end Pool

end CrawlGraph
