import CrawlGraph.Proofs.Disk.Opened
import CrawlGraph.Proofs.Store.Handles
import CrawlGraph.Proofs.Store.Table

/-!
# Reading and writing a store

An access to an open store does with what stands at the place of the store what it does with a
database alone (`Access.perform_of_open`); a closed store refuses it and nothing changes
(`Access.perform_of_closed`).
-/

namespace CrawlGraph

/-! ## Batches -/

namespace Database

/-- A batch is written unless one of its keys is rejected, at whatever position. -/
theorem putAll_eq (db : Database) (records : List (Bytes × Bytes)) :
    db.putAll records =
      if ∃ record ∈ records, record.1 ∈ db.rejected then .error (.store .rejected)
      else .ok { db with table := db.table.putAll records } := by
  induction records generalizing db with
  | nil => simp [putAll, Table.putAll, pure, Except.pure]
  | cons record records ih =>
    unfold putAll at ih ⊢
    rw [List.foldlM_cons]
    by_cases hrejected : record.1 ∈ db.rejected
    · simp [put, hrejected, bind, Except.bind]
    · have hput : db.put record.1 record.2 =
          .ok { db with table := db.table.put record.1 record.2 } := put_eq_ok.2 ⟨hrejected, rfl⟩
      rw [hput]
      refine (ih _).trans ?_
      have hhead : (∃ other ∈ record :: records, other.1 ∈ db.rejected) ↔
          ∃ other ∈ records, other.1 ∈ db.rejected := by simp [hrejected]
      simp only [hhead]
      rfl

/-- A batch that is counted is one that is written, with the number of its records. -/
theorem insertAll_eq (db : Database) (records : List (Bytes × Bytes)) :
    db.insertAll records = (db.putAll records).map fun saved => (records.length, saved) := by
  suffices h : ∀ count : ℕ, records.foldlM (fun (found : ℕ × Database) record =>
      (found.2.put record.1 record.2).map fun db => (found.1 + 1, db)) (count, db) =
        (db.putAll records).map fun saved => (count + records.length, saved) by
    exact (h 0).trans (by rw [Nat.zero_add])
  induction records generalizing db with
  | nil => exact fun _ => rfl
  | cons record records ih =>
    intro count
    unfold putAll at ih ⊢
    rw [List.foldlM_cons, List.foldlM_cons]
    cases db.put record.1 record.2 with
    | error failure => rfl
    | ok next =>
      have hcount : count + (records.length + 1) = count + 1 + records.length := by omega
      rw [List.length_cons, hcount]
      exact ih next (count + 1)

end Database

/-! ## Accesses -/

/-- What is done with the records of a store. -/
inductive Access where
  | get (key : Bytes)
  | put (key value : Bytes)
  | delete (key : Bytes)
  | insertAll (records : List (Bytes × Bytes))
  /-- From now on the store rejects a key. -/
  | reject (key : Bytes)
  deriving DecidableEq, Repr

/-- What an access gives if it succeeds. -/
inductive Reply where
  | done
  | found (value : Option Bytes)
  | removed (was : Bool)
  | inserted (count : ℕ)
  deriving DecidableEq, Repr

namespace Access

/-- An access to a store that has been opened. -/
def perform (ws : Workspace) (handle : Handle) : Access → Except Failure Reply × Workspace
  | .get key => ((ws.get handle key).map .found, ws)
  | .put key value =>
    let (result, ws) := ws.put handle key value
    (result.map fun _ => .done, ws)
  | .delete key =>
    let (result, ws) := ws.delete handle key
    (result.map .removed, ws)
  | .insertAll records =>
    let (result, ws) := ws.insertAll handle records
    (result.map .inserted, ws)
  | .reject key =>
    let (result, ws) := ws.reject handle key
    (result.map fun _ => .done, ws)

/-- An access to a database alone. -/
def on (db : Database) : Access → Except Failure Reply × Database
  | .get key => (.ok (.found (db.table.get? key)), db)
  | .put key value =>
    match db.put key value with
    | .error failure => (.error failure, db)
    | .ok db => (.ok .done, db)
  | .delete key => (.ok (.removed (db.table.get? key).isSome), db.delete key)
  | .insertAll records =>
    match db.putAll records with
    | .error failure => (.error failure, db)
    | .ok db => (.ok (.inserted records.length), db)
  | .reject key => (.ok .done, db.reject key)

/-- Accesses in order to a store that has been opened. -/
def performAll (ws : Workspace) (handle : Handle) :
    List Access → List (Except Failure Reply) × Workspace
  | [] => ([], ws)
  | access :: accesses =>
    let (reply, ws) := access.perform ws handle
    let (replies, ws) := performAll ws handle accesses
    (reply :: replies, ws)

/-- Accesses in order to a database alone. -/
def onAll (db : Database) : List Access → List (Except Failure Reply) × Database
  | [] => ([], db)
  | access :: accesses =>
    let (reply, db) := access.on db
    let (replies, db) := onAll db accesses
    (reply :: replies, db)

variable {ws : Workspace} {handle : Handle} {place : Place} {db : Database}

theorem onAll_append (db : Database) (accesses more : List Access) :
    (onAll db (accesses ++ more)).2 = (onAll (onAll db accesses).2 more).2 := by
  induction accesses generalizing db with
  | nil => rfl
  | cons access accesses ih => exact ih _

theorem perform_of_closed {failure : Failure} (h : ws.database handle = .error failure)
    (access : Access) : access.perform ws handle = (.error failure, ws) := by
  cases access with
  | get key => simp [perform, Workspace.get, Workspace.ask, h, bind, Except.bind, Except.map]
  | put key value =>
    simp [perform, Workspace.put, Workspace.change, Workspace.run, h, Except.map]
  | delete key => simp [perform, Workspace.delete, Workspace.run, h, Except.map]
  | insertAll records => simp [perform, Workspace.insertAll, Workspace.run, h, Except.map]
  | reject key => simp [perform, Workspace.reject, Workspace.run, h, Except.map]

/-- An access to an open store leaves the disk or writes to the place of the store. -/
theorem perform_cases (h : ws.database handle = .ok (place, db)) (access : Access) :
    access.perform ws handle = ((access.on db).1, ws) ∧ (access.on db).2 = db ∨
      access.perform ws handle =
        ((access.on db).1, { ws with disk := ws.disk.set place (.database (access.on db).2) }) := by
  cases access with
  | get key =>
    left
    simp [perform, on, Workspace.get, Workspace.ask, h, bind, Except.bind, Except.map]
  | put key value =>
    right
    simp only [perform, on, Workspace.put, Workspace.change, Workspace.run, h]
    cases db.put key value with
    | error failure => rfl
    | ok saved => rfl
  | delete key =>
    right
    simp [perform, on, Workspace.delete, Workspace.run, h, Except.map]
  | insertAll records =>
    right
    simp only [perform, on, Workspace.insertAll, Workspace.run, h, Database.insertAll_eq]
    cases db.putAll records with
    | error failure => rfl
    | ok saved => rfl
  | reject key =>
    right
    simp [perform, on, Workspace.reject, Workspace.run, h, Except.map]

end Access

theorem Workspace.database_with_disk {ws : Workspace} {handle : Handle} {place : Place}
    {db : Database} (h : ws.database handle = .ok (place, db)) (disk : Disk) :
    ({ ws with disk } : Workspace).database handle = .ok (place, disk.database place) := by
  unfold database at h ⊢
  cases hstore : ws.stores[handle]? with
  | none => simp [hstore] at h
  | some store =>
    by_cases hopen : store.isOpen
    · simp only [hstore, hopen, if_true, Except.ok.injEq, Prod.mk.injEq] at h ⊢
      exact ⟨h.1, h.1 ▸ rfl⟩
    · simp [hstore, hopen] at h

theorem Workspace.ask_of_database {ws : Workspace} {handle : Handle} {place : Place}
    {db : Database} (h : ws.database handle = .ok (place, db)) {α : Type}
    (query : Database → Except Failure α) : ws.ask handle query = query db := by
  unfold ask
  rw [h]
  rfl

/-- What has been done with what an open store kept is what it keeps from then on. -/
theorem Workspace.database_of_run {ws ws' : Workspace} {handle : Handle} {α : Type}
    {action : Database → Except Failure α × Database} {a : α}
    (hrun : ws.run handle action = (.ok a, ws')) :
    ∃ place before after, ws.database handle = .ok (place, before) ∧
      action before = (.ok a, after) ∧ ws'.database handle = .ok (place, after) := by
  unfold run at hrun
  cases hdatabase : ws.database handle with
  | error failure => simp [hdatabase] at hrun
  | ok found =>
    obtain ⟨place, before⟩ := found
    simp only [hdatabase, Prod.mk.injEq] at hrun
    obtain ⟨hresult, rfl⟩ := hrun
    refine ⟨place, before, (action before).2, rfl, Prod.ext hresult rfl, ?_⟩
    rw [database_with_disk hdatabase, Disk.database_set]

/-- An access to an open store is one to its database, and nothing else on the disk changes. -/
theorem Access.perform_of_open {ws : Workspace} {handle : Handle} {place : Place} {db : Database}
    (h : ws.database handle = .ok (place, db)) (hat : ws.disk.at? place = some (.database db))
    (access : Access) :
    ∃ disk, access.perform ws handle = ((access.on db).1, { ws with disk }) ∧
      ws.disk.Writes disk place (access.on db).2 := by
  rcases access.perform_cases h with ⟨hperform, hon⟩ | hperform
  · exact ⟨ws.disk, hperform, .refl (by rw [hon, hat])⟩
  · exact ⟨_, hperform, .set (ws.disk.ne_nil_of_at? (by simp [hat])) _⟩

/-- So are accesses in order. -/
theorem Access.performAll_of_open {ws : Workspace} {handle : Handle} {place : Place} {db : Database}
    (h : ws.database handle = .ok (place, db)) (hat : ws.disk.at? place = some (.database db))
    (accesses : List Access) :
    ∃ disk, performAll ws handle accesses = ((onAll db accesses).1, { ws with disk }) ∧
      ws.disk.Writes disk place (onAll db accesses).2 := by
  induction accesses generalizing ws db with
  | nil => exact ⟨ws.disk, rfl, .refl hat⟩
  | cons access accesses ih =>
    obtain ⟨disk, hperform, hwrites⟩ := perform_of_open h hat access
    have hnext := Workspace.database_with_disk h disk
    rw [hwrites.database] at hnext
    obtain ⟨last, hall, hlast⟩ := ih hnext hwrites.at_self
    refine ⟨last, ?_, hwrites.trans hlast⟩
    simp only [performAll, hperform, hall]
    rfl

end CrawlGraph
