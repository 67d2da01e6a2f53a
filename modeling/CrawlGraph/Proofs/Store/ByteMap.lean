import CrawlGraph.Proofs.Store.Access

/-!
# Stores are maps of bytes

Whatever is done with the stores that are opened one after another under one name, they answer as
one map of bytes does that only the successful steps change (`answers_run`). A batch is written as a
whole or not at all, a store that has been closed refuses everything, and one that is opened again
shows what was written before.

1. What an access gives and leaves depends on the map alone that a database is (`perform_of`).
2. Stores that track a map and the flags of a ledger still do so after one step
   (`Session.Tracks.perform`), and so after all (`Session.Tracks.run`).
-/

namespace CrawlGraph

/-- A map of bytes, and the keys that it rejects. -/
structure ByteMap where
  value : Bytes → Option Bytes
  rejected : List Bytes

namespace ByteMap

/-- Gives a key a value. -/
def give (map : ByteMap) (record : Bytes × Bytes) : ByteMap :=
  { map with value := fun key => if record.1 = key then some record.2 else map.value key }

/-- Takes a key away. -/
def take (map : ByteMap) (key : Bytes) : ByteMap :=
  { map with value := fun other => if key = other then none else map.value other }

/-- What an access to a map gives, and the map after it. One that fails changes nothing. -/
def perform (map : ByteMap) : Access → Except Failure Reply × ByteMap
  | .get key => (.ok (.found (map.value key)), map)
  | .put key value =>
    if key ∈ map.rejected then (.error (.store .rejected), map)
    else (.ok .done, map.give (key, value))
  | .delete key => (.ok (.removed (map.value key).isSome), map.take key)
  | .insertAll records =>
    if ∃ record ∈ records, record.1 ∈ map.rejected then (.error (.store .rejected), map)
    else (.ok (.inserted records.length), records.foldl give map)
  | .reject key => (.ok .done, { map with rejected := key :: map.rejected })

/-- The map that a database is. -/
def of (db : Database) : ByteMap := { value := db.table.get?, rejected := db.rejected }

/-! ## Steps -/

/-- What may happen to the stores that are opened under one name. A store is known by its place in
the order in which they were opened. -/
inductive Step where
  | reopen
  | close (i : ℕ)
  | access (i : ℕ) (access : Access)
  deriving DecidableEq, Repr

/-- The stores that have been opened under one name. -/
structure Session where
  workspace : Workspace
  handles : List Handle

namespace Session

/-- What a step gives, and the stores after it. There is no answer of a store that has not been
opened. -/
def perform (folder name : String) (session : Session) :
    Step → Option (Except Failure Reply) × Session
  | .reopen =>
    match session.workspace.openStore folder name with
    | (.error failure, workspace) => (some (.error failure), { session with workspace })
    | (.ok handle, workspace) =>
      (some (.ok .done), { workspace, handles := session.handles ++ [handle] })
  | .close i =>
    match session.handles[i]? with
    | none => (none, session)
    | some handle =>
      (some (.ok .done), { session with workspace := session.workspace.close handle })
  | .access i access =>
    match session.handles[i]? with
    | none => (none, session)
    | some handle =>
      let (reply, workspace) := access.perform session.workspace handle
      (some reply, { session with workspace })

/-- What steps in order give, and the stores after them. -/
def run (folder name : String) :
    Session → List Step → List (Option (Except Failure Reply)) × Session
  | session, [] => ([], session)
  | session, step :: steps =>
    let (answer, session) := session.perform folder name step
    let (answers, session) := run folder name session steps
    (answer :: answers, session)

end Session

/-- What stores under one name are to do, said with a map. -/
structure Ledger where
  contents : ByteMap
  /-- For each store, in the order in which they were opened, whether it is open. -/
  isOpen : List Bool

namespace Ledger

/-- What a step gives, and the ledger after it. -/
def perform (name : String) (ledger : Ledger) : Step → Option (Except Failure Reply) × Ledger
  | .reopen => (some (.ok .done), { ledger with isOpen := ledger.isOpen ++ [true] })
  | .close i =>
    match ledger.isOpen[i]? with
    | none => (none, ledger)
    | some _ => (some (.ok .done), { ledger with isOpen := ledger.isOpen.set i false })
  | .access i access =>
    match ledger.isOpen[i]? with
    | none => (none, ledger)
    | some false => (some (.error (.closed name)), ledger)
    | some true =>
      let (reply, contents) := ledger.contents.perform access
      (some reply, { ledger with contents })

/-- What steps in order give, and the ledger after them. -/
def run (name : String) : Ledger → List Step → List (Option (Except Failure Reply)) × Ledger
  | ledger, [] => ([], ledger)
  | ledger, step :: steps =>
    let (answer, ledger) := ledger.perform name step
    let (answers, ledger) := run name ledger steps
    (answer :: answers, ledger)

end Ledger

/-- What stores under one name have to do with a ledger. -/
structure Session.Shows (session : Session) (folder name : String) (ledger : Ledger) : Prop where
  isClosed : session.handles.map session.workspace.isClosed = ledger.isOpen.map not
  /-- An open store shows the map. -/
  get : ∀ handle ∈ session.handles, session.workspace.isClosed handle = false →
    ∀ key, session.workspace.get handle key = .ok (ledger.contents.value key)
  /-- A closed store refuses everything, and closing it once more changes nothing. -/
  refuses : ∀ handle ∈ session.handles, session.workspace.isClosed handle = true →
    ∀ access : Access,
      access.perform session.workspace handle = (.error (.closed name), session.workspace)
  close : ∀ handle ∈ session.handles, session.workspace.isClosed handle = true →
    session.workspace.close handle = session.workspace
  /-- A store that is opened once more shows the map, too. -/
  reopen : ∃ handle opened, session.workspace.openStore folder name = (.ok handle, opened) ∧
    ∀ key, opened.get handle key = .ok (ledger.contents.value key)

/-! ## Databases as maps -/

theorem of_put (db : Database) (key value : Bytes) :
    of { db with table := db.table.put key value } = (of db).give (key, value) := by
  unfold of give
  simp only [ByteMap.mk.injEq, and_true]
  funext other
  exact db.table.get?_put key value other

theorem of_putAll (db : Database) (records : List (Bytes × Bytes)) :
    of { db with table := db.table.putAll records } = records.foldl give (of db) := by
  induction records generalizing db with
  | nil => rfl
  | cons record records ih =>
    rw [List.foldl_cons, ← of_put]
    exact ih { db with table := db.table.put record.1 record.2 }

theorem of_delete (db : Database) (key : Bytes) : of (db.delete key) = (of db).take key := by
  unfold of take
  simp only [ByteMap.mk.injEq]
  refine ⟨funext fun other => ?_, rfl⟩
  have hfilter := Sorted.find?_filter (fun k => decide (k ≠ key)) other db.table.records
  refine hfilter.trans ?_
  by_cases h : key = other
  · simp [h]
  · simp only [decide_eq_true_eq, if_neg h, if_pos (Ne.symm h)]
    rfl

/-- An access to a database is one to the map that it is. -/
theorem perform_of (db : Database) (access : Access) :
    (of db).perform access = ((access.on db).1, of (access.on db).2) := by
  cases access with
  | get key => rfl
  | put key value =>
    by_cases h : key ∈ db.rejected
    · simp [perform, Access.on, Database.put, of, h]
    · have hput : db.put key value = .ok { db with table := db.table.put key value } :=
        Database.put_eq_ok.2 ⟨h, rfl⟩
      simp only [perform, Access.on, hput, of_put]
      exact if_neg h
  | delete key =>
    simp only [perform, Access.on, of_delete]
    rfl
  | insertAll records =>
    simp only [perform, Access.on, Database.putAll_eq]
    by_cases h : ∃ record ∈ records, record.1 ∈ db.rejected
    · simp only [if_pos h]
      exact if_pos h
    · simp only [if_neg h, of_putAll]
      exact if_neg h
  | reject key => rfl

/-! ## Keeping track -/

/-- Stores under one name whose contents and flags are those of a ledger. -/
structure Session.Tracks (session : Session) (folder name : String) (place : Place)
    (ledger : Ledger) : Prop where
  opened : session.workspace.disk.Opened folder name place
  contents : of (session.workspace.disk.database place) = ledger.contents
  stores : session.handles.map (session.workspace.stores[·]?) =
    ledger.isOpen.map fun isOpen => some { name, folder, place, isOpen }
  nodup : session.handles.Nodup

namespace Session.Tracks

variable {session : Session} {folder name : String} {place : Place} {ledger : Ledger}

theorem stores_getElem? (h : session.Tracks folder name place ledger) (i : ℕ) :
    session.handles[i]?.map (session.workspace.stores[·]?) =
      ledger.isOpen[i]?.map fun isOpen => some { name, folder, place, isOpen } := by
  have hstores := congrArg (·[i]?) h.stores
  simpa only [List.getElem?_map] using hstores

/-- A store that is known to the one is known to the other. -/
theorem getElem?_cases (h : session.Tracks folder name place ledger) (i : ℕ) :
    session.handles[i]? = none ∧ ledger.isOpen[i]? = none ∨
      ∃ handle isOpen, session.handles[i]? = some handle ∧ ledger.isOpen[i]? = some isOpen ∧
        session.workspace.stores[handle]? = some { name, folder, place, isOpen } := by
  have hi := h.stores_getElem? i
  cases hhandle : session.handles[i]? with
  | none =>
    cases hopen : ledger.isOpen[i]? with
    | none => exact .inl ⟨rfl, rfl⟩
    | some isOpen =>
      rw [hhandle, hopen] at hi
      cases hi
  | some handle =>
    cases hopen : ledger.isOpen[i]? with
    | none =>
      rw [hhandle, hopen] at hi
      cases hi
    | some isOpen =>
      rw [hhandle, hopen] at hi
      exact .inr ⟨handle, isOpen, rfl, rfl, Option.some.inj hi⟩

theorem exists_of_mem (h : session.Tracks folder name place ledger) {handle : Handle}
    (hmem : handle ∈ session.handles) :
    ∃ isOpen, session.workspace.stores[handle]? = some { name, folder, place, isOpen } := by
  have hmap := List.mem_map_of_mem (f := fun handle => session.workspace.stores[handle]?) hmem
  rw [h.stores] at hmap
  obtain ⟨isOpen, -, heq⟩ := List.mem_map.1 hmap
  exact ⟨isOpen, heq.symm⟩

theorem lt_length (h : session.Tracks folder name place ledger) {handle : Handle}
    (hmem : handle ∈ session.handles) : handle < session.workspace.stores.length := by
  obtain ⟨isOpen, hstore⟩ := h.exists_of_mem hmem
  exact (List.getElem?_eq_some_iff.1 hstore).1

/-- Opening the store once more changes nothing on the disk. -/
theorem openStore (h : session.Tracks folder name place ledger) :
    session.workspace.openStore folder name =
      (.ok session.workspace.stores.length,
        { session.workspace with
          stores := session.workspace.stores ++ [{ name, folder, place }] }) :=
  Workspace.openStore_eq_ok.2 ⟨place, _, h.opened.again, rfl, rfl⟩

theorem reopen (h : session.Tracks folder name place ledger) :
    let (answer, next) := session.perform folder name .reopen
    let (expected, after) := ledger.perform name .reopen
    answer = expected ∧ next.Tracks folder name place after := by
  simp only [Session.perform, Ledger.perform, h.openStore]
  refine ⟨trivial, h.opened, h.contents, ?_, ?_⟩
  · -- the new number is behind all old ones, which still stand for the same stores
    have hold : ∀ handle ∈ session.handles,
        (session.workspace.stores ++ [({ name, folder, place } : Store)])[handle]? =
          session.workspace.stores[handle]? :=
      fun handle hmem => List.getElem?_append_left (h.lt_length hmem)
    simp only [List.map_append, List.map_congr_left hold, h.stores]
    simp
  · rw [List.nodup_append_comm]
    refine List.nodup_cons.2 ⟨fun hmem => ?_, h.nodup⟩
    exact Nat.lt_irrefl _ (h.lt_length hmem)

theorem close (h : session.Tracks folder name place ledger) (i : ℕ) :
    let (answer, next) := session.perform folder name (.close i)
    let (expected, after) := ledger.perform name (.close i)
    answer = expected ∧ next.Tracks folder name place after := by
  rcases h.getElem?_cases i with ⟨hhandle, hopen⟩ | ⟨handle, isOpen, hhandle, hopen, hstore⟩
  · simp only [Session.perform, Ledger.perform, hhandle, hopen]
    exact ⟨trivial, h⟩
  · simp only [Session.perform, Ledger.perform, hhandle, hopen]
    refine ⟨trivial, h.opened, h.contents, List.ext_getElem? fun j => ?_, h.nodup⟩
    rw [List.getElem?_map, List.getElem?_map]
    by_cases hij : i = j
    · subst hij
      rw [hhandle, List.getElem?_set_self (List.getElem?_eq_some_iff.1 hopen).1]
      show some ((session.workspace.stores.modify handle _)[handle]?) = _
      rw [List.getElem?_modify, hstore]
      simp
    · rw [List.getElem?_set_ne hij, ← h.stores_getElem? j]
      cases hother : session.handles[j]? with
      | none => rfl
      | some other =>
        -- two openings have two numbers, so closing the one leaves the other
        have hne : handle ≠ other := by
          rintro rfl
          have hlt := (List.getElem?_eq_some_iff.1 hhandle).1
          exact hij ((List.getElem?_inj hlt h.nodup).1 (hhandle.trans hother.symm))
        show some ((session.workspace.stores.modify handle _)[other]?) = _
        rw [List.getElem?_modify]
        simp [hne]

theorem access (h : session.Tracks folder name place ledger) (i : ℕ) (access : Access) :
    let (answer, next) := session.perform folder name (.access i access)
    let (expected, after) := ledger.perform name (.access i access)
    answer = expected ∧ next.Tracks folder name place after := by
  rcases h.getElem?_cases i with ⟨hhandle, hopen⟩ | ⟨handle, isOpen, hhandle, hopen, hstore⟩
  · simp only [Session.perform, Ledger.perform, hhandle, hopen]
    exact ⟨trivial, h⟩
  · cases isOpen with
    | false =>
      have hclosed : session.workspace.database handle = .error (.closed name) := by
        simp [Workspace.database, hstore]
      simp only [Session.perform, Ledger.perform, hhandle, hopen,
        Access.perform_of_closed hclosed]
      exact ⟨trivial, h⟩
    | true =>
      have hdatabase : session.workspace.database handle =
          .ok (place, session.workspace.disk.database place) := by
        simp [Workspace.database, hstore]
      obtain ⟨db, hdb⟩ := h.opened.database
      rw [← Disk.database_of_at? hdb] at hdb
      obtain ⟨disk, hperform, hwrites⟩ := Access.perform_of_open hdatabase hdb access
      simp only [Session.perform, Ledger.perform, hhandle, hopen, hperform, ← h.contents,
        perform_of]
      refine ⟨trivial, h.opened.of_writes hwrites, ?_, h.stores, h.nodup⟩
      exact congrArg of hwrites.database

/-- A step is answered as it should be, and keeps track. -/
theorem perform (h : session.Tracks folder name place ledger) (step : Step) :
    let (answer, next) := session.perform folder name step
    let (expected, after) := ledger.perform name step
    answer = expected ∧ next.Tracks folder name place after := by
  cases step with
  | reopen => exact h.reopen
  | close i => exact h.close i
  | access i access => exact h.access i access

/-- Steps are answered as they should be, and keep track. -/
theorem run (h : session.Tracks folder name place ledger) (steps : List Step) :
    let (answers, last) := session.run folder name steps
    let (expected, after) := ledger.run name steps
    answers = expected ∧ last.Tracks folder name place after := by
  induction steps generalizing session ledger with
  | nil => exact ⟨rfl, h⟩
  | cons step steps ih =>
    obtain ⟨hanswer, hnext⟩ := h.perform step
    obtain ⟨hanswers, hlast⟩ := ih hnext
    exact ⟨congrArg₂ List.cons hanswer hanswers, hlast⟩

theorem shows (h : session.Tracks folder name place ledger) :
    session.Shows folder name ledger := by
  have hdb (key : Bytes) : (session.workspace.disk.database place).table.get? key =
      ledger.contents.value key := congrArg (·.value key) h.contents
  have hdatabase : ∀ handle ∈ session.handles, session.workspace.database handle =
      if session.workspace.isClosed handle then .error (.closed name)
      else .ok (place, session.workspace.disk.database place) := by
    intro handle hmem
    obtain ⟨isOpen, hstore⟩ := h.exists_of_mem hmem
    cases isOpen <;> simp [Workspace.database, Workspace.isClosed, hstore]
  constructor
  case isClosed =>
    have hstores := congrArg (List.map fun store => store.elim true (!·.isOpen)) h.stores
    rw [List.map_map, List.map_map] at hstores
    rw [funext session.workspace.isClosed_eq]
    exact hstores
  case get =>
    intro handle hmem hopen key
    simp [Workspace.get, Workspace.ask, hdatabase handle hmem, hopen, bind, Except.bind, hdb]
  case refuses =>
    intro handle hmem hclosed access
    exact access.perform_of_closed (by rw [hdatabase handle hmem, if_pos hclosed])
  case close => exact fun handle _ hclosed => Workspace.close_of_isClosed hclosed
  case reopen =>
    refine ⟨_, _, h.openStore, fun key => ?_⟩
    simp [Workspace.get, Workspace.ask, Workspace.database, bind, Except.bind, hdb]

end Session.Tracks

/-- **Stores.** Whatever is done with the stores that are opened one after another under one name,
each step is answered by the map of bytes that the database was, changed by the steps that succeed.
-/
theorem answers_run {ws opened : Workspace} {folder name : String} {handle : Handle}
    (h : ws.openStore folder name = (.ok handle, opened)) (steps : List Step) :
    let place := ws.disk.destination (Disk.join folder (name ++ ".db"))
    let stores := Session.run folder name { workspace := opened, handles := [handle] } steps
    let expected :=
      Ledger.run name { contents := of (ws.disk.database place), isOpen := [true] } steps
    stores.1 = expected.1 ∧ stores.2.Shows folder name expected.2 := by
  intro place stores expected
  obtain ⟨found, disk, hopen, rfl, rfl⟩ := Workspace.openStore_eq_ok.1 h
  have hopens := Disk.opens_of_open hopen
  have hplace : found = place := by
    obtain ⟨-, -, rfl⟩ := Disk.locate_eq_ok.1 hopens.opened.located
    exact Disk.destination_congr hopens.current _
  subst hplace
  have hstart : Session.Tracks
      { workspace := { disk, stores := ws.stores ++ [{ name, folder, place }] }
        handles := [ws.stores.length] } folder name place
      { contents := of (ws.disk.database place), isOpen := [true] } := by
    refine ⟨hopens.opened, congrArg of (Disk.database_of_at? hopens.at_place), ?_,
      List.nodup_singleton _⟩
    simp
  obtain ⟨hanswers, htracks⟩ := hstart.run steps
  exact ⟨hanswers, htracks.shows⟩

/-- The last pair of a key wins; a batch with a rejected key in its midst writes nothing; what has
been written is there when the store is opened again. -/
theorem answers_run_rejected :
    let steps : List Step :=
      [.access 0 (.put [1] [10]), .access 0 (.reject [3]),
        .access 0 (.insertAll [([2], [20]), ([2], [21])]),
        .access 0 (.insertAll [([1], [11]), ([3], [30]), ([4], [40])]), .access 0 (.get [1]),
        .close 0, .access 0 (.delete [1]), .close 0, .reopen, .access 1 (.get [2]),
        .access 1 (.get [4])]
    ∃ handle opened, ({} : Workspace).openStore "store" "1_1" = (.ok handle, opened) ∧
      (Session.run "store" "1_1" { workspace := opened, handles := [handle] } steps).1 =
        [some (.ok .done), some (.ok .done), some (.ok (.inserted 2)),
          some (.error (.store .rejected)), some (.ok (.found (some [10]))), some (.ok .done),
          some (.error (.closed "1_1")), some (.ok .done), some (.ok .done),
          some (.ok (.found (some [21]))), some (.ok (.found none))] := by
  intro steps
  have hopens : (({} : Workspace).openStore "store" "1_1").1 = .ok 0 := by decide +kernel
  cases hopen : ({} : Workspace).openStore "store" "1_1" with
  | mk result opened =>
    rw [hopen] at hopens
    subst hopens
    obtain ⟨hanswers, -⟩ := answers_run hopen steps
    exact ⟨0, opened, rfl, hanswers.trans (by decide +kernel)⟩

end ByteMap

end CrawlGraph
