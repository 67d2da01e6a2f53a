import CrawlGraph.Proofs.Store.Fifo
import CrawlGraph.Proofs.Store.Layout

/-!
# What stores hold does not depend on the pool

A pool closes stores when it has no room for them and opens them again when they are asked for. None
of this is seen from outside: whatever the capacity, each request is answered by what has been
written for its job and run since that was created, or ever if it was not (`answers_of_runs`).

1. Closing stores on the way changes nothing on the disk (`closes_evictWhile`, `Holds.closes`).
2. So a store that the pool gives out shows what is kept for its job and run (`Holds.create`,
   `Holds.get`), and using it changes nothing else (`Holds.performAll`).
3. So each request is answered by what has been written, and leaves what it is to leave
   (`Serves.perform`), and so do all (`Serves.run`).
-/

namespace CrawlGraph.Pool

/-! ## Requests -/

/-- What is asked of a pool. A store that it gives out is used at once. -/
inductive Request (α : Type) where
  | create (id : RunId) (accesses : List Access)
  | get (id : RunId) (accesses : List Access)
  | close (id : RunId)
  | closeAll
  /-- A query of the store of a job and run. -/
  | ask (id : RunId) (query : Database → Except Failure α)

/-- What comes of a request. -/
inductive Answer (α : Type) where
  | done
  | replies (replies : List (Except Failure Reply))
  | asked (result : Except Failure α)
  deriving DecidableEq

variable {α : Type}

/-- The use of a store that has been asked for. It fails if the store cannot be opened. -/
def use (accesses : List Access) :
    Except Failure Handle × State → Except Failure (Answer α × State)
  | (.error failure, _) => .error failure
  | (.ok handle, pool, ws) =>
    let (replies, ws) := Access.performAll ws handle accesses
    .ok (.replies replies, pool, ws)

theorem exists_of_use {accesses : List Access} {opened : Except Failure Handle × State}
    {used : Answer α × State} (h : use accesses opened = .ok used) :
    ∃ handle state, opened = (.ok handle, state) := by
  obtain ⟨result, state⟩ := opened
  cases result with
  | error failure => cases h
  | ok handle => exact ⟨handle, state, rfl⟩

/-- What comes of a request, and the pool after it. It fails if a store cannot be opened. -/
def Request.perform (state : State) : Request α → Except Failure (Answer α × State)
  | .create id accesses => use accesses (Pool.create id state)
  | .get id accesses => use accesses (Pool.get id state)
  | .close id => .ok (.done, Pool.close id state)
  | .closeAll => .ok (.done, Pool.closeAll state)
  | .ask id query =>
    match Pool.get id state with
    | (.error failure, _) => .error failure
    | (.ok _, _) =>
      let (result, state) := Pool.ask id query state
      .ok (.asked result, state)

/-- What comes of requests in order, and the pool after them. -/
def Request.run : State → List (Request α) → Except Failure (List (Answer α) × State)
  | state, [] => .ok ([], state)
  | state, request :: requests => do
    let (answer, state) ← request.perform state
    let (answers, state) ← run state requests
    return (answer :: answers, state)

/-! ## What has been written -/

/-- What has been done with the records of a store, since it was created if it was. -/
structure History where
  created : Bool := false
  accesses : List Access := []

/-- What a store holds after all that has been done with it, if it held `initial` before. -/
def History.database (initial : Database) (history : History) : Database :=
  (Access.onAll (if history.created then {} else initial) history.accesses).2

/-- What stores hold after what has been done with them, by job and run. -/
def written (initial : RunId → Database) (histories : RunId → History) (id : RunId) : Database :=
  (histories id).database (initial id)

/-- What is to come of a request, and what has been written after it. -/
def Request.on (initial : RunId → Database) (histories : RunId → History) :
    Request α → Answer α × (RunId → History)
  | .create id accesses =>
    (.replies (Access.onAll {} accesses).1,
      Function.update histories id { created := true, accesses })
  | .get id accesses =>
    (.replies (Access.onAll (written initial histories id) accesses).1,
      Function.update histories id
        { histories id with accesses := (histories id).accesses ++ accesses })
  | .close _ => (.done, histories)
  | .closeAll => (.done, histories)
  | .ask id query => (.asked (query (written initial histories id)), histories)

/-- What is to come of requests in order, and what has been written after them. -/
def Request.onAll (initial : RunId → Database) :
    (RunId → History) → List (Request α) → List (Answer α) × (RunId → History)
  | histories, [] => ([], histories)
  | histories, request :: requests =>
    let (answer, histories) := request.on initial histories
    let (answers, histories) := onAll initial histories requests
    (answer :: answers, histories)

/-! ## Closing stores on the way -/

/-- Some stores have been closed and forgotten, and nothing else. -/
structure Closes (state next : State) : Prop where
  root : next.1.root = state.1.root
  held : ∀ entry ∈ next.1.held, entry ∈ state.1.held
  disk : next.2.disk = state.2.disk
  places : next.2.stores.map Store.place = state.2.stores.map Store.place

protected theorem Closes.trans {state next last : State} (h : Closes state next)
    (hlast : Closes next last) : Closes state last :=
  ⟨hlast.root.trans h.root, fun entry hmem => h.held entry (hlast.held entry hmem),
    hlast.disk.trans h.disk, hlast.places.trans h.places⟩

theorem places_close (ws : Workspace) (handle : Handle) :
    (ws.close handle).stores.map Store.place = ws.stores.map Store.place := by
  refine List.ext_getElem? fun i => ?_
  unfold Workspace.close
  rw [List.getElem?_map, List.getElem?_modify, List.getElem?_map]
  cases ws.stores[i]? with
  | none => rfl
  | some store => by_cases h : handle = i <;> simp [h]

theorem closes_evictWhile (goesOn : Pool → Bool) (queue : List RunId) (state : State) :
    Closes state (evictWhile goesOn queue state) := by
  induction queue generalizing state with
  | nil => exact ⟨rfl, fun _ hmem => hmem, rfl, rfl⟩
  | cons id queue ih =>
    obtain ⟨pool, ws⟩ := state
    unfold evictWhile
    split
    · split
      · exact ⟨rfl, fun _ hmem => hmem, rfl, rfl⟩
      · rename_i handle _
        have hrest := ih (pool.forget id, ws.close handle)
        exact ⟨hrest.root, fun entry hmem => List.mem_of_mem_filter (hrest.held entry hmem),
          hrest.disk, hrest.places.trans (places_close ws handle)⟩
    · exact ⟨rfl, fun _ hmem => hmem, rfl, rfl⟩

theorem closes_close (id : RunId) (state : State) : Closes state (close id state) := by
  obtain ⟨pool, ws⟩ := state
  unfold close
  dsimp only
  split
  · exact ⟨rfl, fun _ hmem => hmem, rfl, rfl⟩
  · exact ⟨rfl, fun _ hmem => List.mem_of_mem_filter hmem, rfl, places_close ws _⟩

/-- After a store has been closed, none is held for its job and run. -/
theorem ne_of_mem_close {id : RunId} {state : State} {entry : RunId × Handle}
    (hmem : entry ∈ (close id state).1.held) : entry.1 ≠ id := by
  obtain ⟨pool, ws⟩ := state
  unfold close at hmem
  dsimp only at hmem
  split at hmem
  · rename_i hnone
    have hnot := List.find?_eq_none.1 (Option.map_eq_none_iff.1 hnone) entry hmem
    simpa using hnot
  · simpa using (List.mem_filter.1 hmem).2

/-! ## Opening stores -/

/-- A pool whose stores hold `contents`. -/
structure Holds (state : State) (root : String) (base : Place) (contents : RunId → Database) :
    Prop where
  root_eq : state.1.root = root
  base_eq : state.2.disk.destination root = base
  keeps : state.2.disk.Keeps base contents
  /-- A store that is held has its database at the place for its job and run. -/
  held : ∀ entry ∈ state.1.held,
    (state.2.stores.map Store.place)[entry.2]? = some (entry.1.place base) ∧
      ∃ db, state.2.disk.at? (entry.1.place base) = some (.database db)

/-- Where a database stands, the folders that lead to the root are there. -/
def Reaches (disk : Disk) (root : String) (base : Place) : Prop :=
  (∃ (id : RunId) (db : Database), disk.at? (id.place base) = some (.database db)) →
    ∀ stop ∈ disk.way root, disk.at? stop = some .folder

namespace Holds

variable {state next : State} {root : String} {base : Place} {contents : RunId → Database}
  {id : RunId} {handle : Handle}

theorem closes (h : Holds state root base contents) (hcloses : Closes state next) :
    Holds next root base contents := by
  constructor
  case root_eq => exact hcloses.root.trans h.root_eq
  case base_eq => rw [hcloses.disk, h.base_eq]
  case keeps => exact hcloses.disk ▸ h.keeps
  case held =>
    intro entry hmem
    rw [hcloses.places, hcloses.disk]
    exact h.held entry (hcloses.held entry hmem)

/-- A store that is opened shows what is kept for its job and run. -/
theorem openStore (h : Holds state root base contents)
    (hopen : Pool.openStore id state = (.ok handle, next)) :
    Holds next root base contents ∧ (id, handle) ∈ next.1.held ∧
      ∀ stop ∈ next.2.disk.way root, next.2.disk.at? stop = some .folder := by
  obtain ⟨pool, ws⟩ := state
  unfold Pool.openStore at hopen
  dsimp only at hopen
  cases hstore : ws.openStore (pool.path id) id.name with
  | mk opened ws' =>
    cases opened with
    | error failure =>
      simp only [hstore] at hopen
      cases hopen
    | ok found =>
      simp only [hstore] at hopen
      cases hopen
      obtain ⟨place, disk, hdatabase, rfl, rfl⟩ := Workspace.openStore_eq_ok.1 hstore
      have hopens := Disk.opens_of_open hdatabase
      obtain ⟨-, hway, hplace⟩ := Disk.locate_eq_ok.1 hopens.opened.located
      have hroot : pool.root = root := h.root_eq
      have hbase : disk.destination root = base :=
        (Disk.destination_congr hopens.current root).trans h.base_eq
      -- where a path leads depends on the current folder only, which opening leaves
      have hstands : place = id.place base := by
        rw [← hplace, ← hbase, ← hroot]
        exact place_eq pool disk id
      rw [Disk.way_join id.isPlain_file, way_path, hroot, hbase] at hway
      rw [hstands] at hopens
      refine ⟨⟨hroot, hbase, ?_, ?_⟩, List.mem_append_right _ (List.mem_singleton_self _),
        fun stop hstop => hway stop (List.mem_append_left _ hstop)⟩
      · exact h.keeps.opens hopens fun stop hstop => hway stop (List.mem_append_right _ hstop)
      · intro entry hmem
        rcases List.mem_append.1 hmem with hmem | hmem
        · obtain ⟨hplaces, db, hdb⟩ := h.held entry (List.mem_of_mem_filter hmem)
          constructor
          · rw [List.map_append, List.getElem?_append_left (List.getElem?_eq_some_iff.1 hplaces).1]
            exact hplaces
          · by_cases hid : id = entry.1
            · exact ⟨_, hid ▸ hopens.at_place⟩
            · exact ⟨db, (hopens.at_other _ db ((RunId.place_injective base).ne hid)).2 hdb⟩
        · rw [List.mem_singleton.1 hmem]
          exact ⟨by simp [hstands], ws.disk.database (id.place base), hopens.at_place⟩

/-- Where a database stands, its folder is found. -/
theorem isFolder (h : Holds state root base contents) (hreaches : Reaches state.2.disk root base)
    {db : Database} (hdb : state.2.disk.at? (id.place base) = some (.database db)) :
    state.2.disk.isFolder (state.1.path id) = true := by
  rw [isFolder_path, h.root_eq, h.base_eq]
  intro stop hstop
  rcases List.mem_append.1 hstop with hstop | hstop
  · exact hreaches ⟨id, db, hdb⟩ stop hstop
  · exact h.keeps.folders id db hdb stop hstop

/-- Emptying the folder of a store that is not held takes away its database only. -/
theorem emptyFolder (h : Holds state root base contents) (hreaches : Reaches state.2.disk root base)
    (hnot : ∀ entry ∈ state.1.held, entry.1 ≠ id) {disk : Disk}
    (hempty : Pool.emptyFolder state.2.disk (state.1.path id) = (.ok (), disk)) :
    Holds (state.1, { state.2 with disk }) root base (Function.update contents id {}) := by
  rcases emptyFolder_cases hempty with rfl | ⟨rfl, hfolder⟩
  · rw [destination_path, h.root_eq, h.base_eq]
    refine ⟨h.root_eq, h.base_eq, h.keeps.clear id, fun entry hmem => ?_⟩
    obtain ⟨hplaces, db, hdb⟩ := h.held entry hmem
    refine ⟨hplaces, db, ?_⟩
    show (state.2.disk.clear _).at? _ = _
    rw [Disk.at?_clear_place, if_neg (hnot entry hmem).symm, hdb]
  · refine ⟨h.root_eq, h.base_eq, h.keeps.forget fun db hdb => ?_, h.held⟩
    rw [h.isFolder hreaches hdb] at hfolder
    cases hfolder

theorem create (h : Holds state root base contents) (hreaches : Reaches state.2.disk root base)
    (hcreate : Pool.create id state = (.ok handle, next)) :
    Holds next root base (Function.update contents id {}) ∧ (id, handle) ∈ next.1.held ∧
      Reaches next.2.disk root base := by
  have hevict : Closes (Pool.close id state) (evict (Pool.close id state)) :=
    closes_evictWhile _ _ _
  have hcloses := (closes_close id state).trans hevict
  -- so that no store in use loses its database together with the folder
  have hnot : ∀ entry ∈ (evict (Pool.close id state)).1.held, entry.1 ≠ id :=
    fun entry hmem => ne_of_mem_close (hevict.held entry hmem)
  have hclosed := h.closes hcloses
  rw [← hcloses.disk] at hreaches
  obtain ⟨pool, ws, disk, hroom, ⟨failure, -, hcreated, -⟩ | ⟨hempty, hopen⟩⟩ :=
    create_cases hcreate
  · cases hcreated
  · rw [hroom] at hnot hclosed hreaches
    obtain ⟨hholds, hmem, hway⟩ := (hclosed.emptyFolder hreaches hnot hempty).openStore hopen
    exact ⟨hholds, hmem, fun _ => hway⟩

theorem get (h : Holds state root base contents) (hreaches : Reaches state.2.disk root base)
    (hget : Pool.get id state = (.ok handle, next)) :
    Holds next root base contents ∧ (id, handle) ∈ next.1.held ∧
      Reaches next.2.disk root base := by
  unfold Pool.get at hget
  cases hheld : state.1.find? id with
  | some held =>
    simp only [hheld] at hget
    cases hget
    obtain ⟨entry, hentry, rfl⟩ := Option.map_eq_some_iff.1 hheld
    have hid : entry.1 = id := by simpa using List.find?_some hentry
    exact ⟨h, hid ▸ List.mem_of_find?_eq_some hentry, hreaches⟩
  | none =>
    simp only [hheld] at hget
    obtain ⟨hholds, hmem, hway⟩ := (h.closes (closes_evictWhile _ _ _)).openStore hget
    exact ⟨hholds, hmem, fun _ => hway⟩

/-- An open store that is held shows what is kept for its job and run. -/
theorem database (h : Holds state root base contents) (hmem : (id, handle) ∈ state.1.held)
    (hopen : state.2.isClosed handle = false) :
    state.2.database handle = .ok (id.place base, contents id) ∧
      state.2.disk.at? (id.place base) = some (.database (contents id)) := by
  obtain ⟨hplaces, db, hdb⟩ := h.held _ hmem
  have hcontents : db = contents id := by
    rw [← h.keeps.contents, Disk.database_of_at? hdb]
  rw [List.getElem?_map] at hplaces
  obtain ⟨store, hstore, hplace⟩ := Option.map_eq_some_iff.1 hplaces
  unfold Workspace.isClosed at hopen
  unfold Workspace.database
  simp only [hstore, Bool.not_eq_false'] at hopen ⊢
  rw [if_pos hopen, hplace, h.keeps.contents]
  exact ⟨rfl, hcontents ▸ hdb⟩

/-- Using an open store that is held changes what is kept for its job and run only. -/
theorem performAll (h : Holds state root base contents) (hreaches : Reaches state.2.disk root base)
    (hmem : (id, handle) ∈ state.1.held) (hopen : state.2.isClosed handle = false)
    (accesses : List Access) :
    ∃ disk, Access.performAll state.2 handle accesses =
        ((Access.onAll (contents id) accesses).1, { state.2 with disk }) ∧
      Holds (state.1, { state.2 with disk }) root base
        (Function.update contents id (Access.onAll (contents id) accesses).2) ∧
      Reaches disk root base := by
  obtain ⟨hdatabase, hat⟩ := h.database hmem hopen
  obtain ⟨disk, hperform, hwrites⟩ := Access.performAll_of_open hdatabase hat accesses
  refine ⟨disk, hperform, ⟨h.root_eq, ?_, h.keeps.write hwrites hat, ?_⟩, fun _ stop hstop => ?_⟩
  · exact (Disk.destination_congr hwrites.current root).trans h.base_eq
  · intro entry hentry
    obtain ⟨hplaces, db, hdb⟩ := h.held entry hentry
    refine ⟨hplaces, ?_⟩
    by_cases hid : id = entry.1
    · exact ⟨_, hid ▸ hwrites.at_self⟩
    · exact ⟨db, (hwrites.at_other _ ((RunId.place_injective base).ne hid)).trans hdb⟩
  · rw [Disk.way_congr hwrites.current] at hstop
    exact hwrites.folder (by simp [hat]) (hreaches ⟨id, _, hat⟩ stop hstop)

end Holds

/-! ## Requests are answered by what has been written -/

/-- A pool in use whose stores hold `contents`. -/
structure Serves (state : State) (root : String) (base : Place) (contents : RunId → Database) :
    Prop where
  holds : Holds state root base contents
  reaches : Reaches state.2.disk root base
  tracks : ∃ given capacity fifo,
    Session.Tracks { pool := state.1, workspace := state.2, given } capacity fifo

namespace Serves

variable {state next : State} {root : String} {base : Place} {contents : RunId → Database}
  {id : RunId} {handle : Handle}

/-- A store that is held is open, as no one but the pool has closed it. -/
theorem isOpen (h : Serves state root base contents) (hmem : (id, handle) ∈ state.1.held) :
    state.2.isClosed handle = false := by
  obtain ⟨given, capacity, fifo, htracks⟩ := h.tracks
  rw [Bool.eq_false_iff]
  intro hclosed
  -- a store that is listed and closed has been released by its holder, and here none has
  have hentry : (id, handle) ∈ fifo.entries := htracks.held ▸ hmem
  exact absurd ((htracks.isOpen _ hentry).1 hclosed) List.not_mem_nil

theorem create (h : Serves state root base contents)
    (hcreate : Pool.create id state = (.ok handle, next)) :
    Serves next root base (Function.update contents id {}) ∧ (id, handle) ∈ next.1.held := by
  obtain ⟨hholds, hmem, hreaches⟩ := h.holds.create h.reaches hcreate
  obtain ⟨given, capacity, fifo, htracks⟩ := h.tracks
  exact ⟨⟨hholds, hreaches, _, _, _,
    htracks.create (Session.giveOut_eq_ok.2 ⟨handle, next, hcreate, rfl⟩)⟩, hmem⟩

theorem get (h : Serves state root base contents)
    (hget : Pool.get id state = (.ok handle, next)) :
    Serves next root base contents ∧ (id, handle) ∈ next.1.held := by
  obtain ⟨hholds, hmem, hreaches⟩ := h.holds.get h.reaches hget
  obtain ⟨given, capacity, fifo, htracks⟩ := h.tracks
  exact ⟨⟨hholds, hreaches, _, _, _,
    htracks.get (Session.giveOut_eq_ok.2 ⟨handle, next, hget, rfl⟩)⟩, hmem⟩

/-- Using a store that is held is answered by what is kept for its job and run. -/
theorem use (h : Serves state root base contents) (hmem : (id, handle) ∈ state.1.held)
    {accesses : List Access} {answer : Answer α}
    (huse : Pool.use accesses (.ok handle, state) = .ok (answer, next)) :
    answer = .replies (Access.onAll (contents id) accesses).1 ∧
      Serves next root base
        (Function.update contents id (Access.onAll (contents id) accesses).2) := by
  obtain ⟨disk, hperform, hholds, hreaches⟩ :=
    h.holds.performAll h.reaches hmem (h.isOpen hmem) accesses
  obtain ⟨given, capacity, fifo, htracks⟩ := h.tracks
  simp only [Pool.use, hperform, Except.ok.injEq, Prod.mk.injEq] at huse
  obtain ⟨rfl, rfl⟩ := huse
  exact ⟨rfl, hholds, hreaches, given, capacity, fifo, htracks.with_disk disk⟩

/-- A query is asked of what is kept for its job and run. -/
theorem ask (h : Serves state root base contents) (hget : Pool.get id state = (.ok handle, next))
    (query : Database → Except Failure α) :
    Pool.ask id query state = (query (contents id), next) := by
  obtain ⟨hnext, hmem⟩ := h.get hget
  obtain ⟨hdatabase, -⟩ := hnext.holds.database hmem (hnext.isOpen hmem)
  unfold Pool.ask
  simp only [hget]
  refine Prod.ext ?_ rfl
  show next.2.ask handle query = _
  unfold Workspace.ask
  rw [hdatabase]
  rfl

theorem close (h : Serves state root base contents) (id : RunId) :
    Serves (Pool.close id state) root base contents := by
  have hcloses := closes_close id state
  obtain ⟨given, capacity, fifo, htracks⟩ := h.tracks
  exact ⟨h.holds.closes hcloses, hcloses.disk.symm ▸ h.reaches, _, _, _, htracks.close id⟩

theorem closeAll (h : Serves state root base contents) :
    Serves (Pool.closeAll state) root base contents := by
  have hcloses : Closes state (Pool.closeAll state) := closes_evictWhile _ _ _
  obtain ⟨given, capacity, fifo, htracks⟩ := h.tracks
  exact ⟨h.holds.closes hcloses, hcloses.disk.symm ▸ h.reaches, _, _, _, htracks.closeAll⟩

end Serves

theorem written_update (initial : RunId → Database) (histories : RunId → History) (id : RunId)
    (history : History) :
    written initial (Function.update histories id history) =
      Function.update (written initial histories) id (history.database (initial id)) := by
  funext other
  by_cases hid : other = id
  · subst hid
    simp [written]
  · simp [written, hid]

namespace Serves

variable {state next : State} {root : String} {base : Place} {initial : RunId → Database}
  {histories : RunId → History}

theorem perform_create (h : Serves state root base (written initial histories)) {id : RunId}
    {accesses : List Access} {answer : Answer α}
    (huse : Pool.use accesses (Pool.create id state) = .ok (answer, next)) :
    let expected := Request.on initial histories (.create id accesses : Request α)
    answer = expected.1 ∧ Serves next root base (written initial expected.2) := by
  obtain ⟨handle, opened, hcreate⟩ := exists_of_use huse
  rw [hcreate] at huse
  obtain ⟨hopened, hmem⟩ := h.create hcreate
  obtain ⟨hanswer, hnext⟩ := hopened.use hmem huse
  rw [Function.update_self] at hanswer
  rw [Function.update_self, Function.update_idem] at hnext
  refine ⟨hanswer, ?_⟩
  show Serves next root base (written initial (Function.update histories id _))
  rw [written_update]
  exact hnext

theorem perform_get (h : Serves state root base (written initial histories)) {id : RunId}
    {accesses : List Access} {answer : Answer α}
    (huse : Pool.use accesses (Pool.get id state) = .ok (answer, next)) :
    let expected := Request.on initial histories (.get id accesses : Request α)
    answer = expected.1 ∧ Serves next root base (written initial expected.2) := by
  obtain ⟨handle, opened, hget⟩ := exists_of_use huse
  rw [hget] at huse
  obtain ⟨hopened, hmem⟩ := h.get hget
  obtain ⟨hanswer, hnext⟩ := hopened.use hmem huse
  refine ⟨hanswer, ?_⟩
  show Serves next root base (written initial (Function.update histories id _))
  rw [written_update]
  unfold History.database
  rw [Access.onAll_append]
  exact hnext

/-- A request is answered by what has been written. -/
theorem perform (h : Serves state root base (written initial histories)) {request : Request α}
    {answer : Answer α} (hperform : request.perform state = .ok (answer, next)) :
    let expected := request.on initial histories
    answer = expected.1 ∧ Serves next root base (written initial expected.2) := by
  cases request with
  | create id accesses => exact h.perform_create hperform
  | get id accesses => exact h.perform_get hperform
  | close id =>
    cases hperform
    exact ⟨rfl, h.close id⟩
  | closeAll =>
    cases hperform
    exact ⟨rfl, h.closeAll⟩
  | ask id query =>
    unfold Request.perform at hperform
    cases hget : Pool.get id state with
    | mk result opened =>
      cases result with
      | error failure =>
        simp only [hget] at hperform
        cases hperform
      | ok handle =>
        simp only [hget, h.ask hget] at hperform
        cases hperform
        exact ⟨rfl, (h.get hget).1⟩

/-- Requests in order are answered by what has been written. -/
theorem run (h : Serves state root base (written initial histories)) {requests : List (Request α)}
    {answers : List (Answer α)} (hrun : Request.run state requests = .ok (answers, next)) :
    let expected := Request.onAll initial histories requests
    answers = expected.1 ∧ Serves next root base (written initial expected.2) := by
  -- what has been written moves along with the pool
  induction requests generalizing state histories answers with
  | nil =>
    cases hrun
    exact ⟨rfl, h⟩
  | cons request requests ih =>
    obtain ⟨⟨answer, middle⟩, hperform, hrest⟩ := bind_eq_ok.1 hrun
    obtain ⟨⟨answers, last⟩, hrest, heq⟩ := bind_eq_ok.1 hrest
    cases heq
    obtain ⟨hanswer, hmiddle⟩ := h.perform hperform
    obtain ⟨hanswers, hlast⟩ := ih hmiddle hrest
    exact ⟨congrArg₂ List.cons hanswer hanswers, hlast⟩

end Serves

/-! ## Pools of any capacity -/

/-- All databases of a pool that are on a disk are found by their paths. There may be none at all.
Where everything stands in a folder, they are found unless the root leads into a missing folder and
out of it again (`finds_of_isSound`). -/
def Finds (pool : Pool) (disk : Disk) : Prop :=
  ∀ id db, disk.at? (pool.place disk id) = some (.database db) →
    disk.isFolder (pool.path id) = true

theorem finds_of_isSound {pool : Pool} {disk : Disk} (hsound : disk.IsSound)
    (hroot : ".." ∉ Disk.names pool.root) : pool.Finds disk := by
  intro id db hdb
  rw [place_eq] at hdb
  rw [isFolder_path]
  have hbelow : ∀ stop ∈ disk.way pool.root ++ id.folders (disk.destination pool.root),
      stop <+: id.folder (disk.destination pool.root) := by
    intro stop hstop
    rcases List.mem_append.1 hstop with hstop | hstop
    · exact (Disk.prefix_of_mem_stops hroot hstop).trans (List.prefix_append _ _)
    · exact id.prefix_of_mem_folders hstop
  exact fun stop hstop => hsound.folder_above hdb (hbelow stop hstop)

/-- What the store of a job and run holds on the disk. -/
def contents (state : State) (id : RunId) : Database :=
  state.2.disk.database (state.1.place state.2.disk id)

theorem Holds.contents_eq {state : State} {root : String} {base : Place}
    {kept : RunId → Database} (h : Holds state root base kept) : contents state = kept := by
  funext id
  unfold contents
  rw [place_eq, h.root_eq, h.base_eq, h.keeps.contents]

theorem Finds.serves {root : String} {capacity : ℕ} {ws : Workspace}
    (h : (Pool.start root capacity).Finds ws.disk) :
    Serves (Pool.start root capacity, ws) root (ws.disk.destination root)
      (contents (Pool.start root capacity, ws)) := by
  have hfound : ∀ (id : RunId) db,
      ws.disk.at? (id.place (ws.disk.destination root)) = some (.database db) →
        ∀ stop ∈ ws.disk.way root ++ id.folders (ws.disk.destination root),
          ws.disk.at? stop = some .folder := by
    intro id db hdb
    refine (isFolder_path (Pool.start root capacity) ws.disk id).1 (h id db ?_)
    rw [place_eq]
    exact hdb
  refine ⟨⟨rfl, rfl, ⟨fun id => ?_, ?_⟩, fun _ hmem => nomatch hmem⟩, ?_,
    [], max capacity 1, _, .start root capacity ws⟩
  · unfold contents
    rw [place_eq]
    rfl
  · exact fun id db hdb stop hstop => hfound id db hdb stop (List.mem_append_right _ hstop)
  · exact fun ⟨id, db, hdb⟩ stop hstop => hfound id db hdb stop (List.mem_append_left _ hstop)

/-- What a run gives and leaves, for any capacity. -/
theorem answers_of_run {root : String} {capacity : ℕ} {ws : Workspace}
    {requests : List (Request α)} {answers : List (Answer α)} {last : State}
    (hfinds : (Pool.start root capacity).Finds ws.disk)
    (hrun : Request.run (Pool.start root capacity, ws) requests = .ok (answers, last)) :
    let initial := contents (Pool.start root capacity, ws)
    let expected := Request.onAll initial (fun _ => {}) requests
    answers = expected.1 ∧ contents last = written initial expected.2 := by
  intro initial expected
  have hserves : Serves (Pool.start root capacity, ws) root (ws.disk.destination root)
      (written initial fun _ => {}) := hfinds.serves
  obtain ⟨hanswers, hlast⟩ := hserves.run hrun
  exact ⟨hanswers, hlast.holds.contents_eq⟩

/-- **Contents of stores.** Two pools of whatever capacity over the same folder, in which all stores
can be opened, give the same answers to the same requests, and leave the same in each store: what has
been written for its job and run since that was created, or ever if it was not. -/
theorem answers_of_runs (root : String) (capacity₁ capacity₂ : ℕ) (ws : Workspace)
    (requests : List (Request α)) {answers₁ answers₂ : List (Answer α)} {last₁ last₂ : State}
    (hfinds : (Pool.start root capacity₁).Finds ws.disk)
    (h₁ : Request.run (Pool.start root capacity₁, ws) requests = .ok (answers₁, last₁))
    (h₂ : Request.run (Pool.start root capacity₂, ws) requests = .ok (answers₂, last₂)) :
    let initial := contents (Pool.start root capacity₁, ws)
    let expected := Request.onAll initial (fun _ => {}) requests
    answers₁ = answers₂ ∧ answers₁ = expected.1 ∧
      contents last₁ = written initial expected.2 ∧ contents last₂ = written initial expected.2 := by
  intro initial expected
  obtain ⟨hanswers₁, hlast₁⟩ := answers_of_run hfinds h₁
  have hfinds₂ : (Pool.start root capacity₂).Finds ws.disk := hfinds
  obtain ⟨hanswers₂, hlast₂⟩ := answers_of_run hfinds₂ h₂
  exact ⟨hanswers₁.trans hanswers₂.symm, hanswers₁, hlast₁, hlast₂⟩

/-- With room for one store, each is closed for the next one and opened again; with room for three,
all stay open. -/
theorem answers_of_runs_evicted :
    let value : Database → Except Failure (Option Bytes) := fun db => .ok (db.table.get? [1])
    let requests : List (Request (Option Bytes)) :=
      [.create ⟨1, 1⟩ [.put [1] [10]], .create ⟨1, 2⟩ [.put [1] [20]],
        .get ⟨1, 1⟩ [.get [1], .delete [2]], .create ⟨1, 2⟩ [.put [2] [21]], .close ⟨2, 1⟩,
        .ask ⟨1, 2⟩ value, .ask ⟨1, 1⟩ value]
    ∃ answers last₁ last₂,
      Request.run (Pool.start "store" 1, {}) requests = .ok (answers, last₁) ∧
        Request.run (Pool.start "store" 3, {}) requests = .ok (answers, last₂) ∧
        last₁.1.size = 1 ∧ last₂.1.size = 2 ∧ contents last₁ = contents last₂ ∧
        answers = [.replies [.ok .done], .replies [.ok .done],
          .replies [.ok (.found (some [10])), .ok (.removed false)], .replies [.ok .done], .done,
          .asked (.ok none), .asked (.ok (some [10]))] := by
  intro value requests
  have hfinds : (Pool.start "store" 1).Finds ({} : Workspace).disk := by
    intro id db hdb
    rw [place_eq] at hdb
    simp [Disk.at?, RunId.place_ne_nil] at hdb
  have hopens₁ : (Request.run (Pool.start "store" 1, {}) requests).map (·.2.1.size) = .ok 1 := by
    decide +kernel
  have hopens₂ : (Request.run (Pool.start "store" 3, {}) requests).map (·.2.1.size) = .ok 2 := by
    decide +kernel
  cases h₁ : Request.run (Pool.start "store" 1, {}) requests with
  | error failure =>
    rw [h₁] at hopens₁
    cases hopens₁
  | ok found₁ =>
    cases h₂ : Request.run (Pool.start "store" 3, {}) requests with
    | error failure =>
      rw [h₂] at hopens₂
      cases hopens₂
    | ok found₂ =>
      rw [h₁] at hopens₁
      rw [h₂] at hopens₂
      injection hopens₁ with hsize₁
      injection hopens₂ with hsize₂
      obtain ⟨heq, hanswers, hlast₁, hlast₂⟩ := answers_of_runs "store" 1 3 {} requests hfinds h₁ h₂
      exact ⟨found₁.1, found₁.2, found₂.2, rfl, heq ▸ rfl, hsize₁, hsize₂,
        hlast₁.trans hlast₂.symm, hanswers.trans (by decide +kernel)⟩

end CrawlGraph.Pool
