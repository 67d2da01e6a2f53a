import CrawlGraph.Proofs.Store.Fifo

/-!
# Pools whose stores cannot all be opened

A request for a store may fail, and whoever holds a store may use it or close it behind the back of
the pool. Whatever is tried, the pool still tracks a list of pairs (`Tracks.attempts`).

1. A request that fails has made room before, and nothing else (`eq_of_create_error`,
   `eq_of_get_error`). So it loses the pairs in front of a full pool, and none if there was room
   (`madeRoom_of_error`).
2. A store that is created is open, and one that is asked for is open unless one of its holders has
   closed it: then it is given out again as it is, and queries of it fail (`gives_after`).
-/

namespace CrawlGraph.Pool

/-! ## Attempts -/

/-- What is tried with a pool, with the stores that it has given out and with the disk. -/
inductive Attempt where
  | step (step : Step)
  /-- Whoever holds the store that was given out at a place of the list uses it. -/
  | use (i : ℕ) (action : Database → Except Failure Unit × Database)
  /-- Others change the disk. -/
  | change (disk : Disk)

namespace Session

/-- A session after its pool has been asked for a store, whether this could be opened or not. -/
def settle (session : Session) : Except Failure Handle × State → Session
  | (.error _, state) => session.put state
  | (.ok handle, state) => { session.put state with given := session.given ++ [handle] }

/-- A session after a store that was given out has been used by its holder. -/
def use (session : Session) (i : ℕ) (action : Database → Except Failure Unit × Database) :
    Session :=
  match session.given[i]? with
  | none => session
  | some handle => { session with workspace := (session.workspace.run handle action).2 }

/-- A session after an attempt. -/
def attempt (session : Session) : Attempt → Session
  | .step (.create id) => session.settle (Pool.create id (session.pool, session.workspace))
  | .step (.get id) => session.settle (Pool.get id (session.pool, session.workspace))
  | .step (.close id) => session.put (Pool.close id (session.pool, session.workspace))
  | .step .closeAll => session.put (Pool.closeAll (session.pool, session.workspace))
  | .step (.release i) => session.release i
  | .use i action => session.use i action
  | .change disk => { session with workspace := { session.workspace with disk } }

/-- A session after attempts in order. -/
def attempts (session : Session) (attempts : List Attempt) : Session :=
  attempts.foldl attempt session

/-- What a new pool has become after attempts in order. -/
def after (root : String) (capacity : ℕ) (ws : Workspace) (attempts : List Attempt) : Session :=
  Session.attempts { pool := Pool.start root capacity, workspace := ws } attempts

end Session

/-! ## Requests that fail -/

variable {state next : State} {id : RunId} {failure : Failure}

theorem eq_of_open_error {ws ws' : Workspace} {folder name : String}
    (h : ws.openStore folder name = (.error failure, ws')) : ∃ disk, ws' = { ws with disk } := by
  unfold Workspace.openStore at h
  rcases hopened : ws.disk.openDatabase folder name with ⟨failure | place, disk⟩
  · simp only [hopened] at h
    cases h
    exact ⟨disk, rfl⟩
  · simp only [hopened] at h
    cases h

/-- What fails to be opened is not held, and only the disk may have changed. -/
theorem eq_of_openStore_error (h : openStore id state = (.error failure, next)) :
    ∃ disk, next = (state.1, { state.2 with disk }) := by
  unfold openStore at h
  rcases hopened : state.2.openStore (state.1.path id) id.name with ⟨failure | handle, ws⟩
  · simp only [hopened] at h
    obtain ⟨disk, rfl⟩ := eq_of_open_error hopened
    cases h
    exact ⟨disk, rfl⟩
  · simp only [hopened] at h
    cases h

/-- A store that cannot be created has been closed before, and room has been made. -/
theorem eq_of_create_error (h : create id state = (.error failure, next)) :
    ∃ disk, next = ((evict (close id state)).1, { (evict (close id state)).2 with disk }) := by
  obtain ⟨pool, ws, disk, hevict, ⟨failure, -, -, rfl⟩ | ⟨-, hopen⟩⟩ := create_cases h
  · rw [hevict]
    exact ⟨disk, rfl⟩
  · obtain ⟨disk, rfl⟩ := eq_of_openStore_error hopen
    rw [hevict]
    exact ⟨disk, rfl⟩

/-- A store that cannot be got was not held, and room has been made. -/
theorem eq_of_get_error (h : get id state = (.error failure, next)) :
    state.1.find? id = none ∧
      ∃ disk, next = ((evict state).1, { (evict state).2 with disk }) := by
  unfold get at h
  cases hfind : state.1.find? id with
  | some handle =>
    simp only [hfind] at h
    cases h
  | none =>
    simp only [hfind] at h
    exact ⟨rfl, eq_of_openStore_error h⟩

/-! ## Keeping track -/

namespace Session.Tracks

variable {session : Session} {capacity : ℕ} {fifo : Fifo}

/-- Without the pair that is asked for, as many pairs stay as leave room for one. -/
theorem create_error (h : session.Tracks capacity fifo)
    (herror : Pool.create id (session.pool, session.workspace) = (.error failure, next)) :
    (session.put next).Tracks capacity ((fifo.remove id).makeRoom capacity) := by
  obtain ⟨disk, rfl⟩ := eq_of_create_error herror
  exact (h.close id).evict.with_disk disk

theorem get_error (h : session.Tracks capacity fifo)
    (herror : Pool.get id (session.pool, session.workspace) = (.error failure, next)) :
    (session.put next).Tracks capacity ((fifo.remove id).makeRoom capacity) := by
  obtain ⟨hfind, disk, rfl⟩ := eq_of_get_error herror
  have hsame : fifo.remove id = fifo := by
    have hnot : id ∉ fifo.entries.map Prod.fst :=
      find?_eq_none.1 ((h.find?_eq id).symm.trans hfind)
    unfold Fifo.remove
    rw [List.filter_eq_self.2 fun entry hentry => ?_]
    simp only [ne_eq, decide_not, Bool.not_eq_true', decide_eq_false_iff_not]
    rintro rfl
    exact hnot (List.mem_map_of_mem hentry)
  rw [hsame]
  exact h.evict.with_disk disk

/-- Using a store is nothing to a pool. -/
theorem use (h : session.Tracks capacity fifo) (i : ℕ)
    (action : Database → Except Failure Unit × Database) :
    (session.use i action).Tracks capacity fifo := by
  unfold Session.use Workspace.run
  cases session.given[i]? with
  | none => exact h
  | some handle =>
    dsimp only
    cases session.workspace.database handle with
    | error failure => exact h
    | ok found => exact h.with_disk _

/-- After any attempt the pool tracks some list of pairs. -/
theorem attempt (h : session.Tracks capacity fifo) (attempt : Attempt) :
    ∃ fifo, (session.attempt attempt).Tracks capacity fifo := by
  rcases attempt with step | ⟨i, action⟩ | disk
  · cases step with
    | create id =>
      simp only [Session.attempt]
      cases hopened : Pool.create id (session.pool, session.workspace) with
      | mk result next =>
        cases result with
        | error failure => exact ⟨_, h.create_error hopened⟩
        | ok handle => exact ⟨_, h.create (giveOut_eq_ok.2 ⟨handle, next, hopened, rfl⟩)⟩
    | get id =>
      simp only [Session.attempt]
      cases hopened : Pool.get id (session.pool, session.workspace) with
      | mk result next =>
        cases result with
        | error failure => exact ⟨_, h.get_error hopened⟩
        | ok handle => exact ⟨_, h.get (giveOut_eq_ok.2 ⟨handle, next, hopened, rfl⟩)⟩
    | close id => exact ⟨_, h.close id⟩
    | closeAll => exact ⟨_, h.closeAll⟩
    | release i => exact ⟨_, h.release i⟩
  · exact ⟨_, h.use i action⟩
  · exact ⟨_, h.with_disk disk⟩

theorem attempts (h : session.Tracks capacity fifo) (attempts : List Attempt) :
    ∃ fifo, (session.attempts attempts).Tracks capacity fifo := by
  induction attempts generalizing session fifo with
  | nil => exact ⟨fifo, h⟩
  | cons attempt attempts ih =>
    obtain ⟨fifo, h⟩ := h.attempt attempt
    exact ih h

theorem after (root : String) (capacity : ℕ) (ws : Workspace) (attempts : List Attempt) :
    ∃ fifo, (Session.after root capacity ws attempts).Tracks (max capacity 1) fifo :=
  (Session.Tracks.start root capacity ws).attempts attempts

theorem find?_eq_some (h : session.Tracks capacity fifo) {handle : Handle} :
    session.pool.find? id = some handle ↔ (id, handle) ∈ session.pool.held := by
  unfold find?
  rw [Option.map_eq_some_iff]
  constructor
  · rintro ⟨entry, hentry, rfl⟩
    have hid : entry.1 = id := by simpa using List.find?_some hentry
    exact hid ▸ List.mem_of_find?_eq_some hentry
  · intro hmem
    refine ⟨(id, handle), find?_of_unique hmem (by simp) fun other hother heq => ?_, rfl⟩
    rw [h.held] at hmem hother
    exact List.inj_on_of_nodup_map h.nodup hother hmem (by simpa using heq)

end Session.Tracks

/-! ## What a request that fails leaves -/

/-- What a pool in use becomes when a store cannot be opened: it does not hold it, and of the others
it holds those that leave room for one. -/
structure Session.MadeRoom (session : Session) (id : RunId) (next : State) : Prop where
  gone : next.1.find? id = none
  /-- If there was room, all others are still held. -/
  spares : (session.pool.forget id).size < session.pool.capacity →
    next.1.held = (session.pool.forget id).held
  /-- If not, those that were opened first are held no longer. -/
  held : next.1.held = (session.pool.forget id).held.drop
    ((session.pool.forget id).size + 1 - session.pool.capacity)
  queue : next.1.queue = next.1.held.map Prod.fst
  /-- What is still held is found as before, and is open if it was. -/
  stays : ∀ entry ∈ next.1.held, session.pool.find? entry.1 = some entry.2 ∧
    next.1.find? entry.1 = some entry.2 ∧
      next.2.isClosed entry.2 = session.workspace.isClosed entry.2
  /-- What is held no longer is closed. -/
  leaves : ∀ entry ∈ session.pool.held, entry ∉ next.1.held →
    next.1.find? entry.1 = none ∧ next.2.isClosed entry.2 = true

theorem Session.Tracks.madeRoom {session : Session} {capacity : ℕ} {fifo : Fifo}
    (h : session.Tracks capacity fifo)
    (hnext : (session.put next).Tracks capacity ((fifo.remove id).makeRoom capacity)) :
    session.MadeRoom id next := by
  have hothers : (session.pool.forget id).held = (fifo.remove id).entries := by
    unfold forget Fifo.remove
    rw [h.held]
  have hheld : next.1.held = (session.pool.forget id).held.drop
      ((session.pool.forget id).size + 1 - session.pool.capacity) := by
    unfold Pool.size
    rw [hothers, h.capacity_eq]
    exact hnext.held
  have hsub : ∀ entry ∈ next.1.held, entry ∈ session.pool.held ∧ entry.1 ≠ id := by
    intro entry hentry
    rw [hheld] at hentry
    simpa [forget] using List.mem_of_mem_drop hentry
  have hnone : ∀ other, other ∉ next.1.held.map Prod.fst → next.1.find? other = none := by
    intro other hnot
    refine (hnext.find?_eq other).trans (find?_eq_none.2 ?_)
    rwa [← hnext.held]
  constructor
  case gone =>
    refine hnone id fun hmem => ?_
    obtain ⟨entry, hentry, rfl⟩ := List.mem_map.1 hmem
    exact (hsub entry hentry).2 rfl
  case spares =>
    intro hroom
    rw [hheld, Nat.sub_eq_zero_of_le hroom, List.drop_zero]
  case held => exact hheld
  case queue =>
    rw [show next.1.held = _ from hnext.held]
    exact hnext.queue
  case stays =>
    intro entry hentry
    have hbefore := (hsub entry hentry).1
    refine ⟨h.find?_eq_some.2 hbefore, hnext.find?_eq_some.2 hentry, Bool.eq_iff_iff.2 ?_⟩
    -- Before and after it is closed just if one of its holders has closed it.
    rw [h.isOpen entry (h.held ▸ hbefore)]
    exact hnext.isOpen entry (hnext.held ▸ hentry)
  case leaves =>
    intro entry hentry hnot
    have hlisted : entry ∈ fifo.entries := h.held ▸ hentry
    -- No other pair that was held has its name or its store.
    constructor
    · refine hnone entry.1 fun hmem => ?_
      obtain ⟨other, hother, heq⟩ := List.mem_map.1 hmem
      have hsame := List.inj_on_of_nodup_map h.nodup (h.held ▸ (hsub other hother).1) hlisted heq
      exact hnot (hsame ▸ hother)
    · refine hnext.closed entry.2 (h.listed entry hlisted) fun hmem => ?_
      rw [← hnext.held] at hmem
      obtain ⟨other, hother, heq⟩ := List.mem_map.1 hmem
      have hsame := List.inj_on_of_nodup_map h.nodup_handles (h.held ▸ (hsub other hother).1)
        hlisted heq
      exact hnot (hsame ▸ hother)

/-- **Failed requests.** Whatever has been tried before, a store that cannot be created or got is
not held afterwards; the others stay as they are if there was room for it, and if not, those that
were opened first are closed although nothing takes their place. -/
theorem madeRoom_of_error (root : String) (capacity : ℕ) (ws : Workspace)
    (attempts : List Attempt) (id : RunId) {session : Session}
    (hsession : session = Session.after root capacity ws attempts)
    {outcome : Except Failure Handle × State}
    (houtcome : outcome = create id (session.pool, session.workspace) ∨
      outcome = get id (session.pool, session.workspace)) (h : outcome.1 = .error failure) :
    session.MadeRoom id outcome.2 := by
  subst hsession
  obtain ⟨fifo, htracks⟩ := Session.Tracks.after root capacity ws attempts
  rcases houtcome with rfl | rfl
  · exact htracks.madeRoom (htracks.create_error (Prod.ext h rfl))
  · exact htracks.madeRoom (htracks.get_error (Prod.ext h rfl))

/-- A disk on which a file stands where the folder of job 2 would be. -/
def blockedDisk : Disk := { entries := [(["store"], .folder), (["store", "2"], .file [])] }

/-- With room for three stores, the two that are held stay when a third one cannot be opened. -/
theorem madeRoom_of_error_spared :
    let session := Session.after "store" 3 { disk := blockedDisk }
      [.step (.get ⟨1, 1⟩), .step (.get ⟨3, 1⟩), .step (.release 1)]
    let outcome := create ⟨2, 1⟩ (session.pool, session.workspace)
    outcome.1 = .error (.disk .notFolder) ∧ session.MadeRoom ⟨2, 1⟩ outcome.2 ∧
      outcome.2.1.held = [(⟨1, 1⟩, 0), (⟨3, 1⟩, 1)] ∧
      [0, 1].map outcome.2.2.isClosed = [false, true] := by
  intro session outcome
  have hfails : outcome.1 = .error (.disk .notFolder) := by decide +kernel
  exact ⟨hfails, madeRoom_of_error "store" 3 _ _ _ rfl (.inl rfl) hfails, by decide +kernel,
    by decide +kernel⟩

/-- With room for one store, the one that is held is closed for one that cannot be created. -/
theorem held_lost_by_error :
    let session := Session.after "store" 1 { disk := blockedDisk } [.step (.get ⟨1, 1⟩)]
    let outcome := create ⟨2, 1⟩ (session.pool, session.workspace)
    outcome.1 = .error (.disk .notFolder) ∧
      session.pool.find? ⟨1, 1⟩ = some 0 ∧ session.workspace.isClosed 0 = false ∧
      outcome.2.1.find? ⟨1, 1⟩ = none ∧ outcome.2.2.isClosed 0 = true := by
  decide +kernel

/-! ## What is given out -/

variable {handle : Handle}

theorem isOpen_of_openStore (h : openStore id state = (.ok handle, next)) :
    next.2.isClosed handle = false := by
  unfold openStore at h
  rcases hopened : state.2.openStore (state.1.path id) id.name with ⟨failure | handle, ws⟩
  · simp only [hopened] at h
    cases h
  · simp only [hopened] at h
    cases h
    rw [Workspace.isClosed_of_openStore hopened]
    simp

theorem isOpen_of_create (h : create id state = (.ok handle, next)) :
    next.2.isClosed handle = false := by
  obtain ⟨pool, ws, disk, -, ⟨failure, -, hcreated, -⟩ | ⟨-, hopen⟩⟩ := create_cases h
  · cases hcreated
  · exact isOpen_of_openStore hopen

/-- A store that is asked for is the one that is held, or it has just been opened. -/
theorem get_cases (h : get id state = (.ok handle, next)) :
    (state.1.find? id = some handle ∧ next = state) ∨
      (state.1.find? id = none ∧ next.2.isClosed handle = false) := by
  unfold get at h
  cases hfind : state.1.find? id with
  | some held =>
    simp only [hfind] at h
    cases h
    exact .inl ⟨rfl, rfl⟩
  | none =>
    simp only [hfind] at h
    exact .inr ⟨rfl, isOpen_of_openStore h⟩

theorem database_of_isClosed {ws : Workspace} (h : ws.isClosed handle = true) :
    ∃ name, ws.database handle = .error (.closed name) := by
  unfold Workspace.isClosed at h
  unfold Workspace.database
  cases hstore : ws.stores[handle]? with
  | none => exact ⟨"", rfl⟩
  | some store =>
    simp only [hstore, Bool.not_eq_true'] at h
    exact ⟨store.name, by simp [h]⟩

theorem database_of_isOpen {ws : Workspace} (h : ws.isClosed handle = false) :
    ∃ store, ws.stores[handle]? = some store ∧
      ws.database handle = .ok (store.place, ws.disk.database store.place) := by
  unfold Workspace.isClosed at h
  unfold Workspace.database
  cases hstore : ws.stores[handle]? with
  | none => simp [hstore] at h
  | some store =>
    simp only [hstore, Bool.not_eq_false'] at h
    exact ⟨store, rfl, by simp [h]⟩

/-- What comes of asking a pool in use for the store of a job and run. -/
structure Session.Gives (session : Session) (id : RunId) : Prop where
  /-- A store that is created is open. -/
  created : ∀ {handle next},
    create id (session.pool, session.workspace) = (.ok handle, next) →
      next.2.isClosed handle = false
  /-- A store that is got is open, unless it is held and one of its holders has closed it. -/
  got : ∀ {handle next}, get id (session.pool, session.workspace) = (.ok handle, next) →
    (next.2.isClosed handle = true ↔
      session.pool.find? id = some handle ∧ handle ∈ session.released)
  /-- Then every query of it fails. -/
  refused : ∀ {handle}, session.pool.find? id = some handle → handle ∈ session.released →
    ∃ name, ∀ {α : Type} (query : Database → Except Failure α),
      (ask id query (session.pool, session.workspace)).1 = .error (.closed name)
  /-- Otherwise a query of it is answered by what it holds. -/
  answered : ∀ {handle next}, get id (session.pool, session.workspace) = (.ok handle, next) →
    handle ∉ session.released → ∃ store, next.2.stores[handle]? = some store ∧
      ∀ {α : Type} (query : Database → Except Failure α),
        (ask id query (session.pool, session.workspace)).1 =
          query (next.2.disk.database store.place)

theorem ask_eq {α : Type} {query : Database → Except Failure α}
    (h : get id state = (.ok handle, next)) : (ask id query state).1 = next.2.ask handle query := by
  unfold ask
  rw [h]
  rfl

/-- **Given stores.** Whatever has been tried before, a store that is created is open, and one that
is got is open just if it is not one that a holder has closed while the pool went on holding it. -/
theorem gives_after (root : String) (capacity : ℕ) (ws : Workspace) (attempts : List Attempt)
    (id : RunId) : (Session.after root capacity ws attempts).Gives id := by
  obtain ⟨fifo, h⟩ := Session.Tracks.after root capacity ws attempts
  set session := Session.after root capacity ws attempts
  have hreleased : ∀ {handle}, session.pool.find? id = some handle →
      (session.workspace.isClosed handle = true ↔ handle ∈ session.released) := by
    intro handle hfind
    exact h.isOpen (id, handle) (h.held ▸ h.find?_eq_some.1 hfind)
  have hgot : ∀ {handle next}, get id (session.pool, session.workspace) = (.ok handle, next) →
      (next.2.isClosed handle = true ↔
        session.pool.find? id = some handle ∧ handle ∈ session.released) := by
    intro handle next hget
    rcases get_cases hget with ⟨hfind, rfl⟩ | ⟨hfind, hopen⟩
    · exact (hreleased hfind).trans ⟨fun hmem => ⟨hfind, hmem⟩, And.right⟩
    · simp only [hopen, show session.pool.find? id = none from hfind]
      simp
  constructor
  case created =>
    intro handle next hcreate
    exact isOpen_of_create hcreate
  case got => exact hgot
  case refused =>
    intro handle hfind hmem
    obtain ⟨name, hname⟩ := database_of_isClosed ((hreleased hfind).2 hmem)
    refine ⟨name, fun query => ?_⟩
    have hget : get id (session.pool, session.workspace) =
        (.ok handle, session.pool, session.workspace) := by
      simp only [get, hfind]
    rw [ask_eq hget]
    simp only [Workspace.ask, hname]
    rfl
  case answered =>
    intro handle next hget hnot
    have hopen : next.2.isClosed handle = false :=
      Bool.eq_false_iff.2 fun hclosed => hnot ((hgot hget).1 hclosed).2
    obtain ⟨store, hstore, hdatabase⟩ := database_of_isOpen hopen
    refine ⟨store, hstore, fun query => ?_⟩
    rw [ask_eq hget]
    simp only [Workspace.ask, hdatabase]
    rfl

/-- A store that its holder has closed is given out again as it is, and a query of it fails; the
pool has not noticed. -/
theorem get_released_closed :
    let session := Session.after "store" 10 {} [.step (.get ⟨1, 1⟩), .step (.release 0)]
    let outcome := get ⟨1, 1⟩ (session.pool, session.workspace)
    outcome.1 = .ok 0 ∧ outcome.2.2.isClosed 0 = true ∧ session.pool.has ⟨1, 1⟩ = true ∧
      (ask ⟨1, 1⟩ (fun db => .ok (db.table.get? [])) (session.pool, session.workspace)).1 =
        .error (.closed "1_1") := by
  decide +kernel

end CrawlGraph.Pool
