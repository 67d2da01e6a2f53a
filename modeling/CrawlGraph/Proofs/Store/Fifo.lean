import Mathlib.Data.List.Nodup
import CrawlGraph.Proofs.Failure
import CrawlGraph.Proofs.Grouping
import CrawlGraph.Proofs.Store.Handles
import CrawlGraph.Proofs.Store.Names

/-!
# Pools are queues

A pool keeps its stores twice, in a queue and under what they are for. Whatever is done with it, it
does what one list of pairs does that leaves by the front (`Fifo`), and no store stays open behind
its back: `follows_run`.

1. Evicting drops the first stores of the queue and closes just these (`evictWhile_eq`). Creating a
   store makes room before it empties and opens anything (`create_cases`).
2. A pool that tracks a list of pairs still does so when some of them leave (`Tracks.leave`), and
   when a store is opened at the end (`Tracks.push`).
3. So each step keeps track (`Tracks.perform`), and so does a run (`Tracks.run`).
-/

namespace CrawlGraph.Pool

/-! ## Runs of a pool -/

/-- What may happen to a pool and to the stores that it has given out. -/
inductive Step where
  | create (id : RunId)
  | get (id : RunId)
  | close (id : RunId)
  | closeAll
  /-- Whoever holds the store that was given out at a place of the list closes it. -/
  | release (i : ℕ)
  deriving DecidableEq, Repr

/-- A pool in use. -/
structure Session where
  pool : Pool
  workspace : Workspace
  /-- The stores that the pool has given out, in order. -/
  given : List Handle := []
  /-- The stores that have been closed by those who held them. -/
  released : List Handle := []

namespace Session

/-- A session after its pool has been changed. -/
def put (session : Session) (state : State) : Session :=
  { session with pool := state.1, workspace := state.2 }

/-- A session after its pool has been asked for a store. -/
def giveOut (session : Session) : Except Failure Handle × State → Except Failure Session
  | (.error failure, _) => .error failure
  | (.ok handle, state) => .ok { session.put state with given := session.given ++ [handle] }

theorem giveOut_eq_ok {session next : Session} {opened : Except Failure Handle × State} :
    session.giveOut opened = .ok next ↔ ∃ handle state, opened = (.ok handle, state) ∧
      { session.put state with given := session.given ++ [handle] } = next := by
  obtain ⟨opened, state⟩ := opened
  cases opened with
  | error failure => simp [giveOut]
  | ok handle =>
    constructor
    · rintro ⟨⟩
      exact ⟨handle, state, rfl, rfl⟩
    · rintro ⟨_, _, ⟨⟩, rfl⟩
      rfl

/-- A session after a store that was given out has been closed by its holder. -/
def release (session : Session) (i : ℕ) : Session :=
  match session.given[i]? with
  | none => session
  | some handle =>
    { session with
      workspace := session.workspace.close handle
      released := session.released ++ [handle] }

/-- A session after a step. It fails if a store cannot be opened. -/
def perform (session : Session) : Step → Except Failure Session
  | .create id => session.giveOut (Pool.create id (session.pool, session.workspace))
  | .get id => session.giveOut (Pool.get id (session.pool, session.workspace))
  | .close id => .ok (session.put (Pool.close id (session.pool, session.workspace)))
  | .closeAll => .ok (session.put (Pool.closeAll (session.pool, session.workspace)))
  | .release i => .ok (session.release i)

/-- A session after steps in order. -/
def run (session : Session) (steps : List Step) : Except Failure Session :=
  steps.foldlM perform session

end Session

/-! ## Lists of pairs -/

/-- What a pool is to do, said with one list. -/
structure Fifo where
  /-- The pairs with their stores, the one opened first in front. -/
  entries : List (RunId × Handle) := []
  /-- The number that the next store gets. -/
  next : Handle
  /-- The stores that have been given out, in order. -/
  given : List Handle := []
  deriving DecidableEq, Repr

namespace Fifo

/-- Takes a pair away, if it is there. -/
def remove (fifo : Fifo) (id : RunId) : Fifo :=
  { fifo with entries := fifo.entries.filter (·.1 ≠ id) }

/-- Drops pairs from the front until fewer than `capacity` are left. -/
def makeRoom (fifo : Fifo) (capacity : ℕ) : Fifo :=
  { fifo with entries := fifo.entries.drop (fifo.entries.length + 1 - capacity) }

/-- Appends a pair with a new store and gives this out. -/
def push (fifo : Fifo) (id : RunId) : Fifo :=
  { entries := fifo.entries ++ [(id, fifo.next)]
    next := fifo.next + 1
    given := fifo.given ++ [fifo.next] }

/-- The store of a pair. -/
def find? (fifo : Fifo) (id : RunId) : Option Handle :=
  (fifo.entries.find? fun entry => entry.1 = id).map Prod.snd

/-- A list of pairs after a step. -/
def perform (capacity : ℕ) (fifo : Fifo) : Step → Fifo
  | .create id => ((fifo.remove id).makeRoom capacity).push id
  | .get id =>
    match fifo.find? id with
    | some handle => { fifo with given := fifo.given ++ [handle] }
    | none => (fifo.makeRoom capacity).push id
  | .close id => fifo.remove id
  | .closeAll => { fifo with entries := [] }
  | .release _ => fifo

/-- A list of pairs after steps in order. -/
def run (capacity : ℕ) (fifo : Fifo) (steps : List Step) : Fifo :=
  steps.foldl (perform capacity) fifo

end Fifo

/-- What a pool in use has to do with a list of pairs. -/
structure Session.Follows (session : Session) (capacity : ℕ) (fifo : Fifo) : Prop where
  /-- The queue is that of the pairs, and no two of its names are equal. -/
  queue : session.pool.queue = fifo.entries.map Prod.fst
  nodup : (session.pool.queue.map RunId.name).Nodup
  /-- The stores are held under the names that are queued. -/
  names : (session.pool.held.map fun entry => entry.1.name).Perm
    (session.pool.queue.map RunId.name)
  has : ∀ id, session.pool.has id ↔ id ∈ session.pool.queue
  /-- For each pair its store is held, and a request for it gives this and changes nothing. -/
  find : ∀ id, session.pool.find? id = fifo.find? id
  get : ∀ id handle, session.pool.find? id = some handle →
    Pool.get id (session.pool, session.workspace) =
      (.ok handle, session.pool, session.workspace)
  size : session.pool.size ≤ capacity
  /-- The stores that have been given out are those that the list of pairs gives out. -/
  given : session.given = fifo.given
  /-- A store that has been given out and is held for no pair of the queue is closed. -/
  closed : ∀ handle ∈ session.given,
    (∀ id ∈ session.pool.queue, session.pool.find? id ≠ some handle) →
      session.workspace.isClosed handle
  /-- A store that is held is open unless its holder has closed it. -/
  isOpen : ∀ id ∈ session.pool.queue, ∀ handle, session.pool.find? id = some handle →
    (session.workspace.isClosed handle ↔ handle ∈ session.released)

/-! ## Leaving by the front -/

/-- The stores that leave are the first ones, and they are closed. -/
theorem evictWhile_eq {goesOn : Pool → Bool} {count : ℕ} (pool : Pool)
    (hgoesOn : ∀ held, held ≠ [] → (goesOn { pool with held } = true ↔ count < held.length))
    (hnodup : (pool.held.map Prod.fst).Nodup) (ws : Workspace) :
    let excess := pool.held.length - count
    evictWhile goesOn (pool.held.map Prod.fst) (pool, ws) =
      ({ pool with
          held := pool.held.drop excess
          queue := (pool.held.drop excess).map Prod.fst },
        ws.closeEach ((pool.held.take excess).map Prod.snd)) := by
  obtain ⟨root, capacity, held, queue, hpos⟩ := pool
  induction held generalizing ws with
  | nil => simp [evictWhile, Workspace.closeEach]
  | cons entry held ih =>
    obtain ⟨hnot, hrest⟩ := List.nodup_cons.1 hnodup
    have hfound : find? ⟨root, capacity, entry :: held, queue, hpos⟩ entry.1 = some entry.2 := by
      simp [find?]
    -- no other entry has the key of the first one, so forgetting it leaves the rest
    have hforget : forget ⟨root, capacity, entry :: held, queue, hpos⟩ entry.1 =
        ⟨root, capacity, held, queue, hpos⟩ := by
      have hother : ∀ other ∈ held, other.1 ≠ entry.1 := by
        rintro other hother heq
        exact hnot (heq ▸ List.mem_map_of_mem hother)
      simpa [forget] using fun id handle hmem => hother (id, handle) hmem
    by_cases hlt : count < held.length + 1
    · have hexcess : (entry :: held).length - count = (held.length - count) + 1 := by
        rw [List.length_cons]
        omega
      have hon : goesOn ⟨root, capacity, entry :: held, queue, hpos⟩ = true :=
        (hgoesOn (entry :: held) (List.cons_ne_nil _ _)).2 hlt
      simp only [List.map_cons, evictWhile, hon, if_true, hfound, hforget, hexcess,
        List.drop_succ_cons, List.take_succ_cons]
      exact ih (ws.close entry.2) hgoesOn hrest
    · have hexcess : (entry :: held).length - count = 0 := by
        rw [List.length_cons]
        omega
      have hoff : goesOn ⟨root, capacity, entry :: held, queue, hpos⟩ = false := by
        rw [← Bool.not_eq_true, hgoesOn (entry :: held) (List.cons_ne_nil _ _)]
        exact hlt
      simp only [List.map_cons, evictWhile, hoff, hexcess, List.drop_zero, List.take_zero]
      rfl

/-- When there is room for a store, creating it empties its folder and, where that does not fail,
opens it. -/
theorem create_cases {id : RunId} {state next : State} {created : Except Failure Handle}
    (h : create id state = (created, next)) :
    ∃ pool ws disk, evict (close id state) = (pool, ws) ∧
      ((∃ failure, emptyFolder ws.disk (pool.path id) = (.error failure, disk) ∧
          created = .error failure ∧ next = (pool, { ws with disk })) ∨
        emptyFolder ws.disk (pool.path id) = (.ok (), disk) ∧
          openStore id (pool, { ws with disk }) = (created, next)) := by
  unfold create at h
  rcases hroom : evict (close id state) with ⟨pool, ws⟩
  simp only [hroom] at h
  rcases hempty : emptyFolder ws.disk (pool.path id) with ⟨failure | ⟨⟩, disk⟩
  · simp only [hempty] at h
    cases h
    exact ⟨pool, ws, disk, rfl, .inl ⟨failure, hempty, rfl, rfl⟩⟩
  · simp only [hempty] at h
    exact ⟨pool, ws, disk, rfl, .inr ⟨hempty, h⟩⟩

/-! ## Keeping track -/

/-- A pool in use whose stores are those of a list of pairs. -/
structure Session.Tracks (session : Session) (capacity : ℕ) (fifo : Fifo) : Prop where
  capacity_eq : session.pool.capacity = capacity
  held : session.pool.held = fifo.entries
  queue : session.pool.queue = fifo.entries.map Prod.fst
  nodup : (fifo.entries.map Prod.fst).Nodup
  nodup_handles : (fifo.entries.map Prod.snd).Nodup
  size : fifo.entries.length ≤ capacity
  next : fifo.next = session.workspace.stores.length
  given : session.given = fifo.given
  known : ∀ handle ∈ fifo.given, handle < fifo.next
  listed : ∀ entry ∈ fifo.entries, entry.2 ∈ fifo.given
  released : ∀ handle ∈ session.released, handle ∈ fifo.given
  closed : ∀ handle ∈ fifo.given, handle ∉ fifo.entries.map Prod.snd →
    session.workspace.isClosed handle
  isOpen : ∀ entry ∈ fifo.entries,
    (session.workspace.isClosed entry.2 ↔ entry.2 ∈ session.released)

namespace Session.Tracks

variable {session : Session} {capacity : ℕ} {fifo : Fifo}

/-- A new pool tracks the empty list. -/
theorem start (root : String) (capacity : ℕ) (ws : Workspace) :
    Session.Tracks { pool := Pool.start root capacity, workspace := ws } (max capacity 1)
      { next := ws.stores.length } := by
  constructor
  case capacity_eq => rfl
  case held => rfl
  case queue => rfl
  case next => rfl
  case given => rfl
  case size => exact Nat.zero_le _
  all_goals simp

theorem find?_eq (h : session.Tracks capacity fifo) (id : RunId) :
    session.pool.find? id = fifo.find? id := by
  unfold find? Fifo.find?
  rw [h.held]

/-- When some pairs leave and just their stores are closed, the pool tracks those that stay. -/
theorem leave (h : session.Tracks capacity fifo) {entries : List (RunId × Handle)}
    (hsub : entries.Sublist fifo.entries) {ws : Workspace}
    (hlength : ws.stores.length = session.workspace.stores.length)
    (hclosed : ∀ handle, ws.isClosed handle ↔ session.workspace.isClosed handle ∨
      ∃ entry ∈ fifo.entries, entry ∉ entries ∧ entry.2 = handle) :
    ({ session with
        pool := { session.pool with held := entries, queue := entries.map Prod.fst }
        workspace := ws } : Session).Tracks capacity { fifo with entries } where
  capacity_eq := h.capacity_eq
  held := rfl
  queue := rfl
  nodup := h.nodup.sublist (hsub.map Prod.fst)
  nodup_handles := h.nodup_handles.sublist (hsub.map Prod.snd)
  size := Nat.le_trans hsub.length_le h.size
  next := h.next.trans hlength.symm
  given := h.given
  known := h.known
  listed entry hentry := h.listed entry (hsub.subset hentry)
  released := h.released
  closed handle hgiven hnot := by
    show ws.isClosed handle
    rw [hclosed]
    by_cases hbefore : handle ∈ fifo.entries.map Prod.snd
    · obtain ⟨entry, hentry, rfl⟩ := List.mem_map.1 hbefore
      exact .inr ⟨entry, hentry, fun hmem => hnot (List.mem_map_of_mem hmem), rfl⟩
    · exact .inl (h.closed handle hgiven hbefore)
  isOpen entry hentry := by
    show ws.isClosed entry.2 ↔ _
    rw [hclosed, ← h.isOpen entry (hsub.subset hentry)]
    -- Its store is that of no other pair, so it is not among those that leave.
    refine ⟨fun hor => hor.resolve_right ?_, .inl⟩
    rintro ⟨other, hother, hnot, heq⟩
    have := List.inj_on_of_nodup_map h.nodup_handles hother (hsub.subset hentry) heq
    exact hnot (this ▸ hentry)

theorem close (h : session.Tracks capacity fifo) (id : RunId) :
    (session.put (Pool.close id (session.pool, session.workspace))).Tracks capacity
      (fifo.remove id) := by
  cases hfind : session.pool.find? id with
  | none =>
    have hnot : ∀ entry ∈ fifo.entries, entry.1 ≠ id := by
      rw [h.find?_eq] at hfind
      simpa [Fifo.find?] using hfind
    have hsame : fifo.remove id = fifo := by
      unfold Fifo.remove
      rw [List.filter_eq_self.2 fun entry hentry => by simpa using hnot entry hentry]
    simp only [Pool.close, hfind, hsame]
    exact h
  | some handle =>
    have hmem : (id, handle) ∈ fifo.entries := by
      rw [h.find?_eq] at hfind
      obtain ⟨entry, hentry, rfl⟩ := Option.map_eq_some_iff.1 hfind
      have hid : entry.1 = id := by simpa using List.find?_some hentry
      exact hid ▸ List.mem_of_find?_eq_some hentry
    have hqueue : session.pool.queue.filter (· ≠ id) =
        (fifo.entries.filter (·.1 ≠ id)).map Prod.fst := by
      rw [h.queue, List.filter_map]
      rfl
    simp only [Pool.close, hfind, hqueue, Session.put, forget, h.held]
    refine h.leave List.filter_sublist (Workspace.length_close _ _) fun other => ?_
    rw [Workspace.isClosed_close, Bool.or_eq_true, decide_eq_true_iff, or_comm]
    refine or_congr_right ?_
    constructor
    · rintro rfl
      exact ⟨(id, handle), hmem, by simp, rfl⟩
    · rintro ⟨entry, hentry, hnot, rfl⟩
      have hid : entry.1 = id := by
        by_contra hne
        exact hnot (List.mem_filter.2 ⟨hentry, by simpa using hne⟩)
      exact congrArg Prod.snd
        (List.inj_on_of_nodup_map h.nodup hmem hentry hid.symm)

/-- Evicting until no more than `count` stores are left drops the pairs in front. -/
theorem evictWhile (h : session.Tracks capacity fifo) {goesOn : Pool → Bool} {count : ℕ}
    (hgoesOn : ∀ held, held ≠ [] →
      (goesOn { session.pool with held } = true ↔ count < held.length)) :
    (session.put (Pool.evictWhile goesOn session.pool.queue
        (session.pool, session.workspace))).Tracks capacity
      { fifo with entries := fifo.entries.drop (fifo.entries.length - count) } := by
  have hnodup := h.nodup
  rw [← h.held] at hnodup
  rw [h.queue, ← h.held, evictWhile_eq session.pool hgoesOn hnodup]
  unfold Session.put
  rw [h.held]
  set excess := fifo.entries.length - count
  refine h.leave (List.drop_sublist _ _) (Workspace.length_closeEach _ _) fun handle => ?_
  rw [Workspace.isClosed_closeEach, Bool.or_eq_true, decide_eq_true_iff, or_comm]
  refine or_congr_right ?_
  have hsplit : (fifo.entries.take excess ++ fifo.entries.drop excess).Nodup := by
    rw [List.take_append_drop]
    exact h.nodup.of_map
  rw [List.mem_map]
  constructor
  · rintro ⟨entry, hentry, rfl⟩
    exact ⟨entry, List.mem_of_mem_take hentry,
      fun hmem => (List.nodup_append.1 hsplit).2.2 entry hentry entry hmem rfl, rfl⟩
  · rintro ⟨entry, hentry, hnot, rfl⟩
    rw [← List.take_append_drop excess fifo.entries, List.mem_append] at hentry
    exact ⟨entry, hentry.resolve_right hnot, rfl⟩

theorem evict (h : session.Tracks capacity fifo) :
    (session.put (Pool.evict (session.pool, session.workspace))).Tracks capacity
      (fifo.makeRoom capacity) := by
  have hpos := session.pool.capacity_pos
  have hcapacity := h.capacity_eq
  have hlength : fifo.entries.length + 1 - capacity = fifo.entries.length - (capacity - 1) := by
    omega
  unfold Fifo.makeRoom
  rw [hlength]
  refine h.evictWhile fun held hne => ?_
  have := List.length_pos_of_ne_nil hne
  show decide (session.pool.capacity ≤ held.length) = true ↔ capacity - 1 < held.length
  rw [decide_eq_true_iff]
  omega

theorem closeAll (h : session.Tracks capacity fifo) :
    (session.put (Pool.closeAll (session.pool, session.workspace))).Tracks capacity
      { fifo with entries := [] } := by
  have hevict : (session.put (Pool.closeAll (session.pool, session.workspace))).Tracks capacity
      { fifo with entries := fifo.entries.drop (fifo.entries.length - 0) } :=
    h.evictWhile fun held hne => by simpa using List.length_pos_of_ne_nil hne
  rwa [Nat.sub_zero, List.drop_length] at hevict

/-- What happens on the disk is nothing to a pool. -/
theorem with_disk (h : session.Tracks capacity fifo) (disk : Disk) :
    ({ session with workspace := { session.workspace with disk } } : Session).Tracks
      capacity fifo :=
  ⟨h.capacity_eq, h.held, h.queue, h.nodup, h.nodup_handles, h.size, h.next, h.given, h.known,
    h.listed, h.released, h.closed, h.isOpen⟩

/-- A store that is opened is held at the end, if there is room and none is held for its pair. -/
theorem push (h : session.Tracks capacity fifo) {id : RunId} (hnot : id ∉ fifo.entries.map Prod.fst)
    (hroom : fifo.entries.length < capacity) {handle : Handle} {state : State}
    (hopen : Pool.openStore id (session.pool, session.workspace) = (.ok handle, state)) :
    ({ session.put state with given := session.given ++ [handle] } : Session).Tracks capacity
      (fifo.push id) := by
  unfold Pool.openStore at hopen
  cases hstore : session.workspace.openStore (session.pool.path id) id.name with
  | mk opened ws =>
    cases opened with
    | error failure =>
      simp only [hstore] at hopen
      cases hopen
    | ok handle =>
      simp only [hstore] at hopen
      cases hopen
      have hisClosed := Workspace.isClosed_of_openStore hstore
      obtain ⟨place, disk, -, rfl, rfl⟩ := Workspace.openStore_eq_ok.1 hstore
      have hforget : session.pool.forget id = session.pool := by
        have hother : ∀ entry ∈ session.pool.held, entry.1 ≠ id := by
          rw [h.held]
          rintro entry hentry rfl
          exact hnot (List.mem_map_of_mem hentry)
        unfold forget
        rw [List.filter_eq_self.2 fun entry hentry => by simpa using hother entry hentry]
      have hfresh : ∀ handle ∈ fifo.given, handle ≠ fifo.next :=
        fun handle hgiven => Nat.ne_of_lt (h.known handle hgiven)
      constructor
      case capacity_eq => exact h.capacity_eq
      case held =>
        show (session.pool.forget id).held ++ _ = fifo.entries ++ _
        rw [hforget, h.held, h.next]
      case queue =>
        show session.pool.queue ++ _ = (fifo.entries ++ _).map Prod.fst
        rw [h.queue, List.map_append]
        rfl
      case nodup =>
        show ((fifo.entries ++ _).map Prod.fst).Nodup
        rw [List.map_append, List.nodup_append_comm]
        exact List.nodup_cons.2 ⟨hnot, h.nodup⟩
      case nodup_handles =>
        show ((fifo.entries ++ _).map Prod.snd).Nodup
        rw [List.map_append, List.nodup_append_comm]
        refine List.nodup_cons.2 ⟨fun hmem => ?_, h.nodup_handles⟩
        obtain ⟨entry, hentry, heq⟩ := List.mem_map.1 hmem
        exact hfresh _ (h.listed entry hentry) heq
      case size =>
        show (fifo.entries ++ _).length ≤ _
        rw [List.length_append]
        exact hroom
      case next =>
        show fifo.next + 1 = (session.workspace.stores ++ _).length
        rw [List.length_append, h.next]
        rfl
      case given =>
        show session.given ++ _ = fifo.given ++ _
        rw [h.given, h.next]
      case known =>
        intro handle hgiven
        rcases List.mem_append.1 hgiven with hgiven | hgiven
        · exact Nat.lt_succ_of_lt (h.known handle hgiven)
        · rw [List.mem_singleton.1 hgiven]
          exact Nat.lt_succ_self _
      case listed =>
        intro entry hentry
        rcases List.mem_append.1 hentry with hentry | hentry
        · exact List.mem_append_left _ (h.listed entry hentry)
        · rw [List.mem_singleton.1 hentry]
          exact List.mem_append_right _ (List.mem_singleton_self _)
      case released => exact fun handle hmem => List.mem_append_left _ (h.released handle hmem)
      case closed =>
        intro handle hgiven hnotHeld
        have hne : handle ≠ fifo.next := by
          rintro rfl
          exact hnotHeld (List.mem_map.2
            ⟨(id, fifo.next), List.mem_append_right _ (List.mem_singleton_self _), rfl⟩)
        have hbefore : handle ∉ fifo.entries.map Prod.snd := fun hmem =>
          hnotHeld (by rw [show (fifo.push id).entries = fifo.entries ++ _ from rfl,
            List.map_append]; exact List.mem_append_left _ hmem)
        have hgiven : handle ∈ fifo.given :=
          (List.mem_append.1 hgiven).resolve_right fun hmem => hne (List.mem_singleton.1 hmem)
        refine (hisClosed handle).trans ?_
        rw [← h.next, decide_eq_true hne, Bool.true_and]
        exact h.closed handle hgiven hbefore
      case isOpen =>
        intro entry hentry
        refine (Bool.eq_iff_iff.1 (hisClosed entry.2)).trans ?_
        rcases List.mem_append.1 hentry with hentry | hentry
        · have hne := hfresh _ (h.listed entry hentry)
          rw [← h.next, decide_eq_true hne, Bool.true_and]
          exact h.isOpen entry hentry
        · rw [List.mem_singleton.1 hentry, ← h.next]
          simp only [ne_eq, not_true_eq_false, decide_false, Bool.false_and, Bool.false_eq_true,
            false_iff]
          intro hmem
          exact hfresh _ (h.released _ hmem) rfl

theorem release (h : session.Tracks capacity fifo) (i : ℕ) :
    (session.release i).Tracks capacity fifo := by
  unfold Session.release
  cases hgiven : session.given[i]? with
  | none => exact h
  | some handle =>
    have hmem : handle ∈ fifo.given := h.given ▸ List.mem_of_getElem? hgiven
    exact {
      h with
      released := fun other hother => by
        rcases List.mem_append.1 hother with hother | hother
        · exact h.released other hother
        · rw [List.mem_singleton.1 hother]
          exact hmem
      next := h.next.trans (Workspace.length_close _ _).symm
      closed := fun other hother hnot => by
        show (session.workspace.close handle).isClosed other
        rw [Workspace.isClosed_close, h.closed other hother hnot, Bool.or_true]
      isOpen := fun entry hentry => by
        show (session.workspace.close handle).isClosed entry.2 ↔ entry.2 ∈ session.released ++ _
        rw [Workspace.isClosed_close, Bool.or_eq_true, decide_eq_true_iff, h.isOpen entry hentry,
          List.mem_append, List.mem_singleton, or_comm, eq_comm] }

theorem find?_eq_none {id : RunId} : fifo.find? id = none ↔ id ∉ fifo.entries.map Prod.fst := by
  unfold Fifo.find?
  rw [Option.map_eq_none_iff, List.find?_eq_none, List.mem_map, not_exists]
  simp

theorem keys_makeRoom {id : RunId} (hnot : id ∉ fifo.entries.map Prod.fst) (capacity : ℕ) :
    id ∉ (fifo.makeRoom capacity).entries.map Prod.fst :=
  fun hmem => hnot (((List.drop_sublist _ _).map _).subset hmem)

theorem length_makeRoom (fifo : Fifo) (hpos : 0 < capacity) :
    (fifo.makeRoom capacity).entries.length < capacity := by
  unfold Fifo.makeRoom
  rw [List.length_drop]
  omega

theorem create (h : session.Tracks capacity fifo) {id : RunId} {next : Session}
    (hcreate : session.giveOut (Pool.create id (session.pool, session.workspace)) = .ok next) :
    next.Tracks capacity (((fifo.remove id).makeRoom capacity).push id) := by
  have hpos : 0 < capacity := h.capacity_eq ▸ session.pool.capacity_pos
  have hnot : id ∉ (fifo.remove id).entries.map Prod.fst := by simp [Fifo.remove]
  obtain ⟨handle, opened, hopen, rfl⟩ := giveOut_eq_ok.1 hcreate
  have hroom : (session.put (Pool.evict (Pool.close id (session.pool, session.workspace)))).Tracks
      capacity ((fifo.remove id).makeRoom capacity) := (h.close id).evict
  obtain ⟨pool, ws, disk, hevict, ⟨failure, -, hcreated, -⟩ | ⟨-, hopened⟩⟩ := create_cases hopen
  · cases hcreated
  · rw [hevict] at hroom
    exact (hroom.with_disk disk).push (keys_makeRoom hnot capacity) (length_makeRoom _ hpos) hopened

/-- A store that is held is given out again. -/
theorem again (h : session.Tracks capacity fifo) {id : RunId} {handle : Handle}
    (hheld : fifo.find? id = some handle) :
    ({ session with given := session.given ++ [handle] } : Session).Tracks capacity
      { fifo with given := fifo.given ++ [handle] } := by
  have hmem : handle ∈ fifo.given := by
    obtain ⟨entry, hentry, rfl⟩ := Option.map_eq_some_iff.1 hheld
    exact h.listed entry (List.mem_of_find?_eq_some hentry)
  have hgiven : ∀ other, other ∈ fifo.given ++ [handle] ↔ other ∈ fifo.given := by
    intro other
    simp only [List.mem_append, List.mem_singleton, or_iff_left_iff_imp]
    rintro rfl
    exact hmem
  exact {
    h with
    given := congrArg (· ++ [handle]) h.given
    known := fun other hother => h.known other ((hgiven other).1 hother)
    listed := fun entry hentry => (hgiven _).2 (h.listed entry hentry)
    released := fun other hother => (hgiven _).2 (h.released other hother)
    closed := fun other hother => h.closed other ((hgiven other).1 hother) }

theorem get (h : session.Tracks capacity fifo) {id : RunId} {next : Session}
    (hget : session.giveOut (Pool.get id (session.pool, session.workspace)) = .ok next) :
    next.Tracks capacity (fifo.perform capacity (.get id)) := by
  have hpos : 0 < capacity := h.capacity_eq ▸ session.pool.capacity_pos
  obtain ⟨handle, opened, hopen, rfl⟩ := giveOut_eq_ok.1 hget
  unfold Pool.get at hopen
  cases hheld : fifo.find? id with
  | some held =>
    simp only [h.find?_eq, hheld, Prod.mk.injEq, Except.ok.injEq] at hopen
    obtain ⟨rfl, rfl⟩ := hopen
    simp only [Fifo.perform, hheld]
    exact h.again hheld
  | none =>
    have hroom := h.evict
    simp only [h.find?_eq, hheld] at hopen
    simp only [Fifo.perform, hheld]
    generalize Pool.evict (session.pool, session.workspace) = state at hroom hopen
    obtain ⟨pool, ws⟩ := state
    exact hroom.push (keys_makeRoom (find?_eq_none.1 hheld) capacity) (length_makeRoom _ hpos) hopen

/-- A step keeps track. -/
theorem perform (h : session.Tracks capacity fifo) {step : Step} {next : Session}
    (hstep : session.perform step = .ok next) : next.Tracks capacity (fifo.perform capacity step) := by
  cases step with
  | create id => exact h.create hstep
  | get id => exact h.get hstep
  | close id =>
    cases hstep
    exact h.close id
  | closeAll =>
    cases hstep
    exact h.closeAll
  | release i =>
    cases hstep
    exact h.release i

/-- A run keeps track. -/
theorem run (h : session.Tracks capacity fifo) {steps : List Step} {last : Session}
    (hrun : session.run steps = .ok last) : last.Tracks capacity (fifo.run capacity steps) := by
  induction steps generalizing session fifo with
  | nil =>
    cases hrun
    exact h
  | cons step steps ih =>
    obtain ⟨next, hstep, hrest⟩ := foldlM_cons_eq_ok.1 hrun
    exact ih (h.perform hstep) hrest

theorem follows (h : session.Tracks capacity fifo) : session.Follows capacity fifo := by
  have hfind := h.find?_eq
  have hmem : ∀ {id handle}, fifo.find? id = some handle → (id, handle) ∈ fifo.entries := by
    intro id handle hfound
    obtain ⟨entry, hentry, rfl⟩ := Option.map_eq_some_iff.1 hfound
    have hid : entry.1 = id := by simpa using List.find?_some hentry
    exact hid ▸ List.mem_of_find?_eq_some hentry
  have hfound : ∀ entry ∈ fifo.entries, fifo.find? entry.1 = some entry.2 := by
    intro entry hentry
    unfold Fifo.find?
    rw [find?_of_unique hentry (by simp) fun other hother heq =>
      List.inj_on_of_nodup_map h.nodup hother hentry (by simpa using heq)]
    rfl
  constructor
  case queue => exact h.queue
  case nodup =>
    rw [h.queue]
    exact h.nodup.map RunId.name_injective
  case names =>
    rw [h.held, h.queue, List.map_map]
    exact List.Perm.refl _
  case has =>
    intro id
    unfold has
    rw [hfind, h.queue, ← not_iff_not, ← find?_eq_none, Option.not_isSome_iff_eq_none]
  case find => exact hfind
  case get =>
    intro id handle hheld
    simp only [Pool.get, hheld]
  case size =>
    show session.pool.held.length ≤ capacity
    rw [h.held]
    exact h.size
  case given => exact h.given
  case closed =>
    intro handle hgiven hnot
    refine h.closed handle (h.given ▸ hgiven) fun hlisted => ?_
    obtain ⟨entry, hentry, rfl⟩ := List.mem_map.1 hlisted
    refine hnot entry.1 ?_ ((hfind _).trans (hfound entry hentry))
    rw [h.queue]
    exact List.mem_map_of_mem hentry
  case isOpen =>
    intro id _ handle hheld
    exact h.isOpen (id, handle) (hmem ((hfind id).symm.trans hheld))

end Session.Tracks

/-- **Pools.** Whatever is done with a pool in which all stores can be opened, it does what a list
of pairs does that leaves by the front, and a store is open just as long as it is listed. -/
theorem follows_run (root : String) (capacity : ℕ) (ws : Workspace) (steps : List Step)
    {session : Session}
    (h : Session.run { pool := Pool.start root capacity, workspace := ws } steps = .ok session) :
    session.Follows (max capacity 1)
      (Fifo.run (max capacity 1) { next := ws.stores.length } steps) := by
  exact ((Session.Tracks.start root capacity ws).run h).follows

/-- With room for two stores, a third one takes the place of the first, also if that was asked for
again; a store that is created anew takes the place of its predecessor. -/
theorem follows_run_evicted :
    let steps : List Step :=
      [.get ⟨1, 1⟩, .get ⟨1, 2⟩, .get ⟨1, 1⟩, .create ⟨1, 2⟩, .get ⟨2, 1⟩, .release 3]
    let fifo := Fifo.run 2 { next := 0 } steps
    fifo = { entries := [(⟨1, 2⟩, 2), (⟨2, 1⟩, 3)], next := 4, given := [0, 1, 0, 2, 3] } ∧
      ∃ session : Session,
        Session.run { pool := Pool.start "store" 2, workspace := {} } steps = .ok session ∧
          session.Follows 2 fifo ∧ session.released = [2] ∧
          session.given.map session.workspace.isClosed = [true, true, true, true, false] := by
  intro steps fifo
  have hopens : (Session.run { pool := Pool.start "store" 2, workspace := {} } steps).map
      (fun session => (session.released, session.given.map session.workspace.isClosed)) =
        .ok ([2], [true, true, true, true, false]) := by
    decide +kernel
  cases hrun : Session.run { pool := Pool.start "store" 2, workspace := {} } steps with
  | error failure =>
    rw [hrun] at hopens
    cases hopens
  | ok session =>
    rw [hrun] at hopens
    injection hopens with hopens
    exact ⟨by decide, session, rfl, follows_run "store" 2 {} steps hrun,
      congrArg Prod.fst hopens, congrArg Prod.snd hopens⟩

end CrawlGraph.Pool
