import Mathlib.Data.List.ReduceOption
import CrawlGraph.Proofs.Store.Progress
import CrawlGraph.Store.Workspace

/-!
# Scans of a store that changes

Whatever happens to a store between the pages that a scan reads, its items come in order, and none
of a record that stays is missed or given twice. A scan of a closed store gives what it has read,
then one failure, and then nothing: `promises_run`.

1. A change leaves a store its name (`name_of_change`), and a closed store stays closed
   (`table_of_change`).
2. A round of a call, and so a whole call, keeps account of what has been read (`Sound.round`,
   `Sound.next`).
3. All steps of a schedule do so (`Sound.run`). Once the store is closed, each call gives the next
   item of those that are left (`answers_of_closed`).
-/

namespace CrawlGraph

/-! ## Changes of a store -/

/-- What may happen to a store between two calls. -/
inductive Change where
  | put (key value : Bytes)
  | putAll (records : List (Bytes × Bytes))
  | delete (key : Bytes)
  | close

/-- The workspace after a change of one of its stores. A change that fails leaves it as it is. -/
def Change.apply (change : Change) (ws : Workspace) (handle : Handle) : Workspace :=
  match change with
  | .put key value => (ws.change handle fun db => db.put key value).2
  | .putAll records => (ws.change handle fun db => db.putAll records).2
  | .delete key => (ws.run handle fun db => (.ok (), db.delete key)).2
  | .close => ws.close handle

namespace Workspace

variable {ws : Workspace} {handle : Handle} {name : String} {failure : Failure}

theorem name_run {α : Type} (ws : Workspace) (handle : Handle)
    (action : Database → Except Failure α × Database) :
    ((ws.run handle action).2.stores[handle]?).map Store.name =
      (ws.stores[handle]?).map Store.name := by
  unfold run
  cases ws.database handle with
  | error failure => rfl
  | ok found => rfl

theorem table_eq_error :
    ws.table handle = .error failure ↔ ws.database handle = .error failure := by
  unfold table ask
  cases ws.database handle with
  | error other =>
    constructor
    · rintro ⟨⟩
      rfl
    · rintro ⟨⟩
      rfl
  | ok found => exact ⟨nofun, nofun⟩

/-- What is done with a store that refuses everything changes nothing. -/
theorem table_run {α : Type} (h : ws.table handle = .error failure)
    (action : Database → Except Failure α × Database) :
    (ws.run handle action).2.table handle = .error failure := by
  unfold run
  rw [table_eq_error.1 h]
  exact h

theorem name_of_change (ws : Workspace) (handle : Handle) (change : Change) :
    ((change.apply ws handle).stores[handle]?).map Store.name =
      (ws.stores[handle]?).map Store.name := by
  cases change with
  | put key value => exact name_run ws handle _
  | putAll records => exact name_run ws handle _
  | delete key => exact name_run ws handle _
  | close =>
    show ((ws.stores.modify handle _)[handle]?).map Store.name = _
    rw [List.getElem?_modify_eq, Option.map_eq_map, Option.map_map]
    rfl

theorem database_close (hname : (ws.stores[handle]?).map Store.name = some name) :
    (ws.close handle).database handle = .error (.closed name) := by
  obtain ⟨store, hstore, rfl⟩ := Option.map_eq_some_iff.1 hname
  unfold close database
  rw [List.getElem?_modify_eq, hstore]
  rfl

/-- The only failure of a store that has been opened is that it is closed. -/
theorem closed_of_table (hname : (ws.stores[handle]?).map Store.name = some name)
    (htable : ws.table handle = .error failure) : failure = .closed name := by
  obtain ⟨store, hstore, rfl⟩ := Option.map_eq_some_iff.1 hname
  rw [table_eq_error] at htable
  unfold database at htable
  simp only [hstore] at htable
  split at htable
  · cases htable
  · cases htable
    rfl

/-- No change opens a store. -/
theorem table_of_change (h : ws.table handle = .error failure) (change : Change) :
    (change.apply ws handle).table handle = .error failure := by
  cases change with
  | put key value => exact table_run h _
  | putAll records => exact table_run h _
  | delete key => exact table_run h _
  | close =>
    rw [table_eq_error] at h ⊢
    cases hstore : ws.stores[handle]? with
    | none =>
      unfold database at h
      rw [hstore] at h
      unfold Change.apply close database
      rw [List.getElem?_modify_eq, hstore]
      exact h
    | some store =>
      have hname : (ws.stores[handle]?).map Store.name = some store.name := by
        rw [hstore]
        rfl
      rw [closed_of_table hname (table_eq_error.2 h)]
      exact database_close hname

end Workspace

namespace Scan

/-! ## Schedules -/

/-- A step of a schedule: a call of `next` that nothing interrupts, a round of one that is
interrupted after it, or a change. -/
inductive Step where
  | next
  | round
  | change (change : Change)

/-- Whether a step is one of a call. -/
def Step.isCall : Step → Bool
  | .next => true
  | .round => true
  | .change _ => false

/-- A scan of a store, with all that has happened. -/
structure Session where
  scan : Scan
  workspace : Workspace
  /-- The tables from which pages were read. -/
  reads : List Table := []
  /-- The answers of calls. -/
  answers : List (Option Item) := []

/-- The table from which a call reads pages, if it reads any. -/
def fetched (scan : Scan) (source : Except Failure Table) : List Table :=
  if scan.buffer.isEmpty && !scan.isDone then source.toOption.toList else []

namespace Session

/-- What a step makes of a session. -/
def perform (handle : Handle) (session : Session) (step : Step) : Session :=
  let source := session.workspace.table handle
  let reads := session.reads ++ session.scan.fetched source
  match step with
  | .next =>
    let (item?, scan) := session.scan.next source
    { session with scan, reads, answers := session.answers ++ [item?] }
  | .round =>
    match session.scan.round source with
    | .answer item? scan => { session with scan, reads, answers := session.answers ++ [item?] }
    | .read scan => { session with scan, reads }
  | .change change => { session with workspace := change.apply session.workspace handle }

/-- What a schedule makes of a session. -/
def run (handle : Handle) (session : Session) (steps : List Step) : Session :=
  steps.foldl (perform handle) session

/-- The items that have been given. -/
def given (session : Session) : List Item := session.answers.reduceOption

end Session

/-! ## Calls -/

theorem fetched_of_read {scan next : Scan} {source : Except Failure Table}
    (hround : scan.round source = .read next) :
    scan.fetched source = source.toOption.toList := by
  obtain ⟨hbuffer, hdone, -⟩ := round_eq_read hround
  unfold fetched
  rw [hbuffer, hdone]
  rfl

/-- What is known of a scan, the answers that it has given, and the tables that it has read. -/
structure Sound (direction : Direction) (kind : NodeKind) (key : Bytes) (within : Option Bytes)
    (name : String) (scan : Scan) (answers : List (Option Item)) (reads : List Table) : Prop where
  progress :
    Progress direction kind key within name scan (answers.reduceOption ++ scan.buffer) reads
  /-- A scan that has ended has nothing more to give. -/
  ended : none ∈ answers → scan.isDone = true ∧ scan.buffer = []

namespace Sound

variable {direction : Direction} {kind : NodeKind} {key : Bytes} {within : Option Bytes}
  {name : String} {scan : Scan} {answers : List (Option Item)} {reads : List Table}
  {source : Except Failure Table}

theorem mono {reads' : List Table} (h : Sound direction kind key within name scan answers reads)
    (hreads : reads ⊆ reads') : Sound direction kind key within name scan answers reads' :=
  ⟨h.progress.mono hreads, h.ended⟩

/-- A round that answers keeps account of its answer. -/
theorem answer {item? : Option Item} {next : Scan}
    (h : Sound direction kind key within name scan answers reads)
    (hsource : ∀ failure, source = .error failure → failure = .closed name)
    (hround : scan.round source = .answer item? next) :
    Sound direction kind key within name next (answers ++ [item?]) reads := by
  obtain ⟨item, buffer, hbuffer, hanswer⟩ | ⟨hbuffer, hdone, hanswer⟩ |
    ⟨hbuffer, hdone, failure, hfailure, hanswer⟩ | ⟨-, -, table, -, hread⟩ :=
    round_cases scan source
  · cases hround.symm.trans hanswer
    constructor
    case progress =>
      have hitems : (answers ++ [some item]).reduceOption ++ buffer =
          answers.reduceOption ++ scan.buffer := by
        rw [List.reduceOption_append, hbuffer, List.append_assoc]
        rfl
      show Progress _ _ _ _ _ _ ((answers ++ [some item]).reduceOption ++ buffer) _
      rw [hitems]
      exact h.progress.with_buffer buffer
    case ended =>
      intro hnone
      have hnone : none ∈ answers := by simpa using hnone
      rw [(h.ended hnone).2] at hbuffer
      cases hbuffer
  · cases hround.symm.trans hanswer
    constructor
    case progress =>
      have hitems : (answers ++ [none]).reduceOption = answers.reduceOption := by
        rw [List.reduceOption_append]
        exact List.append_nil _
      rw [hitems]
      exact h.progress
    case ended => exact fun _ => ⟨hdone, hbuffer⟩
  · cases hround.symm.trans hanswer
    rw [hsource failure hfailure]
    constructor
    case progress =>
      have hitems : (answers ++ [some (closing name)]).reduceOption ++ scan.buffer =
          (answers.reduceOption ++ scan.buffer) ++ [closing name] := by
        rw [List.reduceOption_append, hbuffer, List.append_nil, List.append_nil]
        rfl
      show Progress _ _ _ _ _ _ ((answers ++ [some (closing name)]).reduceOption ++ scan.buffer) _
      rw [hitems]
      exact h.progress.fail
    case ended => exact fun _ => ⟨rfl, hbuffer⟩
  · cases hround.symm.trans hread

/-- A round that reads a page keeps account of it. -/
theorem read {next : Scan} (h : Sound direction kind key within name scan answers reads)
    (hkey : (within.all fun beginning => beginning.isPrefixOf key) = true)
    (hround : scan.round source = .read next) :
    Sound direction kind key within name next answers (reads ++ scan.fetched source) := by
  obtain ⟨hbuffer, hdone, table, rfl, rfl⟩ := round_eq_read hround
  constructor
  case progress =>
    have hitems : (scan.load table).buffer = (scan.inside table).filterMap (item? kind) := by
      rw [load_eq, hbuffer, h.progress.kind_eq]
      rfl
    have hload := h.progress.load hkey table
    rw [hbuffer, List.append_nil] at hload
    rw [fetched_of_read hround, hitems]
    exact hload
  case ended =>
    intro hnone
    rw [(h.ended hnone).1] at hdone
    cases hdone

/-- A whole call reads its pages from one table. -/
theorem next (h : Sound direction kind key within name scan answers reads)
    (hkey : (within.all fun beginning => beginning.isPrefixOf key) = true)
    (hsource : ∀ failure, source = .error failure → failure = .closed name) :
    Sound direction kind key within name (scan.next source).2 (answers ++ [(scan.next source).1])
      (reads ++ scan.fetched source) := by
  induction scan using round_induction source generalizing reads with
  | answer scan item? next hround =>
    rw [next_eq, hround]
    exact (h.answer hsource hround).mono (List.subset_append_left _ _)
  | read scan next hround ih =>
    rw [next_eq, hround]
    refine (ih (h.read hkey hround)).mono ?_
    -- What the rest of the call reads is the table that its first page comes from.
    have hrest : next.fetched source ⊆ scan.fetched source := by
      rw [fetched_of_read hround]
      unfold fetched
      split
      · exact List.Subset.refl _
      · exact List.nil_subset _
    have hlast := List.Subset.trans hrest (List.subset_append_right reads _)
    exact List.append_subset.2 ⟨List.Subset.refl _, hlast⟩

/-- A step keeps account of what it does. -/
theorem perform {handle : Handle} {session : Session}
    (h : Sound direction kind key within name session.scan session.answers session.reads)
    (hkey : (within.all fun beginning => beginning.isPrefixOf key) = true)
    (hname : (session.workspace.stores[handle]?).map Store.name = some name) (step : Step) :
    Sound direction kind key within name (session.perform handle step).scan
        (session.perform handle step).answers (session.perform handle step).reads ∧
      ((session.perform handle step).workspace.stores[handle]?).map Store.name = some name := by
  have hsource : ∀ failure, session.workspace.table handle = .error failure →
      failure = .closed name := fun failure => Workspace.closed_of_table hname
  cases step with
  | next => exact ⟨h.next hkey hsource, hname⟩
  | round =>
    cases hround : session.scan.round (session.workspace.table handle) with
    | answer item? next =>
      simp only [Session.perform, hround]
      exact ⟨(h.answer hsource hround).mono (List.subset_append_left _ _), hname⟩
    | read next =>
      simp only [Session.perform, hround]
      exact ⟨h.read hkey hround, hname⟩
  | change change => exact ⟨h, (Workspace.name_of_change _ handle change).trans hname⟩

/-- A schedule keeps account of what its steps do. -/
theorem run {handle : Handle} {session : Session}
    (h : Sound direction kind key within name session.scan session.answers session.reads)
    (hkey : (within.all fun beginning => beginning.isPrefixOf key) = true)
    (hname : (session.workspace.stores[handle]?).map Store.name = some name) (steps : List Step) :
    Sound direction kind key within name (session.run handle steps).scan
        (session.run handle steps).answers (session.run handle steps).reads ∧
      ((session.run handle steps).workspace.stores[handle]?).map Store.name = some name := by
  induction steps generalizing session with
  | nil => exact ⟨h, hname⟩
  | cons step steps ih =>
    obtain ⟨hstep, hname⟩ := h.perform hkey hname step
    exact ih hstep hname

end Sound

/-! ## Closed stores -/

/-- What a scan still gives when its store is closed: what has been read, and one failure. -/
def remaining (scan : Scan) (name : String) : List Item :=
  scan.buffer ++ if scan.isDone then [] else [closing name]

/-- A round of a scan of a closed store gives the first of the items that are left. -/
theorem round_of_closed (scan : Scan) (name : String) :
    ∃ next, scan.round (.error (.closed name)) = .answer (scan.remaining name).head? next ∧
      next.remaining name = (scan.remaining name).tail := by
  obtain ⟨direction, kind, within, position, isFresh, buffer, isDone⟩ := scan
  cases buffer with
  | cons item buffer => exact ⟨_, rfl, rfl⟩
  | nil =>
    cases isDone with
    | true => exact ⟨_, rfl, rfl⟩
    | false => exact ⟨_, rfl, rfl⟩

/-- A call of a scan of a closed store takes the first of the items that are left. -/
theorem perform_of_closed {handle : Handle} {session : Session} {name : String}
    (htable : session.workspace.table handle = .error (.closed name)) {step : Step}
    (hcall : step.isCall = true) :
    (session.perform handle step).answers =
        session.answers ++ [(session.scan.remaining name).head?] ∧
      (session.perform handle step).scan.remaining name = (session.scan.remaining name).tail ∧
      (session.perform handle step).workspace = session.workspace := by
  obtain ⟨next, hround, hnext⟩ := round_of_closed session.scan name
  have hcalled : session.scan.next (.error (.closed name)) =
      ((session.scan.remaining name).head?, next) := by
    rw [next_eq, hround]
  cases step with
  | next =>
    simp only [Session.perform, htable, hcalled]
    exact ⟨trivial, hnext, trivial⟩
  | round =>
    simp only [Session.perform, htable, hround]
    exact ⟨trivial, hnext, trivial⟩
  | change change => cases hcall

/-- Once its store is closed, the calls of a scan give the items that are left, one by one. -/
theorem answers_of_closed {handle : Handle} {session : Session} {name : String}
    (htable : session.workspace.table handle = .error (.closed name)) (steps : List Step) :
    (session.run handle steps).answers = session.answers ++
      (List.range (steps.countP Step.isCall)).map fun i => (session.scan.remaining name)[i]? := by
  induction steps generalizing session with
  | nil => exact (List.append_nil _).symm
  | cons step steps ih =>
    show ((session.perform handle step).run handle steps).answers = _
    cases hcall : step.isCall with
    | true =>
      obtain ⟨hanswers, hremaining, hworkspace⟩ := perform_of_closed htable hcall
      rw [ih (hworkspace.symm ▸ htable), hanswers, hremaining, List.countP_cons_of_pos hcall,
        List.range_succ_eq_map, List.map_cons, List.map_map, List.append_assoc,
        List.singleton_append, List.head?_eq_getElem?]
      congr 2
      apply List.map_congr_left
      intro i _
      exact List.getElem?_tail
    | false =>
      cases step with
      | change change =>
        rw [ih (Workspace.table_of_change htable change), List.countP_cons_of_neg (by simp [hcall])]
        rfl
      | next => cases hcall
      | round => cases hcall

/-! ## Promises -/

/-- What the items of a scan from a key are like after a schedule. -/
structure Promises (direction : Direction) (kind : NodeKind) (key : Bytes) (within : Option Bytes)
    (name : String) (session : Session) : Prop where
  /-- An item is what a record that was read gives, or the failure of a closed store. -/
  genuine : ∀ item ∈ session.given, item = closing name ∨
    ∃ table ∈ session.reads, ∃ record ∈ table.records, shown? kind record = some item
  /-- The keys of the records come in order. -/
  ordered : (session.given.filterMap Item.key).Pairwise direction.Before
  /-- When the scan has ended and could read all pages, a record of its range that was there with
  the same value whenever a page was read has been given once. -/
  complete : none ∈ session.answers → (∀ item ∈ session.given, item.key ≠ none) →
    ∀ (other value : Bytes) (item : Item), direction.Reaches key other →
      (within.all fun beginning => beginning.isPrefixOf other) = true →
      shown? kind (other, value) = some item →
      (∀ table ∈ session.reads, table.get? other = some value) →
      (session.given.filter fun given => given.key == some other) = [item]

theorem Sound.promises {direction : Direction} {kind : NodeKind} {key : Bytes}
    {within : Option Bytes} {name : String} {session : Session}
    (h : Sound direction kind key within name session.scan session.answers session.reads) :
    Promises direction kind key within name session where
  genuine item hitem := by
    have hgenuine := h.progress.genuine item (List.mem_append_left _ hitem)
    rcases hgenuine with hclosing | ⟨table, htable, record, hrecord, hshown⟩
    · exact .inl hclosing
    · exact .inr ⟨table, htable, record, hrecord, item?_eq_shown? kind record ▸ hshown⟩
  ordered := by
    have hordered := h.progress.ordered
    rw [List.filterMap_append] at hordered
    exact (List.pairwise_append.1 hordered).1
  complete hend hread other value item hreaches hwithin hshown hget := by
    rw [← item?_eq_shown?] at hshown
    obtain ⟨hdone, hbuffer⟩ := h.ended hend
    have hordered := h.progress.ordered
    have hcomplete := h.progress.complete other value item hreaches hwithin hshown hget
    rw [hbuffer, List.append_nil] at hordered hcomplete
    rcases hcomplete with hmem | ⟨hnot, -⟩ | ⟨failed, hfailed, hnone⟩
    · exact filter_key hordered hmem (key_of_item? hshown)
    · rw [hdone] at hnot
      cases hnot
    · exact absurd hnone (hread failed hfailed)

/-- **Scans of a store that changes.** A scan from a key with the beginning that is asked for keeps
its promises whatever the schedule. Once its store is closed, its calls give what has been read, one
failure unless there was nothing more to read, and then nothing. -/
theorem promises_run (direction : Direction) (kind : NodeKind) (key : Bytes) (within : Option Bytes)
    (hkey : (within.all fun beginning => beginning.isPrefixOf key) = true) (ws : Workspace)
    (handle : Handle) (name : String)
    (hname : (ws.stores[handle]?).map Store.name = some name) (steps : List Step) :
    let session : Session := { scan := start direction kind key within, workspace := ws }
    Promises direction kind key within name (session.run handle steps) ∧
      ∀ after : List Step,
        (session.run handle (steps ++ .change .close :: after)).answers =
          (session.run handle steps).answers ++ (List.range (after.countP Step.isCall)).map
            fun i => ((session.run handle steps).scan.remaining name)[i]? := by
  intro session
  have hstart : Sound direction kind key within name session.scan session.answers session.reads :=
    ⟨Progress.start direction kind key within name, fun h => absurd h List.not_mem_nil⟩
  obtain ⟨hsound, hnamed⟩ := hstart.run hkey hname steps
  refine ⟨hsound.promises, fun after => ?_⟩
  set before := session.run handle steps with hbefore
  have hclosed : (before.perform handle (.change .close)).workspace.table handle =
      .error (.closed name) :=
    Workspace.table_eq_error.2 (Workspace.database_close hnamed)
  have hrun : session.run handle (steps ++ .change .close :: after) =
      (before.perform handle (.change .close)).run handle after := by
    unfold Session.run
    rw [List.foldl_append, List.foldl_cons]
    rfl
  rw [hrun, answers_of_closed hclosed after]
  rfl

/-- A scan goes on after the key that it stands at is deleted. If its store is closed at first, it
gives that failure only. -/
theorem promises_run_deleted :
    let ws : Workspace := { stores := [{ name := "s", folder := "", place := ["s.db"] }] }
    let session : Session := { scan := start .forward .url [1] (some [1]), workspace := ws }
    let steps : List Step :=
      [.change (.putAll [([1], []), ([1, 1], []), ([2], [])]), .next, .change (.delete [1]), .next,
        .next]
    Promises .forward .url [1] (some [1]) "s" (session.run 0 steps) ∧
      (session.run 0 steps).answers.map (·.map Item.key) =
        [some (some [1]), some (some [1, 1]), none] ∧
      ((session.run 0 steps).given.filter fun given => given.key == some [1, 1]) =
        [{ key := some [1, 1], node := .error .undecodable }] ∧
      (session.run 0 [.change .close, .next, .next]).answers = [some (closing "s"), none] := by
  intro ws session steps
  have hpromises : Promises .forward .url [1] (some [1]) "s" (session.run 0 steps) :=
    (promises_run .forward .url [1] (some [1]) rfl ws 0 "s" rfl steps).1
  have hkeys : (session.run 0 steps).answers.map (·.map Item.key) =
      [some (some [1]), some (some [1, 1]), none] := by decide +kernel
  refine ⟨hpromises, hkeys, ?_, ?_⟩
  · have hend : none ∈ (session.run 0 steps).answers := by
      have hnone : none ∈ (session.run 0 steps).answers.map (·.map Item.key) := by
        rw [hkeys]
        decide
      obtain ⟨answer, hanswer, hmap⟩ := List.mem_map.1 hnone
      exact Option.map_eq_none_iff.1 hmap ▸ hanswer
    have hread : ∀ given ∈ (session.run 0 steps).given, given.key ≠ none := by decide +kernel
    have hshown : shown? .url ([1, 1], []) =
        some { key := some [1, 1], node := .error .undecodable } := by
      have hparse : Json.parse? [] = none := by decide +kernel
      unfold shown?
      rw [hparse]
      rfl
    have hget : ∀ table ∈ (session.run 0 steps).reads, table.get? [1, 1] = some [] := by
      decide +kernel
    exact hpromises.complete hend hread [1, 1] [] _ (by decide) rfl hshown hget
  · exact (promises_run .forward .url [1] (some [1]) rfl ws 0 "s" rfl []).2 [.next, .next]

end Scan

end CrawlGraph
