import CrawlGraph.Index
import CrawlGraph.Proofs.Disk.Files
import CrawlGraph.Proofs.Store.Contents
import CrawlGraph.Query.Search

/-!
# Indexing what is no folder

The store of a job and run is created anew before the folder that is to be indexed is looked at.
What is no folder is refused, but the records of an earlier build are gone by then, unless the store
could not be created. Those of all other stores are as they were (`refuses_index`).

1. Creating a store empties its folder, if that is found, and then opens it, which loses nothing
   (`emptied_cases`, `leaves_create`). It is opened only if all of the folder could be taken away.
2. So a store that has been created holds nothing if its folder was found (`contents_create_self`),
   no other store loses anything (`contents_create_of_ne`), and where the folder of the store is
   found, nothing becomes a folder (`isFolder_of_create`).
3. What is no folder is not listed, and all is left as creating the store has left it
   (`index_of_not_isFolder`).
-/

namespace CrawlGraph

namespace Pool

/-! ## Creating a store -/

section Create

variable (id : RunId) (state : State)

theorem path_congr {pool other : Pool} (h : pool.root = other.root) :
    pool.path id = other.path id := by
  unfold path
  rw [h]

theorem leaves_openStore : (openStore id state).2.1.root = state.1.root ∧
    state.2.disk.Leaves (openStore id state).2.2.disk (state.1.path id) := by
  obtain ⟨pool, ws⟩ := state
  have hleaves := ws.disk.leaves_openDatabase (pool.path id) id.name
  unfold openStore Workspace.openStore
  dsimp only
  generalize ws.disk.openDatabase (pool.path id) id.name = opened at hleaves ⊢
  rcases opened with ⟨failure | place, disk⟩
  · exact ⟨rfl, hleaves⟩
  · exact ⟨rfl, hleaves⟩

/-- The disk after the folder of a store has been emptied, or as much of it as could be. -/
def emptied : Disk := (emptyFolder state.2.disk (state.1.path id)).2

theorem current_emptied : (emptied id state).current = state.2.disk.current := by
  unfold emptied
  rw [emptyFolder_eq]
  split_ifs
  · exact Disk.current_tryClear _ _
  · rfl
  · rfl

/-- Emptying a folder takes away nothing that stands outside, and makes nothing. -/
theorem at?_emptied (place : Place) : (emptied id state).at? place = state.2.disk.at? place ∨
    (id.folder (state.2.disk.destination state.1.root) <+: place ∧
      (emptied id state).at? place = none) := by
  unfold emptied
  rw [emptyFolder_eq]
  split_ifs
  · rw [← destination_path]
    exact (Disk.at?_tryClear _ _ _).imp_right fun h => ⟨h.1.1, h.2⟩
  · exact .inl rfl
  · exact .inl rfl

/-- Creating a store opens it on the emptied disk, unless its folder cannot be emptied. -/
theorem emptied_cases {created : Except Failure Handle} {next : State}
    (h : create id state = (created, next)) :
    ∃ pool ws, pool.root = state.1.root ∧ ws.disk = emptied id state ∧
      ((∃ failure, created = .error failure ∧ next = (pool, ws)) ∨
        emptyFolder state.2.disk (state.1.path id) = (.ok (), emptied id state) ∧
          openStore id (pool, ws) = (created, next)) := by
  have hevict : Closes (close id state) (evict (close id state)) := closes_evictWhile _ _ _
  have hcloses := (closes_close id state).trans hevict
  obtain ⟨pool, ws, disk, hroom, hcases⟩ := create_cases h
  rw [hroom] at hcloses
  have hroot : pool.root = state.1.root := hcloses.root
  have hdisk : ws.disk = state.2.disk := hcloses.disk
  rw [hdisk, path_congr id hroot] at hcases
  refine ⟨pool, { ws with disk }, hroot, ?_⟩
  unfold emptied
  rcases hcases with ⟨failure, hempty, hcreated, hnext⟩ | ⟨hempty, hopen⟩
  · rw [hempty]
    exact ⟨rfl, .inl ⟨failure, hcreated, hnext⟩⟩
  · rw [hempty]
    exact ⟨rfl, .inr ⟨rfl, hopen⟩⟩

/-- What it leaves is what opening the store leaves of the emptied disk. -/
theorem leaves_create : (create id state).2.1.root = state.1.root ∧
    (emptied id state).Leaves (create id state).2.2.disk (state.1.path id) := by
  rcases hcreate : create id state with ⟨created, next⟩
  obtain ⟨pool, ws, hroot, hdisk, ⟨failure, -, rfl⟩ | ⟨-, hopen⟩⟩ := emptied_cases id state hcreate
  · rw [hdisk]
    exact ⟨hroot, .refl _ _⟩
  · have hopened := leaves_openStore id (pool, ws)
    rw [hopen, hdisk] at hopened
    exact ⟨hopened.1.trans hroot, path_congr id hroot ▸ hopened.2⟩

/-- What a store holds after another one has been created is what the emptied disk holds. -/
theorem contents_create (other : RunId) : contents (create id state).2 other =
    (emptied id state).database (other.place (state.2.disk.destination state.1.root)) := by
  obtain ⟨hroot, hleaves⟩ := leaves_create id state
  have hcurrent := hleaves.current.trans (current_emptied id state)
  -- where a store stands depends on the root and the current folder only, which stay
  have hplace : (create id state).2.1.place (create id state).2.2.disk other =
      other.place (state.2.disk.destination state.1.root) := by
    rw [place_eq, hroot, Disk.destination_congr hcurrent]
  unfold contents
  rw [hplace, hleaves.database _ (other.place_ne_nil _)]

/-- Creating a store takes away the records of no other one. -/
theorem contents_create_of_ne {other : RunId} (hne : other ≠ id) :
    contents (create id state).2 other = contents state other := by
  rw [contents_create, contents, place_eq]
  refine Disk.database_congr (other.place_ne_nil _) fun db => ?_
  rcases at?_emptied id state (other.place (state.2.disk.destination state.1.root)) with
    hsame | ⟨hbelow, -⟩
  · rw [hsame]
  · exact absurd (RunId.eq_of_below hbelow).symm hne

/-- It takes away its own ones if its folder is found and all of it can be taken away, -/
theorem contents_create_self {handle : Handle} (h : (create id state).1 = .ok handle)
    (hfound : state.2.disk.isFolder (state.1.path id) = true) :
    contents (create id state).2 id = {} := by
  rw [contents_create]
  rcases hcreate : create id state with ⟨created, next⟩
  obtain ⟨pool, ws, -, -, ⟨failure, rfl, -⟩ | ⟨hempty, -⟩⟩ := emptied_cases id state hcreate
  · rw [hcreate] at h
    cases h
  · rcases emptyFolder_cases hempty with hclear | ⟨-, hunfound⟩
    · rw [hclear, destination_path, Disk.database_clear_place, if_pos rfl]
    · cases hfound.symm.trans hunfound

/-- and leaves them if its folder is not found. -/
theorem contents_create_of_not_isFolder
    (hunfound : state.2.disk.isFolder (state.1.path id) = false) :
    contents (create id state).2 id = contents state id := by
  rw [contents_create, contents, place_eq, emptied, emptyFolder_eq, if_neg (by simp [hunfound])]

variable {id state}

/-- Where the folder of a store is found, creating the store makes no folders. -/
theorem isFolder_of_create (hfound : state.2.disk.isFolder (state.1.path id) = true)
    {directory : String} (h : (create id state).2.2.disk.isFolder directory = true) :
    state.2.disk.isFolder directory = true := by
  obtain ⟨-, hleaves⟩ := leaves_create id state
  have hcurrent := hleaves.current.trans (current_emptied id state)
  obtain ⟨hne, hstops⟩ := Disk.isFolder_eq_true.1 h
  rw [Disk.way_congr hcurrent, Disk.destination_congr hcurrent] at hstops
  refine Disk.isFolder_eq_true.2 ⟨hne, fun stop hstop => ?_⟩
  rcases hleaves.folder stop (hstops stop hstop) with hfolder | hmem
  · rcases at?_emptied id state stop with hsame | ⟨-, hnone⟩
    · exact hsame ▸ hfolder
    · cases hnone.symm.trans hfolder
  · -- what opening the store may make is on the way to it, where all are folders already
    rw [Disk.startPlace_congr (current_emptied id state)] at hmem
    exact (Disk.isFolder_eq_true.1 hfound).2 stop (Disk.ends_subset _ _ hmem)

end Create

end Pool

/-! ## Refusing a path -/

section Index

variable {id : RunId} {directory : String} (seeds : List String) (completedAt : String)

theorem listArchives_of_not_isFolder {disk : Disk} (h : disk.isFolder directory = false) :
    listArchives disk directory = .error (.invalidPath directory) := by
  unfold listArchives
  rw [h]
  cases disk.locate directory <;> rfl

theorem indexInto_of_not_isFolder {ws : Workspace} (h : ws.disk.isFolder directory = false)
    (handle : Handle) : indexInto id directory seeds completedAt handle ws =
      (.error (.invalidPath directory), ws) := by
  unfold indexInto
  rw [listArchives_of_not_isFolder h]

theorem index_of_not_isFolder {state : Pool.State}
    (h : (Pool.create id state).2.2.disk.isFolder directory = false) :
    index id directory seeds completedAt state =
      ((Pool.create id state).1.bind fun _ => .error (.invalidPath directory),
        (Pool.create id state).2) := by
  unfold index
  rcases hcreate : Pool.create id state with ⟨failure | handle, pool, ws⟩
  · rfl
  · rw [hcreate] at h
    simp only [indexInto_of_not_isFolder seeds completedAt h]
    rfl

end Index

/-- What comes of indexing what is no folder: nothing is done beyond creating the store. -/
structure Refuses (id : RunId) (directory : String) (state : Pool.State)
    (result : Except Failure IndexOutcome) (next : Pool.State) : Prop where
  /-- The path is refused, unless there is no store to index it into. -/
  refused : ∀ handle, (Pool.create id state).1 = .ok handle →
    result = .error (.invalidPath directory)
  failed : ∀ failure, (Pool.create id state).1 = .error failure → result = .error failure
  /-- No records are left in a store that has been created, if its folder was found before. -/
  emptied : ∀ handle, (Pool.create id state).1 = .ok handle →
    state.2.disk.isFolder (state.1.path id) = true → Pool.contents next id = {}
  unfound : state.2.disk.isFolder (state.1.path id) = false →
    Pool.contents next id = Pool.contents state id
  others : ∀ other, other ≠ id → Pool.contents next other = Pool.contents state other

/-- **Refused paths.** Indexing a path that is no folder, and does not become one while the folder
of the store is made, fails: the path is refused, unless the store cannot be created. By then the
store that has been created has lost whatever records it held before, if its folder was found. All
other stores hold what they held, also where creating this one has failed. -/
theorem refuses_index {id : RunId} {directory : String} {state : Pool.State} (seeds : List String)
    (completedAt : String) (hnot : state.2.disk.isFolder directory = false)
    (hmade : state.2.disk.isFolder (state.1.path id) = false →
      (Pool.create id state).2.2.disk.isFolder directory = false) :
    let indexed := index id directory seeds completedAt state
    Refuses id directory state indexed.1 indexed.2 := by
  have hcreated : (Pool.create id state).2.2.disk.isFolder directory = false := by
    cases hfound : state.2.disk.isFolder (state.1.path id) with
    | false => exact hmade hfound
    | true =>
      rw [Bool.eq_false_iff] at hnot ⊢
      exact fun hfolder => hnot (Pool.isFolder_of_create hfound hfolder)
  dsimp only
  rw [index_of_not_isFolder seeds completedAt hcreated]
  dsimp only
  constructor
  case refused =>
    intro handle hcreate
    rw [hcreate]
    rfl
  case failed =>
    intro failure hcreate
    rw [hcreate]
    rfl
  case emptied =>
    intro handle hcreate hfound
    exact Pool.contents_create_self id state hcreate hfound
  case unfound =>
    intro hunfound
    exact Pool.contents_create_of_not_isFolder id state hunfound
  case others =>
    intro other hne
    exact Pool.contents_create_of_ne id state hne

/-- Two builds, of which the first is indexed again by mistake from a file of seeds. -/
theorem refuses_index_file :
    let disk : Disk := { entries := [(["input"], .folder), (["seeds.txt"], .file [])] }
    let built := (index ⟨9, 1⟩ "input" [] "then" (Pool.start "store" 1, { disk })).2
    let state := (index ⟨9, 2⟩ "input" [] "then" built).2
    let indexed := index ⟨9, 1⟩ "seeds.txt" [] "now" state
    state.2.disk.isFolder "seeds.txt" = false ∧
      state.2.disk.isFolder (state.1.path ⟨9, 1⟩) = true ∧
      Refuses ⟨9, 1⟩ "seeds.txt" state indexed.1 indexed.2 ∧
      indexed.1 = .error (.invalidPath "seeds.txt") ∧
      Pool.contents indexed.2 ⟨9, 1⟩ = {} ∧
      (Pool.contents indexed.2 ⟨9, 2⟩).status 9 = .ok (some ⟨"then", 0, 0, 0⟩) := by
  intro disk built state indexed
  have hnot : state.2.disk.isFolder "seeds.txt" = false := by decide +kernel
  have hfound : state.2.disk.isFolder (state.1.path ⟨9, 1⟩) = true := by decide +kernel
  have hcreate : (Pool.create ⟨9, 1⟩ state).1 = .ok 2 := by decide +kernel
  have hrefuses : Refuses ⟨9, 1⟩ "seeds.txt" state indexed.1 indexed.2 :=
    refuses_index [] "now" hnot fun hunfound => by simp [hfound] at hunfound
  refine ⟨hnot, hfound, hrefuses, hrefuses.refused 2 hcreate, hrefuses.emptied 2 hcreate hfound, ?_⟩
  rw [hrefuses.others ⟨9, 2⟩ (by decide)]
  decide +kernel

/-- A folder that cannot be emptied keeps the store from being created, and what it holds from being
lost. -/
example :
    let disk : Disk := {
      entries := [(["input"], .folder)]
      obstacle? := fun _ => some ⟨.denied, fun _ => true⟩ }
    let state := (index ⟨9, 1⟩ "input" [] "then" (Pool.start "store" 1, { disk })).2
    let indexed := index ⟨9, 1⟩ "seeds.txt" [] "now" state
    indexed.1 = .error (.disk .denied) ∧
      (Pool.contents indexed.2 ⟨9, 1⟩).status 9 = .ok (some ⟨"then", 0, 0, 0⟩) := by
  decide +kernel

/-- An earlier build is lost to a file of seeds; where a file stands in the way of the store, that
is what fails; and a folder that leads to the store is there by the time it is listed. -/
theorem index_file_loses :
    let disk : Disk := { entries := [(["input"], .folder), (["seeds.txt"], .file [])] }
    let state := (index ⟨9, 1⟩ "input" [] "then" (Pool.start "store" 1, { disk })).2
    let indexed := index ⟨9, 1⟩ "seeds.txt" [] "now" state
    let blocked : Disk := { entries := [(["store"], .folder), (["store", "9"], .file [])] }
    state.2.disk.isFolder "seeds.txt" = false ∧
      indexed.1 = .error (.invalidPath "seeds.txt") ∧
      (Pool.contents state ⟨9, 1⟩).status 9 = .ok (some ⟨"then", 0, 0, 0⟩) ∧
      (Pool.contents indexed.2 ⟨9, 1⟩).status 9 = .ok none ∧
      Pool.contents indexed.2 ⟨9, 1⟩ ≠ Pool.contents state ⟨9, 1⟩ ∧
      blocked.isFolder "input" = false ∧
      (index ⟨9, 1⟩ "input" [] "now" (Pool.start "store" 1, { disk := blocked })).1 =
        .error (.disk .notFolder) ∧
      disk.isFolder "store/9" = false ∧
      (index ⟨9, 1⟩ "store/9" [] "now" (Pool.start "store" 1, { disk })).1.isOk = true := by
  intro disk state indexed blocked
  have hbefore : (Pool.contents state ⟨9, 1⟩).status 9 = .ok (some ⟨"then", 0, 0, 0⟩) := by
    decide +kernel
  have hafter : (Pool.contents indexed.2 ⟨9, 1⟩).status 9 = .ok none := by decide +kernel
  have hlost : Pool.contents indexed.2 ⟨9, 1⟩ ≠ Pool.contents state ⟨9, 1⟩ := by
    intro hsame
    rw [hsame, hbefore] at hafter
    cases hafter
  exact ⟨by decide +kernel, by decide +kernel, hbefore, hafter, hlost, by decide +kernel,
    by decide +kernel, by decide +kernel, by decide +kernel⟩

end CrawlGraph
