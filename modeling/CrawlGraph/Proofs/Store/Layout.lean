import CrawlGraph.Proofs.Store.Access
import CrawlGraph.Proofs.Store.Names

/-!
# Where stores stand

The database of each job and run stands in a folder of its own (`place_injective`). So writing to a
database, opening it and emptying its folder leave what all others hold (`Keeps.write`,
`Keeps.opens`, `Keeps.clear`).

1. The names of the folders and of the file are plain, so the path of a store leads to its place
   (`place_eq`) and is found just when the folders above it are there (`isFolder_path`).
2. Emptying the folder of a store takes away its database, no other one (`at?_clear_place`), and none
   of the folders that lead to others (`at?_clear_folder`).
-/

namespace CrawlGraph

open Disk

/-! ## Names of folders and files -/

theorem isPlain_toString (n : ℤ) : IsPlain (toString n) := by
  have hnot : ∀ c : Char, c.isDigit = false → c ≠ '-' → c ∉ (toString n).toList := by
    intro c hdigit hsign hmem
    rcases Text.isDigit_or_eq_of_mem c hmem with h | h
    · rw [h] at hdigit
      cases hdigit
    · exact hsign h
  have hpoint : '.' ∉ (toString n).toList := hnot '.' rfl (by decide)
  refine ⟨Text.toList_toString_ne_nil n, hnot '/' rfl (by decide), ?_, ?_⟩
  · intro h
    exact hpoint (by rw [h]; exact List.mem_singleton_self _)
  · intro h
    exact hpoint (by rw [h]; decide)

namespace RunId

variable (id : RunId)

theorem isPlain_job : IsPlain (toString id.job) := isPlain_toString id.job.toInt

theorem isPlain_run : IsPlain (toString id.run) := isPlain_toString id.run.toInt

theorem isPlain_file : IsPlain (id.name ++ ".db") := by
  have hlist : (id.name ++ ".db").toList = id.name.toList ++ ['.', 'd', 'b'] :=
    String.toList_append
  have hmark : 'd' ∈ (id.name ++ ".db").toList := by simp [hlist]
  refine IsPlain.of_mem hmark (by decide) ?_
  rw [hlist, toList_name]
  simp [id.isPlain_job.no_slash, id.isPlain_run.no_slash]

/-- The folder of a store, where `base` is that of all stores. -/
def folder (base : Place) : Place := base ++ [toString id.job, toString id.run, "_resource"]

/-- The place of the database of a store. -/
def place (base : Place) : Place := id.folder base ++ [id.name ++ ".db"]

/-- The folders below `base` that lead to the database of a store. -/
def folders (base : Place) : List Place :=
  [base, base ++ [toString id.job], base ++ [toString id.job, toString id.run], id.folder base]

theorem place_ne_nil (base : Place) : id.place base ≠ [] := List.concat_ne_nil _ _

theorem place_injective (base : Place) : Function.Injective (place · base) := by
  intro id other h
  have hfile : id.name ++ ".db" = other.name ++ ".db" := by
    simpa [place] using congrArg List.getLast? h
  have hlist := congrArg String.toList hfile
  rw [String.toList_append, String.toList_append] at hlist
  exact name_injective (String.toList_injective (List.append_cancel_right hlist))

/-- No database stands below the folder of another one. -/
theorem eq_of_below {id other : RunId} {base : Place}
    (h : id.folder base <+: other.place base) : id = other := by
  unfold place folder at h
  rw [List.append_assoc, List.prefix_append_right_inj] at h
  obtain ⟨hjob, hrest⟩ := List.cons_prefix_cons.1 h
  obtain ⟨hrun, -⟩ := List.cons_prefix_cons.1 hrest
  cases id
  cases other
  exact congrArg₂ RunId.mk (StoreKey.toString_id_injective hjob) (toString_run_injective hrun)

theorem prefix_of_mem_folders {base stop : Place} (h : stop ∈ id.folders base) :
    stop <+: id.folder base := by
  simp only [folders, List.mem_cons, List.not_mem_nil, or_false] at h
  rcases h with rfl | rfl | rfl | rfl <;> simp [folder, List.prefix_append_right_inj]

theorem length_folder (base : Place) : (id.folder base).length = base.length + 3 :=
  List.length_append

/-- No folder that leads to a database stands below the folder of another one. -/
theorem length_of_mem_folders {other : RunId} {base stop : Place} (h : stop ∈ other.folders base) :
    stop.length ≤ (id.folder base).length := by
  have hlength := (other.prefix_of_mem_folders h).length_le
  rwa [length_folder] at hlength ⊢

end RunId

/-! ## Emptying a folder -/

namespace Disk

theorem at?_clearBut (disk : Disk) (place : Place) (isLeft : Place → Bool) (other : Place) :
    (disk.clearBut place isLeft).at? other =
      if place <+: other ∧ other ≠ place ∧ isLeft other = false then none else disk.at? other := by
  unfold at? clearBut
  have hfind := Sorted.find?_filter
    (fun other => isLeft other || !(place.isPrefixOf other && other != place)) other disk.entries
  by_cases hroot : other = []
  · -- the root is a folder, whatever has been taken away
    subst hroot
    have hnot : ¬ (place <+: [] ∧ [] ≠ place ∧ isLeft [] = false) := by
      rintro ⟨habove, hne, -⟩
      exact hne (List.prefix_nil.1 habove).symm
    rw [if_pos rfl, if_pos rfl, if_neg hnot]
  · have hbelow : (isLeft other || !(place.isPrefixOf other && other != place)) = true ↔
        ¬ (place <+: other ∧ other ≠ place ∧ isLeft other = false) := by
      rw [← List.isPrefixOf_iff_prefix]
      cases place.isPrefixOf other <;> cases isLeft other <;> simp
    rw [if_neg hroot, if_neg hroot, hfind]
    simp only [hbelow, ite_not]

theorem at?_clear (disk : Disk) (place other : Place) :
    (disk.clear place).at? other =
      if place <+: other ∧ other ≠ place then none else disk.at? other := by
  unfold clear
  rw [at?_clearBut]
  simp only [and_true]

/-- What stands outside a folder stays, and nothing is made in it. -/
theorem at?_tryClear (disk : Disk) (place other : Place) :
    (disk.tryClear place).2.at? other = disk.at? other ∨
      (place <+: other ∧ other ≠ place) ∧ (disk.tryClear place).2.at? other = none := by
  unfold tryClear clear
  cases disk.obstacle? place <;> dsimp only <;> rw [at?_clearBut] <;> split_ifs with h
  · exact .inr ⟨⟨h.1, h.2.1⟩, rfl⟩
  · exact .inl rfl
  · exact .inr ⟨⟨h.1, h.2.1⟩, rfl⟩
  · exact .inl rfl

theorem current_tryClear (disk : Disk) (place : Place) :
    (disk.tryClear place).2.current = disk.current := by
  unfold tryClear
  cases disk.obstacle? place <;> rfl

theorem tryClear_eq_ok {disk later : Disk} {place : Place}
    (h : disk.tryClear place = (.ok (), later)) : later = disk.clear place := by
  unfold tryClear at h
  cases hobstacle : disk.obstacle? place with
  | none =>
    rw [hobstacle] at h
    cases h
    rfl
  | some obstacle =>
    rw [hobstacle] at h
    cases h

variable (disk : Disk) (id : RunId) (base : Place)

/-- Emptying the folder of a store takes its database away, and no other one. -/
theorem at?_clear_place (other : RunId) :
    (disk.clear (id.folder base)).at? (other.place base) =
      if id = other then none else disk.at? (other.place base) := by
  rw [at?_clear]
  by_cases h : id = other
  · subst h
    refine (if_pos ⟨List.prefix_append _ _, ?_⟩).trans (if_pos rfl).symm
    simp [RunId.place]
  · rw [if_neg h, if_neg fun hbelow => h (RunId.eq_of_below hbelow.1)]

theorem database_clear_place (other : RunId) :
    (disk.clear (id.folder base)).database (other.place base) =
      if id = other then {} else disk.database (other.place base) := by
  by_cases h : id = other
  · subst h
    rw [if_pos rfl]
    refine database_of_not_at? (id.place_ne_nil base) fun db => ?_
    rw [at?_clear_place, if_pos rfl]
    nofun
  · rw [if_neg h]
    exact database_congr (other.place_ne_nil base) fun db => by rw [at?_clear_place, if_neg h]

/-- It takes away none of the folders that lead to a database. -/
theorem at?_clear_folder {other : RunId} {stop : Place} (h : stop ∈ other.folders base) :
    (disk.clear (id.folder base)).at? stop = disk.at? stop := by
  rw [at?_clear, if_neg]
  rintro ⟨habove, hne⟩
  exact hne (habove.eq_of_length_le (id.length_of_mem_folders h)).symm

end Disk

/-! ## Paths of stores -/

namespace Pool

/-- The place to which the path of the database of a store leads. -/
def place (pool : Pool) (disk : Disk) (id : RunId) : Place :=
  disk.destination (join (pool.path id) (id.name ++ ".db"))

variable (pool : Pool) (disk : Disk) (id : RunId)

theorem isPlain_resource : IsPlain "_resource" :=
  ⟨by decide, by decide, by decide, by decide⟩

theorem destination_path : disk.destination (pool.path id) =
    id.folder (disk.destination pool.root) := by
  unfold path RunId.folder
  rw [destination_join isPlain_resource, destination_join id.isPlain_run,
    destination_join id.isPlain_job]
  simp

theorem way_path : disk.way (pool.path id) ++ [disk.destination (pool.path id)] =
    disk.way pool.root ++ id.folders (disk.destination pool.root) := by
  unfold path RunId.folders RunId.folder
  rw [way_join isPlain_resource, way_join id.isPlain_run, way_join id.isPlain_job,
    destination_join isPlain_resource, destination_join id.isPlain_run,
    destination_join id.isPlain_job]
  simp

theorem place_eq : pool.place disk id = id.place (disk.destination pool.root) := by
  unfold place RunId.place
  rw [destination_join id.isPlain_file, destination_path]

/-- The folder of a store is found just when all folders that lead to it are there. -/
theorem isFolder_path : disk.isFolder (pool.path id) = true ↔
    ∀ stop ∈ disk.way pool.root ++ id.folders (disk.destination pool.root),
      disk.at? stop = some .folder := by
  rw [isFolder_eq_true, way_path]
  exact and_iff_right (join_ne_empty isPlain_resource _)

/-- A folder is emptied where there is one. -/
theorem emptyFolder_eq (disk : Disk) (path : String) :
    emptyFolder disk path =
      if disk.isFolder path then
        ((disk.tryClear (disk.destination path)).1.mapError .disk,
          (disk.tryClear (disk.destination path)).2)
      else (if disk.exists? path then .error (.disk .notFolder) else .ok (), disk) := by
  unfold emptyFolder isFolder exists? find
  cases hlocate : disk.locate path with
  | error fault => rfl
  | ok place =>
    obtain ⟨-, -, rfl⟩ := locate_eq_ok.1 hlocate
    cases hat : disk.at? (disk.destination path) with
    | none => simp [hat, bind, Except.bind, Except.isOk, Except.toBool]
    | some entry => cases entry <;> simp [hat, bind, Except.bind, Except.isOk, Except.toBool]

theorem emptyFolder_cases {disk made : Disk} {path : String}
    (h : emptyFolder disk path = (.ok (), made)) :
    made = disk.clear (disk.destination path) ∨ made = disk ∧ disk.isFolder path = false := by
  rw [emptyFolder_eq] at h
  split_ifs at h with hfolder hfound
  · rcases hclear : disk.tryClear (disk.destination path) with ⟨fault | ⟨⟩, later⟩
    · rw [hclear] at h
      cases h
    · rw [hclear] at h
      cases h
      exact .inl (tryClear_eq_ok hclear)
  · cases h
  · cases h
    exact .inr ⟨rfl, by simpa using hfolder⟩

end Pool

/-! ## Databases below one folder -/

/-- A disk on which the stores below a folder hold what they are to hold, and are found below it. -/
structure Disk.Keeps (disk : Disk) (base : Place) (contents : RunId → Database) : Prop where
  contents : ∀ id : RunId, disk.database (id.place base) = contents id
  folders : ∀ (id : RunId) db, disk.at? (id.place base) = some (.database db) →
    ∀ stop ∈ id.folders base, disk.at? stop = some .folder

namespace Disk.Keeps

variable {disk later : Disk} {base : Place} {contents : RunId → Database} {id : RunId}
  {db : Database}

/-- Writing to one database leaves the others as they are. -/
theorem write (h : disk.Keeps base contents) (hwrites : disk.Writes later (id.place base) db)
    {old : Database} (hat : disk.at? (id.place base) = some (.database old)) :
    later.Keeps base (Function.update contents id db) := by
  have hother : ∀ other, id ≠ other → later.at? (other.place base) = disk.at? (other.place base) :=
    fun other hne => hwrites.at_other _ ((RunId.place_injective base).ne hne)
  constructor
  case contents =>
    intro other
    by_cases hid : id = other
    · subst hid
      rw [Function.update_self, hwrites.database]
    · rw [Function.update_of_ne (Ne.symm hid), ← h.contents]
      exact database_congr (other.place_ne_nil base) fun db => by rw [hother other hid]
  case folders =>
    intro other found hfound stop hstop
    refine hwrites.folder (by simp [hat]) ?_
    by_cases hid : id = other
    · subst hid
      exact h.folders id old hat stop hstop
    · exact h.folders other found (hother other hid ▸ hfound) stop hstop

/-- Where there is no database, an empty one is as good. -/
theorem forget (h : disk.Keeps base contents)
    (hnone : ∀ db, disk.at? (id.place base) ≠ some (.database db)) :
    disk.Keeps base (Function.update contents id {}) := by
  refine ⟨fun other => ?_, h.folders⟩
  by_cases hid : id = other
  · subst hid
    rw [Function.update_self, database_of_not_at? (id.place_ne_nil base) hnone]
  · rw [Function.update_of_ne (Ne.symm hid), h.contents]

/-- Emptying the folder of one database leaves the others as they are. -/
theorem clear (h : disk.Keeps base contents) (id : RunId) :
    (disk.clear (id.folder base)).Keeps base (Function.update contents id {}) := by
  constructor
  case contents =>
    intro other
    rw [database_clear_place, h.contents, Function.update_apply]
    simp only [eq_comm]
  case folders =>
    intro other db hdb stop hstop
    rw [at?_clear_place] at hdb
    by_cases hid : id = other
    · rw [if_pos hid] at hdb
      cases hdb
    · rw [if_neg hid] at hdb
      rw [at?_clear_folder disk id base hstop]
      exact h.folders other db hdb stop hstop

/-- Opening one database leaves all as they are. -/
theorem opens (h : disk.Keeps base contents) {folder name : String}
    (hopens : disk.Opens later folder name (id.place base))
    (hway : ∀ stop ∈ id.folders base, later.at? stop = some .folder) :
    later.Keeps base contents := by
  constructor
  case contents =>
    intro other
    by_cases hid : id = other
    · subst hid
      rw [database_of_at? hopens.at_place, h.contents]
    · rw [← h.contents]
      exact database_congr (other.place_ne_nil base) fun db =>
        hopens.at_other _ db ((RunId.place_injective base).ne hid)
  case folders =>
    intro other db hdb stop hstop
    by_cases hid : id = other
    · subst hid
      exact hway stop hstop
    · have hbefore := (hopens.at_other _ db ((RunId.place_injective base).ne hid)).1 hdb
      exact hopens.folder stop (h.folders other db hbefore stop hstop)

end Disk.Keeps

end CrawlGraph
