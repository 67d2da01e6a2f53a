import CrawlGraph.Proofs.Disk.Ways
import CrawlGraph.Proofs.Failure
import CrawlGraph.Proofs.Sorted

/-!
# Databases on a disk

Opening a database makes what is missing on the way to it and changes nothing else, so all databases
keep what they hold (`opens_of_open`). A database that has been opened is opened again without any
change, as long as the folders stay (`Opened.again`).

1. Writing a database leaves all other places as they are (`Writes`).
2. Making folders adds folders only, and makes the whole way to the last one (`makeFolders_spec`).
3. Making a database writes an empty one where there was none (`makeDatabase_spec`).
-/

namespace CrawlGraph.Disk

/-! ## Changes of one place -/

theorem ne_nil_of_at? (disk : Disk) {place : Place} (h : disk.at? place ≠ some .folder) :
    place ≠ [] := by
  rintro rfl
  exact h rfl

theorem at?_set {disk : Disk} {place : Place} (hplace : place ≠ []) (entry : Entry)
    (other : Place) :
    (disk.set place entry).at? other = if place = other then some entry else disk.at? other := by
  unfold at? set
  by_cases heq : place = other
  · subst heq
    rw [if_neg hplace, if_pos rfl, Sorted.find?_insert_self]
  · rw [if_neg heq, Sorted.find?_insert_of_ne heq]

theorem database_of_at? {disk : Disk} {place : Place} {db : Database}
    (h : disk.at? place = some (.database db)) : disk.database place = db := by
  have hplace : place ≠ [] := disk.ne_nil_of_at? (by rw [h]; nofun)
  unfold at? at h
  rw [if_neg hplace] at h
  unfold database
  rw [h]

theorem database_set (disk : Disk) (place : Place) (db : Database) :
    (disk.set place (.database db)).database place = db := by
  unfold database set
  rw [Sorted.find?_insert_self]

theorem database_of_not_at? {disk : Disk} {place : Place} (hplace : place ≠ [])
    (h : ∀ db, disk.at? place ≠ some (.database db)) : disk.database place = {} := by
  unfold at? at h
  simp only [if_neg hplace] at h
  unfold database
  split
  · exact absurd ‹_› (h _)
  · rfl

/-- Two disks with the same databases at a place. -/
theorem database_congr {disk other : Disk} {place : Place} (hplace : place ≠ [])
    (h : ∀ db, other.at? place = some (.database db) ↔ disk.at? place = some (.database db)) :
    other.database place = disk.database place := by
  by_cases hdb : ∃ db, disk.at? place = some (.database db)
  · obtain ⟨db, hdb⟩ := hdb
    rw [database_of_at? hdb, database_of_at? ((h db).2 hdb)]
  · rw [not_exists] at hdb
    rw [database_of_not_at? hplace hdb, database_of_not_at? hplace fun db hother =>
      hdb db ((h db).1 hother)]

/-- A disk on which nothing but the database at a place has been written. -/
structure Writes (disk written : Disk) (place : Place) (db : Database) : Prop where
  current : written.current = disk.current
  at_self : written.at? place = some (.database db)
  at_other : ∀ other, place ≠ other → written.at? other = disk.at? other

namespace Writes

variable {disk written : Disk} {place : Place} {db : Database}

theorem set (hplace : place ≠ []) (db : Database) :
    disk.Writes (disk.set place (.database db)) place db :=
  ⟨rfl, (at?_set hplace _ _).trans (if_pos rfl),
    fun _ hne => (at?_set hplace _ _).trans (if_neg hne)⟩

protected theorem refl (hat : disk.at? place = some (.database db)) : disk.Writes disk place db :=
  ⟨rfl, hat, fun _ _ => rfl⟩

protected theorem trans (h : disk.Writes written place db) {last : Disk} {db' : Database}
    (hlast : written.Writes last place db') : disk.Writes last place db' :=
  ⟨hlast.current.trans h.current, hlast.at_self, fun other hne =>
    (hlast.at_other other hne).trans (h.at_other other hne)⟩

theorem database (h : disk.Writes written place db) : written.database place = db :=
  database_of_at? h.at_self

theorem folder (h : disk.Writes written place db) (hplace : disk.at? place ≠ some .folder)
    {other : Place} (hother : disk.at? other = some .folder) : written.at? other = some .folder := by
  have hne : place ≠ other := by
    rintro rfl
    exact hplace hother
  rw [h.at_other other hne, hother]

end Writes

/-! ## Folders -/

/-- What has been added to a disk are folders. -/
structure AddsFolders (disk made : Disk) : Prop where
  current : made.current = disk.current
  at? : ∀ place, made.at? place = disk.at? place ∨
    disk.at? place = none ∧ made.at? place = some .folder

namespace AddsFolders

variable {disk made last : Disk}

protected theorem refl (disk : Disk) : disk.AddsFolders disk := ⟨rfl, fun _ => .inl rfl⟩

theorem folder (h : disk.AddsFolders made) {place : Place} (hplace : disk.at? place = some .folder) :
    made.at? place = some .folder := by
  rcases h.at? place with heq | ⟨hnone, -⟩
  · rw [heq, hplace]
  · rw [hnone] at hplace
    cases hplace

theorem database (h : disk.AddsFolders made) (place : Place) (db : Database) :
    made.at? place = some (.database db) ↔ disk.at? place = some (.database db) := by
  rcases h.at? place with heq | ⟨hnone, hfolder⟩
  · rw [heq]
  · simp [hnone, hfolder]

protected theorem trans (h : disk.AddsFolders made) (hlast : made.AddsFolders last) :
    disk.AddsFolders last := by
  refine ⟨hlast.current.trans h.current, fun place => ?_⟩
  rcases hlast.at? place with heq | ⟨hnone, hfolder⟩
  · rw [heq]
    exact h.at? place
  · rcases h.at? place with heq' | ⟨-, hfolder'⟩
    · exact .inr ⟨heq' ▸ hnone, hfolder⟩
    · rw [hnone] at hfolder'
      cases hfolder'

end AddsFolders

/-- One step of making folders. -/
def makeFolder (found : Disk × Place) (name : String) : Except DiskFault (Disk × Place) :=
  let place := step found.2 name
  match found.1.at? place with
  | none => .ok (found.1.set place .folder, place)
  | some .folder => .ok (found.1, place)
  | some _ => .error .notFolder

theorem makeFolders_eq (disk : Disk) (path : String) :
    disk.makeFolders path =
      ((names path).foldlM makeFolder (disk, disk.startPlace path)).map Prod.fst := rfl

/-- The places after the steps of a way. -/
def ends (place : Place) : List String → List Place
  | [] => []
  | name :: names => step place name :: ends (step place name) names

theorem makeFolder_spec {disk made : Disk} {place found : Place} {name : String}
    (h : makeFolder (disk, place) name = .ok (made, found)) :
    found = step place name ∧ disk.AddsFolders made ∧ made.at? found = some .folder := by
  unfold makeFolder at h
  dsimp only at h
  split at h
  · rename_i hnone
    cases h
    have hplace : step place name ≠ [] := disk.ne_nil_of_at? (by simp [hnone])
    refine ⟨rfl, ⟨rfl, fun other => ?_⟩, by rw [at?_set hplace, if_pos rfl]⟩
    rw [at?_set hplace]
    by_cases heq : step place name = other
    · exact .inr ⟨heq ▸ hnone, if_pos heq⟩
    · exact .inl (if_neg heq)
  · rename_i hfolder
    cases h
    exact ⟨rfl, .refl disk, hfolder⟩
  · cases h

theorem makeFolder_only {disk made : Disk} {place found : Place} {name : String}
    (h : makeFolder (disk, place) name = .ok (made, found)) :
    found = step place name ∧ ∀ stop, made.at? stop = some .folder →
      disk.at? stop = some .folder ∨ stop = step place name := by
  unfold makeFolder at h
  dsimp only at h
  split at h
  · rename_i hnone
    cases h
    refine ⟨rfl, fun stop hstop => ?_⟩
    rw [at?_set (disk.ne_nil_of_at? (by simp [hnone]))] at hstop
    by_cases heq : step place name = stop
    · exact .inr heq.symm
    · exact .inl (by rwa [if_neg heq] at hstop)
  · cases h
    exact ⟨rfl, fun _ hstop => .inl hstop⟩
  · cases h

theorem foldlM_makeFolder {disk made : Disk} {place found : Place} {names : List String}
    (h : names.foldlM makeFolder (disk, place) = .ok (made, found)) :
    disk.AddsFolders made ∧ ∀ stop ∈ ends place names, made.at? stop = some .folder := by
  induction names generalizing disk place with
  | nil =>
    cases h
    exact ⟨.refl _, fun _ hmem => nomatch hmem⟩
  | cons name names ih =>
    obtain ⟨⟨next, position⟩, hstep, hrest⟩ := foldlM_cons_eq_ok.1 h
    obtain ⟨rfl, hnext, hfolder⟩ := makeFolder_spec hstep
    obtain ⟨hmade, hends⟩ := ih hrest
    refine ⟨hnext.trans hmade, fun stop hmem => ?_⟩
    rcases List.mem_cons.1 hmem with rfl | hmem
    · exact hmade.folder hfolder
    · exact hends stop hmem

/-- Making folders makes the whole way to the last one. -/
theorem makeFolders_spec {disk made : Disk} {path : String} (h : disk.makeFolders path = .ok made) :
    disk.AddsFolders made ∧
      ∀ stop ∈ ends (disk.startPlace path) (names path), made.at? stop = some .folder := by
  rw [makeFolders_eq] at h
  cases hfold : (names path).foldlM makeFolder (disk, disk.startPlace path) with
  | error fault =>
    rw [hfold] at h
    cases h
  | ok found =>
    rw [hfold] at h
    cases h
    exact foldlM_makeFolder hfold

/-- Making folders makes those that the way comes to, and no others. -/
theorem mem_ends_of_foldlM {disk made : Disk} {place found : Place} {names : List String}
    (h : names.foldlM makeFolder (disk, place) = .ok (made, found)) {stop : Place}
    (hstop : made.at? stop = some .folder) :
    disk.at? stop = some .folder ∨ stop ∈ ends place names := by
  induction names generalizing disk place with
  | nil =>
    cases h
    exact .inl hstop
  | cons name names ih =>
    obtain ⟨⟨next, position⟩, hstep, hrest⟩ := foldlM_cons_eq_ok.1 h
    obtain ⟨rfl, hnext⟩ := makeFolder_only hstep
    rcases ih hrest with hfolder | hmem
    · rcases hnext stop hfolder with hfolder | rfl
      · exact .inl hfolder
      · exact .inr List.mem_cons_self
    · exact .inr (List.mem_cons_of_mem _ hmem)

theorem mem_ends_of_makeFolders {disk made : Disk} {path : String}
    (h : disk.makeFolders path = .ok made) {stop : Place} (hstop : made.at? stop = some .folder) :
    disk.at? stop = some .folder ∨ stop ∈ ends (disk.startPlace path) (names path) := by
  rw [makeFolders_eq] at h
  cases hfold : (names path).foldlM makeFolder (disk, disk.startPlace path) with
  | error fault =>
    rw [hfold] at h
    cases h
  | ok found =>
    rw [hfold] at h
    cases h
    exact mem_ends_of_foldlM hfold hstop

theorem foldlM_makeFolder_again {disk : Disk} {place : Place} {names : List String}
    (h : ∀ stop ∈ ends place names, disk.at? stop = some .folder) :
    names.foldlM makeFolder (disk, place) = .ok (disk, arrival place names) := by
  induction names generalizing place with
  | nil => rfl
  | cons name names ih =>
    have hstep : makeFolder (disk, place) name = .ok (disk, step place name) := by
      unfold makeFolder
      simp only [h _ List.mem_cons_self]
    rw [List.foldlM_cons, hstep]
    exact ih fun stop hmem => h stop (List.mem_cons_of_mem _ hmem)

/-- Where all folders are there, none is made. -/
theorem makeFolders_again {disk : Disk} {path : String}
    (h : ∀ stop ∈ ends (disk.startPlace path) (names path), disk.at? stop = some .folder) :
    disk.makeFolders path = .ok disk := by
  rw [makeFolders_eq, foldlM_makeFolder_again h]
  rfl

/-! ## Databases -/

/-- A database is made where there is none, and not in the place of a folder. -/
theorem makeDatabase_spec {disk made : Disk} {place : Place}
    (h : disk.makeDatabase place = .ok made) :
    disk.at? place ≠ some .folder ∧ disk.Writes made place (disk.database place) := by
  -- nothing and an empty file become the same empty database
  have hnew (hfolder : disk.at? place ≠ some .folder)
      (hnone : ∀ db, disk.at? place ≠ some (.database db)) :
      disk.Writes (disk.set place (.database {})) place (disk.database place) := by
    have hplace := disk.ne_nil_of_at? hfolder
    rw [database_of_not_at? hplace hnone]
    exact .set hplace {}
  unfold makeDatabase at h
  cases hat : disk.at? place with
  | none =>
    cases hfolder : disk.requireFolder place.dropLast with
    | error fault => simp [hat, hfolder] at h
    | ok _ =>
      simp only [hat, hfolder, Except.ok.injEq] at h
      exact ⟨nofun, h ▸ hnew (by simp [hat]) (by simp [hat])⟩
  | some entry =>
    cases entry with
    | folder => simp [hat] at h
    | database db =>
      simp only [hat, Except.ok.injEq] at h
      subst h
      exact ⟨nofun, .refl (by rw [database_of_at? hat, hat])⟩
    | file content =>
      cases content with
      | cons byte content => simp [hat] at h
      | nil =>
        cases hfolder : disk.requireFolder place.dropLast with
        | error fault => simp [hat, hfolder] at h
        | ok _ =>
          simp only [hat, hfolder, Except.ok.injEq] at h
          exact ⟨nofun, h ▸ hnew (by simp [hat]) (by simp [hat])⟩

theorem makeDatabase_again {disk : Disk} {place : Place} {db : Database}
    (h : disk.at? place = some (.database db)) : disk.makeDatabase place = .ok disk := by
  unfold makeDatabase
  rw [h]

/-- All folders on the way to a database are there, and so is the database. -/
structure Opened (disk : Disk) (folder name : String) (place : Place) : Prop where
  ends : ∀ stop ∈ ends (disk.startPlace folder) (names folder), disk.at? stop = some .folder
  located : disk.locate (join folder (name ++ ".db")) = .ok place
  database : ∃ db, disk.at? place = some (.database db)

/-- A disk on which a database has been opened, and only what was missing has been added. -/
structure Opens (disk later : Disk) (folder name : String) (place : Place) : Prop where
  opened : later.Opened folder name place
  current : later.current = disk.current
  folder : ∀ other, disk.at? other = some .folder → later.at? other = some .folder
  at_place : later.at? place = some (.database (disk.database place))
  at_other : ∀ other db, place ≠ other →
    (later.at? other = some (.database db) ↔ disk.at? other = some (.database db))

theorem openDatabase_cases {disk opened : Disk} {folder name : String} {place : Place}
    (h : disk.openDatabase folder name = (.ok place, opened)) :
    ∃ made, disk.makeFolders folder = .ok made ∧
      made.locate (join folder (name ++ ".db")) = .ok place ∧
      made.makeDatabase place = .ok opened := by
  unfold openDatabase at h
  cases hfolders : disk.makeFolders folder with
  | error fault =>
    simp only [hfolders] at h
    cases h
  | ok made =>
    cases hlocate : made.locate (join folder (name ++ ".db")) with
    | error fault =>
      simp only [hfolders, hlocate] at h
      cases h
    | ok found =>
      cases hmake : made.makeDatabase found with
      | error fault =>
        simp only [hfolders, hlocate, hmake] at h
        cases h
      | ok last =>
        simp only [hfolders, hlocate, hmake] at h
        cases h
        exact ⟨made, rfl, hlocate, hmake⟩

/-- Opening a database only adds what is missing. -/
theorem opens_of_open {disk opened : Disk} {folder name : String} {place : Place}
    (h : disk.openDatabase folder name = (.ok place, opened)) :
    disk.Opens opened folder name place := by
  obtain ⟨made, hfolders, hlocate, hmake⟩ := openDatabase_cases h
  obtain ⟨hadds, hends⟩ := makeFolders_spec hfolders
  obtain ⟨hnot, hwrites⟩ := makeDatabase_spec hmake
  obtain ⟨hempty, hway, hdestination⟩ := locate_eq_ok.1 hlocate
  have hcurrent := hwrites.current.trans hadds.current
  constructor
  case opened =>
    refine ⟨?_, locate_eq_ok.2 ⟨hempty, ?_, ?_⟩, _, hwrites.at_self⟩
    · rw [startPlace_congr hcurrent]
      exact fun stop hmem => hwrites.folder hnot (hends stop hmem)
    · rw [way_congr hwrites.current]
      exact fun stop hmem => hwrites.folder hnot (hway stop hmem)
    · rw [destination_congr hwrites.current, hdestination]
  case current => exact hcurrent
  case folder => exact fun other hother => hwrites.folder hnot (hadds.folder hother)
  case at_place =>
    rw [hwrites.at_self, database_congr (made.ne_nil_of_at? hnot) (hadds.database place)]
  case at_other =>
    intro other db hne
    rw [hwrites.at_other other hne, hadds.database]

/-- What is left of a disk on which a database was to be opened in a folder, whether it could be
opened or not. -/
structure Leaves (disk later : Disk) (folder : String) : Prop where
  current : later.current = disk.current
  /-- No database is lost, and those that are made are empty. -/
  database : ∀ place, place ≠ [] → later.database place = disk.database place
  /-- No folders are made but those on the way. -/
  folder : ∀ stop, later.at? stop = some .folder →
    disk.at? stop = some .folder ∨ stop ∈ ends (disk.startPlace folder) (names folder)

protected theorem Leaves.refl (disk : Disk) (folder : String) : disk.Leaves disk folder :=
  ⟨rfl, fun _ _ => rfl, fun _ => .inl⟩

theorem leaves_of_makeFolders {disk made : Disk} {folder : String}
    (h : disk.makeFolders folder = .ok made) : disk.Leaves made folder := by
  obtain ⟨hadds, -⟩ := makeFolders_spec h
  exact ⟨hadds.current, fun place hplace => database_congr hplace (hadds.database place),
    fun _ => mem_ends_of_makeFolders h⟩

theorem Leaves.makeDatabase {disk made later : Disk} {folder : String} {place : Place}
    (h : disk.Leaves made folder) (hmake : made.makeDatabase place = .ok later) :
    disk.Leaves later folder := by
  obtain ⟨-, hwrites⟩ := makeDatabase_spec hmake
  refine ⟨hwrites.current.trans h.current, fun other hother => ?_, fun stop hstop => ?_⟩
  · rw [← h.database other hother]
    by_cases heq : place = other
    · rw [← heq, hwrites.database]
    · exact database_congr hother fun db => by rw [hwrites.at_other other heq]
  · by_cases heq : place = stop
    · rw [← heq, hwrites.at_self] at hstop
      cases hstop
    · exact h.folder stop (hwrites.at_other stop heq ▸ hstop)

theorem leaves_openDatabase (disk : Disk) (folder name : String) :
    disk.Leaves (disk.openDatabase folder name).2 folder := by
  unfold openDatabase
  cases hfolders : disk.makeFolders folder with
  | error fault => exact .refl disk folder
  | ok made =>
    have hmade := leaves_of_makeFolders hfolders
    dsimp only
    cases made.locate (join folder (name ++ ".db")) with
    | error fault => exact hmade
    | ok place =>
      dsimp only
      cases hmake : made.makeDatabase place with
      | error fault => exact hmade
      | ok later => exact hmade.makeDatabase hmake

/-- A database that has been opened is opened again without any change. -/
theorem Opened.again {disk : Disk} {folder name : String} {place : Place}
    (h : disk.Opened folder name place) : disk.openDatabase folder name = (.ok place, disk) := by
  obtain ⟨db, hdb⟩ := h.database
  unfold openDatabase
  simp only [makeFolders_again h.ends, h.located, makeDatabase_again hdb]

/-- It does not matter what the databases hold. -/
theorem Opened.of_folders {disk later : Disk} {folder name : String} {place : Place}
    (h : disk.Opened folder name place) (hcurrent : later.current = disk.current)
    (hfolders : ∀ other, disk.at? other = some .folder → later.at? other = some .folder)
    (hdatabase : ∃ db, later.at? place = some (.database db)) : later.Opened folder name place := by
  obtain ⟨hempty, hway, hdestination⟩ := locate_eq_ok.1 h.located
  refine ⟨?_, locate_eq_ok.2 ⟨hempty, ?_, ?_⟩, hdatabase⟩
  · rw [startPlace_congr hcurrent]
    exact fun stop hmem => hfolders stop (h.ends stop hmem)
  · rw [way_congr hcurrent]
    exact fun stop hmem => hfolders stop (hway stop hmem)
  · rw [destination_congr hcurrent, hdestination]

theorem Opened.of_writes {disk written : Disk} {folder name : String} {place : Place}
    {db : Database} (h : disk.Opened folder name place) (hwrites : disk.Writes written place db) :
    written.Opened folder name place := by
  obtain ⟨old, hold⟩ := h.database
  exact h.of_folders hwrites.current (fun _ => hwrites.folder (by simp [hold])) ⟨db, hwrites.at_self⟩

end CrawlGraph.Disk
