import CrawlGraph.Proofs.Disk.Opened
import CrawlGraph.Proofs.Text.Utf8

/-!
# Files in a folder

A plain name in a folder leads to one place below it (`locate_join`). A folder is made there if
there is nothing (`makeFolders_join`), a file is written there if there is no folder (`write_join`),
and what stands there is what is read (`readText_join`).
-/

namespace CrawlGraph.Disk

variable {disk : Disk} {folder name : String}

/-! ## Changes inside a folder -/

/-- A change at a place where there is no folder leaves all folders. -/
theorem isFolder_set {place : Place} (hnot : disk.at? place ≠ some .folder) (entry : Entry)
    (h : disk.isFolder folder = true) : (disk.set place entry).isFolder folder = true := by
  obtain ⟨hne, hstops⟩ := isFolder_eq_true.1 h
  refine isFolder_eq_true.2 ⟨hne, fun stop hmem => ?_⟩
  have hstop := hstops stop hmem
  have hother : place ≠ stop := by
    rintro rfl
    exact hnot hstop
  rw [at?_set (disk.ne_nil_of_at? hnot), if_neg hother, hstop]

/-- In an empty folder there is nothing. -/
theorem at?_of_contents {place : Place} (h : disk.contents place = []) (name : String) :
    disk.at? (place ++ [name]) = none := by
  have hplace : place ++ [name] ≠ [] := List.concat_ne_nil _ _
  unfold at?
  rw [if_neg hplace]
  by_contra hsome
  obtain ⟨entry, hentry⟩ := Option.ne_none_iff_exists'.1 hsome
  have hmem : name ∈ disk.contents place :=
    List.mem_filterMap.2 ⟨(place ++ [name], entry), Sorted.mem_of_find? hentry, by simp⟩
  rw [h] at hmem
  cases hmem

/-- All that a way comes to is something that it has come from, or its end. -/
theorem ends_subset (place : Place) (names : List String) :
    ends place names ⊆ stops place names ++ [arrival place names] := by
  induction names generalizing place with
  | nil => exact List.nil_subset _
  | cons name names ih =>
    have hnext : step place name ∈ stops (step place name) names ++
        [arrival (step place name) names] := by
      cases names with
      | nil => exact List.mem_singleton_self _
      | cons next names => exact List.mem_cons_self
    intro stop hstop
    rcases List.mem_cons.1 hstop with rfl | hstop
    · exact List.mem_cons_of_mem _ hnext
    · exact List.mem_cons_of_mem _ (ih _ hstop)

section Join

variable (hfolder : disk.isFolder folder = true) (hname : IsPlain name)

include hfolder hname

theorem locate_join :
    disk.locate (join folder name) = .ok (disk.destination folder ++ [name]) := by
  obtain ⟨-, hstops⟩ := isFolder_eq_true.1 hfolder
  refine locate_eq_ok.2 ⟨join_ne_empty hname folder, ?_, destination_join hname disk folder⟩
  rwa [way_join hname]

/-- A folder is made inside another one. -/
theorem makeFolders_join (hnone : disk.at? (disk.destination folder ++ [name]) = none) :
    disk.makeFolders (join folder name) =
      .ok (disk.set (disk.destination folder ++ [name]) .folder) := by
  obtain ⟨-, hstops⟩ := isFolder_eq_true.1 hfolder
  have hagain : (names folder).foldlM makeFolder (disk, disk.startPlace folder) =
      .ok (disk, disk.destination folder) :=
    foldlM_makeFolder_again fun stop hstop => hstops stop (ends_subset _ _ hstop)
  have hmake : makeFolder (disk, disk.destination folder) name =
      .ok (disk.set (disk.destination folder ++ [name]) .folder,
        disk.destination folder ++ [name]) := by
    unfold makeFolder
    simp only [step_eq_append hname.not_above, hnone]
  rw [makeFolders_eq, names_join hname, startPlace_join hname, List.foldlM_append, hagain]
  show (List.foldlM makeFolder (disk, disk.destination folder) [name]).map Prod.fst = _
  rw [List.foldlM_cons, hmake]
  rfl

theorem isFolder_join :
    (disk.set (disk.destination folder ++ [name]) .folder).isFolder (join folder name) = true := by
  have hplace : disk.destination folder ++ [name] ≠ [] := List.concat_ne_nil _ _
  obtain ⟨-, hstops⟩ := isFolder_eq_true.1 hfolder
  refine isFolder_eq_true.2 ⟨join_ne_empty hname folder, fun stop hmem => ?_⟩
  have hcurrent : (disk.set (disk.destination folder ++ [name]) .folder).current = disk.current :=
    rfl
  rw [way_congr hcurrent, destination_congr hcurrent, way_join hname, destination_join hname,
    List.mem_append, List.mem_singleton] at hmem
  rw [at?_set hplace]
  split
  · rfl
  · rename_i hne
    exact hstops stop (hmem.resolve_right (Ne.symm hne))

theorem write_join (hnot : disk.at? (disk.destination folder ++ [name]) ≠ some .folder)
    (content : Bytes) :
    disk.write (join folder name) content =
      .ok (disk.set (disk.destination folder ++ [name]) (.file content)) := by
  have habove : disk.requireFolder (disk.destination folder ++ [name]).dropLast = .ok () := by
    rw [List.dropLast_concat, requireFolder_eq_ok]
    exact (isFolder_eq_true.1 hfolder).2 _ (List.mem_append_right _ (List.mem_singleton_self _))
  unfold write
  rw [locate_join hfolder hname]
  simp only [bind, Except.bind, habove]
  rfl

theorem read_join {content : Bytes}
    (hat : disk.at? (disk.destination folder ++ [name]) = some (.file content)) :
    disk.read (join folder name) = .ok content := by
  unfold read find
  rw [locate_join hfolder hname]
  simp only [bind, Except.bind, hat]

/-- A text that stands in a file is read. -/
theorem readText_join {text : List Char}
    (hat : disk.at? (disk.destination folder ++ [name]) = some (.file (Utf8.encode text))) :
    disk.readText (join folder name) = .ok text := by
  unfold readText
  rw [read_join hfolder hname hat]
  simp only [bind, Except.bind, Utf8.decode?_encode]

theorem readText_join_missing (hat : disk.at? (disk.destination folder ++ [name]) = none) :
    disk.readText (join folder name) = .error .missing := by
  unfold readText read find
  rw [locate_join hfolder hname]
  simp only [bind, Except.bind, hat]

end Join

end CrawlGraph.Disk
