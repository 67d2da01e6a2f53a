import Mathlib.Data.List.Basic
import Mathlib.Data.List.Induction
import CrawlGraph.Disk.Basic
import CrawlGraph.Proofs.Failure
import CrawlGraph.Proofs.Sorted

/-!
# Ways through a disk

A path names one place, whatever stands on the disk (`Disk.destination`); it is found just when all
that its way passes through are folders (`locate_eq_ok`). Joining a folder and a plain name takes
the way one step further (`names_join`).
-/

namespace CrawlGraph.Disk

/-! ## Names of joined paths -/

/-- A name that is one step of a way into a folder. -/
structure IsPlain (name : String) : Prop where
  nonempty : name.toList ≠ []
  no_slash : '/' ∉ name.toList
  not_here : name.toList ≠ ['.']
  not_above : name ≠ ".."

/-- A name with something else than points and slashes in it, and with no slash, is plain. -/
theorem IsPlain.of_mem {name : String} {c : Char} (hmem : c ∈ name.toList) (hpoint : c ≠ '.')
    (hslash : '/' ∉ name.toList) : IsPlain name := by
  refine ⟨List.ne_nil_of_mem hmem, hslash, ?_, ?_⟩
  · intro h
    rw [h, List.mem_singleton] at hmem
    exact hpoint hmem
  · rintro rfl
    have hpoints : c ∈ ['.', '.'] := hmem
    simp [hpoint] at hpoints

/-- Whether a part of a path means something. -/
def isName (part : List Char) : Bool := !(part == [] || part == ['.'])

theorem names_eq (path : String) :
    names path = ((path.toList.splitOnP (· == '/')).filter isName).map String.ofList := rfl

section Join

variable {name : String} (h : IsPlain name)

include h

theorem IsPlain.parts : (name.toList.splitOnP (· == '/')).filter isName = [name.toList] := by
  have hslash : ∀ c ∈ name.toList, (c == '/') = false := by
    intro c hc
    rw [beq_eq_false_iff_ne]
    rintro rfl
    exact h.no_slash hc
  rw [List.splitOnP_eq_singleton hslash]
  simp [isName, h.nonempty, h.not_here]

theorem IsPlain.not_isRooted : isRooted name = false := by
  unfold isRooted
  rw [beq_eq_false_iff_ne]
  intro hhead
  exact h.no_slash (List.mem_of_mem_head? hhead)

theorem toList_join (folder : String) :
    (join folder name).toList = folder.toList ++ name.toList ∧
        (folder.toList = [] ∨ ∃ above, folder.toList = above ++ ['/']) ∨
      (join folder name).toList = folder.toList ++ '/' :: name.toList := by
  unfold join
  rw [h.not_isRooted]
  by_cases hend : folder.isEmpty || folder.toList.getLast? == some '/'
  · left
    rw [if_neg (by simp), if_pos hend]
    refine ⟨String.toList_append, ?_⟩
    rcases Bool.or_eq_true _ _ ▸ hend with hempty | hlast
    · exact .inl (by simpa using hempty)
    · refine .inr ⟨folder.toList.dropLast, ?_⟩
      exact (List.dropLast_append_getLast? _ (by simpa using hlast)).symm
  · right
    rw [if_neg (by simp), if_neg hend, String.toList_append, String.toList_append,
      List.append_assoc]
    rfl

/-- A plain name is one more step. -/
theorem names_join (folder : String) : names (join folder name) = names folder ++ [name] := by
  have hparts := h.parts
  have hsplit : ∀ cs rest : List Char, (cs ++ '/' :: rest).splitOnP (· == '/') =
      cs.splitOnP (· == '/') ++ rest.splitOnP (· == '/') :=
    fun cs rest => List.splitOnP_append_cons cs rest rfl
  have hone : [name.toList].map String.ofList = [name] := by simp
  rw [names_eq, names_eq]
  rcases toList_join h folder with ⟨hlist, hempty | ⟨above, habove⟩⟩ | hlist
  · rw [hlist, hempty, List.nil_append, hparts, hone]
    simp [isName]
  · rw [hlist, habove, List.append_assoc, List.singleton_append, hsplit, hsplit,
      List.filter_append, List.filter_append, hparts, List.map_append, List.map_append, hone]
    simp [isName]
  · rw [hlist, hsplit, List.filter_append, hparts, List.map_append, hone]

theorem isRooted_join (folder : String) : isRooted (join folder name) = isRooted folder := by
  have hname := h.not_isRooted
  unfold isRooted at hname ⊢
  rcases toList_join h folder with ⟨hlist, -⟩ | hlist
  · rw [hlist]
    cases hfolder : folder.toList with
    | nil => simpa using hname
    | cons c cs => rfl
  · rw [hlist]
    cases hfolder : folder.toList with
    | nil =>
      -- an empty folder is followed by no slash
      unfold join at hlist
      simp [h.not_isRooted, String.isEmpty_iff, ← String.toList_eq_nil_iff, hfolder] at hlist
    | cons c cs => rfl

theorem startPlace_join (disk : Disk) (folder : String) :
    disk.startPlace (join folder name) = disk.startPlace folder := by
  unfold startPlace
  rw [isRooted_join h]

theorem join_ne_empty (folder : String) : (join folder name).isEmpty = false := by
  have hne : (join folder name).toList ≠ [] := by
    rcases toList_join h folder with ⟨hlist, -⟩ | hlist
    · rw [hlist]
      exact List.append_ne_nil_of_right_ne_nil _ h.nonempty
    · rw [hlist]
      exact List.append_ne_nil_of_right_ne_nil _ (List.cons_ne_nil _ _)
  rw [Bool.eq_false_iff]
  intro hempty
  exact hne (by simpa using hempty)

end Join

/-! ## Ways -/

/-- The places at which the steps of a way are taken. -/
def stops (place : Place) : List String → List Place
  | [] => []
  | name :: names => place :: stops (step place name) names

/-- The place at which a way ends. -/
def arrival (place : Place) (names : List String) : Place := names.foldl step place

/-- The place that a path leads to if all that it passes through are folders. -/
def destination (disk : Disk) (path : String) : Place :=
  arrival (disk.startPlace path) (names path)

/-- The places that a path passes through. -/
def way (disk : Disk) (path : String) : List Place := stops (disk.startPlace path) (names path)

section Current

variable {disk later : Disk} (h : later.current = disk.current)

include h

theorem startPlace_congr (path : String) : later.startPlace path = disk.startPlace path := by
  unfold startPlace
  rw [h]

theorem destination_congr (path : String) : later.destination path = disk.destination path := by
  unfold destination
  rw [startPlace_congr h]

theorem way_congr (path : String) : later.way path = disk.way path := by
  unfold way
  rw [startPlace_congr h]

end Current

theorem stops_append (place : Place) (names more : List String) :
    stops place (names ++ more) = stops place names ++ stops (arrival place names) more := by
  induction names generalizing place with
  | nil => rfl
  | cons name names ih =>
    show place :: stops (step place name) (names ++ more) = _
    rw [ih]
    rfl

theorem arrival_append (place : Place) (names more : List String) :
    arrival place (names ++ more) = arrival (arrival place names) more := List.foldl_append

theorem step_eq_append {name : String} (h : name ≠ "..") (place : Place) :
    step place name = place ++ [name] := if_neg h

theorem destination_join {name : String} (h : IsPlain name) (disk : Disk) (folder : String) :
    disk.destination (join folder name) = disk.destination folder ++ [name] := by
  unfold destination
  rw [names_join h, startPlace_join h, arrival_append]
  exact step_eq_append h.not_above _

theorem way_join {name : String} (h : IsPlain name) (disk : Disk) (folder : String) :
    disk.way (join folder name) = disk.way folder ++ [disk.destination folder] := by
  unfold way destination
  rw [names_join h, startPlace_join h, stops_append]
  rfl

theorem arrival_eq_append {names : List String} (h : ".." ∉ names) (place : Place) :
    arrival place names = place ++ names := by
  induction names generalizing place with
  | nil => simp [arrival]
  | cons name names ih =>
    rw [List.mem_cons, not_or] at h
    show arrival (step place name) names = _
    rw [ih h.2, step_eq_append (Ne.symm h.1), List.append_assoc]
    rfl

/-- A way that never leads back passes through what is above its end. -/
theorem prefix_of_mem_stops {names : List String} (h : ".." ∉ names) {place stop : Place}
    (hstop : stop ∈ stops place names) : stop <+: arrival place names := by
  induction names generalizing place with
  | nil => cases hstop
  | cons name names ih =>
    rcases List.mem_cons.1 hstop with rfl | hstop
    · rw [arrival_eq_append h]
      exact List.prefix_append _ _
    · exact ih (fun hmem => h (List.mem_cons_of_mem _ hmem)) hstop

theorem requireFolder_eq_ok {disk : Disk} {place : Place} :
    disk.requireFolder place = .ok () ↔ disk.at? place = some .folder := by
  unfold requireFolder
  split <;> simp_all

theorem foldlM_locate {disk : Disk} {names : List String} {place found : Place} :
    names.foldlM (fun place name => do
        disk.requireFolder place
        return step place name) place = .ok found ↔
      (∀ stop ∈ stops place names, disk.at? stop = some .folder) ∧ arrival place names = found := by
  induction names generalizing place with
  | nil => simp [stops, arrival, pure, Except.pure]
  | cons name names ih =>
    show _ ↔ (∀ stop ∈ place :: stops (step place name) names, _) ∧
      arrival (step place name) names = found
    rw [foldlM_cons_eq_ok, List.forall_mem_cons, and_assoc, ← ih]
    constructor
    · rintro ⟨next, hstep, hrest⟩
      obtain ⟨_, hfolder, heq⟩ := bind_eq_ok.1 hstep
      cases heq
      exact ⟨requireFolder_eq_ok.1 hfolder, hrest⟩
    · rintro ⟨hfolder, hrest⟩
      exact ⟨_, bind_eq_ok.2 ⟨(), requireFolder_eq_ok.2 hfolder, rfl⟩, hrest⟩

/-- A place is found just when all on the way to it are folders. -/
theorem locate_eq_ok {disk : Disk} {path : String} {place : Place} :
    disk.locate path = .ok place ↔ path.isEmpty = false ∧
      (∀ stop ∈ disk.way path, disk.at? stop = some .folder) ∧ disk.destination path = place := by
  unfold locate
  cases path.isEmpty with
  | true => simp
  | false =>
    rw [if_neg (by simp), foldlM_locate]
    exact (and_iff_right rfl).symm

theorem isFolder_eq_true {disk : Disk} {path : String} :
    disk.isFolder path = true ↔ path.isEmpty = false ∧
      ∀ stop ∈ disk.way path ++ [disk.destination path], disk.at? stop = some .folder := by
  unfold isFolder find
  rw [List.forall_mem_append, List.forall_mem_singleton]
  constructor
  · intro h
    cases hlocate : disk.locate path with
    | error fault => simp [hlocate, bind, Except.bind] at h
    | ok place =>
      obtain ⟨hempty, hway, rfl⟩ := locate_eq_ok.1 hlocate
      simp only [hlocate, bind, Except.bind] at h
      refine ⟨hempty, hway, ?_⟩
      cases hat : disk.at? (disk.destination path) with
      | none => simp [hat] at h
      | some entry =>
        cases entry with
        | folder => rfl
        | _ => simp [hat] at h
  · rintro ⟨hempty, hway, hfolder⟩
    rw [locate_eq_ok.2 ⟨hempty, hway, rfl⟩]
    simp [bind, Except.bind, hfolder]

/-! ## Sound disks -/

/-- Everything stands in a folder. -/
def IsSound (disk : Disk) : Prop :=
  ∀ place entry, place ≠ [] → disk.at? place = some entry →
    disk.at? place.dropLast = some .folder

theorem isSound_of_entries {disk : Disk}
    (h : ∀ entry ∈ disk.entries, disk.at? entry.1.dropLast = some .folder) : disk.IsSound := by
  intro place entry hplace hat
  unfold at? at hat
  rw [if_neg hplace] at hat
  exact h _ (Sorted.mem_of_find? hat)

/-- What is above something is a folder. -/
theorem IsSound.folder_above {disk : Disk} (h : disk.IsSound) {place stop : Place} {name : String}
    {entry : Entry} (hat : disk.at? (place ++ [name]) = some entry) (habove : stop <+: place) :
    disk.at? stop = some .folder := by
  have hplace : disk.at? place = some .folder := by
    simpa using h _ entry (List.concat_ne_nil _ _) hat
  obtain ⟨rest, rfl⟩ := habove
  clear hat
  induction rest using List.reverseRecOn with
  | nil => simpa using hplace
  | append_singleton rest name ih =>
    rw [← List.append_assoc] at hplace
    exact ih (by simpa using h _ .folder (List.concat_ne_nil _ _) hplace)

end CrawlGraph.Disk
