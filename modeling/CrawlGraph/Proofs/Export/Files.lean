import CrawlGraph.Proofs.Disk.Files
import CrawlGraph.Proofs.Export.Line
import CrawlGraph.Proofs.Graph.NodeJson
import CrawlGraph.Proofs.Store.Layout

/-!
# Resource files read back

1. The URLs of each file are those of its number, in their order (`find?_byFile`), so no URL is lost
   and none is in two files.
2. Each file has a name of its own, so writing one leaves all others (`writeAll_join`).
3. So each file is read back as what was written (`written_of_write`).
-/

namespace CrawlGraph.Export

open Disk (join IsPlain)

/-! ## Grouping -/

theorem ascending_byFile (urls : List Node) : Sorted.Ascending (byFile urls) :=
  Sorted.ascending_foldl_update fileNumber (fun node found => found.getD [] ++ [node])
    List.Pairwise.nil urls

/-- A file has the URLs of its number, in their order, and there is none for a number that no URL
has. -/
theorem find?_byFile (urls : List Node) (number : Int64) :
    Sorted.find? number (byFile urls) =
      if urls.any (fileNumber · = number) then some (urls.filter (fileNumber · = number))
      else none := by
  have hfold : ∀ (found : Option (List Node)) (own : List Node), own ≠ [] →
      own.foldl (fun found node => some (found.getD [] ++ [node])) found =
        some (found.getD [] ++ own) := by
    intro found own hne
    induction own generalizing found with
    | nil => exact absurd rfl hne
    | cons node own ih =>
      rw [List.foldl_cons]
      by_cases hnil : own = []
      · subst hnil
        rfl
      · rw [ih _ hnil, Option.getD_some, List.append_assoc]
        rfl
  unfold byFile
  rw [Sorted.find?_foldl_update fileNumber (fun node found => found.getD [] ++ [node])
    List.Pairwise.nil urls number]
  by_cases hany : urls.any (fileNumber · = number)
  · have hne : urls.filter (fileNumber · = number) ≠ [] := by
      obtain ⟨node, hnode, hnumber⟩ := List.any_eq_true.1 hany
      exact List.ne_nil_of_mem (List.mem_filter.2 ⟨hnode, hnumber⟩)
    rw [if_pos hany, hfold _ _ hne]
    rfl
  · have hnil : urls.filter (fileNumber · = number) = [] := by
      rw [List.filter_eq_nil_iff]
      exact fun node hnode hnumber => hany (List.any_eq_true.2 ⟨node, hnode, hnumber⟩)
    rw [if_neg hany, hnil]
    rfl

theorem mem_numbers {urls : List Node} {number : Int64} :
    number ∈ (byFile urls).map Prod.fst ↔ ∃ node ∈ urls, fileNumber node = number := by
  rw [← Sorted.find?_isSome, find?_byFile]
  by_cases hany : urls.any (fileNumber · = number)
  · rw [if_pos hany]
    simpa using hany
  · rw [if_neg hany]
    simpa using hany

/-! ## Names -/

/-- The name of the file of the URLs of a domain. -/
def lineName (number : Int64) : String := toString number ++ ".unl"

theorem lineFile_eq (root : String) (number : Int64) :
    lineFile root number = join (directory root) (lineName number) := rfl

theorem toList_lineName (number : Int64) :
    (lineName number).toList = (toString number).toList ++ ['.', 'u', 'n', 'l'] :=
  String.toList_append

theorem lineName_injective : Function.Injective lineName := by
  intro number other h
  have hlist := congrArg String.toList h
  rw [toList_lineName, toList_lineName] at hlist
  exact StoreKey.toString_id_injective (String.toList_injective (List.append_cancel_right hlist))

theorem lineName_ne (number : Int64) : lineName number ≠ "domain.json" := by
  intro h
  have hlast := congrArg (fun name : String => name.toList.getLast?) h
  simp [toList_lineName] at hlast

theorem isPlain_lineName (number : Int64) : IsPlain (lineName number) := by
  have hmark : 'u' ∈ (lineName number).toList := by simp [toList_lineName]
  have hslash : '/' ∉ (toString number).toList := (isPlain_toString number.toInt).no_slash
  refine IsPlain.of_mem hmark (by decide) ?_
  rw [toList_lineName]
  simp [hslash]

theorem isPlain_domainName : IsPlain "domain.json" := by
  constructor <;> decide

theorem isPlain_directory : IsPlain "resource" := by
  constructor <;> decide

/-! ## Writing -/

/-- The files that are written for URLs and domains, by name. -/
def files (urls domains : List Node) : List (String × Bytes) :=
  (byFile urls).map (fun file => (lineName file.1, Utf8.encode (resourceText file.2))) ++
    [("domain.json", (Json.array (domains.map Node.toJson)).bytes)]

theorem nodup_files (urls domains : List Node) : ((files urls domains).map Prod.fst).Nodup := by
  unfold files
  rw [List.map_append, List.map_map, List.nodup_append]
  refine ⟨?_, List.nodup_singleton _, ?_⟩
  · have hnumbers := (ascending_byFile urls).nodup_keys.map lineName_injective
    rwa [List.map_map] at hnumbers
  · intro name hname other hother
    obtain ⟨file, -, rfl⟩ := List.mem_map.1 hname
    obtain rfl := List.mem_singleton.1 hother
    exact lineName_ne file.1

theorem isPlain_files {urls domains : List Node} :
    ∀ file ∈ files urls domains, IsPlain file.1 := by
  intro file hfile
  rcases List.mem_append.1 hfile with hfile | hfile
  · obtain ⟨_, -, rfl⟩ := List.mem_map.1 hfile
    exact isPlain_lineName _
  · obtain rfl := List.mem_singleton.1 hfile
    exact isPlain_domainName

theorem find?_lineName (urls domains : List Node) (number : Int64) :
    Sorted.find? (lineName number) (files urls domains) =
      (Sorted.find? number (byFile urls)).map fun own => Utf8.encode (resourceText own) := by
  unfold files
  rw [Sorted.find?_append, Sorted.find?_map_of_injective lineName_injective
    fun own => Utf8.encode (resourceText own)]
  rw [Sorted.find?_cons, if_neg (lineName_ne number).symm, Sorted.find?_nil, Option.or_none]

theorem find?_domainName (urls domains : List Node) :
    Sorted.find? "domain.json" (files urls domains) =
      some (Json.array (domains.map Node.toJson)).bytes := by
  have hnone : Sorted.find? "domain.json" ((byFile urls).map fun file =>
      (lineName file.1, Utf8.encode (resourceText file.2))) = none := by
    rw [Sorted.find?_eq_none]
    intro hmem
    obtain ⟨_, hfile, hname⟩ := List.mem_map.1 hmem
    obtain ⟨file, -, rfl⟩ := List.mem_map.1 hfile
    exact lineName_ne file.1 hname
  unfold files
  rw [Sorted.find?_append, hnone, Option.none_or, Sorted.find?_cons, if_pos rfl]

/-- Files of different names are written into a folder one beside the other. -/
theorem writeAll_join {folder : String} {files : List (String × Bytes)} {disk : Disk}
    (hfolder : disk.isFolder folder = true) (hplain : ∀ file ∈ files, IsPlain file.1)
    (hnodup : (files.map Prod.fst).Nodup)
    (hnone : ∀ name, disk.at? (disk.destination folder ++ [name]) ≠ some .folder) :
    ∃ last, writeAll (files.map fun file => (join folder file.1, file.2)) disk = (.ok (), last) ∧
      last.isFolder folder = true ∧ last.current = disk.current ∧
      ∀ name, last.at? (disk.destination folder ++ [name]) =
        ((Sorted.find? name files).map Entry.file).or
          (disk.at? (disk.destination folder ++ [name])) := by
  induction files generalizing disk with
  | nil =>
    refine ⟨disk, rfl, hfolder, rfl, fun name => ?_⟩
    rw [Sorted.find?_nil, Option.map_none, Option.none_or]
  | cons file files ih =>
    obtain ⟨hnot, hrest⟩ := List.nodup_cons.1 hnodup
    obtain ⟨name, content⟩ := file
    have hwrite := Disk.write_join hfolder (hplain _ List.mem_cons_self) (hnone name) content
    have hplace : disk.destination folder ++ [name] ≠ [] := List.concat_ne_nil _ _
    set next := disk.set (disk.destination folder ++ [name]) (.file content)
    have hat : ∀ other, next.at? (disk.destination folder ++ [other]) =
        if name = other then some (.file content)
        else disk.at? (disk.destination folder ++ [other]) := by
      intro other
      rw [Disk.at?_set hplace]
      simp
    have hdestination : next.destination folder = disk.destination folder := rfl
    obtain ⟨last, hlast, hisFolder, hcurrent, hfiles⟩ :=
      ih (Disk.isFolder_set (hnone name) _ hfolder)
        (fun other hother => hplain other (List.mem_cons_of_mem _ hother)) hrest (by
          intro other
          rw [hdestination, hat]
          split
          · nofun
          · exact hnone other)
    refine ⟨last, ?_, hisFolder, hcurrent, fun other => ?_⟩
    · rw [List.map_cons, writeAll]
      simp only [hwrite]
      exact hlast
    · rw [← hdestination, hfiles, hdestination, hat, Sorted.find?_cons]
      by_cases heq : name = other
      · subst heq
        rw [if_pos rfl, if_pos rfl, Sorted.find?_eq_none.2 hnot]
        rfl
      · rw [if_neg heq, if_neg heq]

/-! ## Reading -/

/-- The files below a root folder say what URLs and domains there are. -/
structure Written (root : String) (urls domains : List Node) (disk : Disk) : Prop where
  lines : ∀ number, (∃ node ∈ urls, fileNumber node = number) →
    loadLines root number disk = .ok ((urls.filter (fileNumber · = number)).map Line.ofNode)
  missing : ∀ number, (∀ node ∈ urls, fileNumber node ≠ number) →
    loadLines root number disk = .error (.disk .missing)
  domains : loadDomains root disk = .ok domains

section Reading

variable {root : String} {urls domains : List Node} {disk : Disk}

theorem asList?_nodes (h : ∀ node ∈ domains, node.Nested 2) :
    (Json.array (domains.map Node.toJson)).asList? Json.maxDepth
      (Node.ofJson? (Json.maxDepth - 1)) = some domains := by
  have hread : ∀ node ∈ domains, Node.ofJson? (Json.maxDepth - 1) node.toJson = some (id node) :=
    fun node hnode => Node.ofJson?_toJson (h node hnode) (by decide)
  show (if Json.maxDepth = 0 then none else List.mapM _ (domains.map Node.toJson)) = some domains
  rw [if_neg (by decide), Json.mapM_map_some _ _ id hread, List.map_id]

theorem texts_eq (root : String) (urls domains : List Node) :
    (byFile urls).map (fun file => (lineFile root file.1, Utf8.encode (resourceText file.2))) ++
        [(domainFile root, (Json.array (domains.map Node.toJson)).bytes)] =
      (files urls domains).map fun file => (join (directory root) file.1, file.2) := by
  unfold files
  rw [List.map_append, List.map_map]
  rfl

/-- A folder in which the files stand and nothing else. -/
theorem written_of_files (hfolder : disk.isFolder (directory root) = true)
    (hfiles : ∀ name, disk.at? (disk.destination (directory root) ++ [name]) =
      (Sorted.find? name (files urls domains)).map Entry.file)
    (hurls : ∀ node ∈ urls, (Line.ofNode node).IsWritable)
    (hdomains : ∀ node ∈ domains, node.Nested 2) : Written root urls domains disk where
  lines number hnumber := by
    have hany : urls.any (fileNumber · = number) = true := by simpa using hnumber
    have hat := hfiles (lineName number)
    rw [find?_lineName, find?_byFile, if_pos hany] at hat
    have hread := Disk.readText_join hfolder (isPlain_lineName number) hat
    unfold loadLines
    rw [lineFile_eq, hread]
    exact readLines_resourceText fun node hnode => hurls node (List.mem_of_mem_filter hnode)
  missing number hnumber := by
    have hany : ¬ urls.any (fileNumber · = number) = true := by simpa using hnumber
    have hat := hfiles (lineName number)
    rw [find?_lineName, find?_byFile, if_neg hany] at hat
    have hread := Disk.readText_join_missing hfolder (isPlain_lineName number) hat
    unfold loadLines
    rw [lineFile_eq, hread]
    rfl
  domains := by
    have hat := hfiles "domain.json"
    rw [find?_domainName] at hat
    have hread := Disk.read_join hfolder isPlain_domainName hat
    have hplain : (Json.array (domains.map Node.toJson)).IsPlain := by
      apply Json.isPlain_array
      intro item hitem
      obtain ⟨node, hnode, rfl⟩ := List.mem_map.1 hitem
      exact Node.isPlain_toJson (hdomains node hnode)
    have hparse : Json.parse? (Json.array (domains.map Node.toJson)).bytes =
        some (.array (domains.map Node.toJson)) := Json.parse?_compactText hplain
    unfold loadDomains domainFile
    simp only [hread, Except.mapError, bind, Except.bind, hparse, Option.bind_some,
      asList?_nodes hdomains]

/-- **Files.** What is written into an empty folder is read back, the URLs by the number of their
file. -/
theorem written_of_write (hsound : disk.IsSound) (hroot : disk.isFolder root = true)
    (hempty : disk.contents (disk.destination root) = [])
    (hurls : ∀ node ∈ urls, (Line.ofNode node).IsWritable)
    (hdomains : ∀ node ∈ domains, node.Nested 2) :
    ∃ last, write root urls domains disk =
        (.ok { directory := directory root, domainFiles := (byFile urls).length,
               urlLines := urls.length, domains := domains.length }, last) ∧
      Written root urls domains last := by
  have hnone := Disk.at?_of_contents hempty
  set made := disk.set (disk.destination root ++ ["resource"]) .folder
  have hmade : disk.makeFolders (directory root) = .ok made :=
    Disk.makeFolders_join hroot isPlain_directory (hnone "resource")
  have hfolder : made.isFolder (directory root) = true :=
    Disk.isFolder_join hroot isPlain_directory
  have hdestination : made.destination (directory root) = disk.destination root ++ ["resource"] :=
    Disk.destination_join isPlain_directory made root
  -- nothing stands in the new folder, as it would have stood in no folder before
  have hbelow : ∀ name, made.at? (made.destination (directory root) ++ [name]) = none := by
    intro name
    rw [hdestination, Disk.at?_set (List.concat_ne_nil _ _), if_neg (by simp)]
    by_contra hsome
    obtain ⟨entry, hentry⟩ := Option.ne_none_iff_exists'.1 hsome
    have habove := hsound _ entry (List.concat_ne_nil _ _) hentry
    rw [List.dropLast_concat, hnone] at habove
    cases habove
  obtain ⟨last, hwrite, hisFolder, hcurrent, hfiles⟩ := writeAll_join hfolder
    isPlain_files (nodup_files urls domains) (by simp [hbelow])
  refine ⟨last, ?_, written_of_files hisFolder ?_ hurls hdomains⟩
  · unfold write
    simp only [hmade, texts_eq, hwrite]
    rfl
  · intro name
    rw [Disk.destination_congr hcurrent, hfiles, hbelow, Option.or_none]

end Reading

end CrawlGraph.Export
