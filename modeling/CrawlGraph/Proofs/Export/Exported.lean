import CrawlGraph.Proofs.Export.Files
import CrawlGraph.Proofs.Export.Gathered
import CrawlGraph.Proofs.Graph.Members
import CrawlGraph.Proofs.Store.Access

/-!
# Exported graphs

After a graph has been saved into a store that kept nothing of its job, and the job has been
exported into an empty folder, the files give the graph: `gives_of_save`.

1. A graph has a file for each domain, and one more if a URL has no domain (`mem_fileNumbers`). The
   URLs of a domain and those without one are told apart by the numbers of their files
   (`fileNumber_eq_id`, `fileNumber_eq_zero`).
2. So there are as many files as there should be (`length_byFile`), and each URL is in one of them
   (`unique_of_lines`).
-/

namespace CrawlGraph

/-- The numbers of the files of a graph: those of its domains, and zero if a URL has no domain. -/
def Network.fileNumbers (network : Network) : List Int64 :=
  (if network.urls.any (·.domainId = missingId) then [0] else []) ++ network.domains.map Node.id

namespace Export

/-! ## Numbers of files -/

section Populated

variable {network : Network} (h : network.Populated)

include h

theorem fileNumber_eq_id {domain : Node} (hdomain : domain ∈ network.domains) (node : Node) :
    fileNumber node = domain.id ↔ node.domainId = domain.id := by
  unfold fileNumber
  split
  · rename_i hmissing
    rw [hmissing]
    exact iff_of_false (h.ne_zero hdomain).symm (h.ne_missing hdomain).symm
  · rfl

theorem fileNumber_eq_zero {node : Node} (hnode : node ∈ network.urls) :
    fileNumber node = 0 ↔ node.domainId = missingId := by
  unfold fileNumber
  refine ⟨fun hzero => ?_, fun hmissing => if_pos hmissing⟩
  by_contra hplaced
  obtain ⟨domain, hdomain, hid⟩ := h.placed node hnode hplaced
  rw [if_neg hplaced, hid] at hzero
  exact h.ne_zero hdomain hzero

/-- The files of a graph are those of its URLs. -/
theorem mem_fileNumbers {number : Int64} :
    number ∈ network.fileNumbers ↔ ∃ node ∈ network.urls, fileNumber node = number := by
  unfold Network.fileNumbers
  rw [List.mem_append, List.mem_map]
  constructor
  · rintro (hzero | ⟨domain, hdomain, rfl⟩)
    · split at hzero
      · rename_i hany
        obtain ⟨node, hnode, hmissing⟩ := List.any_eq_true.1 hany
        obtain rfl := List.mem_singleton.1 hzero
        exact ⟨node, hnode, (fileNumber_eq_zero h hnode).2 (by simpa using hmissing)⟩
      · cases hzero
    · obtain ⟨node, hnode, hid⟩ := h.inhabited domain hdomain
      exact ⟨node, hnode, (fileNumber_eq_id h hdomain node).2 hid⟩
  · rintro ⟨node, hnode, rfl⟩
    by_cases hmissing : node.domainId = missingId
    · left
      rw [(fileNumber_eq_zero h hnode).2 hmissing, if_pos]
      · exact List.mem_singleton_self 0
      · exact List.any_eq_true.2 ⟨node, hnode, by simpa using hmissing⟩
    · obtain ⟨domain, hdomain, hid⟩ := h.placed node hnode hmissing
      exact .inr ⟨domain, hdomain, ((fileNumber_eq_id h hdomain node).2 hid).symm⟩

theorem nodup_fileNumbers : network.fileNumbers.Nodup := by
  have hzero : (0 : Int64) ∉ network.domains.map Node.id := by
    intro hmem
    obtain ⟨domain, hdomain, hid⟩ := List.mem_map.1 hmem
    exact h.ne_zero hdomain hid
  unfold Network.fileNumbers
  split
  · exact List.nodup_cons.2 ⟨hzero, h.nodup⟩
  · exact h.nodup

/-- There are as many files as the graph has, in whatever order its URLs come. -/
theorem length_byFile {urls : List Node} (hurls : urls.Perm network.urls) :
    (byFile urls).length = network.fileNumbers.length := by
  have hperm : ((byFile urls).map Prod.fst).Perm network.fileNumbers := by
    refine (List.perm_ext_iff_of_nodup (ascending_byFile urls).nodup_keys
      (nodup_fileNumbers h)).2 fun number => ?_
    rw [mem_numbers, mem_fileNumbers h]
    simp only [hurls.mem_iff]
  rw [← hperm.length_eq, List.length_map]

end Populated

/-! ## What the files give -/

/-- A file gives URLs of a job, each of them once and in the order of their keys. -/
def GivesLines (root : String) (number : Int64) (job : Int64) (urls : List Node) (disk : Disk) :
    Prop :=
  ∃ found, loadLines root number disk = .ok (found.map Line.ofNode) ∧ found.Perm urls ∧
    InKeyOrder job found

/-- The files below a root folder give a graph. -/
structure Gives (root : String) (network : Network) (disk : Disk) : Prop where
  domains : ∃ found, loadDomains root disk = .ok found ∧ found.Perm network.domains ∧
    InKeyOrder network.job found
  ofDomain : ∀ domain ∈ network.domains,
    GivesLines root domain.id network.job (network.urls.filter (·.domainId = domain.id)) disk
  unplaced : (∃ node ∈ network.urls, node.domainId = missingId) →
    GivesLines root 0 network.job (network.urls.filter (·.domainId = missingId)) disk
  missing : ∀ number ∉ network.fileNumbers, loadLines root number disk = .error (.disk .missing)
  /-- Each URL is in one file. -/
  unique : ∀ node ∈ network.urls, ∃! number, ∃ lines,
    loadLines root number disk = .ok lines ∧ Line.ofNode node ∈ lines

/-- A URL is in the file of its number and in no other one. -/
theorem unique_of_lines {root : String} {network : Network} {disk : Disk}
    (hids : (network.urls.map Node.id).Nodup)
    (hlines : ∀ number ∈ network.fileNumbers,
      GivesLines root number network.job (network.urls.filter (fileNumber · = number)) disk)
    (hmissing : ∀ number ∉ network.fileNumbers,
      loadLines root number disk = .error (.disk .missing))
    {node : Node} (hnode : node ∈ network.urls) (hnumber : fileNumber node ∈ network.fileNumbers) :
    ∃! number, ∃ lines, loadLines root number disk = .ok lines ∧ Line.ofNode node ∈ lines := by
  refine ⟨fileNumber node, ?_, ?_⟩
  · obtain ⟨found, hload, hfound, -⟩ := hlines _ hnumber
    refine ⟨_, hload, List.mem_map_of_mem ?_⟩
    rw [hfound.mem_iff, List.mem_filter]
    exact ⟨hnode, by simp⟩
  · rintro number ⟨lines, hload, hline⟩
    by_cases hmem : number ∈ network.fileNumbers
    · obtain ⟨found, hload', hfound, -⟩ := hlines _ hmem
      cases hload.symm.trans hload'
      obtain ⟨other, hother, hsame⟩ := List.mem_map.1 hline
      rw [hfound.mem_iff, List.mem_filter] at hother
      -- the line tells the identifier, and with it the URL
      have hid : other.id = node.id := congrArg Line.id hsame
      obtain rfl := List.inj_on_of_nodup_map hids hother.1 hnode hid
      exact (of_decide_eq_true hother.2).symm
    · cases hload.symm.trans (hmissing number hmem)

/-- What has been written of the nodes of a graph, in the order of their keys, gives the graph. -/
theorem gives_of_written {root : String} {network : Network} {urls domains : List Node}
    {disk : Disk} (h : network.Populated) (hids : (network.urls.map Node.id).Nodup)
    (hwritten : Written root urls domains disk)
    (hurls : urls.Perm network.urls) (horder : InKeyOrder network.job urls)
    (hdomains : domains.Perm network.domains) (horder' : InKeyOrder network.job domains) :
    Gives root network disk := by
  have hnumber : ∀ number, number ∈ network.fileNumbers ↔
      ∃ node ∈ urls, fileNumber node = number := by
    intro number
    rw [mem_fileNumbers h]
    simp only [hurls.mem_iff]
  have hlines : ∀ number ∈ network.fileNumbers,
      GivesLines root number network.job (network.urls.filter (fileNumber · = number)) disk :=
    fun number hmem =>
      ⟨_, hwritten.lines number ((hnumber number).1 hmem), hurls.filter _, horder.filter _⟩
  have hmissing : ∀ number ∉ network.fileNumbers,
      loadLines root number disk = .error (.disk .missing) := by
    intro number hnot
    refine hwritten.missing number fun node hnode heq => hnot ?_
    exact (hnumber number).2 ⟨node, hnode, heq⟩
  constructor
  case domains => exact ⟨domains, hwritten.domains, hdomains, horder'⟩
  case ofDomain =>
    intro domain hdomain
    have hmembers : network.urls.filter (·.domainId = domain.id) =
        network.urls.filter (fileNumber · = domain.id) :=
      List.filter_congr fun node _ => by simp only [fileNumber_eq_id h hdomain]
    rw [hmembers]
    exact hlines _ (List.mem_append_right _ (List.mem_map_of_mem hdomain))
  case unplaced =>
    rintro ⟨node, hnode, hid⟩
    have hmembers : network.urls.filter (·.domainId = missingId) =
        network.urls.filter (fileNumber · = 0) :=
      List.filter_congr fun node hnode => by simp only [fileNumber_eq_zero h hnode]
    rw [hmembers]
    exact hlines _ ((mem_fileNumbers h).2 ⟨node, hnode, (fileNumber_eq_zero h hnode).2 hid⟩)
  case missing => exact hmissing
  case unique =>
    intro node hnode
    exact unique_of_lines hids hlines hmissing hnode ((mem_fileNumbers h).2 ⟨node, hnode, rfl⟩)

/-- **Exports.** After the graph of a list of updates has been saved into an open store that kept
nothing of its job, and the job has been exported from there into an empty folder, the files give
the graph, and the summary tells how many files, URLs and domains there are. -/
theorem gives_of_save (job : Int64) (seeds : List String) (updates : List Update)
    (hfits : (Network.ofUpdates job seeds updates).Fits)
    (hwritable : ∀ node ∈ (Network.ofUpdates job seeds updates).urls,
      (Line.ofNode node).IsWritable)
    (completedAt : String) (ws ws' : Workspace) (handle : Handle) (table : Table) (count : ℕ)
    (htable : ws.table handle = .ok table) (hfresh : table.ofJob job = [])
    (hsaved : ws.run handle (fun db =>
      db.saveNetwork (Network.ofUpdates job seeds updates) completedAt) = (.ok count, ws'))
    (root : String) (disk : Disk) (hsound : disk.IsSound) (hroot : disk.isFolder root = true)
    (hempty : disk.contents (disk.destination root) = []) :
    let network := Network.ofUpdates job seeds updates
    ∃ last, ofDatabase root (ws'.table handle) job disk =
        (.ok { directory := directory root, domainFiles := network.fileNumbers.length,
               urlLines := network.urls.length, domains := network.domains.length }, last) ∧
      Gives root network last := by
  intro network
  have hjob : network.job = job := job_ofUpdates job seeds updates
  have hstorable : network.Storable := storable_ofUpdates hfits
  have hpopulated : network.Populated := populated_ofUpdates hfits
  have hids := hstorable.nodup_ids
  rw [List.map_append] at hids
  obtain ⟨_, before, after, hbefore, hsave, hafter⟩ := Workspace.database_of_run hsaved
  have hsource : ws'.table handle = .ok after.table := Workspace.ask_of_database hafter _
  cases htable.symm.trans (Workspace.ask_of_database hbefore _)
  rw [← hjob] at hfresh
  obtain ⟨urls, domains, hgathered, ⟨hurls, horder⟩, ⟨hdomains, horder'⟩⟩ :=
    ofTable_of_save hstorable hpopulated.kind_urls hpopulated.kind_domains hfresh hsave
  obtain ⟨last, hwrite, hwritten⟩ := written_of_write hsound hroot hempty
    (fun node hnode => hwritable node (hurls.mem_iff.1 hnode))
    (fun node hnode =>
      hstorable.nested node (List.mem_append_right _ (hdomains.mem_iff.1 hnode)))
  refine ⟨last, ?_, gives_of_written hpopulated hids.of_append_left hwritten hurls horder
    hdomains horder'⟩
  unfold ofDatabase
  rw [hjob] at hgathered
  rw [hsource, hgathered]
  dsimp only
  rw [hwrite, length_byFile hpopulated hurls, hurls.length_eq, hdomains.length_eq]

/-- A URL with commas and percent signs and one without a domain, beside a record of another job and
a store on the same disk. -/
theorem gives_of_save_unplaced :
    let before : Database := { table := Table.empty.put (Utf8.ofString (StoreKey.node 12 1)) [0] }
    let ws : Workspace :=
      { disk := { entries := [(["out"], .folder), (["s.db"], .database before)] }
        stores := [{ name := "s", folder := "", place := ["s.db"] }] }
    let network := Network.ofUpdates 1 [] [
      ⟨"a", "http://a.example/x,y?q=%2C%25", 7, .exchange ⟨200, some "text/plain;a,b", 100⟩⟩,
      ⟨"b", "file:///e", 0, .metadata (some "http://a.example/x,y?q=%2C%25") true⟩]
    network.Fits ∧ (∀ node ∈ network.urls, (Line.ofNode node).IsWritable) ∧
      ws.table 0 = .ok before.table ∧ before.table.ofJob 1 = [] ∧
      ∃ count ws', ws.run 0 (fun db => db.saveNetwork network "now") = (.ok count, ws') ∧
        ws'.disk.IsSound ∧ ws'.disk.isFolder "out" = true ∧
        ws'.disk.contents (ws'.disk.destination "out") = [] ∧
        ∃ last, ofDatabase "out" (ws'.table 0) 1 ws'.disk =
            (.ok { directory := "out/resource", domainFiles := 2, urlLines := 2, domains := 1 },
              last) ∧
          Gives "out" network last := by
  intro before ws network
  have hfits : network.Fits := fits_of_length (by decide)
  have hwritable : ∀ node ∈ network.urls, (Line.ofNode node).IsWritable := by decide +kernel
  obtain ⟨saved, hsave⟩ := Database.exists_save before network "now" rfl
  set ws' : Workspace := { ws with disk := ws.disk.set ["s.db"] (.database saved) }
  have hrun : ws.run 0 (fun db => db.saveNetwork network "now") =
      (.ok network.records.length, ws') := by
    have hopen : ws.database 0 = .ok (["s.db"], before) := rfl
    unfold Workspace.run
    rw [hopen]
    simp only [hsave]
    rfl
  have hentries : ws'.disk.entries = [(["out"], .folder), (["s.db"], .database saved)] := rfl
  have hsound : ws'.disk.IsSound := by
    refine Disk.isSound_of_entries fun entry hentry => ?_
    rw [hentries] at hentry
    rcases List.mem_pair.1 hentry with rfl | rfl <;> rfl
  have hfiles : network.fileNumbers.length = 2 ∧ network.urls.length = 2 ∧
      network.domains.length = 1 := by decide +kernel
  obtain ⟨last, hwrite, hgives⟩ := gives_of_save 1 [] _ hfits hwritable "now" ws ws' 0 before.table
    network.records.length rfl rfl hrun "out" ws'.disk hsound rfl rfl
  refine ⟨hfits, hwritable, rfl, rfl, _, ws', hrun, hsound, rfl, rfl, last, ?_, hgives⟩
  rw [hwrite, hfiles.1, hfiles.2.1, hfiles.2.2]
  rfl

end Export

end CrawlGraph
