import CrawlGraph.Proofs.Store.Progress
import CrawlGraph.Proofs.Store.Saved

/-!
# The records of one job

The keys of a job are those that start with its scope. No key is in the scopes of two jobs, also if
the number of one of them starts with that of the other (`isInScope_unique`). What is written for a
job of which nothing was kept is all that is in its scope (`Database.perm_ofJob`), and a scan of a
scope gives just the records in it (`range_scope`).
-/

namespace CrawlGraph

namespace StoreKey

/-- A key is one of a job. -/
def IsInScope (job : Int64) (key : Bytes) : Prop := scope job <+: key

instance (job : Int64) (key : Bytes) : Decidable (IsInScope job key) :=
  inferInstanceAs (Decidable (_ <+: _))

theorem ofString_named (job : Int64) (name : String) :
    Utf8.ofString (named job name) = scope job ++ Utf8.ofString name := by
  have hempty : named job name = named job "" ++ name := by
    unfold named
    rw [String.append_empty]
  rw [hempty]
  unfold scope Utf8.ofString Utf8.encode
  rw [String.toList_append, List.flatMap_append]

theorem isInScope_named (job : Int64) (name : String) :
    IsInScope job (Utf8.ofString (named job name)) :=
  ⟨_, (ofString_named job name).symm⟩

/-- The number of a job holds no slash, so it is what stands before the first one. -/
theorem takeWhile_of_isInScope {job : Int64} {key : Bytes} (h : IsInScope job key) :
    (Utf8.decodeGaps key).takeWhile (· != some '/') = (toString job).toList.map some := by
  have hnot : ∀ c ∈ (toString job).toList.map some, (c != some '/') = true := by
    intro _ hmem
    obtain ⟨c, hc, rfl⟩ := List.mem_map.1 hmem
    rw [bne_iff_ne]
    rintro ⟨⟩
    exact absurd (Json.isNumberChar_text job.toInt '/' hc) (by decide)
  obtain ⟨rest, rfl⟩ := h
  unfold scope Utf8.ofString named
  rw [Utf8.decodeGaps_append, String.append_empty, String.toList_append, List.map_append,
    List.append_assoc, List.takeWhile_append_of_pos hnot]
  exact List.append_nil _

theorem isInScope_unique {job other : Int64} {key : Bytes} (h : IsInScope job key)
    (hother : IsInScope other key) : job = other := by
  have hlist := (takeWhile_of_isInScope h).symm.trans (takeWhile_of_isInScope hother)
  have hlist := List.map_injective_iff.2 (fun _ _ => Option.some.inj) hlist
  exact toString_id_injective (String.toList_injective hlist)

end StoreKey

namespace Table

/-- The records of a table that belong to a job, in their order. -/
def ofJob (table : Table) (job : Int64) : List (Bytes × Bytes) :=
  table.records.filter fun record => StoreKey.IsInScope job record.1

theorem mem_ofJob {table : Table} {job : Int64} {record : Bytes × Bytes} :
    record ∈ table.ofJob job ↔ record ∈ table.records ∧ StoreKey.IsInScope job record.1 := by
  unfold ofJob
  rw [List.mem_filter, decide_eq_true_iff]

theorem ascending_ofJob (table : Table) (job : Int64) : Sorted.Ascending (table.ofJob job) :=
  table.ascending.filter _

/-- Tables with the same values in a scope have the same records in it. -/
theorem ofJob_congr {table other : Table} {job : Int64}
    (h : ∀ key, StoreKey.IsInScope job key → other.get? key = table.get? key) :
    other.ofJob job = table.ofJob job := by
  refine Sorted.eq_of_find? (other.ascending_ofJob job) (table.ascending_ofJob job) fun key => ?_
  unfold ofJob
  rw [Sorted.find?_filter fun key => decide (StoreKey.IsInScope job key),
    Sorted.find?_filter fun key => decide (StoreKey.IsInScope job key)]
  by_cases hkey : StoreKey.IsInScope job key
  · rw [if_pos (by simpa using hkey), if_pos (by simpa using hkey)]
    exact h key hkey
  · rw [if_neg (by simpa using hkey), if_neg (by simpa using hkey)]

end Table

/-- After a batch for a job of which nothing was kept, its records are those of the batch. -/
theorem Database.perm_ofJob {db saved : Database} {job : Int64} {records : List (Bytes × Bytes)}
    (hnodup : (records.map Prod.fst).Nodup)
    (hscope : ∀ record ∈ records, StoreKey.IsInScope job record.1)
    (hfresh : db.table.ofJob job = []) (h : db.putAll records = .ok saved) :
    (saved.table.ofJob job).Perm records := by
  have hkeys := (saved.table.ascending_ofJob job).nodup_keys
  refine (List.perm_ext_iff_of_nodup (.of_map _ hkeys) (.of_map _ hnodup)).2 ?_
  rintro ⟨key, value⟩
  rw [Table.mem_ofJob]
  constructor
  · rintro ⟨hmem, hkey⟩
    have hget : saved.table.get? key = some value :=
      Sorted.find?_of_mem saved.table.ascending hmem
    by_cases hnew : key ∈ records.map Prod.fst
    · obtain ⟨⟨_, written⟩, hwritten, rfl⟩ := List.mem_map.1 hnew
      rw [get?_putAll_of_mem h hnodup hwritten] at hget
      cases hget
      exact hwritten
    · -- it was there before, in the scope of the job
      rw [get?_putAll_of_not_mem h hnew] at hget
      have hbefore : (key, value) ∈ db.table.ofJob job :=
        Table.mem_ofJob.2 ⟨Table.mem_of_get? hget, hkey⟩
      rw [hfresh] at hbefore
      cases hbefore
  · intro hmem
    exact ⟨Table.mem_of_get? (get?_putAll_of_mem h hnodup hmem), hscope _ hmem⟩

theorem isInScope_records {network : Network} {record : Bytes × Bytes}
    (hrecord : record ∈ network.records) : StoreKey.IsInScope network.job record.1 := by
  have hkey : record.1 ∈ network.records.map Prod.fst := List.mem_map_of_mem hrecord
  rw [keys_records] at hkey
  obtain ⟨name, -, hname⟩ := List.mem_map.1 hkey
  rw [← hname]
  exact StoreKey.isInScope_named _ name

/-- All that is stored of a graph is in the scope of its job. -/
theorem isInScope_stored {network : Network} {completedAt : String} {record : Bytes × Bytes}
    (hrecord : record ∈ network.stored completedAt) :
    StoreKey.IsInScope network.job record.1 := by
  rcases List.mem_append.1 hrecord with hrecord | hmark
  · exact isInScope_records hrecord
  · obtain rfl := List.mem_singleton.1 hmark
    exact StoreKey.isInScope_named _ _

namespace Scan

/-- From a beginning on, the keys that have it come first. -/
theorem takeWhile_isPrefixOf {records : List (Bytes × Bytes)} (h : Sorted.Ascending records)
    (beginning : Bytes) :
    (records.filter fun record => decide (beginning ≤ record.1)).takeWhile
        (fun record => beginning.isPrefixOf record.1) =
      records.filter fun record => beginning.isPrefixOf record.1 := by
  set hasBeginning := fun record : Bytes × Bytes => beginning.isPrefixOf record.1
  induction records with
  | nil => rfl
  | cons head records ih =>
    obtain ⟨hhead, hrecords⟩ := List.pairwise_cons.1 h
    by_cases hprefix : hasBeginning head
    · have hle : beginning ≤ head.1 := (List.isPrefixOf_iff_prefix.1 hprefix).le
      rw [List.filter_cons_of_pos (by simpa using hle), List.takeWhile_cons_of_pos hprefix,
        List.filter_cons_of_pos hprefix, ih hrecords]
    · rw [List.filter_cons_of_neg hprefix]
      by_cases hle : beginning ≤ head.1
      · -- the beginning is before the head, so none of what follows it can have that beginning
        rw [List.filter_cons_of_pos (by simpa using hle), List.takeWhile_cons_of_neg hprefix,
          eq_comm, List.filter_eq_nil_iff]
        intro record hrecord hother
        have hself : beginning.isPrefixOf beginning := List.isPrefixOf_iff_prefix.2 List.prefix_rfl
        exact hprefix
          (isPrefixOf_between hle (List.le_of_lt (hhead record hrecord)) hself hother)
      · rw [List.filter_cons_of_neg (by simpa using hle), ih hrecords]

/-- **Scopes.** The range of a scan of a scope are the records in it. -/
theorem range_scope (job : Int64) (table : Table) :
    range .forward (StoreKey.scope job) (some (StoreKey.scope job)) table = table.ofJob job := by
  have hofJob : table.ofJob job =
      table.records.filter fun record => (StoreKey.scope job).isPrefixOf record.1 := by
    refine List.filter_congr fun record _ => ?_
    rw [Bool.eq_iff_iff, decide_eq_true_iff, List.isPrefixOf_iff_prefix]
    rfl
  rw [hofJob, ← takeWhile_isPrefixOf table.ascending]
  rfl

/-- So all that it gives comes from these records. -/
theorem collect_scope (kind : NodeKind) (job : Int64) (table : Table) :
    (start .forward kind (StoreKey.scope job) (some (StoreKey.scope job))).collect (.ok table) =
      ((table.ofJob job).filterMap (shown? kind)).mapM Item.node := by
  unfold collect
  rw [items_eq_range, range_scope]

end Scan

end CrawlGraph
