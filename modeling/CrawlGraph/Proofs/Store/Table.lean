import Mathlib.Data.List.Nodup
import CrawlGraph.Proofs.Failure
import CrawlGraph.Proofs.Sorted
import CrawlGraph.Store.Database

/-!
# Records of a store

What a store keeps after a batch of records with different keys: the value of each record under its
key (`get?_putAll_of_mem`), and what it kept before under all other keys (`get?_putAll_of_not_mem`).
A batch is written if none of its keys is rejected (`exists_putAll`).
-/

namespace CrawlGraph

theorem Table.get?_put (table : Table) (key value key' : Bytes) :
    (table.put key value).get? key' = if key = key' then some value else table.get? key' :=
  Sorted.find?_insert table.ascending key value key'

theorem Table.mem_of_get? {table : Table} {key value : Bytes} (h : table.get? key = some value) :
    (key, value) ∈ table.records := Sorted.mem_of_find? h

namespace Database

variable {db saved : Database} {key value : Bytes} {records : List (Bytes × Bytes)}

theorem put_eq_ok :
    db.put key value = .ok saved ↔
      key ∉ db.rejected ∧ { db with table := db.table.put key value } = saved := by
  unfold put
  by_cases h : key ∈ db.rejected
  · simp [h]
  · simp [h]

theorem get?_of_put (h : db.put key value = .ok saved) (key' : Bytes) :
    saved.table.get? key' = if key = key' then some value else db.table.get? key' := by
  obtain ⟨-, rfl⟩ := put_eq_ok.1 h
  exact db.table.get?_put key value key'

theorem putAll_cons_eq_ok {record : Bytes × Bytes} :
    db.putAll (record :: records) = .ok saved ↔
      ∃ next, db.put record.1 record.2 = .ok next ∧ next.putAll records = .ok saved :=
  foldlM_cons_eq_ok

theorem putAll_append_eq_ok {more : List (Bytes × Bytes)} :
    db.putAll (records ++ more) = .ok saved ↔
      ∃ next, db.putAll records = .ok next ∧ next.putAll more = .ok saved := by
  unfold putAll
  rw [List.foldlM_append, bind_eq_ok]

/-- A batch leaves other keys as they are. -/
theorem get?_putAll_of_not_mem (h : db.putAll records = .ok saved)
    (hkey : key ∉ records.map Prod.fst) : saved.table.get? key = db.table.get? key := by
  induction records generalizing db with
  | nil =>
    cases h
    rfl
  | cons record records ih =>
    obtain ⟨next, hput, hall⟩ := putAll_cons_eq_ok.1 h
    rw [List.map_cons, List.mem_cons, not_or] at hkey
    rw [ih hall hkey.2, get?_of_put hput, if_neg (Ne.symm hkey.1)]

/-- A batch gives each of its keys the value that it has for it. -/
theorem get?_putAll_of_mem (h : db.putAll records = .ok saved)
    (hnodup : (records.map Prod.fst).Nodup) (hmem : (key, value) ∈ records) :
    saved.table.get? key = some value := by
  induction records generalizing db with
  | nil => cases hmem
  | cons record records ih =>
    obtain ⟨next, hput, hall⟩ := putAll_cons_eq_ok.1 h
    rw [List.map_cons, List.nodup_cons] at hnodup
    rcases List.mem_cons.1 hmem with rfl | hmem
    · rw [get?_putAll_of_not_mem hall hnodup.1, get?_of_put hput, if_pos rfl]
    · exact ih hall hnodup.2 hmem

/-- A batch is written if none of its keys is rejected. -/
theorem exists_putAll (h : ∀ record ∈ records, record.1 ∉ db.rejected) :
    ∃ saved, db.putAll records = .ok saved ∧ saved.rejected = db.rejected := by
  induction records generalizing db with
  | nil => exact ⟨db, rfl, rfl⟩
  | cons record records ih =>
    set next : Database := { db with table := db.table.put record.1 record.2 }
    have hput : db.put record.1 record.2 = .ok next :=
      put_eq_ok.2 ⟨h record List.mem_cons_self, rfl⟩
    have hrest : ∀ other ∈ records, other.1 ∉ next.rejected :=
      fun other hother => h other (List.mem_cons_of_mem _ hother)
    obtain ⟨saved, hall, hrejected⟩ := ih hrest
    exact ⟨saved, putAll_cons_eq_ok.2 ⟨next, hput, hall⟩, hrejected⟩

end Database

end CrawlGraph
