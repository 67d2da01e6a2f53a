import Mathlib.Data.List.Basic
import CrawlGraph.Store.Workspace

/-!
# Open and closed stores

Closing a store closes that one and no other (`isClosed_close`), and a store that has just been
opened has a number of its own and is open (`isClosed_of_openStore`). Neither changes what is on the
disk, apart from the folder and the database that opening makes.
-/

namespace CrawlGraph.Workspace

variable {ws ws' : Workspace} {handle : Handle} {folder name : String}

theorem isClosed_eq (ws : Workspace) (handle : Handle) :
    ws.isClosed handle = ws.stores[handle]?.elim true (!·.isOpen) := by
  unfold isClosed
  cases ws.stores[handle]? with
  | none => rfl
  | some store => rfl

/-! ## Closing -/

@[simp] theorem length_close (ws : Workspace) (handle : Handle) :
    (ws.close handle).stores.length = ws.stores.length := List.length_modify _ _ _

@[simp] theorem disk_close (ws : Workspace) (handle : Handle) : (ws.close handle).disk = ws.disk :=
  rfl

theorem isClosed_close (ws : Workspace) (handle other : Handle) :
    (ws.close handle).isClosed other = (decide (handle = other) || ws.isClosed other) := by
  unfold isClosed close
  rw [List.getElem?_modify]
  cases ws.stores[other]? with
  | none => simp
  | some store =>
    by_cases h : handle = other
    · simp [h]
    · simp [h]

/-- Closing a store again changes nothing. -/
theorem close_of_isClosed (h : ws.isClosed handle = true) : ws.close handle = ws := by
  have hstores : (ws.close handle).stores = ws.stores := by
    refine List.ext_getElem? fun other => ?_
    unfold close
    rw [List.getElem?_modify]
    unfold isClosed at h
    by_cases heq : handle = other
    · subst heq
      cases hstore : ws.stores[handle]? with
      | none => rfl
      | some store =>
        have hclosed : store.isOpen = false := by simpa [hstore] using h
        simp [← hclosed]
    · simp [heq]
  cases ws
  exact congrArg (Workspace.mk _) hstores

/-- Closes stores one after another. -/
def closeEach (ws : Workspace) (handles : List Handle) : Workspace := handles.foldl close ws

@[simp] theorem length_closeEach (ws : Workspace) (handles : List Handle) :
    (ws.closeEach handles).stores.length = ws.stores.length := by
  induction handles generalizing ws with
  | nil => rfl
  | cons handle handles ih => exact (ih _).trans (length_close ws handle)

@[simp] theorem disk_closeEach (ws : Workspace) (handles : List Handle) :
    (ws.closeEach handles).disk = ws.disk := by
  induction handles generalizing ws with
  | nil => rfl
  | cons handle handles ih => exact ih _

theorem isClosed_closeEach (ws : Workspace) (handles : List Handle) (other : Handle) :
    (ws.closeEach handles).isClosed other = (decide (other ∈ handles) || ws.isClosed other) := by
  induction handles generalizing ws with
  | nil => simp [closeEach]
  | cons handle handles ih =>
    show ((ws.close handle).closeEach handles).isClosed other = _
    rw [ih, isClosed_close]
    by_cases h : handle = other
    · simp [h]
    · simp [h, Ne.symm h]

/-! ## Opening -/

theorem openStore_eq_ok :
    ws.openStore folder name = (.ok handle, ws') ↔
      ∃ place disk, ws.disk.openDatabase folder name = (.ok place, disk) ∧
        handle = ws.stores.length ∧
        ws' = { disk, stores := ws.stores ++ [{ name, folder, place }] } := by
  unfold openStore
  obtain ⟨opened, disk⟩ := ws.disk.openDatabase folder name
  cases opened with
  | error failure => simp
  | ok place =>
    constructor
    · rintro ⟨⟩
      exact ⟨place, disk, rfl, rfl, rfl⟩
    · rintro ⟨_, _, ⟨⟩, rfl, rfl⟩
      rfl

theorem isClosed_of_openStore (h : ws.openStore folder name = (.ok handle, ws')) (other : Handle) :
    ws'.isClosed other = (decide (other ≠ handle) && ws.isClosed other) := by
  obtain ⟨place, disk, -, rfl, rfl⟩ := openStore_eq_ok.1 h
  unfold isClosed
  rcases Nat.lt_trichotomy other ws.stores.length with hlt | rfl | hgt
  · rw [List.getElem?_append_left hlt]
    simp [Nat.ne_of_lt hlt]
  · simp
  · have hlength : (ws.stores ++ [({ name, folder, place } : Store)]).length ≤ other := by
      rw [List.length_append]
      exact hgt
    rw [List.getElem?_eq_none hlength, List.getElem?_eq_none (Nat.le_of_lt hgt)]
    simp [Nat.ne_of_gt hgt]

end CrawlGraph.Workspace
