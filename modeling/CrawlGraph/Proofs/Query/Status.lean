import CrawlGraph.Proofs.Query.Saved
import CrawlGraph.Proofs.Store.Access

/-!
# The mark of the last build

Graphs of one job that are saved one after another into a store, each while other keys may be
rejected. The counts that are stored are those of the last save whose records were written, and the
mark is that of the last save whose mark was written as well. A mark that is present therefore has
the counts that are stored, unless the last save whose records were written broke off at its mark
(`counts_runAll`).

1. A save does nothing, writes its records only, or writes its mark behind them (`run_cases`). What
   the store recalls then is what has been written last (`recalls_run`), also after all saves, by
   induction from their end (`recalls_runAll`).
2. So the counts and the mark are read back (`counts_of_recalls`, `status_of_recalls`).
-/

namespace CrawlGraph

/-- A graph of a job that is to be saved, and the keys that are rejected meanwhile. -/
structure Save (job : Int64) where
  network : Network
  completedAt : String
  rejected : List Bytes
  job_eq : network.job = job

namespace Save

variable {job : Int64}

/-- The mark of the build. -/
def mark (save : Save job) : Completion := save.network.completion save.completedAt

/-- None of the records of the graph is rejected. -/
def Writes (save : Save job) : Prop := ∀ record ∈ save.network.records, record.1 ∉ save.rejected

/-- The mark of the build is not rejected. -/
def Marks (save : Save job) : Prop :=
  Utf8.ofString (StoreKey.named job StoreKey.buildComplete) ∉ save.rejected

instance : DecidablePred (@Writes job) := fun save =>
  inferInstanceAs (Decidable (∀ record ∈ save.network.records, record.1 ∉ save.rejected))

instance : DecidablePred (@Marks job) := fun save =>
  inferInstanceAs (Decidable (_ ∉ save.rejected))

/-- What a store keeps after a save. -/
def run (db : Database) (save : Save job) : Database :=
  (Database.saveNetwork { db with rejected := save.rejected } save.network save.completedAt).2

/-- What a store that was empty keeps after saves in order. -/
def runAll (saves : List (Save job)) : Database := saves.foldl run {}

/-- The last save whose records were written. -/
def lastWritten (saves : List (Save job)) : Option (Save job) :=
  (saves.filter fun save => save.Writes).getLast?

/-- The last save that wrote its mark after its records. -/
def lastMarked (saves : List (Save job)) : Option (Save job) :=
  (saves.filter fun save => save.Writes ∧ save.Marks).getLast?

end Save

namespace Database

/-- What a store keeps of the save whose records were written last, and of the one whose mark was.
-/
structure Recalls {job : Int64} (db : Database) (written marked : Option (Save job)) : Prop where
  named : ∀ save ∈ written, ∀ entry ∈ save.network.named,
    db.value? (StoreKey.named job entry.1) = some entry.2.bytes
  mark : db.value? (StoreKey.named job StoreKey.buildComplete) =
    marked.map fun save => save.mark.toJson.bytes

/-- The counts that a store keeps for a job are those of a mark. -/
structure Counts (db : Database) (job : Int64) (mark : Completion) : Prop where
  urls : db.read? (StoreKey.named job StoreKey.urlCount) Json.asInt64? = .ok (some mark.urlCount)
  domains : db.read? (StoreKey.named job StoreKey.domainCount) Json.asInt64? =
    .ok (some mark.domainCount)
  malformed : ∃ ids, db.ids job StoreKey.malformedUrls = .ok ids ∧
    mark.malformedCount = Int64.ofNat ids.length

end Database

namespace Save

variable {job : Int64} {db : Database} {written marked : Option (Save job)}

/-! ## What is written -/

/-- A save does nothing, writes its records only, or writes its mark behind them. -/
theorem run_cases (db : Database) (save : Save job) :
    ¬ save.Writes ∧ (save.run db).table = db.table ∨
      save.Writes ∧ ∃ saved,
        Database.putAll { db with rejected := save.rejected } save.network.records = .ok saved ∧
          (¬ save.Marks ∧ save.run db = saved ∨
            save.Marks ∧ saved.write (StoreKey.named job StoreKey.buildComplete) save.mark.toJson =
              .ok (save.run db)) := by
  obtain ⟨network, completedAt, rejected, rfl⟩ := save
  unfold run Database.saveNetwork Writes Marks mark
  dsimp only
  by_cases hwrites : ∀ record ∈ network.records, record.1 ∉ rejected
  case pos =>
    have hfree : ∀ record ∈ network.records, record.1 ∉ Database.rejected { db with rejected } :=
      hwrites
    obtain ⟨saved, hall, hrejected⟩ := Database.exists_putAll hfree
    refine .inr ⟨hwrites, saved, hall, ?_⟩
    rw [hall]
    unfold Database.write Database.put
    dsimp only
    rw [hrejected]
    by_cases hmarks : Utf8.ofString (StoreKey.named network.job StoreKey.buildComplete) ∈ rejected
    · rw [if_pos (List.contains_iff_mem.2 hmarks)]
      exact .inl ⟨not_not_intro hmarks, rfl⟩
    · rw [if_neg (mt List.contains_iff_mem.1 hmarks)]
      exact .inr ⟨hmarks, rfl⟩
  case neg =>
    refine .inl ⟨hwrites, ?_⟩
    push Not at hwrites
    rw [Database.putAll_eq, if_pos hwrites]

/-- The rejected keys do not matter. -/
theorem recalls_of_table (h : db.Recalls written marked) {other : Database}
    (htable : other.table = db.table) : other.Recalls written marked := by
  have hvalue : ∀ key, other.value? key = db.value? key := by
    intro key
    unfold Database.value?
    rw [htable]
  constructor
  case named =>
    intro save hsave entry hentry
    rw [hvalue, h.named save hsave entry hentry]
  case mark => rw [hvalue, h.mark]

theorem recalls_of_putAll (h : db.Recalls written marked) {save : Save job} {saved : Database}
    (hall : db.putAll save.network.records = .ok saved) : saved.Recalls (some save) marked := by
  obtain ⟨network, completedAt, rejected, rfl⟩ := save
  constructor
  case named =>
    rintro _ ⟨⟩ entry hentry
    exact Database.value?_of_putAll hall hentry
  case mark => exact (Database.mark_of_putAll hall).trans h.mark

/-- The mark overwrites none of the lists and counts. -/
theorem recalls_of_write {save : Save job} {saved : Database} (h : db.Recalls (some save) marked)
    (hwrite : db.write (StoreKey.named job StoreKey.buildComplete) save.mark.toJson = .ok saved) :
    saved.Recalls (some save) (some save) := by
  have hget := Database.get?_of_put hwrite
  constructor
  case named =>
    rintro _ ⟨⟩ entry hentry
    rw [← h.named save rfl entry hentry]
    refine (hget _).trans (if_neg fun hkey => ?_)
    exact ne_mark_of_named hentry (StoreKey.bytes_injective job hkey).symm
  case mark => exact (hget _).trans (if_pos rfl)

/-- Each save is recalled as far as it was written. -/
theorem recalls_run (h : db.Recalls written marked) (save : Save job) :
    (save.run db).Recalls (if save.Writes then some save else written)
      (if save.Writes ∧ save.Marks then some save else marked) := by
  obtain ⟨hwrites, htable⟩ | ⟨hwrites, saved, hall, hmark⟩ := run_cases db save
  · rw [if_neg hwrites, if_neg fun hboth => hwrites hboth.1]
    exact recalls_of_table h htable
  · have hstart : Database.Recalls { db with rejected := save.rejected } written marked :=
      recalls_of_table h rfl
    have hsaved := recalls_of_putAll hstart hall
    rw [if_pos hwrites]
    obtain ⟨hmarks, hrun⟩ | ⟨hmarks, hwrite⟩ := hmark
    · rw [if_neg fun hboth => hmarks hboth.2, hrun]
      exact hsaved
    · rw [if_pos ⟨hwrites, hmarks⟩]
      exact recalls_of_write hsaved hwrite

theorem getLast?_filter_concat {α : Type} (p : α → Bool) (l : List α) (a : α) :
    ((l ++ [a]).filter p).getLast? = if p a then some a else (l.filter p).getLast? := by
  rw [List.filter_append]
  by_cases h : p a
  · rw [List.filter_cons_of_pos h, if_pos h]
    exact List.getLast?_concat
  · rw [List.filter_cons_of_neg h, if_neg h]
    exact congrArg List.getLast? (List.append_nil _)

theorem lastWritten_concat (saves : List (Save job)) (save : Save job) :
    lastWritten (saves ++ [save]) = if save.Writes then some save else lastWritten saves := by
  unfold lastWritten
  rw [getLast?_filter_concat]
  simp only [decide_eq_true_eq]

theorem lastMarked_concat (saves : List (Save job)) (save : Save job) :
    lastMarked (saves ++ [save]) =
      if save.Writes ∧ save.Marks then some save else lastMarked saves := by
  unfold lastMarked
  rw [getLast?_filter_concat]
  simp only [decide_eq_true_eq]

theorem recalls_runAll (saves : List (Save job)) :
    (runAll saves).Recalls (lastWritten saves) (lastMarked saves) := by
  induction saves using List.reverseRecOn with
  | nil => exact ⟨fun _ hsave => (nomatch hsave), rfl⟩
  | append_singleton saves save ih =>
    rw [runAll, List.foldl_concat, lastWritten_concat, lastMarked_concat]
    exact recalls_run ih save

theorem lastMarked_eq (saves : List (Save job)) (hlast : ∀ save ∈ lastWritten saves, save.Marks) :
    lastMarked saves = lastWritten saves := by
  induction saves using List.reverseRecOn with
  | nil => rfl
  | append_singleton saves save ih =>
    rw [lastWritten_concat] at hlast ⊢
    rw [lastMarked_concat]
    by_cases hwrites : save.Writes
    · rw [if_pos hwrites] at hlast ⊢
      exact if_pos ⟨hwrites, hlast save rfl⟩
    · rw [if_neg hwrites] at hlast ⊢
      rw [if_neg fun hboth => hwrites hboth.1]
      exact ih hlast

/-! ## What is read -/

section Recalls

variable (h : db.Recalls written marked)

include h

theorem status_of_recalls : db.status job = .ok (marked.map mark) := by
  have hmark := h.mark
  cases marked with
  | none =>
    unfold Database.status Database.read?
    rw [hmark]
    rfl
  | some save =>
    exact Database.read?_of_value hmark (Completion.isPlain_toJson _)
      (Completion.ofJson?_toJson (by decide) _)

theorem counts_of_recalls {save : Save job} (hsave : save ∈ written) : db.Counts job save.mark := by
  have hnamed := h.named save hsave
  constructor
  case urls =>
    have hvalue := hnamed (StoreKey.urlCount, Json.ofInt save.network.urlCount.toInt)
      (by simp [Network.named])
    exact Database.int64_of_value hvalue
  case domains =>
    have hvalue := hnamed (StoreKey.domainCount, Json.ofInt save.network.domainCount.toInt)
      (by simp [Network.named])
    exact Database.int64_of_value hvalue
  case malformed =>
    have hvalue := hnamed (StoreKey.malformedUrls, idsToJson save.network.malformedUrls)
      (by simp [Network.named])
    exact ⟨_, Database.ids_of_value hvalue, rfl⟩

end Recalls

/-- **The mark.** A mark that is present has the counts that are stored, unless the last save whose
records were written broke off at its mark. -/
theorem counts_runAll (saves : List (Save job))
    (hlast : ∀ save ∈ lastWritten saves, save.Marks) :
    ∃ mark?, (runAll saves).status job = .ok mark? ∧
      ∀ mark ∈ mark?, (runAll saves).Counts job mark := by
  have hrecalls := recalls_runAll saves
  rw [lastMarked_eq saves hlast] at hrecalls
  refine ⟨_, status_of_recalls hrecalls, ?_⟩
  intro mark hmark
  obtain ⟨save, hsave, rfl⟩ := Option.mem_map.1 hmark
  exact counts_of_recalls hrecalls hsave

/-- A graph without nodes is saved, and one with nodes not, because the number of its URLs is
rejected. -/
theorem counts_runAll_rejected :
    let network := Network.ofUpdates 1 [] [⟨"a", "http://a.example/", 0, .metadata none true⟩]
    let saves : List (Save 1) :=
      [⟨Network.ofUpdates 1 [] [], "then", [], job_ofUpdates 1 [] []⟩,
        ⟨network, "now", [Utf8.ofString (StoreKey.named 1 StoreKey.urlCount)],
          job_ofUpdates 1 [] _⟩]
    (∀ save ∈ lastWritten saves, save.Marks) ∧
      ∃ mark?, (runAll saves).status 1 = .ok mark? ∧
        ∀ mark ∈ mark?, (runAll saves).Counts 1 mark := by
  intro network saves
  have hlast : ∀ save ∈ lastWritten saves, save.Marks := by decide +kernel
  exact ⟨hlast, counts_runAll saves hlast⟩

/-- The records of the second graph are written and its mark is rejected, so the mark of the first
one stays. -/
theorem counts_runAll_stale :
    let network := Network.ofUpdates 1 [] [⟨"a", "http://a.example/", 0, .metadata none true⟩]
    let saves : List (Save 1) :=
      [⟨Network.ofUpdates 1 [] [], "then", [], job_ofUpdates 1 [] []⟩,
        ⟨network, "now", [Utf8.ofString (StoreKey.named 1 StoreKey.buildComplete)],
          job_ofUpdates 1 [] _⟩]
    ∃ mark, (runAll saves).status 1 = .ok (some mark) ∧ ¬ (runAll saves).Counts 1 mark := by
  intro network saves
  have hstatus : (runAll saves).status 1 = .ok (some ⟨"then", 0, 0, 0⟩) := by decide +kernel
  have hurls : (runAll saves).read? (StoreKey.named 1 StoreKey.urlCount) Json.asInt64? =
      .ok (some 1) := by
    decide +kernel
  refine ⟨_, hstatus, fun hcounts => ?_⟩
  rw [hcounts.urls] at hurls
  cases hurls

end Save

end CrawlGraph
