import CrawlGraph.Proofs.Graph.Finished

/-!
# Updates in another order

The records of a capture may come in any order, and those of different captures between each other:
as long as the captures are first seen in the same order, the graph is the same
(`graph_of_perm`).

1. If no more than one update of a list tells something, it is told wherever that update stands
   (`lastTold_of_perm`).
2. What makes up a session is of this kind when its updates are the records of one capture
   (`Session.ofUpdates_of_perm`), and a graph depends on its sessions only.
-/

namespace CrawlGraph

/-- Whether a fact tells where the URL was found. -/
def Fact.isMetadata : Fact → Bool
  | .metadata _ _ => true
  | _ => false

/-- The updates of one session are the records of one capture: all carry its URL, one of them tells
what came back, and no more than one each tells what was asked and where the URL was found. -/
structure IsCapture (own : List Update) : Prop where
  url : ∀ first ∈ own, ∀ second ∈ own, first.url = second.url
  answer : own.countP (·.fact.answer?.isSome) = 1
  request : own.countP (·.fact.hints?.isSome) ≤ 1
  metadata : own.countP (·.fact.isMetadata) ≤ 1

/-! ## What a single update tells -/

section Told

variable {α : Type} {tell : Update → Option α} {own other : List Update}

theorem lastTold_of_perm (hperm : own.Perm other)
    (hone : own.countP (fun update => (tell update).isSome) ≤ 1) :
    lastTold tell own = lastTold tell other := by
  have htold : (own.filterMap tell).Perm (other.filterMap tell) := hperm.filterMap tell
  rw [← List.length_filterMap_eq_countP] at hone
  unfold lastTold
  cases hown : own.filterMap tell with
  | nil =>
    rw [hown] at htold
    rw [List.nil_perm.1 htold]
  | cons told rest =>
    rw [hown, List.length_cons] at hone
    obtain rfl : rest = [] := List.eq_nil_of_length_eq_zero (by omega)
    rw [hown] at htold
    rw [List.singleton_perm.1 htold]

theorem lastTold_ne_none (hone : own.countP (fun update => (tell update).isSome) = 1) :
    lastTold tell own ≠ none := by
  unfold lastTold
  intro hnone
  rw [List.getLast?_eq_none_iff] at hnone
  rw [← List.length_filterMap_eq_countP, hnone] at hone
  cases hone

end Told

theorem countP_answer? (own : List Update) :
    own.countP (·.answer?.isSome) = own.countP (·.fact.answer?.isSome) := by
  unfold Update.answer?
  simp only [Option.isSome_map]

theorem isMetadata_of_via? {fact : Fact} (h : fact.via?.isSome) : fact.isMetadata := by
  cases fact with
  | metadata via seed => rfl
  | _ => cases h

/-! ## Sessions -/

namespace IsCapture

variable {own other : List Update} (h : IsCapture own) (hperm : own.Perm other)

include h

theorem via : own.countP (·.fact.via?.isSome) ≤ 1 :=
  Nat.le_trans (List.countP_mono_left fun _ _ => isMetadata_of_via?) h.metadata

include hperm

/-- All updates carry one URL, so it does not matter which of them comes first. -/
theorem head_url : own.head?.map (·.url) = other.head?.map (·.url) := by
  cases hown : own with
  | nil =>
    rw [hown] at hperm
    rw [List.nil_perm.1 hperm]
  | cons first rest =>
    cases hother : other with
    | nil =>
      rw [hown, hother] at hperm
      cases List.perm_nil.1 hperm
    | cons second rest' =>
      have hfirst : first ∈ own := hown ▸ List.mem_cons_self
      have hsecond : second ∈ own := hperm.mem_iff.2 (hother ▸ List.mem_cons_self)
      exact congrArg some (h.url first hfirst second hsecond)

end IsCapture

/-- The session of a capture does not depend on the order of its records. -/
theorem Session.ofUpdates_of_perm {own other : List Update} (h : IsCapture own)
    (hperm : own.Perm other) (seeds : List String) (key : String) (id : Int64) :
    Session.ofUpdates seeds key id own = Session.ofUpdates seeds key id other := by
  have hcount : own.countP (·.answer?.isSome) = 1 := (countP_answer? own).trans h.answer
  have hanswer : lastTold (·.answer?) own = lastTold (·.answer?) other :=
    lastTold_of_perm hperm (Nat.le_of_eq hcount)
  have hvia : lastTold (·.fact.via?) own = lastTold (·.fact.via?) other :=
    lastTold_of_perm hperm h.via
  have hhints : lastTold (·.fact.hints?) own = lastTold (·.fact.hints?) other :=
    lastTold_of_perm hperm h.request
  have hany : ∀ p : Update → Bool, own.any p = other.any p := fun p => hperm.any_eq
  obtain ⟨answer, hlast⟩ := Option.ne_none_iff_exists'.1 (lastTold_ne_none hcount)
  unfold Session.ofUpdates
  -- The offset of the first update counts only where no answer brings its own.
  simp only [h.head_url hperm, hany, hvia, hhints, ← hanswer, hlast, Option.map_some,
    Option.getD_some]

/-! ## Graphs -/

/-- **Order.** Updates of captures give the same graph in every order in which the captures are
first seen in the same order. -/
theorem graph_of_perm (job : Int64) (seeds : List String) {updates others : List Update}
    (hcaptures : ∀ key ∈ sessionKeys updates, IsCapture (updatesOf key updates))
    (hperm : updates.Perm others) (hkeys : sessionKeys updates = sessionKeys others) :
    ((Builder.start job seeds).applyAll updates).finish =
      ((Builder.start job seeds).applyAll others).finish := by
  have hsessions : sessionsOf seeds updates = sessionsOf seeds others := by
    unfold sessionsOf
    rw [← hkeys]
    refine List.map_congr_left ?_
    rintro ⟨key, i⟩ hmem
    have hkey : key ∈ sessionKeys updates := (List.mem_zipIdx hmem).2.2 ▸ List.getElem_mem _
    exact Session.ofUpdates_of_perm (hcaptures key hkey) (hperm.filter _) seeds key _
  rw [applyAll_start, applyAll_start]
  unfold Builder.ofUpdates
  rw [hsessions, hkeys]

/-- Two captures, the second of which was found on the first, record after record and mixed. -/
theorem graph_of_perm_mixed :
    let asked : Update := ⟨"a", "http://a.example/", 0, .request none (some "a.example")⟩
    let answered : Update := ⟨"a", "http://a.example/", 10, .response ⟨200, some "text/html", 9⟩⟩
    let told : Update := ⟨"a", "http://a.example/", 20, .metadata none true⟩
    let found : Update := ⟨"b", "http://b.example/", 30, .metadata (some "http://a.example/") false⟩
    let exchanged : Update := ⟨"b", "http://b.example/", 40, .exchange ⟨404, none, -1⟩⟩
    let updates := [asked, answered, told, found, exchanged]
    let others := [told, exchanged, answered, found, asked]
    (∀ key ∈ sessionKeys updates, IsCapture (updatesOf key updates)) ∧
      updates.Perm others ∧ sessionKeys updates = sessionKeys others ∧
      ((Builder.start 1 []).applyAll updates).finish =
        ((Builder.start 1 []).applyAll others).finish ∧
      ((Builder.start 1 []).applyAll others).finish.urls.map
          (fun node => (node.id, node.parentId, node.statusCode, node.offset)) =
        [(1, -1, 200, 10), (2, 1, 404, 40)] := by
  intro asked answered told found exchanged updates others
  have hcaptures : ∀ key ∈ sessionKeys updates, IsCapture (updatesOf key updates) := by
    have hkeys : sessionKeys updates = ["a", "b"] := by decide +kernel
    rw [hkeys]
    simp only [List.mem_cons, List.not_mem_nil, or_false, forall_eq_or_imp, forall_eq]
    constructor
    · exact ⟨by decide +kernel, by decide +kernel, by decide +kernel, by decide +kernel⟩
    · exact ⟨by decide +kernel, by decide +kernel, by decide +kernel, by decide +kernel⟩
  have hperm : updates.Perm others := by decide +kernel
  have hkeys : sessionKeys updates = sessionKeys others := by decide +kernel
  exact ⟨hcaptures, hperm, hkeys, graph_of_perm 1 [] hcaptures hperm hkeys, by decide +kernel⟩

end CrawlGraph
