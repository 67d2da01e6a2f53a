import CrawlGraph.Proofs.Graph.StoreKey
import CrawlGraph.Store.Pool

/-!
# Names of stores

Stores for different jobs or runs have different names: `RunId.name_injective`.
-/

namespace CrawlGraph.RunId

theorem isNumberChar_job (id : RunId) : ∀ c ∈ (toString id.job).toList, Json.isNumberChar c :=
  Json.isNumberChar_text id.job.toInt

theorem isNumberChar_run (id : RunId) : ∀ c ∈ (toString id.run).toList, Json.isNumberChar c :=
  Json.isNumberChar_text id.run.toInt

theorem toString_run_injective : Function.Injective (toString : Int32 → String) :=
  fun _ _ h => Int32.toInt_inj.1 (Int.repr_injective h)

theorem toList_name (id : RunId) :
    id.name.toList = (toString id.job).toList ++ '_' :: (toString id.run).toList := by
  unfold name
  rw [String.toList_append, String.toList_append, List.append_assoc]
  rfl

/-- The numbers of a job and a run hold no low line, so the name tells where the one ends. -/
theorem name_injective : Function.Injective name := by
  intro id other h
  have hnot : ∀ cs : List Char, (∀ c ∈ cs, Json.isNumberChar c) → '_' ∉ cs := by
    intro cs hcs hmem
    exact absurd (hcs '_' hmem) (by decide)
  have hlist := congrArg String.toList h
  rw [toList_name, toList_name, List.append_cons_inj_of_notMem (hnot _ id.isNumberChar_job)
    (hnot _ id.isNumberChar_run)] at hlist
  obtain ⟨hjob, -, hrun⟩ := hlist
  have hjob := StoreKey.toString_id_injective (String.toList_injective hjob)
  have hrun := toString_run_injective (String.toList_injective hrun)
  cases id
  cases other
  simp_all

end CrawlGraph.RunId
