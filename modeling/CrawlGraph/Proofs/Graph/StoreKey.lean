import Std.Data.String.ToInt
import CrawlGraph.Graph.StoreKey
import CrawlGraph.Proofs.Json.Atoms
import CrawlGraph.Proofs.Text.Utf8

/-!
# Different parts have different keys

Inside a job, nodes with different identifiers and lists with different names are stored under
different keys, and no list under the key of a node: `named_injective`, `toString_id_ne`.
-/

namespace CrawlGraph.StoreKey

/-- The names that are given to lists, counts and the mark of a complete build. -/
def reserved : List String :=
  [rootUrls, malformedUrls, rootDomains, urlCount, domainCount, buildComplete]

theorem nodup_reserved : reserved.Nodup := by decide

theorem named_injective (job : Int64) : Function.Injective (named job) := by
  intro name name' h
  have hlist := congrArg String.toList h
  simp only [named, String.toList_append] at hlist
  exact String.toList_injective (List.append_cancel_left hlist)

theorem bytes_injective (job : Int64) :
    Function.Injective fun name => Utf8.ofString (named job name) :=
  Utf8.ofString_injective.comp (named_injective job)

theorem toString_id_injective : Function.Injective (toString : Int64 → String) :=
  fun _ _ h => Int64.toInt_inj.1 (Int.repr_injective h)

/-- The text of an identifier is no name of a list. -/
theorem toString_id_ne (id : Int64) : toString id ∉ reserved := by
  have hletter : reserved.all (fun name => name.toList.any fun c => !Json.isNumberChar c) := by
    decide
  intro hmem
  obtain ⟨c, hc, hother⟩ := List.any_eq_true.1 (List.all_eq_true.1 hletter _ hmem)
  rw [Json.isNumberChar_text id.toInt c hc] at hother
  cases hother

end CrawlGraph.StoreKey
