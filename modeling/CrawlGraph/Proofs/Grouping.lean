import Mathlib.Data.List.Induction
import Mathlib.Data.List.Nodup
import Mathlib.Algebra.BigOperators.Group.List.Basic

/-!
# Lists grouped by key

The keys of a list, each once in the order of their first places, and the groups of elements that
share one. The groups of all keys make up the list: `sum_groups`.
-/

namespace CrawlGraph

variable {α κ : Type}

/-! ## Keys -/

theorem nodup_eraseDups [BEq α] [LawfulBEq α] (l : List α) : l.eraseDups.Nodup := by
  cases l with
  | nil => exact List.nodup_nil
  | cons a l =>
    rw [List.eraseDups_cons, List.nodup_cons]
    exact ⟨by simp, nodup_eraseDups _⟩
termination_by l.length
decreasing_by exact Nat.lt_succ_of_le (List.length_filter_le _ _)

theorem length_eraseDups_le [BEq α] [LawfulBEq α] (l : List α) : l.eraseDups.length ≤ l.length :=
  (List.subperm_of_subset (nodup_eraseDups l) fun _ h => List.mem_eraseDups.1 h).length_le

theorem eraseDups_concat [DecidableEq α] (l : List α) (a : α) :
    (l ++ [a]).eraseDups = if a ∈ l then l.eraseDups else l.eraseDups ++ [a] := by
  rw [List.eraseDups_append]
  by_cases h : a ∈ l
  · rw [if_pos h]
    simp [List.removeAll, h]
  · rw [if_neg h]
    simp [List.removeAll, h, List.eraseDups_cons]

/-- What alone passes a test is what a search finds. -/
theorem find?_of_unique {p : α → Bool} {l : List α} {a : α} (ha : a ∈ l) (hp : p a)
    (hunique : ∀ b ∈ l, p b → b = a) : l.find? p = some a := by
  obtain ⟨b, hb⟩ := Option.isSome_iff_exists.1 (List.find?_isSome.2 ⟨a, ha, hp⟩)
  rw [hb, hunique b (List.mem_of_find?_eq_some hb) (List.find?_some hb)]

/-! ## Groups -/

theorem sum_indicator [DecidableEq κ] {M : Type} [AddCommMonoid M] {keys : List κ}
    (hkeys : keys.Nodup) {k : κ} (hk : k ∈ keys) (m : M) :
    (keys.map fun k' => if k' = k then m else 0).sum = m := by
  have h := List.sum_map_eq_nsmul_single (l := keys) (f := fun k' => if k' = k then m else 0) k
    fun k' hne _ => if_neg hne
  rw [h, if_pos rfl, List.count_eq_one_of_mem hkeys hk, one_nsmul]

/-- A sum over a list is the sum over its groups, whatever else is among the keys. -/
theorem sum_groups [DecidableEq κ] {M : Type} [AddCommMonoid M] (key : α → κ) (f : α → M)
    {keys : List κ} (hkeys : keys.Nodup) {l : List α} (hl : ∀ a ∈ l, key a ∈ keys) :
    (keys.map fun k => ((l.filter fun a => key a = k).map f).sum).sum = (l.map f).sum := by
  induction l with
  | nil => simp
  | cons a l ih =>
    have hstep : ∀ k, (((a :: l).filter fun a => key a = k).map f).sum =
        (if k = key a then f a else 0) + ((l.filter fun a => key a = k).map f).sum := by
      intro k
      by_cases h : key a = k
      · simp [h]
      · simp [h, Ne.symm h]
    simp only [hstep, List.sum_map_add, List.map_cons, List.sum_cons]
    rw [ih fun b hb => hl b (List.mem_cons_of_mem _ hb)]
    congr 1
    exact sum_indicator hkeys (hl a List.mem_cons_self) (f a)

end CrawlGraph
