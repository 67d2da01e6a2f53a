import Mathlib.Algebra.Group.Nat.Defs
import Mathlib.Data.List.Nodup
import CrawlGraph.Graph.Builder

/-!
# Identifiers of a build

Nodes get the identifiers 1, 2 and so on, those of domains after those of URLs. The first `n` are
positive and ascending as long as `n` stays within 64 bits.
-/

namespace CrawlGraph

/-- The first `n` identifiers. -/
def firstIds (n : ℕ) : List Int64 := (List.range n).map fun i => Int64.ofNat (i + 1)

@[simp] theorem length_firstIds (n : ℕ) : (firstIds n).length = n := by simp [firstIds]

theorem mem_firstIds {n : ℕ} {id : Int64} :
    id ∈ firstIds n ↔ ∃ i < n, Int64.ofNat (i + 1) = id := by simp [firstIds]

theorem firstIds_add (m n : ℕ) :
    firstIds (m + n) =
      firstIds m ++ (List.range n).map fun i => Int64.ofNat m + Int64.ofNat (i + 1) := by
  unfold firstIds
  rw [List.range_add, List.map_append, List.map_map]
  congr 1
  refine List.map_congr_left fun i _ => ?_
  rw [← Int64.ofNat_add]
  rfl

theorem pairwise_firstIds {n : ℕ} (h : n < 2 ^ 63) : (firstIds n).Pairwise (· < ·) := by
  unfold firstIds
  rw [List.pairwise_map]
  refine List.pairwise_lt_range.imp_of_mem fun {i j} hi hj hlt => ?_
  rw [List.mem_range] at hi hj
  exact (Int64.ofNat_lt_iff_lt (by omega) (by omega)).2 (by omega)

theorem pos_of_mem_firstIds {n : ℕ} (h : n < 2 ^ 63) {id : Int64} (hid : id ∈ firstIds n) :
    0 < id := by
  obtain ⟨i, hi, rfl⟩ := mem_firstIds.1 hid
  exact (Int64.ofNat_lt_iff_lt (a := 0) (by decide) (by omega)).2 (Nat.succ_pos i)

theorem nodup_of_pairwise_lt {ids : List Int64} (h : ids.Pairwise (· < ·)) : ids.Nodup :=
  List.Pairwise.imp (fun hlt => Int64.ne_of_lt hlt) h

/-- Domains are numbered from the base on. -/
theorem numberDomains_eq (numbering : Numbering) (names : List String) :
    Graph.numberDomains numbering names =
      (names.zipIdx.map fun (name, i) =>
          (name, numbering.base + (numbering.domains + Int64.ofNat (i + 1))),
        { numbering with domains := numbering.domains + Int64.ofNat names.length }) := by
  induction names generalizing numbering with
  | nil => simp [Graph.numberDomains]
  | cons name names ih =>
    have hone : ∀ i, Int64.ofNat (i + 1) = 1 + Int64.ofNat i := by
      intro i
      rw [Nat.add_comm, Int64.ofNat_add]
      rfl
    simp only [Graph.numberDomains, ih, List.zipIdx_cons', List.map_cons, List.map_map,
      List.length_cons, Numbering.addDomain, Numbering.lastDomain, Prod.mk.injEq, List.cons.injEq,
      hone, ← Int64.add_assoc]
    refine ⟨⟨⟨trivial, (Int64.add_zero _).symm⟩, ?_⟩, trivial⟩
    refine List.map_congr_left fun found _ => ?_
    show (_, _) = (_, numbering.base + numbering.domains + 1 + Int64.ofNat (found.2 + 1))
    rw [hone, ← Int64.add_assoc]
    rfl

end CrawlGraph
