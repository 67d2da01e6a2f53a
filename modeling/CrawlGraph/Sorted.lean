/-!
# Sorted association lists

Finite maps as lists of keys and values in ascending order of the keys, each key at most once.

Main definitions: `Sorted.insert`, `Sorted.update`, `Sorted.erase`, `Sorted.find?`,
`Sorted.Ascending`; `Ascending.update` and `Ascending.erase` say that the order is kept.
-/

namespace CrawlGraph.Sorted

variable {α β : Type} [LT α] [DecidableLT α] [DecidableEq α]

/-- The keys ascend. -/
def Ascending (l : List (α × β)) : Prop := l.Pairwise fun a b => a.1 < b.1

/-- Gives a key the value that `f` makes of the one it has. -/
def update (k : α) (f : Option β → β) : List (α × β) → List (α × β)
  | [] => [(k, f none)]
  | (k', v') :: l =>
    if k < k' then (k, f none) :: (k', v') :: l
    else if k = k' then (k, f (some v')) :: l
    else (k', v') :: update k f l

/-- Gives a key a value. -/
def insert (k : α) (v : β) (l : List (α × β)) : List (α × β) := update k (fun _ => v) l

/-- Takes a key away. -/
def erase (k : α) (l : List (α × β)) : List (α × β) := l.filter fun entry => entry.1 ≠ k

/-- The value of a key. -/
def find? (k : α) (l : List (α × β)) : Option β := (l.find? fun entry => entry.1 = k).map Prod.snd

/-- The map in which later pairs of a list win over earlier ones of the same key. -/
def ofList (l : List (α × β)) : List (α × β) := l.foldl (fun m entry => insert entry.1 entry.2 m) []

theorem mem_update {k : α} {f : Option β → β} {l : List (α × β)} {entry : α × β}
    (h : entry ∈ update k f l) : entry.1 = k ∨ entry ∈ l := by
  induction l with
  | nil =>
    simp only [update, List.mem_singleton] at h
    exact .inl (by rw [h])
  | cons head l ih =>
    unfold update at h
    split at h
    · rcases List.mem_cons.1 h with h | h
      · exact .inl (by rw [h])
      · exact .inr h
    · split at h
      · rcases List.mem_cons.1 h with h | h
        · exact .inl (by rw [h])
        · exact .inr (List.mem_cons_of_mem _ h)
      · rcases List.mem_cons.1 h with h | h
        · exact .inr (h ▸ List.mem_cons_self)
        · exact (ih h).imp_right (List.mem_cons_of_mem _)

theorem Ascending.erase {κ ν : Type} [LT κ] [DecidableEq κ] {l : List (κ × ν)} (h : Ascending l)
    (k : κ) : Ascending (erase k l) := h.filter _

variable [Trans (α := α) (· < ·) (· < ·) (· < ·)] [Std.Trichotomous (α := α) (· < ·)]

theorem Ascending.update {l : List (α × β)} (h : Ascending l) (k : α) (f : Option β → β) :
    Ascending (update k f l) := by
  induction l with
  | nil => exact List.pairwise_singleton _ _
  | cons head l ih =>
    obtain ⟨k', v'⟩ := head
    have hl := (List.pairwise_cons.1 h).2
    have hhead := (List.pairwise_cons.1 h).1
    unfold Sorted.update
    split
    · rename_i hlt
      refine List.pairwise_cons.2 ⟨fun entry hmem => ?_, h⟩
      rcases List.mem_cons.1 hmem with he | he
      · rw [he]; exact hlt
      · exact Trans.trans hlt (hhead entry he)
    · split
      · rename_i heq
        exact List.pairwise_cons.2 ⟨fun entry hmem => heq ▸ hhead entry hmem, hl⟩
      · rename_i hlt hne
        refine List.pairwise_cons.2 ⟨fun entry hmem => ?_, ih hl⟩
        rcases mem_update hmem with he | he
        · have hlt' : k' < k := by
            apply Classical.byContradiction
            intro hge
            exact hne (Std.Trichotomous.trichotomous k k' hlt hge)
          rw [he]; exact hlt'
        · exact hhead entry he

theorem Ascending.insert {l : List (α × β)} (h : Ascending l) (k : α) (v : β) :
    Ascending (insert k v l) := h.update k _

theorem ascending_ofList (l : List (α × β)) : Ascending (ofList l) := by
  suffices ∀ m : List (α × β), Ascending m →
      Ascending (l.foldl (fun m entry => Sorted.insert entry.1 entry.2 m) m) from
    this [] List.Pairwise.nil
  induction l with
  | nil => exact fun m h => h
  | cons entry l ih => exact fun m h => ih _ (h.insert entry.1 entry.2)

end CrawlGraph.Sorted
