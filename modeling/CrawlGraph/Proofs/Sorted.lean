import Mathlib.Data.List.Induction
import Mathlib.Data.List.Nodup
import CrawlGraph.Sorted

/-!
# Look-ups in sorted association lists

What a look-up finds after changes: in an ascending list `update` changes the value of its key and
of no other (`find?_update`), and a run of updates gives each key what the updates of that key alone
make of it (`find?_foldl_update`). The map that a list makes has the last value of each key
(`find?_ofList`).
-/

namespace CrawlGraph.Sorted

variable {α β γ : Type} [DecidableEq α]

/-! ## Look-ups -/

@[simp] theorem find?_nil (k : α) : find? k ([] : List (α × β)) = none := rfl

theorem find?_cons (k : α) (entry : α × β) (l : List (α × β)) :
    find? k (entry :: l) = if entry.1 = k then some entry.2 else find? k l := by
  unfold find?
  by_cases h : entry.1 = k
  · rw [if_pos h, List.find?_cons_of_pos (by simpa using h)]
    rfl
  · rw [if_neg h, List.find?_cons_of_neg (by simpa using h)]

theorem find?_isSome {k : α} {l : List (α × β)} : (find? k l).isSome ↔ k ∈ l.map Prod.fst := by
  unfold find?
  simp

theorem find?_eq_none {k : α} {l : List (α × β)} : find? k l = none ↔ k ∉ l.map Prod.fst := by
  rw [← find?_isSome, Option.not_isSome_iff_eq_none]

theorem find?_filter (keeps : α → Bool) (k : α) (l : List (α × β)) :
    find? k (l.filter fun entry => keeps entry.1) = if keeps k then find? k l else none := by
  induction l with
  | nil => simp
  | cons entry l ih =>
    rw [List.filter_cons]
    by_cases hkeeps : keeps entry.1
    · rw [if_pos hkeeps, find?_cons, find?_cons, ih]
      by_cases hk : entry.1 = k
      · subst hk
        simp [hkeeps]
      · simp [hk]
    · rw [if_neg hkeeps, ih, find?_cons]
      by_cases hk : entry.1 = k
      · subst hk
        simp [hkeeps]
      · simp [hk]

theorem find?_append (k : α) (l m : List (α × β)) :
    find? k (l ++ m) = (find? k l).or (find? k m) := by
  unfold find?
  rw [List.find?_append, Option.map_or]

theorem mem_of_find? {k : α} {v : β} {l : List (α × β)} (h : find? k l = some v) : (k, v) ∈ l := by
  obtain ⟨⟨key, value⟩, hfound, rfl⟩ := Option.map_eq_some_iff.1 h
  obtain rfl : key = k := by simpa using List.find?_some hfound
  exact List.mem_of_find?_eq_some hfound

theorem find?_eq_some {l : List (α × β)} (hnodup : (l.map Prod.fst).Nodup) {k : α} {v : β} :
    find? k l = some v ↔ (k, v) ∈ l := by
  refine ⟨mem_of_find?, fun hmem => ?_⟩
  obtain ⟨found, hfound⟩ := Option.isSome_iff_exists.1
    (find?_isSome.2 (List.mem_map_of_mem (f := Prod.fst) hmem))
  have hsame : (k, found) = (k, v) :=
    List.inj_on_of_nodup_map hnodup (mem_of_find? hfound) hmem rfl
  rw [hfound, (Prod.mk.inj hsame).2]

/-- The order of a list that has each key once does not matter. -/
theorem find?_of_perm {l l' : List (α × β)} (hperm : l.Perm l') (hnodup : (l.map Prod.fst).Nodup)
    (k : α) : find? k l = find? k l' := by
  refine Option.ext fun v => ?_
  rw [find?_eq_some hnodup, find?_eq_some ((hperm.map Prod.fst).nodup_iff.1 hnodup),
    hperm.mem_iff]

/-- Keys that are renamed without becoming equal are found under their new names. -/
theorem find?_map_of_injective {κ : Type} [DecidableEq κ] {rename : α → κ}
    (hrename : Function.Injective rename) (f : β → γ) (k : α) (l : List (α × β)) :
    find? (rename k) (l.map fun entry => (rename entry.1, f entry.2)) = (find? k l).map f := by
  induction l with
  | nil => rfl
  | cons entry l ih =>
    rw [List.map_cons, find?_cons, find?_cons, ih]
    simp only [hrename.eq_iff]
    split <;> rfl

theorem find?_map (f : β → γ) (k : α) (l : List (α × β)) :
    find? k (l.map fun entry => (entry.1, f entry.2)) = (find? k l).map f :=
  find?_map_of_injective Function.injective_id f k l

/-! ## Ascending keys -/

section Irreflexive

variable [LT α] [Std.Irrefl (α := α) (· < ·)]

omit [DecidableEq α] in
theorem ne_of_lt {a b : α} (h : a < b) : a ≠ b := by
  rintro rfl
  exact Std.Irrefl.irrefl a h

omit [DecidableEq α] in
theorem Ascending.nodup_keys {l : List (α × β)} (h : Ascending l) : (l.map Prod.fst).Nodup :=
  List.pairwise_map.2 (List.Pairwise.imp ne_of_lt h)

theorem find?_of_lt {l : List (α × β)} {k : α} (h : ∀ entry ∈ l, k < entry.1) :
    find? k l = none := by
  rw [find?_eq_none]
  intro hmem
  obtain ⟨entry, hentry, rfl⟩ := List.mem_map.1 hmem
  exact ne_of_lt (h entry hentry) rfl

theorem find?_of_mem {l : List (α × β)} (h : Ascending l) {k : α} {v : β} (hmem : (k, v) ∈ l) :
    find? k l = some v := (find?_eq_some h.nodup_keys).2 hmem

end Irreflexive

/-! ## Changes -/

section Changes

variable [LT α] [DecidableLT α] [Std.Irrefl (α := α) (· < ·)]
  [Trans (α := α) (· < ·) (· < ·) (· < ·)]

theorem find?_update {l : List (α × β)} (h : Ascending l) (k : α) (f : Option β → β) (k' : α) :
    find? k' (update k f l) = if k = k' then some (f (find? k l)) else find? k' l := by
  induction l with
  | nil => simp [update, find?_cons]
  | cons entry l ih =>
    obtain ⟨key, v⟩ := entry
    have hhead := (List.pairwise_cons.1 h).1
    unfold update
    split
    · rename_i hlt
      have hnone : find? k ((key, v) :: l) = none := by
        apply find?_of_lt
        intro entry hentry
        rcases List.mem_cons.1 hentry with rfl | hentry
        · exact hlt
        · exact Trans.trans hlt (hhead entry hentry)
      rw [hnone, find?_cons]
    · split
      · rename_i heq
        subst heq
        simp only [find?_cons, if_true]
        by_cases hk : k = k'
        · rw [if_pos hk, if_pos hk]
        · rw [if_neg hk, if_neg hk, if_neg hk]
      · rename_i hne
        simp only [find?_cons, ih (List.pairwise_cons.1 h).2, if_neg (Ne.symm hne)]
        by_cases hk : key = k'
        · subst hk
          simp [hne]
        · simp [hk]

omit [DecidableLT α] in
/-- Ascending lists in which each key has the same value are the same. -/
theorem eq_of_find? {l l' : List (α × β)} (h : Ascending l) (h' : Ascending l')
    (hfind : ∀ k, find? k l = find? k l') : l = l' := by
  have hmem : ∀ entry, entry ∈ l ↔ entry ∈ l' := by
    rintro ⟨k, v⟩
    constructor
    · intro hentry
      exact mem_of_find? ((hfind k).symm.trans (find?_of_mem h hentry))
    · intro hentry
      exact mem_of_find? ((hfind k).trans (find?_of_mem h' hentry))
  have hperm : l.Perm l' :=
    (List.perm_ext_iff_of_nodup (List.Nodup.of_map _ h.nodup_keys)
      (List.Nodup.of_map _ h'.nodup_keys)).2 hmem
  refine List.Perm.eq_of_pairwise ?_ h h' hperm
  intro first second _ _ hlt hgt
  exact absurd rfl (ne_of_lt (Trans.trans hlt hgt : first.1 < first.1))

theorem find?_insert {l : List (α × β)} (h : Ascending l) (k : α) (v : β) (k' : α) :
    find? k' (insert k v l) = if k = k' then some v else find? k' l := find?_update h k _ k'

theorem insert_of_lt {l : List (α × β)} {k : α} (h : ∀ entry ∈ l, entry.1 < k) (v : β) :
    insert k v l = l ++ [(k, v)] := by
  induction l with
  | nil => rfl
  | cons entry l ih =>
    have hlt : entry.1 < k := h entry List.mem_cons_self
    have hge : ¬ k < entry.1 := by
      intro hgt
      exact ne_of_lt (Trans.trans hlt hgt : entry.1 < entry.1) rfl
    unfold insert update
    rw [if_neg hge, if_neg (ne_of_lt hlt).symm, List.cons_append]
    exact congrArg (entry :: ·) (ih fun other hother => h other (List.mem_cons_of_mem _ hother))

/-- A list in order is the map that it makes. -/
theorem ofList_of_ascending {l : List (α × β)} (h : Ascending l) : ofList l = l := by
  induction l using List.reverseRecOn with
  | nil => rfl
  | append_singleton l entry ih =>
    obtain ⟨hl, -, hlt⟩ := List.pairwise_append.1 h
    unfold ofList at ih ⊢
    rw [List.foldl_append, ih hl]
    exact insert_of_lt (fun other hother => hlt other hother entry (List.mem_singleton_self _)) _

omit [Std.Irrefl (α := α) (· < ·)] [Trans (α := α) (· < ·) (· < ·) (· < ·)] in
theorem find?_insert_self (k : α) (v : β) (l : List (α × β)) : find? k (insert k v l) = some v := by
  induction l with
  | nil => simp [insert, update, find?_cons]
  | cons entry l ih =>
    unfold insert at ih ⊢
    unfold update
    split
    · simp [find?_cons]
    · split
      · simp [find?_cons]
      · rename_i hne
        rw [find?_cons, if_neg (Ne.symm hne), ih]

omit [Std.Irrefl (α := α) (· < ·)] [Trans (α := α) (· < ·) (· < ·) (· < ·)] in
/-- Whatever the order of the keys, no other key is touched. -/
theorem find?_insert_of_ne {k k' : α} (h : k ≠ k') (v : β) (l : List (α × β)) :
    find? k' (insert k v l) = find? k' l := by
  induction l with
  | nil => simp [insert, update, find?_cons, h]
  | cons entry l ih =>
    unfold insert at ih ⊢
    unfold update
    split
    · simp [find?_cons, h]
    · split
      · rename_i heq
        simp [find?_cons, h, ← heq]
      · rw [find?_cons, find?_cons, ih]

omit [Std.Irrefl (α := α) (· < ·)] [Trans (α := α) (· < ·) (· < ·) (· < ·)] in
/-- Of the pairs with one key, a map that a list makes has the last one. -/
theorem find?_ofList (k : α) (l : List (α × β)) : find? k (ofList l) = find? k l.reverse := by
  induction l using List.reverseRecOn with
  | nil => rfl
  | append_singleton l entry ih =>
    have hlast : ofList (l ++ [entry]) = insert entry.1 entry.2 (ofList l) := by
      unfold ofList
      rw [List.foldl_append]
      rfl
    rw [hlast, List.reverse_append, List.reverse_singleton, List.singleton_append, find?_cons]
    by_cases hkey : entry.1 = k
    · rw [if_pos hkey, ← hkey, find?_insert_self]
    · rw [if_neg hkey, find?_insert_of_ne hkey, ih]

omit [Std.Irrefl (α := α) (· < ·)] [Trans (α := α) (· < ·) (· < ·) (· < ·)] in
/-- A new key is added to those that are there. -/
theorem perm_insert {k : α} {l : List (α × β)} (h : k ∉ l.map Prod.fst) (v : β) :
    (insert k v l).Perm ((k, v) :: l) := by
  induction l with
  | nil => exact .refl _
  | cons entry l ih =>
    rw [List.map_cons, List.mem_cons, not_or] at h
    unfold insert at ih ⊢
    unfold update
    split
    · exact .refl _
    · rw [if_neg h.1]
      exact ((ih h.2).cons entry).trans (.swap _ _ _)

omit [Std.Irrefl (α := α) (· < ·)] [Trans (α := α) (· < ·) (· < ·) (· < ·)] in
/-- A list that has each key once is only put in order. -/
theorem perm_ofList {l : List (α × β)} (h : (l.map Prod.fst).Nodup) : (ofList l).Perm l := by
  induction l using List.reverseRecOn with
  | nil => exact .refl _
  | append_singleton l entry ih =>
    rw [List.map_append, List.nodup_append_comm] at h
    obtain ⟨hnot, hnodup⟩ := List.nodup_cons.1 h
    have hperm := ih hnodup
    unfold ofList at hperm ⊢
    rw [List.foldl_append]
    refine (perm_insert (fun hmem => hnot ?_) entry.2).trans ?_
    · exact (hperm.map Prod.fst).mem_iff.1 hmem
    · exact (hperm.cons entry).trans (List.perm_append_singleton entry l).symm

omit [Std.Irrefl (α := α) (· < ·)] [Trans (α := α) (· < ·) (· < ·) (· < ·)] in
theorem mem_insert {k : α} {v : β} {l : List (α × β)} {entry : α × β}
    (h : entry ∈ insert k v l) : entry = (k, v) ∨ entry ∈ l := by
  induction l with
  | nil => exact .inl (List.mem_singleton.1 h)
  | cons head l ih =>
    unfold insert update at h
    split at h
    · exact List.mem_cons.1 h
    · split at h
      · exact (List.mem_cons.1 h).imp_right (List.mem_cons_of_mem _)
      · rcases List.mem_cons.1 h with rfl | h
        · exact .inr List.mem_cons_self
        · exact (ih h).imp_right (List.mem_cons_of_mem _)

omit [Std.Irrefl (α := α) (· < ·)] [Trans (α := α) (· < ·) (· < ·) (· < ·)] in
/-- A map that a list makes has nothing but what is in the list. -/
theorem mem_ofList {l : List (α × β)} {entry : α × β} (h : entry ∈ ofList l) : entry ∈ l := by
  induction l using List.reverseRecOn with
  | nil => exact h
  | append_singleton l last ih =>
    unfold ofList at h ih
    rw [List.foldl_append] at h
    rcases mem_insert h with rfl | h
    · exact List.mem_append_right _ (List.mem_singleton_self _)
    · exact List.mem_append_left _ (ih h)

variable [Std.Trichotomous (α := α) (· < ·)]

/-- Values may be changed before or after a list is made a map. -/
theorem ofList_map (f : β → γ) (l : List (α × β)) :
    ofList (l.map fun entry => (entry.1, f entry.2)) =
      (ofList l).map fun entry => (entry.1, f entry.2) := by
  refine eq_of_find? (ascending_ofList _) (List.pairwise_map.2 (ascending_ofList l)) fun k => ?_
  rw [find?_ofList, ← List.map_reverse, find?_map, find?_map, find?_ofList]

variable (key : γ → α) (f : γ → Option β → β)

omit [Std.Irrefl (α := α) (· < ·)] in
theorem ascending_foldl_update {l : List (α × β)} (h : Ascending l) (items : List γ) :
    Ascending (items.foldl (fun l item => update (key item) (f item) l) l) := by
  induction items generalizing l with
  | nil => exact h
  | cons item items ih => exact ih (h.update _ _)

/-- A key has what the changes of that key alone make of it. -/
theorem find?_foldl_update {l : List (α × β)} (h : Ascending l) (items : List γ) (k : α) :
    find? k (items.foldl (fun l item => update (key item) (f item) l) l) =
      (items.filter fun item => key item = k).foldl (fun found item => some (f item found))
        (find? k l) := by
  induction items generalizing l with
  | nil => rfl
  | cons item items ih =>
    rw [List.foldl_cons, ih (h.update _ _), find?_update h]
    by_cases hk : key item = k
    · subst hk
      simp
    · simp [hk]

end Changes

end CrawlGraph.Sorted
