/-!
# Steps that may fail

A sequence of steps succeeds just when each of them does (`bind_eq_ok`, `map_eq_ok`,
`foldlM_cons_eq_ok`, `mapM_eq_ok`).
-/

namespace CrawlGraph

variable {ε α β : Type}

theorem bind_eq_ok {first : Except ε α} {rest : α → Except ε β} {b : β} :
    first >>= rest = .ok b ↔ ∃ a, first = .ok a ∧ rest a = .ok b := by
  cases first with
  | error failure => simp [bind, Except.bind]
  | ok a => simp [bind, Except.bind]

theorem map_eq_ok {step : Except ε α} {f : α → β} {b : β} :
    step.map f = .ok b ↔ ∃ a, step = .ok a ∧ f a = b := by
  cases step with
  | error failure => simp [Except.map]
  | ok a => simp [Except.map]

theorem foldlM_cons_eq_ok {step : β → α → Except ε β} {item : α} {items : List α} {start last : β} :
    (item :: items).foldlM step start = .ok last ↔
      ∃ next, step start item = .ok next ∧ items.foldlM step next = .ok last := by
  rw [List.foldlM_cons, bind_eq_ok]

theorem mapM_eq_ok {step : α → Except ε β} {f : α → β} {items : List α}
    (h : ∀ item ∈ items, step item = .ok (f item)) : items.mapM step = .ok (items.map f) := by
  induction items with
  | nil => rfl
  | cons item items ih =>
    rw [List.mapM_cons, h item List.mem_cons_self,
      ih fun other hother => h other (List.mem_cons_of_mem _ hother)]
    rfl

end CrawlGraph
