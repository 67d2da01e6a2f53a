import Mathlib.Algebra.Order.BigOperators.Group.List
import Mathlib.Algebra.Order.Group.Nat
import Mathlib.Algebra.BigOperators.Ring.Finset
import Std.Data.String.ToInt
import CrawlGraph.Proofs.Graph.Links
import CrawlGraph.Proofs.Sorted

/-!
# Sums over the URLs of a domain

A domain counts each of its URLs at three levels: in its own sums, in those of the bucket of the
content type and in those of the bucket of the status code. `Totals.Sum` says that sums of 64 bits
are the exact sums over a list of answers, and `Buckets` that nodes are the groups of such a list.

1. Counting answers one after another gives their exact sums while these stay below `2 ^ 63`
   (`sum_foldl_count`).
2. The bucket of a key counts the answers of that key alone (`bucketOf_inType`,
   `bucketOf_inStatus`), so the buckets are the groups of all answers (`buckets_bucketsOf`).
3. The groups of a list make up the list, so the sums of the buckets add up to those above them
   (`Buckets.add_up`).
-/

namespace CrawlGraph

/-! ## Exact sums -/

/-- What came back for the capture that a node stands for. -/
def Node.answer (node : Node) : Answer := ⟨node.statusCode, node.contentType, node.contentLength⟩

/-- The key of the bucket of the content type of an answer. -/
def Answer.typeKey (answer : Answer) : String := answer.contentType.getD unknownType

/-- The key of the bucket of the status code of an answer. -/
def Answer.statusKey (answer : Answer) : String := toString answer.statusCode

/-- The sums that are kept of URLs. -/
inductive Counter where
  | urls
  | success
  | failed
  | size
  deriving DecidableEq, Repr

namespace Counter

/-- What sums of 64 bits say. -/
def read (totals : Totals) : Counter → Int64
  | urls => totals.urls
  | success => totals.success
  | failed => totals.failed
  | size => totals.size

/-- What a single answer adds. A negative length counts as none. -/
def weight (answer : Answer) : Counter → ℕ
  | urls => 1
  | success => if isSuccess answer.statusCode then 1 else 0
  | failed => if isSuccess answer.statusCode then 0 else 1
  | size => answer.contentLength.toInt.toNat

/-- The exact sum over answers. -/
def sum (answers : List Answer) (counter : Counter) : ℕ :=
  (answers.map fun answer => counter.weight answer).sum

end Counter

/-- The sums are the exact ones over a list of answers. -/
def Totals.Sum (totals : Totals) (answers : List Answer) : Prop :=
  ∀ counter : Counter, (counter.read totals).toInt = counter.sum answers

/-- The sums with one more answer. -/
def Totals.add (totals : Totals) (answer : Answer) : Totals :=
  totals.count answer.statusCode answer.contentLength

namespace Counter

@[simp] theorem sum_nil (counter : Counter) : counter.sum [] = 0 := rfl

@[simp] theorem sum_append (answers answers' : List Answer) (counter : Counter) :
    counter.sum (answers ++ answers') = counter.sum answers + counter.sum answers' := by
  simp [sum]

@[simp] theorem sum_singleton (answer : Answer) (counter : Counter) :
    counter.sum [answer] = counter.weight answer := by simp [sum]

theorem sum_sublist {answers answers' : List Answer} (h : answers.Sublist answers')
    (counter : Counter) : counter.sum answers ≤ counter.sum answers' :=
  (h.map _).sum_le_sum fun _ _ => Nat.zero_le _

theorem sum_subperm {answers answers' : List Answer} (h : answers.Subperm answers')
    (counter : Counter) : counter.sum answers ≤ counter.sum answers' := by
  obtain ⟨same, hperm, hsub⟩ := h
  have hsum : counter.sum same = counter.sum answers := (hperm.map _).sum_eq
  rw [← hsum]
  exact counter.sum_sublist hsub

theorem urls_eq_success_add_failed (answers : List Answer) :
    urls.sum answers = success.sum answers + failed.sum answers := by
  unfold sum
  rw [← List.sum_map_add]
  refine congrArg List.sum (List.map_congr_left fun answer _ => ?_)
  by_cases h : isSuccess answer.statusCode <;> simp [weight, h]

theorem sum_le_length (answers : List Answer) {counter : Counter} (h : counter ≠ size) :
    counter.sum answers ≤ answers.length := by
  have hone : ∀ answer, counter.weight answer ≤ 1 := by
    intro answer
    cases counter with
    | size => exact absurd rfl h
    | urls => exact Nat.le_refl 1
    | _ => by_cases hcode : isSuccess answer.statusCode <;> simp [weight, hcode]
  simpa [sum] using List.sum_le_card_nsmul (answers.map fun answer => counter.weight answer) 1
    (by simpa using fun answer _ => hone answer)

end Counter

/-! ## Counting in 64 bits -/

theorem toInt_add_of_lt {a b : Int64} {m n : ℕ} (ha : a.toInt = m) (hb : b.toInt = n)
    (h : m + n < 2 ^ 63) : (a + b).toInt = (m + n : ℕ) := by
  rw [Int64.toInt_add, ha, hb, ← Int.natCast_add]
  exact Int.bmod_eq_of_le (by omega) (by omega)

theorem toInt_max_zero (length : Int64) : (max length 0).toInt = length.toInt.toNat := by
  have hmax : max length 0 = if length ≤ 0 then 0 else length := rfl
  rw [hmax]
  split
  · rename_i hle
    have hle := Int64.le_iff_toInt_le.1 hle
    simp only [Int64.toInt_zero] at hle ⊢
    omega
  · rename_i hlt
    have hlt := mt Int64.le_iff_toInt_le.2 hlt
    simp only [Int64.toInt_zero] at hlt
    omega

theorem read_add {totals : Totals} {answer : Answer} {counter : Counter} {n : ℕ}
    (htotals : (counter.read totals).toInt = n) (h : n + counter.weight answer < 2 ^ 63) :
    (counter.read (totals.add answer)).toInt = (n + counter.weight answer : ℕ) := by
  cases counter with
  | urls => exact toInt_add_of_lt htotals (b := 1) rfl h
  | size => exact toInt_add_of_lt htotals (toInt_max_zero _) h
  | success =>
    by_cases hcode : isSuccess answer.statusCode
    · simp only [Counter.weight, if_pos hcode] at h ⊢
      simp only [Counter.read, Totals.add, Totals.count, if_pos hcode]
      exact toInt_add_of_lt htotals (b := 1) rfl h
    · simpa [Counter.weight, Counter.read, Totals.add, Totals.count, hcode] using htotals
  | failed =>
    by_cases hcode : isSuccess answer.statusCode
    · simpa [Counter.weight, Counter.read, Totals.add, Totals.count, hcode] using htotals
    · simp only [Counter.weight, if_neg hcode] at h ⊢
      simp only [Counter.read, Totals.add, Totals.count, if_neg hcode]
      exact toInt_add_of_lt htotals (b := 1) rfl h

/-- Answers whose sums stay within 64 bits. -/
def Countable (answers : List Answer) : Prop := ∀ counter : Counter, counter.sum answers < 2 ^ 63

theorem Countable.sublist {answers answers' : List Answer} (h : Countable answers')
    (hsub : answers.Sublist answers') : Countable answers :=
  fun counter => Nat.lt_of_le_of_lt (counter.sum_sublist hsub) (h counter)

/-- Counting answers one after another gives their exact sums. -/
theorem sum_foldl_count {answers : List Answer} (h : Countable answers) :
    Totals.Sum (answers.foldl Totals.add {}) answers := by
  induction answers using List.reverseRecOn with
  | nil => intro counter; cases counter <;> rfl
  | append_singleton answers answer ih =>
    intro counter
    have hcounter := h counter
    rw [List.foldl_concat, Counter.sum_append, Counter.sum_singleton] at *
    exact read_add (ih (h.sublist (List.sublist_append_left _ _)) counter) hcounter

/-! ## Groups of answers -/

/-- Nodes are the groups of answers by a key: there is one for each key, and it has the sums of its
answers. -/
structure Buckets (key : Answer → String) (children : List (String × Node))
    (answers : List Answer) : Prop where
  nodup : (children.map Prod.fst).Nodup
  keys : ∀ k, k ∈ children.map Prod.fst ↔ ∃ answer ∈ answers, key answer = k
  sums : ∀ entry ∈ children, entry.2.totals.Sum (answers.filter fun answer => key answer = entry.1)

/-- The sums of the groups add up to the sums of all answers. -/
theorem Buckets.add_up {key : Answer → String} {children : List (String × Node)}
    {answers : List Answer} (h : Buckets key children answers) (counter : Counter) :
    (children.map fun entry => (counter.read entry.2.totals).toInt).sum = counter.sum answers := by
  have hgroups := sum_groups key (fun answer => counter.weight answer) h.nodup
    fun answer hanswer => (h.keys _).2 ⟨answer, hanswer, rfl⟩
  calc (children.map fun entry => (counter.read entry.2.totals).toInt).sum
      = (children.map fun entry =>
          ((counter.sum (answers.filter fun answer => key answer = entry.1) : ℕ) : ℤ)).sum :=
        congrArg List.sum (List.map_congr_left fun entry hentry => h.sums entry hentry counter)
    _ = counter.sum answers := by
        rw [Counter.sum, ← hgroups, Nat.cast_list_sum, List.map_map, List.map_map]
        rfl

section Updates

variable (key : Answer → String) (step : Answer → Option Node → Node)

/-- The buckets that answers make when each changes the one of its key. -/
def bucketsOf (answers : List Answer) : List (String × Node) :=
  answers.foldl (fun buckets answer => Sorted.update (key answer) (step answer) buckets) []

/-- What answers of one key make of its bucket. -/
def bucketOf (answers : List Answer) : Option Node :=
  answers.foldl (fun found answer => some (step answer found)) none

theorem ascending_bucketsOf (answers : List Answer) :
    Sorted.Ascending (bucketsOf key step answers) :=
  Sorted.ascending_foldl_update key step List.Pairwise.nil answers

theorem find?_bucketsOf (answers : List Answer) (k : String) :
    Sorted.find? k (bucketsOf key step answers) =
      bucketOf step (answers.filter fun answer => key answer = k) :=
  Sorted.find?_foldl_update key step List.Pairwise.nil answers k

theorem bucketOf_concat (answers : List Answer) (answer : Answer) :
    bucketOf step (answers ++ [answer]) = some (step answer (bucketOf step answers)) := by
  simp [bucketOf]

theorem bucketOf_eq_none {answers : List Answer} : bucketOf step answers = none ↔ answers = [] := by
  induction answers using List.reverseRecOn with
  | nil => simp [bucketOf]
  | append_singleton answers answer _ => simp [bucketOf_concat]

theorem mem_keys_bucketsOf (answers : List Answer) (k : String) :
    k ∈ (bucketsOf key step answers).map Prod.fst ↔ ∃ answer ∈ answers, key answer = k := by
  rw [← Sorted.find?_isSome, find?_bucketsOf, ← Option.ne_none_iff_isSome, Ne, bucketOf_eq_none]
  simp [List.filter_eq_nil_iff]

theorem bucketOf_of_mem {answers : List Answer} {entry : String × Node}
    (h : entry ∈ bucketsOf key step answers) :
    bucketOf step (answers.filter fun answer => key answer = entry.1) = some entry.2 := by
  rw [← find?_bucketsOf]
  exact Sorted.find?_of_mem (ascending_bucketsOf key step answers) h

/-- Buckets whose steps count are the groups of the answers. -/
theorem buckets_bucketsOf {answers : List Answer} (h : Countable answers)
    (hstep : ∀ {answers node}, bucketOf step answers = some node →
      node.totals = answers.foldl Totals.add {}) :
    Buckets key (bucketsOf key step answers) answers where
  nodup := (ascending_bucketsOf key step answers).nodup_keys
  keys := mem_keys_bucketsOf key step answers
  sums entry hentry := by
    rw [hstep (bucketOf_of_mem key step hentry)]
    exact sum_foldl_count (h.sublist List.filter_sublist)

end Updates

/-! ## The buckets of a domain -/

namespace Answer

/-- The bucket of the status code of an answer after it has been counted. -/
def inStatus (answer : Answer) (found : Option Node) : Node :=
  (found.getD (Node.bucket answer.statusKey answer.contentType answer.statusCode)).count
    answer.statusCode answer.contentLength

/-- The bucket of the content type of an answer after it has been counted. -/
def inType (answer : Answer) (found : Option Node) : Node :=
  ((found.getD (Node.bucket answer.typeKey answer.contentType 0)).count answer.statusCode
    answer.contentLength).countByStatus answer.statusCode answer.contentLength answer.contentType

end Answer

theorem bucketOf_inStatus {answers : List Answer} {node : Node}
    (h : bucketOf Answer.inStatus answers = some node) :
    node.totals = answers.foldl Totals.add {} ∧ node.children = [] := by
  induction answers using List.reverseRecOn generalizing node with
  | nil => cases h
  | append_singleton answers answer ih =>
    rw [bucketOf_concat] at h
    obtain rfl := Option.some.inj h
    rw [List.foldl_concat]
    cases hfound : bucketOf Answer.inStatus answers with
    | none =>
      obtain rfl := (bucketOf_eq_none _).1 hfound
      exact ⟨rfl, rfl⟩
    | some found =>
      obtain ⟨htotals, hchildren⟩ := ih hfound
      exact ⟨congrArg (Totals.add · answer) htotals, hchildren⟩

theorem bucketOf_inType {answers : List Answer} {node : Node}
    (h : bucketOf Answer.inType answers = some node) :
    node.totals = answers.foldl Totals.add {} ∧
      node.children = bucketsOf Answer.statusKey Answer.inStatus answers := by
  induction answers using List.reverseRecOn generalizing node with
  | nil => cases h
  | append_singleton answers answer ih =>
    rw [bucketOf_concat] at h
    obtain rfl := Option.some.inj h
    unfold bucketsOf at ih ⊢
    rw [List.foldl_concat, List.foldl_concat]
    cases hfound : bucketOf Answer.inType answers with
    | none =>
      obtain rfl := (bucketOf_eq_none _).1 hfound
      exact ⟨rfl, rfl⟩
    | some found =>
      obtain ⟨htotals, hchildren⟩ := ih hfound
      exact ⟨congrArg (Totals.add · answer) htotals,
        congrArg (Sorted.update answer.statusKey answer.inStatus) hchildren⟩

/-- A domain after its URLs have been counted one after another. -/
theorem foldl_countByType (nodes : List Node) (domain : Node) :
    nodes.foldl (fun domain node =>
        domain.countByType node.statusCode node.contentLength node.contentType) domain =
      { domain with
        totals := (nodes.map Node.answer).foldl Totals.add domain.totals
        children := (nodes.map Node.answer).foldl
          (fun buckets answer => Sorted.update answer.typeKey answer.inType buckets)
          domain.children } := by
  induction nodes generalizing domain with
  | nil => cases domain; rfl
  | cons node nodes ih => rw [List.foldl_cons, ih]; rfl

namespace Graph

/-- The URLs whose names tell a domain. -/
def membersOf (urls : List Node) (name : String) : List Node :=
  urls.filter fun node => Url.domainOf node.url == some name

theorem mem_membersOf {urls : List Node} {name : String} {node : Node} :
    node ∈ membersOf urls name ↔ node ∈ urls ∧ Url.domainOf node.url = some name := by
  simp [membersOf]

/-- A domain has the sums and buckets of the URLs of its name. -/
theorem domainNode_eq (urls : List Node) (name : String) (id : Int64) :
    domainNode urls name id =
      { id, kind := .domain, url := name
        isSeed := (membersOf urls name).any (·.isSeed)
        totals := ((membersOf urls name).map Node.answer).foldl Totals.add {}
        children :=
          bucketsOf Answer.typeKey Answer.inType ((membersOf urls name).map Node.answer) } := by
  unfold domainNode
  rw [foldl_countByType]
  rfl

end Graph

end CrawlGraph
