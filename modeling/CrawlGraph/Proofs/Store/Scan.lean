import Mathlib.Data.List.Basic
import CrawlGraph.Store.Scan

/-!
# What a scan gives

A scan of records that do not change gives what a plain list of these records gives, at whatever
places its pages end (`items_start`).

1. The records ahead of a scan are read from the front in pages (`page_eq`), and after a page those
   behind it are ahead (`ahead_load`).
2. So a page changes nothing about what is still to come (`pending_load`).
3. A call of `next` takes rounds until it has an answer, and never runs out of them (`next_eq`). It
   gives the first of what is still to come (`next_of_table`).
-/

namespace CrawlGraph

/-! ## Order -/

namespace Direction

/-- A key comes before another one in a scan. -/
def Before : Direction → Bytes → Bytes → Prop
  | .forward, a, b => a < b
  | .backward, a, b => b < a

instance (direction : Direction) (a b : Bytes) : Decidable (direction.Before a b) :=
  match direction with
  | .forward => inferInstanceAs (Decidable (a < b))
  | .backward => inferInstanceAs (Decidable (b < a))

/-- A scan that starts at a key can come to another one. A forward scan gives the key itself. -/
def Reaches : Direction → Bytes → Bytes → Prop
  | .forward, start, key => start ≤ key
  | .backward, start, key => key < start

instance (direction : Direction) (start key : Bytes) : Decidable (direction.Reaches start key) :=
  match direction with
  | .forward => inferInstanceAs (Decidable (start ≤ key))
  | .backward => inferInstanceAs (Decidable (key < start))

/-- Records in the order of a scan. -/
def order (direction : Direction) (table : Table) : List (Bytes × Bytes) :=
  match direction with
  | .forward => table.records
  | .backward => table.records.reverse

variable {direction : Direction} {a b c : Bytes}

theorem Before.trans (h : direction.Before a b) (h' : direction.Before b c) :
    direction.Before a c := by
  cases direction with
  | forward => exact Trans.trans (r := (· < ·)) (s := (· < ·)) (t := (· < ·)) h h'
  | backward => exact Trans.trans (r := (· < ·)) (s := (· < ·)) (t := (· < ·)) h' h

theorem Before.irrefl (direction : Direction) (a : Bytes) : ¬ direction.Before a a := by
  cases direction with
  | forward => exact Std.Irrefl.irrefl (r := (· < ·)) a
  | backward => exact Std.Irrefl.irrefl (r := (· < ·)) a

theorem pairwise_order (direction : Direction) (table : Table) :
    (direction.order table).Pairwise fun first second => direction.Before first.1 second.1 := by
  cases direction with
  | forward => exact table.ascending
  | backward => exact List.pairwise_reverse.2 table.ascending

theorem length_order (direction : Direction) (table : Table) :
    (direction.order table).length = table.records.length := by
  cases direction with
  | forward => rfl
  | backward => exact List.length_reverse

theorem mem_order {table : Table} {record : Bytes × Bytes} :
    record ∈ direction.order table ↔ record ∈ table.records := by
  cases direction with
  | forward => rfl
  | backward => exact List.mem_reverse

end Direction

namespace Scan

/-! ## Pages -/

/-- A key is still ahead of a scan. -/
def isAhead (scan : Scan) (key : Bytes) : Bool :=
  scan.direction.Before scan.position key ||
    (scan.isFresh && decide (scan.direction = .forward) && scan.position == key)

/-- The records that are still ahead of a scan, in its order. -/
def ahead (scan : Scan) (table : Table) : List (Bytes × Bytes) :=
  (scan.direction.order table).filter fun record => scan.isAhead record.1

variable {scan : Scan} {table : Table}

theorem page_eq : scan.page table = (scan.ahead table).take pageLength := by
  obtain ⟨direction, kind, within, position, isFresh, buffer, isDone⟩ := scan
  cases direction with
  | forward =>
    simp only [page, ahead, isAhead, Direction.order, Direction.Before, decide_true, Bool.and_true]
    rfl
  | backward =>
    simp only [page, ahead, isAhead, Direction.order, Direction.Before, reduceCtorEq, decide_false,
      Bool.and_false, Bool.false_and, Bool.or_false, List.filter_reverse]
    rfl

theorem pairwise_ahead : (scan.ahead table).Pairwise fun first second =>
    scan.direction.Before first.1 second.1 := (scan.direction.pairwise_order table).filter _

theorem length_ahead_le : (scan.ahead table).length ≤ table.records.length :=
  scan.direction.length_order table ▸ List.length_filter_le _ _

/-- What is ahead of a scan is before nothing that is ahead of a key ahead of it. -/
theorem isAhead_of_before {key key' : Bytes} (h : scan.isAhead key = true)
    (hbefore : scan.direction.Before key key') : scan.isAhead key' = true := by
  unfold isAhead at h ⊢
  rw [Bool.or_eq_true, decide_eq_true_eq] at h ⊢
  rcases h with h | h
  · exact .inl (h.trans hbefore)
  · obtain ⟨-, hkey⟩ := Bool.and_eq_true_iff.1 h
    exact .inl (eq_of_beq hkey ▸ hbefore)

/-- The records behind the last one of a first part are those that come after it. -/
theorem filter_before {direction : Direction} {front rest : List (Bytes × Bytes)}
    {last : Bytes × Bytes}
    (h : (front ++ rest).Pairwise fun first second => direction.Before first.1 second.1)
    (hlast : front.getLast? = some last) :
    (front ++ rest).filter (fun record => direction.Before last.1 record.1) = rest := by
  obtain ⟨init, rfl⟩ := List.getLast?_eq_some_iff.1 hlast
  obtain ⟨hfront, -, hrest⟩ := List.pairwise_append.1 h
  have hinit := (List.pairwise_append.1 hfront).2.2
  have hlast : ∀ record ∈ init ++ [last], ¬ direction.Before last.1 record.1 := by
    intro record hrecord hbefore
    rcases List.mem_append.1 hrecord with hrecord | hrecord
    · have hafter := hinit record hrecord last (List.mem_singleton_self _)
      exact Direction.Before.irrefl _ _ (hbefore.trans hafter)
    · rw [List.mem_singleton.1 hrecord] at hbefore
      exact Direction.Before.irrefl _ _ hbefore
  rw [List.filter_append, List.filter_eq_nil_iff.2 (by simpa using hlast), List.nil_append,
    List.filter_eq_self]
  intro record hrecord
  exact decide_eq_true (hrest last (by simp) record hrecord)

/-! ## Loading -/

/-- The records of the next page that the scan looks at. -/
def inside (scan : Scan) (table : Table) : List (Bytes × Bytes) :=
  (scan.page table).takeWhile fun record => scan.isWithin record.1

theorem load_eq : scan.load table =
    { scan with
      position := (((scan.inside table).getLast?).map Prod.fst).getD scan.position
      isFresh := false
      buffer := scan.buffer ++ (scan.inside table).filterMap (item? scan.kind)
      isDone := (scan.page table).length < pageLength ||
        (scan.inside table).length < (scan.page table).length } := rfl

/-- Unless the scan is done, a page is full and lies within it. -/
theorem inside_of_not_done (h : (scan.load table).isDone = false) :
    scan.inside table = scan.page table ∧ (scan.page table).length = pageLength := by
  rw [load_eq, Bool.or_eq_false_iff, decide_eq_false_iff_not, decide_eq_false_iff_not] at h
  have hle : (scan.page table).length ≤ pageLength := by
    rw [page_eq]
    exact List.length_take_le _ _
  refine ⟨(List.takeWhile_sublist _).eq_of_length_le ?_, ?_⟩
  · exact Nat.not_lt.1 h.2
  · omega

theorem ahead_load (h : (scan.load table).isDone = false) :
    (scan.load table).ahead table = (scan.ahead table).drop pageLength := by
  obtain ⟨hinside, hlength⟩ := inside_of_not_done h
  have hne : scan.page table ≠ [] := by
    intro hnil
    rw [hnil] at hlength
    cases hlength
  obtain ⟨last, hlast⟩ := List.getLast?_isSome.2 hne |> Option.isSome_iff_exists.1
  have hsplit : scan.ahead table = scan.page table ++ (scan.ahead table).drop pageLength := by
    rw [page_eq, List.take_append_drop]
  have hmem : last ∈ scan.ahead table := by
    rw [hsplit]
    exact List.mem_append_left _ (List.mem_of_getLast? hlast)
  have hahead : (scan.load table).ahead table =
      (scan.ahead table).filter fun record => scan.direction.Before last.1 record.1 := by
    unfold ahead
    rw [List.filter_filter]
    apply List.filter_congr
    intro record _
    rw [load_eq, hinside, hlast]
    unfold isAhead
    simp only [Option.map_some, Option.getD_some, Bool.false_and, Bool.or_false]
    by_cases hbefore : scan.direction.Before last.1 record.1
    · have := isAhead_of_before (List.mem_filter.1 hmem).2 hbefore
      unfold isAhead at this
      simp [hbefore, this]
    · simp [hbefore]
  have hpairwise : (scan.page table ++ (scan.ahead table).drop pageLength).Pairwise
      fun first second => scan.direction.Before first.1 second.1 := hsplit ▸ pairwise_ahead
  rw [hahead]
  conv_lhs => rw [hsplit]
  exact filter_before hpairwise hlast

theorem length_ahead_load (h : (scan.load table).isDone = false) :
    ((scan.load table).ahead table).length < (scan.ahead table).length := by
  have hlength := (inside_of_not_done h).2
  have hpos : 0 < pageLength := by decide
  rw [page_eq, List.length_take] at hlength
  rw [ahead_load h, List.length_drop]
  omega

/-! ## Rounds -/

/-- What a round of a call of `next` does: it answers the call, or it reads a page. -/
inductive Round where
  | answer (item? : Option Item) (next : Scan)
  | read (next : Scan)

/-- A round of a call of `next`. -/
def round (scan : Scan) (source : Except Failure Table) : Round :=
  match scan.buffer with
  | item :: buffer => .answer (some item) { scan with buffer }
  | [] =>
    if scan.isDone then .answer none scan
    else
      match source with
      | .error failure =>
        .answer (some { key := none, node := .error failure }) { scan with isDone := true }
      | .ok table => .read (scan.load table)

/-- All that a round can do. -/
theorem round_cases (scan : Scan) (source : Except Failure Table) :
    (∃ item buffer, scan.buffer = item :: buffer ∧
      scan.round source = .answer (some item) { scan with buffer }) ∨
    (scan.buffer = [] ∧ scan.isDone = true ∧ scan.round source = .answer none scan) ∨
    (scan.buffer = [] ∧ scan.isDone = false ∧ ∃ failure, source = .error failure ∧
      scan.round source =
        .answer (some { key := none, node := .error failure }) { scan with isDone := true }) ∨
    (scan.buffer = [] ∧ scan.isDone = false ∧ ∃ table, source = .ok table ∧
      scan.round source = .read (scan.load table)) := by
  unfold round
  cases scan.buffer with
  | cons item buffer => exact .inl ⟨item, buffer, rfl, rfl⟩
  | nil =>
    cases scan.isDone with
    | true => exact .inr (.inl ⟨rfl, rfl, rfl⟩)
    | false =>
      cases source with
      | error failure => exact .inr (.inr (.inl ⟨rfl, rfl, failure, rfl, rfl⟩))
      | ok table => exact .inr (.inr (.inr ⟨rfl, rfl, table, rfl, rfl⟩))

theorem round_eq_read {source : Except Failure Table} {next : Scan}
    (h : scan.round source = .read next) :
    scan.buffer = [] ∧ scan.isDone = false ∧ ∃ table, source = .ok table ∧
      scan.load table = next := by
  obtain ⟨item, buffer, -, hanswer⟩ | ⟨-, -, hanswer⟩ | ⟨-, -, failure, -, hanswer⟩ |
    ⟨hbuffer, hdone, table, hsource, hread⟩ := round_cases scan source
  · cases h.symm.trans hanswer
  · cases h.symm.trans hanswer
  · cases h.symm.trans hanswer
  · cases h.symm.trans hread
    exact ⟨hbuffer, hdone, table, hsource, rfl⟩

/-- Once a round is paid for each record ahead, more of them change nothing. -/
theorem nextWithin_eq {fuel fuel' : ℕ}
    (h : scan.isDone = false → (scan.ahead table).length < fuel)
    (h' : scan.isDone = false → (scan.ahead table).length < fuel') :
    nextWithin fuel scan (.ok table) = nextWithin fuel' scan (.ok table) := by
  induction fuel generalizing scan fuel' with
  | zero =>
    have hdone : scan.isDone = true := by
      by_contra hne
      exact absurd (h (Bool.eq_false_iff.2 hne)) (Nat.not_lt_zero _)
    unfold nextWithin
    split
    · rfl
    · rw [if_pos hdone, if_pos hdone]
  | succ fuel ih =>
    by_cases hdone : scan.isDone = true
    · unfold nextWithin
      split
      · rfl
      · rw [if_pos hdone, if_pos hdone]
    · have hdone : scan.isDone = false := Bool.eq_false_iff.2 hdone
      obtain ⟨fuel', rfl⟩ := Nat.exists_eq_add_one.2 (Nat.zero_lt_of_lt (h' hdone))
      unfold nextWithin
      split
      · rfl
      · rw [if_neg (by rw [hdone]; exact Bool.false_ne_true),
          if_neg (by rw [hdone]; exact Bool.false_ne_true)]
        refine ih (fun hload => ?_) fun hload => ?_
        · have hless := length_ahead_load hload
          have hpaid := h hdone
          omega
        · have hless := length_ahead_load hload
          have hpaid := h' hdone
          omega

/-- A call of `next` is a round, and if that has no answer, the call that follows it. -/
theorem next_eq (scan : Scan) (source : Except Failure Table) :
    scan.next source =
      match scan.round source with
      | .answer item? next => (item?, next)
      | .read next => next.next source := by
  obtain ⟨item, buffer, hbuffer, hround⟩ | ⟨hbuffer, hdone, hround⟩ |
    ⟨hbuffer, hdone, failure, rfl, hround⟩ | ⟨hbuffer, hdone, table, rfl, hround⟩ :=
    round_cases scan source
  · rw [hround]
    unfold next nextWithin
    rw [hbuffer]
  · rw [hround]
    unfold next nextWithin
    rw [hbuffer, hdone]
    rfl
  · rw [hround]
    unfold next nextWithin
    rw [hbuffer, hdone]
    rfl
  · rw [hround]
    have hfirst : scan.next (.ok table) =
        nextWithin table.records.length (scan.load table) (.ok table) := by
      unfold next
      rw [nextWithin, hbuffer, hdone]
      rfl
    rw [hfirst]
    refine nextWithin_eq (fun hload => ?_) fun _ => Nat.lt_succ_of_le length_ahead_le
    exact Nat.lt_of_lt_of_le (length_ahead_load hload) length_ahead_le

/-- What holds of a scan that answers at once, and of a scan if it holds after the page that it
reads, holds of all scans. -/
theorem round_induction {motive : Scan → Prop} (source : Except Failure Table)
    (answer : ∀ scan item? next, scan.round source = .answer item? next → motive scan)
    (read : ∀ scan next, scan.round source = .read next → motive next → motive scan) (scan : Scan) :
    motive scan := by
  have hdone : ∀ scan : Scan, scan.isDone = true → motive scan := by
    intro scan hdone
    obtain ⟨item, buffer, -, hround⟩ | ⟨-, -, hround⟩ | ⟨-, hnot, -⟩ | ⟨-, hnot, -⟩ :=
      round_cases scan source
    · exact answer scan _ _ hround
    · exact answer scan _ _ hround
    · rw [hdone] at hnot
      cases hnot
    · rw [hdone] at hnot
      cases hnot
  induction hn : source.toOption.elim 0 fun table => (scan.ahead table).length
    using Nat.strongRecOn generalizing scan with
  | _ n ih =>
    obtain ⟨item, buffer, -, hround⟩ | ⟨-, -, hround⟩ | ⟨-, -, failure, -, hround⟩ |
      ⟨-, -, table, rfl, hround⟩ := round_cases scan source
    · exact answer scan _ _ hround
    · exact answer scan _ _ hround
    · exact answer scan _ _ hround
    · refine read scan _ hround ?_
      by_cases hload : (scan.load table).isDone = true
      · exact hdone _ hload
      · exact ih _ (hn ▸ length_ahead_load (Bool.eq_false_iff.2 hload)) _ rfl

/-! ## What is still to come -/

/-- The items that a scan still gives if nothing changes any more. -/
def pending (scan : Scan) (table : Table) : List Item :=
  scan.buffer ++
    if scan.isDone then []
    else
      ((scan.ahead table).takeWhile fun record => scan.isWithin record.1).filterMap
        (item? scan.kind)

/-- The records that a scan looks at are those of the next page, and unless it is done after them,
those behind that page. -/
theorem takeWhile_ahead (scan : Scan) (table : Table) :
    (scan.ahead table).takeWhile (fun record => scan.isWithin record.1) =
      scan.inside table ++
        if (scan.load table).isDone then []
        else ((scan.load table).ahead table).takeWhile fun record => scan.isWithin record.1 := by
  have hsplit : scan.ahead table = scan.page table ++ (scan.ahead table).drop pageLength := by
    rw [page_eq, List.take_append_drop]
  by_cases hload : (scan.load table).isDone = true
  · rw [if_pos hload, List.append_nil, hsplit, List.takeWhile_append]
    rw [load_eq, Bool.or_eq_true, decide_eq_true_eq, decide_eq_true_eq] at hload
    rcases hload with hshort | hforeign
    · have hnil : (scan.ahead table).drop pageLength = [] := by
        rw [page_eq, List.length_take] at hshort
        exact List.drop_eq_nil_of_le (by omega)
      rw [hnil, List.takeWhile_nil, List.append_nil]
      split
      · exact ((List.takeWhile_sublist _).eq_of_length ‹_›).symm
      · rfl
    · exact if_neg (Nat.ne_of_lt hforeign)
  · have hload : (scan.load table).isDone = false := Bool.eq_false_iff.2 hload
    have hinside : (scan.page table).takeWhile (fun record => scan.isWithin record.1) =
        scan.page table := (inside_of_not_done hload).1
    rw [hload, ahead_load hload, hsplit, List.takeWhile_append, hinside, if_pos rfl, ← hsplit,
      (inside_of_not_done hload).1]
    rfl

/-- A page changes nothing about what is still to come. -/
theorem pending_load (h : scan.isDone = false) :
    (scan.load table).pending table = scan.pending table := by
  have hkind : (scan.load table).kind = scan.kind := rfl
  have hwithin : (scan.load table).isWithin = scan.isWithin := rfl
  have hbuffer : (scan.load table).buffer =
      scan.buffer ++ (scan.inside table).filterMap (item? scan.kind) := rfl
  unfold pending
  rw [h, if_neg Bool.false_ne_true, takeWhile_ahead scan table, List.filterMap_append, hkind,
    hwithin, hbuffer, List.append_assoc]
  split
  · rfl
  · rfl

/-- A call of `next` gives the first item that is still to come. -/
theorem next_of_table (scan : Scan) (table : Table) :
    (scan.next (.ok table)).1 = (scan.pending table).head? ∧
      (scan.next (.ok table)).2.pending table = (scan.pending table).tail := by
  induction scan using round_induction (.ok table) with
  | answer scan item? next hround =>
    rw [next_eq, hround]
    obtain ⟨item, buffer, hbuffer, hanswer⟩ | ⟨hbuffer, hdone, hanswer⟩ |
      ⟨-, -, failure, hfailure, -⟩ | ⟨-, -, other, -, hread⟩ := round_cases scan (.ok table)
    · cases hround.symm.trans hanswer
      unfold pending
      rw [hbuffer]
      exact ⟨rfl, rfl⟩
    · cases hround.symm.trans hanswer
      unfold pending
      rw [hbuffer, hdone]
      exact ⟨rfl, rfl⟩
    · cases hfailure
    · cases hround.symm.trans hread
  | read scan next hround ih =>
    rw [next_eq, hround]
    obtain ⟨-, hdone, other, hother, rfl⟩ := round_eq_read hround
    cases hother
    rw [← pending_load hdone]
    exact ih

theorem take_eq (scan : Scan) (table : Table) (count : ℕ) :
    (scan.take count (.ok table)).1 = (scan.pending table).take count := by
  induction count generalizing scan with
  | zero => rfl
  | succ count ih =>
    obtain ⟨hfirst, hrest⟩ := next_of_table scan table
    have hnext : scan.next (.ok table) = ((scan.pending table).head?, (scan.next (.ok table)).2) :=
      Prod.ext hfirst rfl
    unfold take
    rw [hnext]
    cases hpending : scan.pending table with
    | nil => rfl
    | cons item items =>
      rw [hpending] at hrest
      dsimp only [List.head?_cons]
      rw [ih, hrest]
      rfl

/-! ## The reference list -/

/-- What a record gives to a scan for nodes of a kind. A value that cannot be read as JSON, or that
is an object with a field `kind` and yet no node, gives a failure, a node of the kind gives itself,
and any other value gives nothing. -/
def shown? (kind : NodeKind) (record : Bytes × Bytes) : Option Item :=
  match (Json.parse? record.2).filter (·.isSound Json.maxDepth) with
  | none => some { key := record.1, node := .error .undecodable }
  | some json =>
    let isNode :=
      match json with
      | .object fields => fields.any (·.1 == some "kind")
      | _ => false
    if isNode then
      match Node.ofJson? Json.maxDepth json.sortFields with
      | none => some { key := record.1, node := .error .undecodable }
      | some node => if node.kind = kind then some { key := record.1, node := .ok node } else none
    else none

/-- The records that a scan from a key can come to, in its order, up to the first one whose key has
not got the beginning that is asked for. -/
def range (direction : Direction) (key : Bytes) (within : Option Bytes) (table : Table) :
    List (Bytes × Bytes) :=
  ((direction.order table).filter fun record => direction.Reaches key record.1).takeWhile
    fun record => within.all fun beginning => beginning.isPrefixOf record.1

theorem isWithin_eq (scan : Scan) (key : Bytes) :
    scan.isWithin key = scan.within.all fun beginning => beginning.isPrefixOf key := by
  unfold isWithin
  cases scan.within with
  | none => rfl
  | some beginning => rfl

theorem item?_eq_shown? (kind : NodeKind) (record : Bytes × Bytes) :
    item? kind record = shown? kind record := by
  unfold item? shown? Node.ofValue
  cases (Json.parse? record.2).filter (·.isSound Json.maxDepth) with
  | none => rfl
  | some json =>
    cases json with
    | object fields =>
      by_cases hkind : fields.any (·.1 == some "kind")
      · simp only [hkind, if_true]
        cases Node.ofJson? Json.maxDepth (Json.object fields).sortFields <;> rfl
      · simp [hkind]
    | _ => rfl

section Start

variable (direction : Direction) (kind : NodeKind) (key : Bytes) (within : Option Bytes)

theorem isAhead_start (other : Bytes) :
    (start direction kind key within).isAhead other = decide (direction.Reaches key other) := by
  rw [Bool.eq_iff_iff, decide_eq_true_iff]
  cases direction with
  | forward =>
    show (decide (key < other) || (true && true && key == other)) = true ↔ key ≤ other
    rw [Bool.or_eq_true, decide_eq_true_iff, Bool.true_and, Bool.true_and, beq_iff_eq]
    exact List.le_iff_lt_or_eq.symm
  | backward =>
    show (decide (other < key) || (true && false && key == other)) = true ↔ other < key
    rw [Bool.and_false, Bool.false_and, Bool.or_false, decide_eq_true_iff]

/-- All that a scan gives is still to come when it starts. -/
theorem pending_start (table : Table) :
    (start direction kind key within).pending table =
      (range direction key within table).filterMap (shown? kind) := by
  have hahead : (start direction kind key within).ahead table =
      (direction.order table).filter fun record => direction.Reaches key record.1 :=
    List.filter_congr fun record _ => isAhead_start direction kind key within record.1
  have hwithin : (start direction kind key within).isWithin =
      fun other => within.all fun beginning => beginning.isPrefixOf other :=
    funext (isWithin_eq _)
  have hshown : item? kind = shown? kind := funext (item?_eq_shown? kind)
  unfold pending
  rw [hahead, hwithin, ← hshown]
  rfl

theorem take_start (table : Table) (count : ℕ) :
    ((start direction kind key within).take count (.ok table)).1 =
      ((range direction key within table).filterMap (shown? kind)).take count := by
  rw [take_eq, pending_start]

/-- All that a scan gives is what the records of its range give, in order. -/
theorem items_eq_range (table : Table) :
    (start direction kind key within).items (.ok table) =
      (range direction key within table).filterMap (shown? kind) := by
  have hlength : ((range direction key within table).filterMap (shown? kind)).length ≤
      table.records.length := by
    calc ((range direction key within table).filterMap (shown? kind)).length
      _ ≤ (range direction key within table).length := List.length_filterMap_le _ _
      _ ≤ ((direction.order table).filter fun record => direction.Reaches key record.1).length :=
        (List.takeWhile_sublist _).length_le
      _ ≤ (direction.order table).length := List.length_filter_le _ _
      _ = table.records.length := direction.length_order table
  exact (take_start direction kind key within table _).trans
    (List.take_of_length_le (Nat.le_succ_of_le hlength))

/-- **Scans.** A scan of records that do not change gives what the records of its range give, in
order: this is what any number of its items is, and so are all of them. -/
theorem items_start (table : Table) :
    (∀ count, ((start direction kind key within).take count (.ok table)).1 =
        ((range direction key within table).filterMap (shown? kind)).take count) ∧
      (start direction kind key within).items (.ok table) =
        (range direction key within table).filterMap (shown? kind) :=
  ⟨take_start direction kind key within table, items_eq_range direction kind key within table⟩

end Start

end Scan

end CrawlGraph
