import CrawlGraph.Proofs.Store.Scan
import CrawlGraph.Proofs.Store.Table

/-!
# How far a scan has come

What a scan has read so far accounts for all that lies behind it, also if every page comes from
another table: `Progress`.

1. Between two keys with a beginning, all keys have it (`isPrefixOf_between`). So the end of the
   scan cuts no record off that has it (`Progress.mem_takeWhile_ahead`).
2. A page goes forward only (`isAhead_load`), and whatever was ahead of it is read or stays ahead
   (`Progress.load`).
3. As keys of items come in order, no key is that of two of them (`filter_key`).
-/

namespace CrawlGraph

/-! ## Prefixes and order -/

/-- Keys between two keys with a beginning have it as well. -/
theorem isPrefixOf_between {beginning a b c : Bytes} (hab : a ≤ b) (hbc : b ≤ c)
    (ha : beginning.isPrefixOf a) (hc : beginning.isPrefixOf c) : beginning.isPrefixOf b := by
  rw [List.isPrefixOf_iff_prefix] at ha hc ⊢
  induction beginning generalizing a b c with
  | nil => exact List.nil_prefix
  | cons x beginning ih =>
    obtain ⟨a, rfl⟩ := ha
    obtain ⟨c, rfl⟩ := hc
    rw [List.cons_append] at hab hbc
    cases b with
    | nil => exact by simp at hab
    | cons y b =>
      rw [List.cons_le_cons_iff] at hab hbc
      have hxy : x = y := by
        rcases hab with hlt | ⟨heq, -⟩
        · rcases hbc with hgt | ⟨heq, -⟩
          · exact absurd (UInt8.lt_trans hlt hgt) (UInt8.lt_irrefl x)
          · exact heq.symm
        · exact heq
      subst hxy
      have hab' := (hab.resolve_left (UInt8.lt_irrefl x)).2
      have hbc' := (hbc.resolve_left (UInt8.lt_irrefl x)).2
      have hb := ih hab' hbc' (List.prefix_append _ _) (List.prefix_append _ _)
      exact List.cons_prefix_cons.2 ⟨rfl, hb⟩

namespace Direction

variable {direction : Direction}

/-- A beginning of the start of a scan and of a key is one of all keys on the way to it. -/
theorem isPrefixOf_on_way {beginning start key other : Bytes}
    (hreaches : direction.Reaches start other) (hbefore : direction.Before other key)
    (hstart : beginning.isPrefixOf start) (hkey : beginning.isPrefixOf key) :
    beginning.isPrefixOf other := by
  cases direction with
  | forward => exact isPrefixOf_between hreaches (List.le_of_lt hbefore) hstart hkey
  | backward =>
    exact isPrefixOf_between (List.le_of_lt hbefore) (List.le_of_lt hreaches) hkey hstart

/-- A record is not cut off if none of those up to it is. -/
theorem mem_takeWhile {records : List (Bytes × Bytes)} {record : Bytes × Bytes}
    {p : Bytes × Bytes → Bool}
    (h : records.Pairwise fun first second => direction.Before first.1 second.1)
    (hmem : record ∈ records) (hrecord : p record = true)
    (hup : ∀ other ∈ records, direction.Before other.1 record.1 → p other = true) :
    record ∈ records.takeWhile p := by
  induction records with
  | nil => cases hmem
  | cons head records ih =>
    obtain ⟨hhead, hrecords⟩ := List.pairwise_cons.1 h
    rcases List.mem_cons.1 hmem with rfl | hmem
    · rw [List.takeWhile_cons_of_pos hrecord]
      exact List.mem_cons_self
    · rw [List.takeWhile_cons_of_pos (hup head List.mem_cons_self (hhead record hmem))]
      refine List.mem_cons_of_mem _ (ih hrecords hmem fun other hother => ?_)
      exact hup other (List.mem_cons_of_mem _ hother)

end Direction

namespace Scan

/-! ## Keys of items -/

/-- All that a scan makes of a record. -/
theorem item?_cases {kind : NodeKind} {record : Bytes × Bytes} {item : Item}
    (h : item? kind record = some item) :
    (∃ failure, Node.ofValue record.2 = .error failure ∧
      item = { key := record.1, node := .error failure }) ∨
    ∃ node, Node.ofValue record.2 = .ok (some node) ∧ node.kind = kind ∧
      item = { key := record.1, node := .ok node } := by
  unfold item? at h
  split at h
  case h_1 failure hvalue =>
    cases h
    exact .inl ⟨failure, hvalue, rfl⟩
  case h_2 node hvalue =>
    split at h
    case isTrue hkind =>
      cases h
      exact .inr ⟨node, hvalue, hkind, rfl⟩
    case isFalse => cases h
  case h_3 => cases h

theorem key_of_item? {kind : NodeKind} {record : Bytes × Bytes} {item : Item}
    (h : item? kind record = some item) : item.key = some record.1 := by
  obtain ⟨_, -, rfl⟩ | ⟨_, -, -, rfl⟩ := item?_cases h
  · rfl
  · rfl

theorem keys_filterMap_item? (kind : NodeKind) (records : List (Bytes × Bytes)) :
    ((records.filterMap (item? kind)).filterMap Item.key).Sublist (records.map Prod.fst) := by
  induction records with
  | nil => exact List.Sublist.slnil
  | cons record records ih =>
    rw [List.map_cons]
    cases hitem : item? kind record with
    | none =>
      rw [List.filterMap_cons_none hitem]
      exact ih.cons _
    | some item =>
      rw [List.filterMap_cons_some hitem, List.filterMap_cons_some (key_of_item? hitem)]
      exact ih.cons_cons _

/-- The only item with a key, if the keys of the items come in order. -/
theorem filter_key {direction : Direction} {items : List Item} {item : Item} {key : Bytes}
    (h : (items.filterMap Item.key).Pairwise direction.Before) (hmem : item ∈ items)
    (hkey : item.key = some key) : (items.filter fun other => other.key == some key) = [item] := by
  obtain ⟨front, rest, rfl⟩ := List.append_of_mem hmem
  rw [List.filterMap_append, List.filterMap_cons_some hkey] at h
  obtain ⟨-, hrest, hfront⟩ := List.pairwise_append.1 h
  have hfront_nil : (front.filter fun other => other.key == some key) = [] := by
    rw [List.filter_eq_nil_iff]
    intro other hother hother_key
    have hmem := List.mem_filterMap.2 ⟨other, hother, eq_of_beq hother_key⟩
    exact Direction.Before.irrefl _ _ (hfront key hmem key List.mem_cons_self)
  have hrest_nil : (rest.filter fun other => other.key == some key) = [] := by
    rw [List.filter_eq_nil_iff]
    intro other hother hother_key
    have hmem := List.mem_filterMap.2 ⟨other, hother, eq_of_beq hother_key⟩
    exact Direction.Before.irrefl _ _ ((List.pairwise_cons.1 hrest).1 key hmem)
  rw [List.filter_append, hfront_nil, List.filter_cons_of_pos (by simp [hkey]), hrest_nil,
    List.nil_append]

/-! ## Pages -/

variable {scan : Scan} {table : Table}

theorem mem_ahead {record : Bytes × Bytes} :
    record ∈ scan.ahead table ↔ record ∈ table.records ∧ scan.isAhead record.1 = true := by
  unfold ahead
  rw [List.mem_filter, Direction.mem_order]

theorem inside_prefix_ahead : scan.inside table <+: scan.ahead table := by
  unfold inside
  rw [page_eq]
  exact (List.takeWhile_prefix _).trans (List.take_prefix _ _)

/-- After a page, a scan is behind what that page has got, and it never goes back. -/
theorem isAhead_load {other : Bytes} (h : (scan.load table).isAhead other = true) :
    scan.isAhead other = true ∧
      ∀ record ∈ scan.inside table, scan.direction.Before record.1 other := by
  have hpairwise : (scan.inside table).Pairwise fun first second =>
      scan.direction.Before first.1 second.1 := pairwise_ahead.sublist inside_prefix_ahead.sublist
  have hbefore : scan.direction.Before
      ((((scan.inside table).getLast?).map Prod.fst).getD scan.position) other := by
    rw [load_eq] at h
    simp only [isAhead, Bool.false_and, Bool.or_false] at h
    exact of_decide_eq_true h
  cases hlast : (scan.inside table).getLast? with
  | none =>
    rw [hlast] at hbefore
    rw [List.getLast?_eq_none_iff.1 hlast]
    refine ⟨?_, fun record hrecord => absurd hrecord List.not_mem_nil⟩
    unfold isAhead
    rw [Bool.or_eq_true, decide_eq_true_eq]
    exact .inl hbefore
  | some last =>
    rw [hlast] at hbefore
    have hmem : last ∈ scan.inside table := List.mem_of_getLast? hlast
    refine ⟨isAhead_of_before (mem_ahead.1 (inside_prefix_ahead.subset hmem)).2 hbefore, ?_⟩
    intro record hrecord
    obtain ⟨init, hinit⟩ := List.getLast?_eq_some_iff.1 hlast
    rw [hinit] at hrecord hpairwise
    rcases List.mem_append.1 hrecord with hrecord | hrecord
    · have hlater := (List.pairwise_append.1 hpairwise).2.2 record hrecord last
        (List.mem_singleton_self _)
      exact hlater.trans hbefore
    · exact List.mem_singleton.1 hrecord ▸ hbefore

/-! ## Progress -/

/-- The failure that a closed store ends a scan with. -/
def closing (name : String) : Item := { key := none, node := .error (.closed name) }

/-- What the items of a scan from a key say of the tables that were read. The items are those that
have been given, and those that are still in the buffer. -/
structure Progress (direction : Direction) (kind : NodeKind) (key : Bytes) (within : Option Bytes)
    (name : String) (scan : Scan) (items : List Item) (reads : List Table) : Prop where
  direction_eq : scan.direction = direction
  kind_eq : scan.kind = kind
  within_eq : scan.within = within
  /-- An item is what a record gives, or the failure of a closed store. -/
  genuine : ∀ item ∈ items, item = closing name ∨
    ∃ table ∈ reads, ∃ record ∈ table.records, item? kind record = some item
  ordered : (items.filterMap Item.key).Pairwise direction.Before
  /-- What is ahead comes after all items. -/
  behind : ∀ (item : Item) (itemKey other : Bytes), item ∈ items → item.key = some itemKey →
    scan.isAhead other = true → direction.Before itemKey other
  reached : ∀ other : Bytes, scan.isAhead other = true → direction.Reaches key other
  /-- A record that all tables have is given or ahead, unless a page could not be read. -/
  complete : ∀ (other value : Bytes) (item : Item), direction.Reaches key other →
    (within.all fun beginning => beginning.isPrefixOf other) = true →
    item? kind (other, value) = some item → (∀ table ∈ reads, table.get? other = some value) →
    item ∈ items ∨ (scan.isDone = false ∧ scan.isAhead other = true) ∨
      ∃ failed ∈ items, failed.key = none

namespace Progress

variable {direction : Direction} {kind : NodeKind} {key : Bytes} {within : Option Bytes}
  {name : String} {items : List Item} {reads : List Table}

theorem start (direction : Direction) (kind : NodeKind) (key : Bytes) (within : Option Bytes)
    (name : String) :
    Progress direction kind key within name (Scan.start direction kind key within) [] [] where
  direction_eq := rfl
  kind_eq := rfl
  within_eq := rfl
  genuine _ h := absurd h List.not_mem_nil
  ordered := List.Pairwise.nil
  behind _ _ _ h := absurd h List.not_mem_nil
  reached other h := of_decide_eq_true (isAhead_start direction kind key within other ▸ h)
  complete other _ _ hreaches _ _ _ := by
    have hahead := isAhead_start direction kind key within other
    exact .inr (.inl ⟨rfl, hahead.trans (decide_eq_true hreaches)⟩)

/-- More tables promise less of their records. -/
theorem mono {reads' : List Table} (h : Progress direction kind key within name scan items reads)
    (hreads : reads ⊆ reads') : Progress direction kind key within name scan items reads' where
  __ := h
  genuine item hitem := by
    rcases h.genuine item hitem with hclosing | ⟨table, htable, hrecord⟩
    · exact .inl hclosing
    · exact .inr ⟨table, hreads htable, hrecord⟩
  complete other value item hreaches hwithin hitem hget :=
    h.complete other value item hreaches hwithin hitem fun table htable =>
      hget table (hreads htable)

theorem with_buffer (h : Progress direction kind key within name scan items reads)
    (buffer : List Item) :
    Progress direction kind key within name { scan with buffer } items reads where
  __ := h

/-- A scan that fails is done. -/
theorem fail (h : Progress direction kind key within name scan items reads) :
    Progress direction kind key within name { scan with isDone := true }
      (items ++ [closing name]) reads where
  __ := h
  genuine item hitem := by
    rcases List.mem_append.1 hitem with hitem | hitem
    · exact h.genuine item hitem
    · exact .inl (List.mem_singleton.1 hitem)
  ordered := by
    rw [List.filterMap_append]
    simpa [closing] using h.ordered
  behind item itemKey other hitem hkey hahead := by
    rcases List.mem_append.1 hitem with hitem | hitem
    · exact h.behind item itemKey other hitem hkey hahead
    · rw [List.mem_singleton.1 hitem] at hkey
      cases hkey
  complete other value item hreaches hwithin hitem hget :=
    .inr (.inr ⟨closing name, List.mem_append_right _ (List.mem_singleton_self _), rfl⟩)

/-- A record inside the prefix that is ahead of a scan is one that the scan looks at. -/
theorem mem_takeWhile_ahead (h : Progress direction kind key within name scan items reads)
    (hkey : (within.all fun beginning => beginning.isPrefixOf key) = true)
    {record : Bytes × Bytes} (hmem : record ∈ scan.ahead table)
    (hwithin : (within.all fun beginning => beginning.isPrefixOf record.1) = true) :
    record ∈ (scan.ahead table).takeWhile fun record => scan.isWithin record.1 := by
  have hrecord : scan.isWithin record.1 = true := by rwa [isWithin_eq, h.within_eq]
  refine scan.direction.mem_takeWhile pairwise_ahead hmem hrecord ?_
  intro other hother hbefore
  rw [isWithin_eq, h.within_eq]
  cases within with
  | none => rfl
  | some beginning =>
    rw [h.direction_eq] at hbefore
    have hreached := h.reached other.1 (mem_ahead.1 hother).2
    exact Direction.isPrefixOf_on_way hreached hbefore hkey hwithin

/-- A page keeps account of what it reads. -/
theorem load (h : Progress direction kind key within name scan items reads)
    (hkey : (within.all fun beginning => beginning.isPrefixOf key) = true) (table : Table) :
    Progress direction kind key within name (scan.load table)
      (items ++ (scan.inside table).filterMap (item? kind)) (reads ++ [table]) where
  direction_eq := h.direction_eq
  kind_eq := h.kind_eq
  within_eq := h.within_eq
  genuine item hitem := by
    rcases List.mem_append.1 hitem with hitem | hitem
    · exact (h.mono (List.subset_append_left _ _)).genuine item hitem
    · obtain ⟨record, hrecord, hshown⟩ := List.mem_filterMap.1 hitem
      have hmem := (mem_ahead.1 (inside_prefix_ahead.subset hrecord)).1
      exact .inr ⟨table, List.mem_append_right _ (List.mem_singleton_self _), record, hmem, hshown⟩
  ordered := by
    rw [List.filterMap_append, List.pairwise_append]
    refine ⟨h.ordered, ?_, ?_⟩
    · have hpairwise : (scan.inside table).Pairwise fun first second =>
          direction.Before first.1 second.1 :=
        h.direction_eq ▸ pairwise_ahead.sublist inside_prefix_ahead.sublist
      exact (List.pairwise_map.2 hpairwise).sublist (keys_filterMap_item? kind _)
    · intro itemKey hitemKey other hother
      obtain ⟨item, hitem, hkey⟩ := List.mem_filterMap.1 hitemKey
      obtain ⟨record, hrecord, rfl⟩ := List.mem_map.1 ((keys_filterMap_item? kind _).subset hother)
      exact h.behind item itemKey _ hitem hkey (mem_ahead.1 (inside_prefix_ahead.subset hrecord)).2
  behind item itemKey other hitem hitemKey hahead := by
    obtain ⟨hbefore, hinside⟩ := isAhead_load hahead
    rcases List.mem_append.1 hitem with hitem | hitem
    · exact h.behind item itemKey other hitem hitemKey hbefore
    · obtain ⟨record, hrecord, hshown⟩ := List.mem_filterMap.1 hitem
      cases hitemKey.symm.trans (key_of_item? hshown)
      exact h.direction_eq ▸ hinside record hrecord
  reached other hahead := h.reached other (isAhead_load hahead).1
  complete other value item hreaches hwithin hitem hget := by
    have hbefore := h.complete other value item hreaches hwithin hitem fun table htable =>
      hget table (List.mem_append_left _ htable)
    rcases hbefore with hmem | ⟨-, hahead⟩ | ⟨failed, hfailed, hnone⟩
    · exact .inl (List.mem_append_left _ hmem)
    · have hrecord : (other, value) ∈ scan.ahead table :=
        mem_ahead.2 ⟨Table.mem_of_get?
          (hget table (List.mem_append_right _ (List.mem_singleton_self _))), hahead⟩
      have hlooked := h.mem_takeWhile_ahead hkey hrecord hwithin
      rw [takeWhile_ahead scan table, List.mem_append] at hlooked
      rcases hlooked with hinside | hlater
      · exact .inl (List.mem_append_right _ (List.mem_filterMap.2 ⟨_, hinside, hitem⟩))
      · split at hlater
        · cases hlater
        · have hahead := (mem_ahead.1 ((List.takeWhile_sublist _).subset hlater)).2
          exact .inr (.inl ⟨Bool.eq_false_iff.2 ‹_›, hahead⟩)
    · exact .inr (.inr ⟨failed, List.mem_append_left _ hfailed, hnone⟩)

end Progress

end Scan

end CrawlGraph
