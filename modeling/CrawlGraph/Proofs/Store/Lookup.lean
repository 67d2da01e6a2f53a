import CrawlGraph.Proofs.Graph.StoredValue
import CrawlGraph.Proofs.Store.Scope

/-!
# Scans and look-ups

A scan and a look-up find the same node under the key of that node, as far as both of them read the
value that is stored there: `scan_agrees_node?`.

1. A scan gives at most one item for a key that it comes to, and that is what it finds in the value
   (`givenFor_of_mem`). It comes to all keys with the beginning that it has to keep to
   (`mem_range`).
2. In a value a scan and a look-up find the same node (`Node.ofBytes?_of_ofValue`,
   `Node.ofValue_of_ofBytes?`).
-/

namespace CrawlGraph

/-! ## Look-ups -/

namespace Database

variable {db : Database} {job id : Int64} {bytes : Bytes}

theorem node?_of_value (h : db.value? (StoreKey.node job id) = some bytes) :
    db.node? job id =
      match Node.ofBytes? bytes with
      | none => .error .undecodable
      | some node => .ok (some node) := by
  unfold node? read? Node.ofBytes?
  simp only [h]
  cases (Json.parse? bytes).bind (Node.ofJson? Json.maxDepth) with
  | none => rfl
  | some node => rfl

theorem exists_of_node? {node : Node} (h : db.node? job id = .ok (some node)) :
    ∃ bytes, db.value? (StoreKey.node job id) = some bytes ∧
      Node.ofBytes? bytes = some node := by
  cases hvalue : db.value? (StoreKey.node job id) with
  | none =>
    unfold node? read? at h
    rw [hvalue] at h
    cases h
  | some bytes =>
    rw [node?_of_value hvalue] at h
    split at h
    case h_1 => cases h
    case h_2 found hfound =>
      cases h
      exact ⟨bytes, rfl, hfound⟩

/-- The JSON value that is stored for a node. -/
def nodeJson? (db : Database) (job id : Int64) : Option Json :=
  (db.value? (StoreKey.node job id)).bind Json.parse?

end Database

namespace Scan

/-! ## What is given for a key -/

/-- What a scan of records that do not change gives for a key. -/
def givenFor (scan : Scan) (table : Table) (key : Bytes) : List (Except Failure Node) :=
  ((scan.items (.ok table)).filter fun item => item.key == some key).map Item.node

section Range

variable {direction : Direction} {kind : NodeKind} {beginsAt : Bytes} {within : Option Bytes}
  {table : Table} {key value : Bytes}

theorem range_sublist :
    (range direction beginsAt within table).Sublist (direction.order table) :=
  (List.takeWhile_sublist _).trans List.filter_sublist

theorem pairwise_range :
    ((range direction beginsAt within table).map Prod.fst).Pairwise direction.Before :=
  List.pairwise_map.2 ((direction.pairwise_order table).sublist range_sublist)

theorem get?_of_mem_range (h : (key, value) ∈ range direction beginsAt within table) :
    table.get? key = some value :=
  Sorted.find?_of_mem table.ascending (Direction.mem_order.1 (range_sublist.subset h))

/-- A scan from a key with the beginning that it has to keep to comes to all keys with it that are
not behind that key. -/
theorem mem_range
    (hstart : (within.all fun beginning => beginning.isPrefixOf beginsAt) = true)
    (hreaches : direction.Reaches beginsAt key)
    (hwithin : (within.all fun beginning => beginning.isPrefixOf key) = true)
    (hget : table.get? key = some value) :
    (key, value) ∈ range direction beginsAt within table := by
  have hmem : (key, value) ∈ (direction.order table).filter fun record =>
      direction.Reaches beginsAt record.1 :=
    List.mem_filter.2 ⟨Direction.mem_order.2 (Table.mem_of_get? hget), decide_eq_true hreaches⟩
  refine direction.mem_takeWhile ((direction.pairwise_order table).filter _) hmem hwithin ?_
  intro other hother hbefore
  cases within with
  | none => rfl
  | some beginning =>
    have hreached := of_decide_eq_true (List.mem_filter.1 hother).2
    exact Direction.isPrefixOf_on_way hreached hbefore hstart hwithin

theorem items_eq_filterMap :
    (start direction kind beginsAt within).items (.ok table) =
      (range direction beginsAt within table).filterMap (item? kind) := by
  rw [items_eq_range, funext (item?_eq_shown? kind)]

theorem mem_givenFor {result : Except Failure Node}
    (h : result ∈ (start direction kind beginsAt within).givenFor table key) :
    ∃ value item, (key, value) ∈ range direction beginsAt within table ∧
      item? kind (key, value) = some item ∧ item.node = result := by
  obtain ⟨item, hitem, rfl⟩ := List.mem_map.1 h
  obtain ⟨hmem, hkey⟩ := List.mem_filter.1 hitem
  rw [items_eq_filterMap] at hmem
  obtain ⟨⟨other, value⟩, hrecord, hfound⟩ := List.mem_filterMap.1 hmem
  cases (eq_of_beq hkey).symm.trans (key_of_item? hfound)
  exact ⟨value, item, hrecord, hfound, rfl⟩

/-- For a key that it comes to, a scan gives what it finds in the value. -/
theorem givenFor_of_mem (h : (key, value) ∈ range direction beginsAt within table) :
    (start direction kind beginsAt within).givenFor table key =
      ((item? kind (key, value)).map Item.node).toList := by
  cases hfound : item? kind (key, value) with
  | none =>
    refine List.eq_nil_iff_forall_not_mem.2 fun result hresult => ?_
    obtain ⟨other, item, hmem, hother, -⟩ := mem_givenFor hresult
    cases (get?_of_mem_range h).symm.trans (get?_of_mem_range hmem)
    cases hfound.symm.trans hother
  | some item =>
    have hordered := pairwise_range.sublist
      (keys_filterMap_item? kind (range direction beginsAt within table))
    have hone := filter_key hordered (List.mem_filterMap.2 ⟨_, h, hfound⟩) (key_of_item? hfound)
    unfold givenFor
    rw [items_eq_filterMap, hone]
    rfl

end Range

/-! ## Agreement -/

section Agreement

variable {db : Database} {job id : Int64} {direction : Direction} {kind : NodeKind}
  {beginsAt : Bytes} {within : Option Bytes} {node : Node}

theorem node?_of_given
    (h : .ok node ∈ (start direction kind beginsAt within).givenFor db.table
      (Utf8.ofString (StoreKey.node job id))) :
    ∃ json, db.nodeJson? job id = some json ∧
      (db.node? job id = .ok (some node) ∨
        db.node? job id = .error .undecodable ∧ json.namesOnce = false) := by
  obtain ⟨bytes, item, hmem, hfound, hnode⟩ := mem_givenFor h
  have hvalue : db.value? (StoreKey.node job id) = some bytes := get?_of_mem_range hmem
  have hgiven : Node.ofValue bytes = .ok (some node) := by
    obtain ⟨_, -, rfl⟩ | ⟨found, hgiven, -, rfl⟩ := item?_cases hfound
    · cases hnode
    · cases hnode
      exact hgiven
  obtain ⟨json, hparse, hread⟩ := Node.ofBytes?_of_ofValue hgiven
  refine ⟨json, ?_, ?_⟩
  · unfold Database.nodeJson?
    rw [hvalue, Option.bind_some, hparse]
  · rw [Database.node?_of_value hvalue]
    refine hread.imp (fun hread => ?_) fun ⟨hread, honce⟩ => ⟨?_, honce⟩
    · rw [hread]
    · rw [hread]

theorem given_of_node? (h : db.node? job id = .ok (some node)) (hkind : node.kind = kind)
    (hrange : Utf8.ofString (StoreKey.node job id) ∈
      (range direction beginsAt within db.table).map Prod.fst) :
    ∃ json, db.nodeJson? job id = some json ∧
      (start direction kind beginsAt within).givenFor db.table
          (Utf8.ofString (StoreKey.node job id)) =
        if json.isSound Json.maxDepth then if json.isObject then [.ok node] else []
        else [.error .undecodable] := by
  obtain ⟨bytes, hvalue, hbytes⟩ := Database.exists_of_node? h
  obtain ⟨⟨_, value⟩, hmem, rfl⟩ := List.mem_map.1 hrange
  cases hvalue.symm.trans (get?_of_mem_range hmem)
  obtain ⟨json, hparse, hread⟩ := Node.ofValue_of_ofBytes? hbytes
  refine ⟨json, ?_, ?_⟩
  · unfold Database.nodeJson?
    rw [hvalue, Option.bind_some, hparse]
  · rw [givenFor_of_mem hmem]
    unfold item?
    rw [hread]
    by_cases hsound : json.isSound Json.maxDepth = true
    · by_cases hobject : json.isObject = true
      · simp [hsound, hobject, hkind]
      · simp [hsound, hobject]
    · simp [hsound]

end Agreement

/-- **Scans and look-ups.** What a scan gives for the key of a node is that node for a look-up as
well, unless the look-up refuses a name that is repeated in the stored value. What a look-up finds
is given once by a scan for its kind that comes to the key, if the value is an object and all of it
can be read: an array is passed over, and a value of which the look-up passes over a part that
cannot be read is a failure. A scan comes to the key from each start that is not behind it, if both
have the beginning that is asked for. -/
theorem agrees_with_lookup (db : Database) (job id : Int64) (direction : Direction)
    (kind : NodeKind) (beginsAt : Bytes) (within : Option Bytes) :
    let key := Utf8.ofString (StoreKey.node job id)
    let given := (start direction kind beginsAt within).givenFor db.table key
    (∀ node, .ok node ∈ given →
      ∃ json, db.nodeJson? job id = some json ∧
        (db.node? job id = .ok (some node) ∨
          db.node? job id = .error .undecodable ∧ json.namesOnce = false)) ∧
    (∀ node, db.node? job id = .ok (some node) → node.kind = kind →
      key ∈ (range direction beginsAt within db.table).map Prod.fst →
        ∃ json, db.nodeJson? job id = some json ∧
          given =
            if json.isSound Json.maxDepth then if json.isObject then [.ok node] else []
            else [.error .undecodable]) ∧
    ((within.all fun beginning => beginning.isPrefixOf beginsAt) = true →
      (within.all fun beginning => beginning.isPrefixOf key) = true →
      direction.Reaches beginsAt key → (db.table.get? key).isSome →
        key ∈ (range direction beginsAt within db.table).map Prod.fst) := by
  refine ⟨fun node => node?_of_given, fun node => given_of_node?, ?_⟩
  intro hstart hwithin hreaches hsome
  obtain ⟨value, hget⟩ := Option.isSome_iff_exists.1 hsome
  exact List.mem_map_of_mem (mem_range hstart hreaches hwithin hget)

/-! ## Single values -/

/-- A URL of which nothing else is known. -/
def plainUrl : Node := { id := 1, kind := .url, url := "http://a.example/" }

/-- The store that keeps a value for the first node of the first job, and nothing else. -/
def keepsAlone (json : Json) : Database :=
  { table := Table.empty.put (Utf8.ofString (StoreKey.node 1 1)) json.bytes }

/-- What a scan of the first job for URLs gives for its first node. -/
def givenAlone (json : Json) : List (Except Failure Node) :=
  (start .forward .url (StoreKey.scope 1) (some (StoreKey.scope 1))).givenFor
    (keepsAlone json).table (Utf8.ofString (StoreKey.node 1 1))

section Alone

variable {json : Json}

theorem value?_keepsAlone (json : Json) :
    (keepsAlone json).value? (StoreKey.node 1 1) = some json.bytes :=
  (Table.get?_put _ _ _ _).trans (if_pos rfl)

theorem mem_range_keepsAlone (json : Json) :
    (Utf8.ofString (StoreKey.node 1 1), json.bytes) ∈
      range .forward (StoreKey.scope 1) (some (StoreKey.scope 1)) (keepsAlone json).table := by
  rw [range_scope, Table.mem_ofJob]
  exact ⟨Table.mem_of_get? (value?_keepsAlone json), StoreKey.isInScope_named 1 _⟩

theorem nodeJson?_keepsAlone (h : json.IsPlain) : (keepsAlone json).nodeJson? 1 1 = some json := by
  unfold Database.nodeJson?
  rw [value?_keepsAlone, Option.bind_some]
  exact Json.parse?_compactText h

theorem node?_keepsAlone (h : json.IsPlain) :
    (keepsAlone json).node? 1 1 =
      match Node.ofJson? Json.maxDepth json with
      | none => .error .undecodable
      | some node => .ok (some node) := by
  have hparse : Json.parse? json.bytes = some json := Json.parse?_compactText h
  rw [Database.node?_of_value (value?_keepsAlone json)]
  unfold Node.ofBytes?
  rw [hparse, Option.bind_some]

theorem givenAlone_of_node? (h : json.IsPlain) {node : Node}
    (hnode : (keepsAlone json).node? 1 1 = .ok (some node)) (hkind : node.kind = .url) :
    givenAlone json =
      if json.isSound Json.maxDepth then if json.isObject then [.ok node] else []
      else [.error .undecodable] := by
  obtain ⟨_, hjson, hgiven⟩ :=
    given_of_node? hnode hkind (List.mem_map_of_mem (mem_range_keepsAlone json))
  cases (nodeJson?_keepsAlone h).symm.trans hjson
  exact hgiven

end Alone

/-- An object with its fields in reverse and with one more. -/
theorem agrees_with_lookup_reversed :
    let json := Json.ofFields (("note", .null) :: plainUrl.fields.reverse)
    givenAlone json = [.ok plainUrl] ∧ (keepsAlone json).node? 1 1 = .ok (some plainUrl) := by
  intro json
  obtain ⟨hscanned, hfound, hcomes⟩ := agrees_with_lookup (keepsAlone json) 1 1 .forward .url
    (StoreKey.scope 1) (some (StoreKey.scope 1))
  have hplain : json.IsPlain := by
    refine Json.isPlain_ofFields (List.forall_mem_cons.2 ⟨trivial, fun field hfield => ?_⟩)
    exact plainUrl.isPlain_fields field (List.mem_reverse.1 hfield)
  have hnode : (keepsAlone json).node? 1 1 = .ok (some plainUrl) := by
    rw [node?_keepsAlone hplain, show Node.ofJson? Json.maxDepth json = some plainUrl from rfl]
  have hscope := StoreKey.isInScope_named 1 (toString (1 : Int64))
  have hrange := hcomes (List.isPrefixOf_iff_prefix.2 List.prefix_rfl)
    (List.isPrefixOf_iff_prefix.2 hscope) hscope.le
    (Option.isSome_iff_exists.2 ⟨_, value?_keepsAlone json⟩)
  obtain ⟨_, hjson, hgiven⟩ := hfound plainUrl hnode rfl hrange
  cases (nodeJson?_keepsAlone hplain).symm.trans hjson
  have hgiven : givenAlone json = [.ok plainUrl] := by
    have hsound : json.isSound Json.maxDepth = true := by decide +kernel
    exact hgiven.trans (if_pos hsound)
  have hmem : .ok plainUrl ∈ givenAlone json := hgiven ▸ List.mem_singleton_self _
  refine ⟨hgiven, ?_⟩
  obtain ⟨_, -, hread | ⟨hrefused, -⟩⟩ := hscanned plainUrl hmem
  · exact hread
  · cases hnode.symm.trans hrefused

/-- A node as an array is passed over by a scan, one whose identifier is repeated is not found by a
look-up, and one with a number out of range in a field of no node is a failure for a scan. -/
theorem differs_from_lookup :
    let items := Json.array (plainUrl.fields.map Prod.snd)
    let repeated := Json.ofFields (("id", Json.ofInt 2) :: plainUrl.fields)
    let unread := Json.ofFields (("note", Json.ofInt (10 ^ 400)) :: plainUrl.fields)
    ((keepsAlone items).node? 1 1 = .ok (some plainUrl) ∧ givenAlone items = []) ∧
      ((keepsAlone repeated).node? 1 1 = .error .undecodable ∧
        givenAlone repeated = [.ok plainUrl]) ∧
      ((keepsAlone unread).node? 1 1 = .ok (some plainUrl) ∧
        givenAlone unread = [.error .undecodable]) := by
  intro items repeated unread
  have hitems : items.IsPlain := by
    refine Json.isPlain_array fun item hitem => ?_
    obtain ⟨field, hfield, rfl⟩ := List.mem_map.1 hitem
    exact plainUrl.isPlain_fields field hfield
  have hrepeated : repeated.IsPlain :=
    Json.isPlain_ofFields (List.forall_mem_cons.2 ⟨trivial, plainUrl.isPlain_fields⟩)
  have hunread : unread.IsPlain :=
    Json.isPlain_ofFields (List.forall_mem_cons.2 ⟨trivial, plainUrl.isPlain_fields⟩)
  refine ⟨?_, ?_, ?_⟩
  · have hnode : (keepsAlone items).node? 1 1 = .ok (some plainUrl) := by
      rw [node?_keepsAlone hitems, show Node.ofJson? Json.maxDepth items = some plainUrl from rfl]
    have hsound : items.isSound Json.maxDepth = true := by decide +kernel
    exact ⟨hnode, (givenAlone_of_node? hitems hnode rfl).trans (if_pos hsound)⟩
  · have hnode : (keepsAlone repeated).node? 1 1 = .error .undecodable := by
      rw [node?_keepsAlone hrepeated, show Node.ofJson? Json.maxDepth repeated = none from rfl]
    have hsound : repeated.isSound Json.maxDepth = true := by decide +kernel
    have hsorted : Node.ofJson? Json.maxDepth repeated.sortFields = some plainUrl := by rfl
    have hvalue : Node.ofValue repeated.bytes = .ok (some plainUrl) :=
      Node.ofValue_eq_ok.2 ⟨_, Node.parse?_bytes hrepeated hsound, rfl, hsorted⟩
    refine ⟨hnode, (givenFor_of_mem (mem_range_keepsAlone repeated)).trans ?_⟩
    unfold item?
    rw [hvalue]
    rfl
  · have hnode : (keepsAlone unread).node? 1 1 = .ok (some plainUrl) := by
      rw [node?_keepsAlone hunread, show Node.ofJson? Json.maxDepth unread = some plainUrl from rfl]
    have hsound : ¬ unread.isSound Json.maxDepth = true := by decide +kernel
    exact ⟨hnode, (givenAlone_of_node? hunread hnode rfl).trans (if_neg hsound)⟩

end Scan

end CrawlGraph
