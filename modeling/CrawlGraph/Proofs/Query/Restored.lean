import CrawlGraph.Proofs.Query.Saved
import CrawlGraph.Proofs.Store.Access

/-!
# Nodes restored from their texts

A node is read from the text under which it is stored just when fewer than 128 containers stand
inside each other in it, and what has been read as a node, from whatever text, can be stored and
read again: `restores_node`.

1. In the text of a node each level of buckets takes up two containers, so a node whose text is not
   too deep has few levels (`nested_of_depth`).
2. What is read as a node has its buckets in order, and no more levels of them than there is room
   for (`nested_of_readWithin`). From the text of a node that is too deep nothing is read
   (`depth_le_of_readWithin`).
-/

namespace CrawlGraph

/-! ## Depth of values -/

namespace Json

mutual

/-- How many containers stand inside each other in a value. -/
def depth : Json → ℕ
  | .null => 0
  | .bool _ => 0
  | .number _ => 0
  | .string _ => 0
  | .array items => depthOfItems items + 1
  | .object fields => depthOfFields fields + 1

/-- The largest depth of the items of an array. -/
def depthOfItems : List Json → ℕ
  | [] => 0
  | item :: items => max (depth item) (depthOfItems items)

/-- The largest depth of the fields of an object. -/
def depthOfFields : List (Option String × Json) → ℕ
  | [] => 0
  | (_, value) :: fields => max (depth value) (depthOfFields fields)

end

theorem depth_array_le {items : List Json} {n : ℕ} :
    (Json.array items).depth ≤ n + 1 ↔ ∀ item ∈ items, item.depth ≤ n := by
  rw [depth, Nat.add_le_add_iff_right]
  induction items with
  | nil => simp [depthOfItems]
  | cons item items ih => rw [depthOfItems, Nat.max_le, ih, List.forall_mem_cons]

theorem depth_ofFields_le {fields : Fields} {n : ℕ} :
    (ofFields fields).depth ≤ n + 1 ↔ ∀ field ∈ fields, field.2.depth ≤ n := by
  rw [ofFields, depth, Nat.add_le_add_iff_right]
  induction fields with
  | nil => simp [depthOfFields]
  | cons field fields ih =>
    rw [List.map_cons, depthOfFields, Nat.max_le, ih, List.forall_mem_cons]

end Json

namespace Node

/-- The buckets of a node, and those in them, are in the order of their keys. -/
inductive IsOrdered : Node → Prop
  | intro {node : Node} (ascending : Sorted.Ascending node.children)
      (children : ∀ entry ∈ node.children, IsOrdered entry.2) : IsOrdered node

theorem Nested.isOrdered {depth : ℕ} {node : Node} (h : node.Nested depth) : node.IsOrdered := by
  induction depth generalizing node with
  | zero =>
    have hnil : node.children = [] := h
    exact ⟨hnil ▸ List.Pairwise.nil, by simp [hnil]⟩
  | succ depth ih => exact ⟨h.1, fun entry hentry => ih (h.2 entry hentry)⟩

/-! ## The depth of a text -/

section Depth

variable {node : Node} {n : ℕ}

theorem mem_fieldsWith_of_ne_nil (write : Node → Json) (h : node.children ≠ []) :
    ("children", Json.ofFields (node.children.map fun entry => (entry.1, write entry.2))) ∈
      node.fieldsWith write := by
  unfold fieldsWith
  rw [if_neg (by simpa using h)]
  exact List.mem_append_right _ (List.mem_singleton_self _)

theorem depth_fields_le (node : Node) : ∀ field ∈ node.fields, field.2.depth ≤ 1 := by
  have hids : (Json.array (node.outlinks.map fun id => Json.ofInt id.toInt)).depth ≤ 1 := by
    rw [Json.depth_array_le (n := 0)]
    intro item hitem
    obtain ⟨_, -, rfl⟩ := List.mem_map.1 hitem
    exact Nat.le_refl 0
  have hint : ∀ n, (Json.ofInt n).depth = 0 := fun _ => rfl
  have hstring : ∀ s, (Json.ofString s).depth = 0 := fun _ => rfl
  have hbool : ∀ b, (Json.bool b).depth = 0 := fun _ => rfl
  have hoption : ∀ s : Option String, (Json.ofOption Json.ofString s).depth = 0 := by
    rintro (_ | s) <;> rfl
  simp [fields, hids, hint, hstring, hbool, hoption]

/-- The text of a node holds at least the list of its outlinks, and two levels more for each level
of buckets. -/
theorem depth_toJson_le :
    node.toJson.depth ≤ n + 2 ↔ ∀ entry ∈ node.children, entry.2.toJson.depth ≤ n := by
  rw [toJson_eq, Json.depth_ofFields_le]
  constructor
  · intro h entry hentry
    have hfield := h _ (mem_fieldsWith_of_ne_nil toJson (List.ne_nil_of_mem hentry))
    rw [Json.depth_ofFields_le] at hfield
    exact hfield _ (List.mem_map_of_mem (f := fun entry => (entry.1, entry.2.toJson)) hentry)
  · intro h field hfield
    rcases List.mem_append.1 hfield with hfield | hfield
    · exact (depth_fields_le node field hfield).trans (by omega)
    · split at hfield
      · cases hfield
      · rw [List.mem_singleton] at hfield
        subst hfield
        rw [Json.depth_ofFields_le]
        intro field hfield
        obtain ⟨entry, hentry, rfl⟩ := List.mem_map.1 hfield
        exact h entry hentry

theorem two_le_depth_toJson (node : Node) : 2 ≤ node.toJson.depth := by
  by_contra hlt
  have houtlinks : ("outlinks", Json.array (node.outlinks.map fun id => Json.ofInt id.toInt)) ∈
      node.fieldsWith toJson := List.mem_append_left _ (by simp [fields])
  have hle : node.toJson.depth ≤ 0 + 1 := by omega
  rw [toJson_eq, Json.depth_ofFields_le] at hle
  have harray := hle _ houtlinks
  rw [Json.depth] at harray
  omega

/-- A node whose text is not too deep has few levels of buckets. -/
theorem nested_of_depth {levels : ℕ} (h : node.IsOrdered)
    (hdepth : node.toJson.depth ≤ 2 * levels + 3) : node.Nested levels := by
  induction levels generalizing node with
  | zero =>
    refine List.eq_nil_iff_forall_not_mem.2 fun entry hentry => ?_
    have htwo := two_le_depth_toJson entry.2
    have hone := (depth_toJson_le (n := 1)).1 hdepth entry hentry
    omega
  | succ levels ih =>
    obtain ⟨hascending, hchildren⟩ := h
    refine ⟨hascending, fun entry hentry => ih (hchildren entry hentry) ?_⟩
    exact (depth_toJson_le (n := 2 * levels + 3)).1 hdepth entry hentry

end Depth

/-! ## What is read as a node -/

section Reads

variable {fuel room : ℕ} {json : Json} {node : Node}

/-- A node has the children that it is read with, and its list of outlinks needs room. -/
theorem ofFields?_eq_some {fields : Json.Fields} {children : List (String × Node)}
    (h : ofFields? room fields children = some node) :
    node.children = children ∧
      ∃ json, fields.find? "outlinks" = some json ∧ (json.asList? room Json.asInt64?).isSome := by
  unfold ofFields? at h
  -- the outlinks are the twelfth field, and seven more follow
  iterate 11 obtain ⟨_, -, h⟩ := Option.bind_eq_some_iff.1 h
  obtain ⟨outlinks, houtlinks, h⟩ := Option.bind_eq_some_iff.1 h
  iterate 7 obtain ⟨_, -, h⟩ := Option.bind_eq_some_iff.1 h
  cases h
  obtain ⟨json, hjson, hread⟩ := Option.bind_eq_some_iff.1 houtlinks
  exact ⟨rfl, json, hjson, by rw [hread]; rfl⟩

theorem room_pos_of_asList? {α : Type} {read : Json → Option α}
    (h : (json.asList? room read).isSome) : 0 < room := by
  unfold Json.asList? at h
  split at h
  · split at h
    · cases h
    · exact Nat.pos_of_ne_zero ‹_›
  · cases h

/-- What is read as a node has its buckets in order, and fewer levels of them than there is room
for. -/
theorem nested_of_readWithin (h : readWithin fuel room json = some node) :
    2 ≤ room ∧ node.Nested ((room - 2) / 2) := by
  induction fuel generalizing room json node with
  | zero => cases h
  | succ fuel ih =>
    obtain ⟨fields, children, -, hchildren, hfields⟩ := readWithin_succ_eq_some.1 h
    obtain ⟨hnode, _, -, hlist⟩ := ofFields?_eq_some hfields
    have hroom : 2 ≤ room := by
      have hpos := room_pos_of_asList? hlist
      omega
    refine ⟨hroom, ?_⟩
    unfold Json.Fields.withDefault? at hchildren
    split at hchildren
    case h_1 =>
      cases hchildren
      exact nested_of_nil hnode _
    case h_2 =>
      obtain ⟨_, nodes, -, rfl, -, hfound⟩ := readChildren_eq_some hchildren
      -- every child that is kept has been read where two containers less fit
      have hnested : ∀ entry ∈ node.children,
          2 ≤ room - 2 ∧ entry.2.Nested ((room - 2 - 2) / 2) := by
        intro entry hentry
        rw [hnode] at hentry
        obtain ⟨_, -, hread⟩ := hfound entry (Sorted.mem_ofList hentry)
        exact ih hread
      by_cases hnil : node.children = []
      · exact nested_of_nil hnil _
      · obtain ⟨entry, hentry⟩ := List.exists_mem_of_ne_nil _ hnil
        have hmore := (hnested entry hentry).1
        have hlevels : (room - 2) / 2 = (room - 2 - 2) / 2 + 1 := by omega
        rw [hlevels]
        exact ⟨hnode ▸ Sorted.ascending_ofList nodes, fun entry hentry => (hnested entry hentry).2⟩

/-- A node is not read from its own text if there is no room for all of it. -/
theorem depth_le_of_readWithin {found : Node}
    (h : readWithin fuel room node.toJson = some found) : node.toJson.depth ≤ room := by
  induction fuel generalizing room node found with
  | zero => cases h
  | succ fuel ih =>
    have hroom := (nested_of_readWithin h).1
    obtain ⟨fields, children, hrecord, hchildren, -⟩ := readWithin_succ_eq_some.1 h
    have hnodup := nodup_fieldsWith toJson node
    rw [toJson_eq, Json.asRecord?_ofFields (by omega) _ (fun _ => mem_fieldNames) hnodup] at hrecord
    cases hrecord
    obtain ⟨rest, rfl⟩ : ∃ rest, room = rest + 2 := ⟨room - 2, by omega⟩
    refine depth_toJson_le.2 fun entry hentry => ?_
    have hfield := mem_fieldsWith_of_ne_nil toJson (List.ne_nil_of_mem hentry)
    unfold Json.Fields.withDefault? at hchildren
    rw [Json.find?_of_mem_fields hnodup hfield] at hchildren
    obtain ⟨_, _, hinner, -, hread, -⟩ := readChildren_eq_some hchildren
    rw [Json.asObject?_ofFields (by omega)] at hinner
    cases hinner
    obtain ⟨_, hchild⟩ :=
      hread _ (List.mem_map_of_mem (f := fun entry => (entry.1, entry.2.toJson)) hentry)
    exact ih hchild

end Reads

/-! ## Texts -/

theorem nested_of_ofBytes? {bytes : Bytes} {node : Node} (h : ofBytes? bytes = some node) :
    node.Nested 62 := by
  obtain ⟨json, -, hread⟩ := Option.bind_eq_some_iff.1 h
  exact (nested_of_readWithin hread).2

theorem ofString_text (node : Node) : Utf8.ofString node.text = node.toJson.bytes := by
  unfold text Json.compact Utf8.ofString
  rw [String.toList_ofList]
  rfl

/-- A node is read from its text unless that is too deep. -/
theorem ofBytes?_text_eq {node : Node} (h : node.IsOrdered) :
    ofBytes? (Utf8.ofString node.text) = if node.toJson.depth < 128 then some node else none := by
  split
  case isTrue hdepth =>
    have hnested : node.Nested 62 := nested_of_depth h (by omega)
    exact ofBytes?_text hnested (by decide)
  case isFalse hdepth =>
    have hnested : node.Nested node.toJson.depth := nested_of_depth h (by omega)
    have hplain := isPlain_toJson hnested
    have hparse : Json.parse? node.toJson.bytes = some node.toJson :=
      Json.parse?_compactText hplain
    unfold ofBytes?
    rw [ofString_text, hparse, Option.bind_some]
    refine Option.eq_none_iff_forall_ne_some.2 fun found hfound => hdepth ?_
    exact Nat.lt_succ_of_le (depth_le_of_readWithin hfound)

end Node

/-! ## Stores -/

/-- A node that an open store is given is found there, if it can be read from its text. -/
theorem ask_change_writeNode {ws : Workspace} {handle : Handle} {place : Place} {db : Database}
    (hopen : ws.database handle = .ok (place, db)) {job : Int64} {node : Node}
    (hallowed : Utf8.ofString (StoreKey.node job node.id) ∉ db.rejected)
    (hread : Node.ofBytes? (Utf8.ofString node.text) = some node) :
    ∃ ws', ws.change handle (·.writeNode job node) = (.ok (), ws') ∧
      ws'.ask handle (·.node? job node.id) = .ok (some node) := by
  obtain ⟨saved, hput⟩ : ∃ saved, db.writeNode job node = .ok saved :=
    ⟨_, Database.put_eq_ok.2 ⟨hallowed, rfl⟩⟩
  have hchange : ws.change handle (·.writeNode job node) =
      (.ok (), { ws with disk := ws.disk.set place (.database saved) }) := by
    unfold Workspace.change Workspace.run
    simp only [hopen, hput]
  obtain ⟨_, before, after, hbefore, hafter, hdatabase⟩ := Workspace.database_of_run hchange
  cases hopen.symm.trans hbefore
  simp only [hput, Prod.mk.injEq, true_and] at hafter
  subst hafter
  refine ⟨_, hchange, (Workspace.ask_of_database hdatabase _).trans ?_⟩
  have hvalue : saved.value? (StoreKey.node job node.id) = some node.toJson.bytes :=
    (Database.get?_of_put hput _).trans (if_pos rfl)
  have hjson : (Json.parse? node.toJson.bytes).bind (Node.ofJson? Json.maxDepth) = some node :=
    node.ofString_text ▸ hread
  unfold Database.node? Database.read?
  simp only [hvalue, hjson]

/-- **Restoring.** A node is read from the text under which it is stored just when fewer than 128
containers stand inside each other there, and a store gives it back then. What is read as a node,
from whatever text, is such a node. -/
theorem restores_node :
    (∀ node : Node, node.IsOrdered →
      Node.ofBytes? (Utf8.ofString node.text) =
        if node.toJson.depth < 128 then some node else none) ∧
    (∀ (ws : Workspace) (handle : Handle) (place : Place) (db : Database) (job : Int64)
        (node : Node), node.IsOrdered → node.toJson.depth < 128 →
      ws.database handle = .ok (place, db) →
      Utf8.ofString (StoreKey.node job node.id) ∉ db.rejected →
      ∃ ws', ws.change handle (·.writeNode job node) = (.ok (), ws') ∧
        ws'.ask handle (·.node? job node.id) = .ok (some node)) ∧
    ∀ (bytes : Bytes) (node : Node), Node.ofBytes? bytes = some node →
      node.IsOrdered ∧ Node.ofBytes? (Utf8.ofString node.text) = some node := by
  refine ⟨fun node => Node.ofBytes?_text_eq, ?_, ?_⟩
  · intro ws handle place db job node hordered hdepth hopen hallowed
    refine ask_change_writeNode hopen hallowed ?_
    rw [Node.ofBytes?_text_eq hordered, if_pos hdepth]
  · intro bytes node hread
    have hnested := Node.nested_of_ofBytes? hread
    exact ⟨hnested.isOrdered, Node.ofBytes?_text hnested (by decide)⟩

/-- A domain with buckets inside each other and a name that has to be escaped, put into a store that
has just been opened; and a URL that is given as an array. -/
theorem restores_node_escaped :
    let part : Node := Node.bucket "-2147483648" none (-2147483648)
    let domain : Node :=
      { id := 9223372036854775807, kind := .domain, url := "\"\\\n\u0001é", offset := -1
        children := [("", { Node.bucket "" (some "") 0 with children := [("200", part)] }),
          ("text/html", Node.bucket "text/html" none 0)] }
    let opened := (({} : Workspace).openStore "store" "1_1").2
    let bytes := Utf8.ofString ("[1, \x7b\"url\":null\x7d, \"\\u0061\", false, null, 200, 0, 5, " ++
      "null, -1, -1, [2, 3], false, true, false, 1, 1, 0, 0]")
    Node.ofBytes? (Utf8.ofString domain.text) = some domain ∧
      (∃ ws', opened.change 0 (·.writeNode 1 domain) = (.ok (), ws') ∧
        ws'.ask 0 (·.node? 1 domain.id) = .ok (some domain)) ∧
      ∃ node, Node.ofBytes? bytes = some node ∧ node.url = "a" ∧
        Node.ofBytes? (Utf8.ofString node.text) = some node := by
  intro part domain opened bytes
  obtain ⟨hrestored, hstored, hread⟩ := restores_node
  have hordered : domain.IsOrdered := by
    have hnested : domain.Nested 2 := by
      refine ⟨by unfold Sorted.Ascending; decide, ?_⟩
      refine List.forall_mem_cons.2 ⟨⟨List.pairwise_singleton _ _, ?_⟩, ?_⟩
      · exact List.forall_mem_singleton.2 rfl
      · exact List.forall_mem_singleton.2 (Node.nested_of_nil rfl 1)
    exact hnested.isOrdered
  have hdepth : domain.toJson.depth < 128 := by decide +kernel
  have hopen : opened.database 0 = .ok (["store", "1_1.db"], {}) := rfl
  have hmap : (Node.ofBytes? bytes).map Node.url = some "a" := by decide +kernel
  obtain ⟨node, hnode, hurl⟩ := Option.map_eq_some_iff.1 hmap
  exact ⟨(hrestored domain hordered).trans (if_pos hdepth),
    hstored opened 0 _ {} 1 domain hordered hdepth hopen List.not_mem_nil,
    node, hnode, hurl, (hread bytes node hnode).2⟩

end CrawlGraph
