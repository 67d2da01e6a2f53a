import CrawlGraph.Graph.NodeJson
import CrawlGraph.Proofs.Json.Decode
import CrawlGraph.Proofs.Sorted

/-!
# Nodes read back

A node whose buckets are in order is read from the text under which it is stored: `ofBytes?_text`.
Each level of buckets takes up one unit of fuel and room for two containers (`readWithin_toJson`).
-/

namespace CrawlGraph

/-! ## Kinds -/

theorem NodeKind.ofName?_name (kind : NodeKind) : NodeKind.ofName? kind.name = some kind := by
  cases kind <;> decide

theorem NodeKind.ofJson?_name (room : ℕ) (kind : NodeKind) :
    NodeKind.ofJson? room (Json.ofString kind.name) = some kind := NodeKind.ofName?_name kind

namespace Node

/-! ## Fields -/

theorem childFields_eq (children : List (String × Node)) :
    childFields children = children.map fun entry => (entry.1, entry.2.toJson) := by
  induction children with
  | nil => rw [childFields, List.map_nil]
  | cons entry children ih => rw [childFields, ih, List.map_cons]

/-- The fields of a node whose children are written in some way. There is none for the children if
there are no children. -/
def fieldsWith (write : Node → Json) (node : Node) : Json.Fields :=
  node.fields ++
    if node.children.isEmpty then []
    else [("children", Json.ofFields (node.children.map fun entry => (entry.1, write entry.2)))]

theorem toJson_eq (node : Node) : node.toJson = Json.ofFields (node.fieldsWith toJson) := by
  cases node
  rw [toJson, childFields_eq, List.isEmpty_map]
  rfl

section Fields

variable {write : Node → Json} {node : Node} {fields : Json.Fields}

theorem map_fst_fieldsWith (write : Node → Json) (node : Node) :
    (node.fieldsWith write).map Prod.fst =
      fieldNames.take (if node.children.isEmpty then 19 else 20) := by
  unfold fieldsWith
  split <;> rfl

theorem nodup_fieldsWith (write : Node → Json) (node : Node) :
    ((node.fieldsWith write).map Prod.fst).Nodup := by
  rw [map_fst_fieldsWith]
  exact List.Nodup.sublist (List.take_sublist _ _) (by decide)

theorem mem_fieldNames {field : String × Json} (h : field ∈ node.fieldsWith write) :
    field.1 ∈ fieldNames := by
  refine List.mem_of_mem_take (i := if node.children.isEmpty then 19 else 20) ?_
  rw [← map_fst_fieldsWith write]
  exact List.mem_map_of_mem h

/-- The fields of a node give it back in any order, with whatever children are given. -/
theorem ofFields?_of_mem (hnodup : (fields.map Prod.fst).Nodup)
    (hfields : ∀ field ∈ node.fields, field ∈ fields) {room : ℕ} (hroom : 0 < room)
    (children : List (String × Node)) :
    ofFields? room fields children = some { node with children } := by
  have hrequired : ∀ {α : Type} {name json} {read : Json → Option α} {a : α},
      (name, json) ∈ node.fields → read json = some a → fields.required? name read = some a :=
    fun hmem hread => Json.required?_of_mem hnodup (hfields _ hmem) hread
  have hoptional : ∀ {name} {s : Option String},
      (name, Json.ofOption Json.ofString s) ∈ node.fields →
        fields.optional? name Json.asString? = some s :=
    fun hmem => Json.optional?_of_mem hnodup (hfields _ hmem) (Json.asOption?_ofOption _)
  have hint64 : ∀ name (n : Int64), (name, Json.ofInt n.toInt) ∈ node.fields →
      fields.required? name Json.asInt64? = some n :=
    fun _ n hmem => hrequired hmem (Json.asInt64?_ofInt n)
  have hbool : ∀ name (b : Bool), (name, Json.bool b) ∈ node.fields →
      fields.required? name Json.asBool? = some b :=
    fun _ _ hmem => hrequired hmem rfl
  have hkind : fields.required? "kind" (NodeKind.ofJson? room) = some node.kind :=
    hrequired (by simp [Node.fields]) (NodeKind.ofJson?_name room node.kind)
  have hurl : fields.required? "url" Json.asString? = some node.url :=
    hrequired (by simp [Node.fields]) (Json.asString?_ofString node.url)
  have hstatus : fields.required? "statusCode" Json.asInt32? = some node.statusCode :=
    hrequired (by simp [Node.fields]) (Json.asInt32?_ofInt node.statusCode)
  have hoffset : fields.required? "offset" Json.asUInt64? = some node.offset :=
    hrequired (by simp [Node.fields]) (Json.asUInt64?_ofInt node.offset)
  have houtlinks : fields.required? "outlinks" (Json.asList? room Json.asInt64?) =
      some node.outlinks :=
    hrequired (by simp [Node.fields]) (Json.asList?_array hroom Json.asInt64?_ofInt _)
  have htype : fields.optional? "contentType" Json.asString? = some node.contentType :=
    hoptional (by simp [Node.fields])
  have hvia : fields.optional? "viaUrl" Json.asString? = some node.via :=
    hoptional (by simp [Node.fields])
  unfold ofFields?
  rw [hint64 "id" node.id (by simp [Node.fields]), hkind, hurl,
    hbool "isSeed" node.isSeed (by simp [Node.fields]), htype, hstatus,
    hint64 "contentLength" node.contentLength (by simp [Node.fields]), hoffset, hvia,
    hint64 "parentId" node.parentId (by simp [Node.fields]),
    hint64 "domainId" node.domainId (by simp [Node.fields]), houtlinks,
    hbool "requestParsed" node.parsed.request (by simp [Node.fields]),
    hbool "responseParsed" node.parsed.response (by simp [Node.fields]),
    hbool "metadataParsed" node.parsed.metadata (by simp [Node.fields]),
    hint64 "totUrls" node.totals.urls (by simp [Node.fields]),
    hint64 "totSuccess" node.totals.success (by simp [Node.fields]),
    hint64 "totFailed" node.totals.failed (by simp [Node.fields]),
    hint64 "totSize" node.totals.size (by simp [Node.fields])]
  rfl

end Fields

/-! ## Children -/

/-- Buckets stand inside each other at most so deep, and those of each node are in the order of
their keys. -/
def Nested : (depth : ℕ) → Node → Prop
  | 0, node => node.children = []
  | depth + 1, node =>
    Sorted.Ascending node.children ∧ ∀ entry ∈ node.children, Nested depth entry.2

theorem nested_of_nil {node : Node} (h : node.children = []) (depth : ℕ) : node.Nested depth := by
  cases depth with
  | zero => exact h
  | succ depth => exact ⟨h ▸ List.Pairwise.nil, by simp [h]⟩

theorem isPlain_fields (node : Node) : ∀ field ∈ node.fields, field.2.IsPlain := by
  have hoption : ∀ s : Option String, (Json.ofOption Json.ofString s).IsPlain := by
    rintro (_ | s)
    · trivial
    · exact rfl
  have hids : Json.ArePlain (node.outlinks.map fun id => .number (.int id.toInt)) := by
    apply Json.isPlain_array
    intro item hitem
    obtain ⟨_, -, rfl⟩ := List.mem_map.1 hitem
    trivial
  simp [fields, hoption, hids, Json.ofInt, Json.ofString, Json.IsPlain]

theorem isPlain_toJson {depth : ℕ} {node : Node} (h : node.Nested depth) : node.toJson.IsPlain := by
  induction depth generalizing node with
  | zero =>
    rw [toJson_eq, fieldsWith, if_pos (List.isEmpty_iff.2 h), List.append_nil]
    exact Json.isPlain_ofFields (isPlain_fields node)
  | succ depth ih =>
    rw [toJson_eq]
    apply Json.isPlain_ofFields
    intro field hfield
    rcases List.mem_append.1 hfield with hfield | hfield
    · exact isPlain_fields node field hfield
    · split at hfield
      · cases hfield
      · rw [List.mem_singleton] at hfield
        subst hfield
        apply Json.isPlain_ofFields
        intro entry hentry
        obtain ⟨child, hchild, rfl⟩ := List.mem_map.1 hentry
        exact ih (h.2 child hchild)

/-- Reads the children of a node. -/
def readChildren (fuel room : ℕ) (json : Json) : Option (List (String × Node)) := do
  let inner ← json.asObject? (room - 1)
  let nodes ← inner.mapM fun (key, json) =>
    (readWithin fuel (room - 2) json).map fun node => (key, node)
  some (Sorted.ofList nodes)

section Reads

variable {fuel room : ℕ} {json : Json}

theorem readWithin_succ_eq_some {node : Node} :
    readWithin (fuel + 1) room json = some node ↔
      ∃ fields children, json.asRecord? room fieldNames (fieldNames.length - 1) = some fields ∧
        fields.withDefault? "children" (readChildren fuel room) [] = some children ∧
        ofFields? (room - 1) fields children = some node := by
  show (Option.bind _ fun fields => Option.bind (Json.Fields.withDefault? fields "children"
    (readChildren fuel room) []) fun children => _) = some node ↔ _
  simp only [Option.bind_eq_some_iff, exists_and_left]

theorem readChildren_eq_some {children : List (String × Node)}
    (h : readChildren fuel room json = some children) :
    ∃ inner nodes, json.asObject? (room - 1) = some inner ∧ children = Sorted.ofList nodes ∧
      (∀ field ∈ inner, ∃ child, readWithin fuel (room - 2) field.2 = some child) ∧
      ∀ entry ∈ nodes, ∃ field ∈ inner, readWithin fuel (room - 2) field.2 = some entry.2 := by
  obtain ⟨inner, hinner, h⟩ := Option.bind_eq_some_iff.1 h
  obtain ⟨nodes, hnodes, h⟩ := Option.bind_eq_some_iff.1 h
  cases h
  obtain ⟨hread, hfound⟩ := Json.exists_of_mapM hnodes
  refine ⟨inner, nodes, hinner, rfl, ?_, ?_⟩
  · intro field hfield
    obtain ⟨_, hentry⟩ := hread field hfield
    obtain ⟨child, hchild, -⟩ := Option.map_eq_some_iff.1 hentry
    exact ⟨child, hchild⟩
  · intro entry hentry
    obtain ⟨field, hfield, hread⟩ := hfound entry hentry
    obtain ⟨child, hchild, rfl⟩ := Option.map_eq_some_iff.1 hread
    exact ⟨field, hfield, hchild⟩

end Reads

section Children

variable {fuel room : ℕ} {node : Node} {write : Node → Json} (hroom : 2 ≤ room)
  (hascending : Sorted.Ascending node.children)
  (hread : ∀ entry ∈ node.children, readWithin fuel (room - 2) (write entry.2) = some entry.2)

include hroom hascending hread

theorem readChildren_ofFields :
    readChildren fuel room
        (Json.ofFields (node.children.map fun entry => (entry.1, write entry.2))) =
      some node.children := by
  unfold readChildren
  rw [Json.asObject?_ofFields (by omega)]
  show (List.mapM _ _ >>= fun nodes => some (Sorted.ofList nodes)) = _
  rw [Json.mapM_map_some _ _ (fun entry => entry)]
  · rw [List.map_id']
    exact congrArg some (Sorted.ofList_of_ascending hascending)
  · intro entry hentry
    show (readWithin fuel (room - 2) (write entry.2)).map _ = _
    rw [hread entry hentry]
    rfl

/-- A node is read from its fields in any order, if its children are read. -/
theorem readWithin_of_perm {fields : Json.Fields} (hperm : fields.Perm (node.fieldsWith write)) :
    readWithin (fuel + 1) room (Json.ofFields fields) = some node := by
  have hnodup : (fields.map Prod.fst).Nodup :=
    (hperm.map Prod.fst).nodup_iff.2 (nodup_fieldsWith write node)
  have hchildren : fields.withDefault? "children" (readChildren fuel room) [] =
      some node.children := by
    by_cases hempty : node.children.isEmpty
    · have hnone : "children" ∉ fields.map Prod.fst := by
        rw [(hperm.map Prod.fst).mem_iff, map_fst_fieldsWith, if_pos hempty]
        decide
      rw [Json.withDefault?_of_not_mem hnone, List.isEmpty_iff.1 hempty]
    · have hmem : ("children",
          Json.ofFields (node.children.map fun entry => (entry.1, write entry.2))) ∈ fields := by
        rw [hperm.mem_iff, fieldsWith, if_neg hempty]
        exact List.mem_append_right _ (List.mem_singleton_self _)
      exact Json.withDefault?_of_mem hnodup hmem
        (readChildren_ofFields hroom hascending hread) _
  have hknown : ∀ field ∈ fields, field.1 ∈ fieldNames :=
    fun field hfield => mem_fieldNames (hperm.mem_iff.1 hfield)
  have hfields : ∀ field ∈ node.fields, field ∈ fields :=
    fun field hfield => hperm.mem_iff.2 (List.mem_append_left _ hfield)
  unfold readWithin
  rw [Json.asRecord?_ofFields (by omega) _ hknown hnodup]
  show (Json.Fields.withDefault? _ _ (readChildren fuel room) _).bind _ = _
  rw [hchildren, Option.bind_some, ofFields?_of_mem hnodup hfields (by omega)]
  cases node
  rfl

end Children

/-- A node is read from the object that it is written as. -/
theorem readWithin_toJson {depth fuel room : ℕ} {node : Node} (h : node.Nested depth)
    (hfuel : depth < fuel) (hroom : 2 * depth + 2 ≤ room) :
    readWithin fuel room node.toJson = some node := by
  induction depth generalizing node fuel room with
  | zero =>
    obtain ⟨fuel, rfl⟩ : ∃ k, fuel = k + 1 := ⟨fuel - 1, by omega⟩
    have hnil : node.children = [] := h
    rw [toJson_eq]
    exact readWithin_of_perm hroom (hnil ▸ List.Pairwise.nil) (by simp [hnil]) (.refl _)
  | succ depth ih =>
    obtain ⟨fuel, rfl⟩ : ∃ k, fuel = k + 1 := ⟨fuel - 1, by omega⟩
    rw [toJson_eq]
    refine readWithin_of_perm (by omega) h.1 ?_ (.refl _)
    intro entry hentry
    exact ih (h.2 entry hentry) (by omega) (by omega)

theorem ofJson?_toJson {depth room : ℕ} {node : Node} (h : node.Nested depth)
    (hroom : 2 * depth + 2 ≤ room) : ofJson? room node.toJson = some node :=
  readWithin_toJson h (by omega) hroom

/-- **Round trip.** A node is read from the text under which it is stored. -/
theorem ofBytes?_text {depth : ℕ} {node : Node} (h : node.Nested depth)
    (hdepth : 2 * depth + 2 ≤ Json.maxDepth) : ofBytes? (Utf8.ofString node.text) = some node := by
  unfold ofBytes? text Json.compact Utf8.ofString
  rw [String.toList_ofList, Json.parse?_compactText (isPlain_toJson h), Option.bind_some,
    ofJson?_toJson h hdepth]

end Node

end CrawlGraph
