import CrawlGraph.Proofs.Graph.NodeJson
import CrawlGraph.Proofs.Json.Order
import CrawlGraph.Store.Scan

/-!
# Nodes and the order of their fields

A scan reads a value with the fields of its objects in order, a look-up reads it as it stands.

1. What is read as it stands is read in order too, and as the same node
   (`readWithin_sortFields`).
2. The other way round this holds of values without repeated names (`isSome_readWithin`): a repeated
   field is refused where the value is read as it stands, and not noticed once the fields are in
   order.
3. So a scan and a look-up find the same node in a stored value (`ofValue_of_ofBytes?`,
   `ofBytes?_of_ofValue`).
-/

namespace CrawlGraph

/-! ## Kinds -/

namespace NodeKind

variable {room : ℕ} {json : Json}

theorem eq_of_isSome_ofJson? {fields : List (Option String × Json)}
    (h : (ofJson? room (.object fields)).isSome) : ∃ name, fields = [(some name, .null)] := by
  unfold ofJson? at h
  split at h
  case h_1 name hfields =>
    cases hfields
    exact ⟨name, rfl⟩
  case h_2 => cases h

theorem ofJson?_sortFields {kind : NodeKind} (h : ofJson? room json = some kind) :
    ofJson? room json.sortFields = some kind := by
  cases json with
  | object fields =>
    obtain ⟨name, rfl⟩ := eq_of_isSome_ofJson? (Option.isSome_iff_exists.2 ⟨kind, h⟩)
    exact h
  | string text => exact h
  | _ => cases h

/-- A kind that is an object has one field, and without repeated names there was only one before. -/
theorem ofJson?_sortFields_eq (h : json.IsRegular) :
    ofJson? room json.sortFields = ofJson? room json := by
  cases json with
  | object fields =>
    obtain ⟨named, hnamed⟩ := h.eq_ofFields
    rw [hnamed] at h ⊢
    refine Option.ext fun kind => ⟨fun hkind => ?_, ofJson?_sortFields⟩
    rw [Json.sortFields_ofFields] at hkind
    set entries := named.map fun field => (field.1, field.2.sortFields) with hentries
    have hnodup : (entries.map Prod.fst).Nodup := by
      rw [hentries, List.map_map]
      exact h.fields.1
    obtain ⟨name, hname⟩ := eq_of_isSome_ofJson? (Option.isSome_iff_exists.2 ⟨kind, hkind⟩)
    obtain ⟨⟨_, _⟩, hsorted, hentry⟩ := List.map_eq_singleton_iff.1 hname
    cases hentry
    have hone : entries = [(name, .null)] :=
      List.perm_singleton.1 (hsorted ▸ (Sorted.perm_ofList hnodup).symm)
    obtain ⟨⟨_, json⟩, rfl, hfield⟩ := List.map_eq_singleton_iff.1 hone
    obtain ⟨rfl, hnull⟩ := Prod.mk.inj hfield
    obtain rfl : json = .null := by
      cases json with
      | null => rfl
      | _ => cases hnull
    exact hkind
  | string text => rfl
  | _ => rfl

end NodeKind

namespace Node

/-! ## Fields -/

theorem ofFields?_congr {room : ℕ} {sorted fields : Json.Fields} (h : sorted.IsSortOf fields)
    (hkind : ∀ json, fields.find? "kind" = some json →
      NodeKind.ofJson? room json.sortFields = NodeKind.ofJson? room json)
    (children : List (String × Node)) :
    ofFields? room sorted children = ofFields? room fields children := by
  have hlist : Json.IgnoresOrder (Json.asList? room Json.asInt64?) :=
    Json.ignoresOrder_asInt64?.asList? room
  unfold ofFields?
  simp only [h.required? _ Json.ignoresOrder_asInt64?, h.required? _ Json.ignoresOrder_asInt32?,
    h.required? _ Json.ignoresOrder_asUInt64?, h.required? _ Json.ignoresOrder_asString?,
    h.required? _ Json.ignoresOrder_asBool?, h.required? _ hlist,
    h.optional? _ Json.ignoresOrder_asString?, h.required?_congr _ hkind]

/-- A node is read from fields with a kind. -/
theorem kind_of_ofFields? {room : ℕ} {fields : Json.Fields} {children : List (String × Node)}
    {node : Node} (h : ofFields? room fields children = some node) :
    ∃ json, fields.find? "kind" = some json ∧ NodeKind.ofJson? room json = some node.kind := by
  unfold ofFields? at h
  -- the kind is the second field, and seventeen more follow
  obtain ⟨_, -, h⟩ := Option.bind_eq_some_iff.1 h
  obtain ⟨kind, hkind, h⟩ := Option.bind_eq_some_iff.1 h
  iterate 17 obtain ⟨_, -, h⟩ := Option.bind_eq_some_iff.1 h
  cases h
  exact Option.bind_eq_some_iff.1 hkind

/-! ## Children -/

theorem mapM_values {read : Json → Option Node} {inner : Json.Fields}
    {nodes : List (String × Node)} :
    (inner.mapM fun (key, json) => (read json).map fun node => (key, node)) = some nodes ↔
      inner.map (fun field => (field.1, read field.2)) =
        nodes.map fun entry => (entry.1, some entry.2) := by
  rw [Json.mapM_eq_some]
  induction inner generalizing nodes with
  | nil => cases nodes <;> simp
  | cons field inner ih => cases nodes <;> simp [← ih, Prod.ext_iff, and_comm]

section Children

variable {fuel room : ℕ} {json : Json}

theorem readChildren_sortFields
    (hread : ∀ json node, readWithin fuel (room - 2) json = some node →
      readWithin fuel (room - 2) json.sortFields = some node)
    {children : List (String × Node)} (h : readChildren fuel room json = some children) :
    readChildren fuel room json.sortFields = some children := by
  obtain ⟨inner, hinner, h⟩ := Option.bind_eq_some_iff.1 h
  obtain ⟨nodes, hnodes, h⟩ := Option.bind_eq_some_iff.1 h
  cases h
  obtain ⟨hroom, rfl⟩ := Json.asObject?_eq_some.1 hinner
  have hvalues := mapM_values.1 hnodes
  have hsorted : (Sorted.ofList (inner.map fun field => (field.1, field.2.sortFields))).map
      (fun field => (field.1, readWithin fuel (room - 2) field.2)) =
        (Sorted.ofList nodes).map fun entry => (entry.1, some entry.2) := by
    rw [← Sorted.ofList_map, List.map_map, ← Sorted.ofList_map, ← hvalues]
    refine congrArg Sorted.ofList (List.map_congr_left fun field hfield => ?_)
    obtain ⟨_, hentry⟩ := (Json.exists_of_mapM hnodes).1 field hfield
    obtain ⟨node, hnode, -⟩ := Option.map_eq_some_iff.1 hentry
    show (field.1, readWithin fuel (room - 2) field.2.sortFields) = _
    rw [hread _ _ hnode, hnode]
  unfold readChildren
  rw [Json.sortFields_ofFields, Json.asObject?_ofFields hroom, Option.bind_eq_bind,
    Option.bind_some, mapM_values.2 hsorted]
  exact congrArg some (Sorted.ofList_of_ascending (Sorted.ascending_ofList nodes))

theorem isSome_readChildren (h : json.IsRegular)
    (hread : ∀ json : Json, json.IsRegular →
      (readWithin fuel (room - 2) json.sortFields).isSome →
        (readWithin fuel (room - 2) json).isSome)
    (hsome : (readChildren fuel room json.sortFields).isSome) :
    (readChildren fuel room json).isSome := by
  obtain ⟨children, hchildren⟩ := Option.isSome_iff_exists.1 hsome
  obtain ⟨inner, -, hinner, -, hfields, -⟩ := readChildren_eq_some hchildren
  cases json with
  | object fields =>
    obtain ⟨named, hnamed⟩ := h.eq_ofFields
    rw [hnamed] at h hinner ⊢
    obtain ⟨hnodup, hregular⟩ := h.fields
    obtain ⟨hroom, -⟩ := Json.asObject?_eq_some.1 hinner
    rw [Json.sortFields_ofFields, Json.asObject?_ofFields hroom] at hinner
    cases hinner
    have hperm := Sorted.perm_ofList (l := named.map fun field => (field.1, field.2.sortFields))
      (by rw [List.map_map]; exact hnodup)
    have hvalues : named.map (fun field => (field.1, readWithin fuel (room - 2) field.2)) ∈
        Set.range (List.map fun entry : String × Node => (entry.1, some entry.2)) := by
      rw [Set.range_list_map]
      intro _ hvalue
      obtain ⟨field, hfield, rfl⟩ := List.mem_map.1 hvalue
      obtain ⟨_, hsorted⟩ := hfields _ (hperm.mem_iff.2 (List.mem_map_of_mem hfield))
      obtain ⟨node, hnode⟩ := Option.isSome_iff_exists.1
        (hread field.2 (hregular field hfield) (Option.isSome_iff_exists.2 ⟨_, hsorted⟩))
      exact ⟨(field.1, node), Prod.ext rfl hnode.symm⟩
    obtain ⟨nodes, hnodes⟩ := hvalues
    unfold readChildren
    rw [Json.asObject?_ofFields hroom, Option.bind_eq_bind, Option.bind_some,
      mapM_values.2 hnodes.symm]
    rfl
  | _ => cases hinner

end Children

/-! ## Nodes -/

section Nodes

variable {fuel room : ℕ} {json : Json}

/-- What is read as a node as it stands is read as that node with its fields in order. -/
theorem readWithin_sortFields {node : Node}
    (h : readWithin fuel room json = some node) :
    readWithin fuel room json.sortFields = some node := by
  induction fuel generalizing room json node with
  | zero => cases h
  | succ fuel ih =>
    obtain ⟨fields, children, hrecord, hchildren, hnode⟩ := readWithin_succ_eq_some.1 h
    obtain ⟨sorted, hsorted, hsort⟩ := Json.asRecord?_sortFields hrecord
    obtain ⟨json, hfind, hkind⟩ := kind_of_ofFields? hnode
    refine readWithin_succ_eq_some.2 ⟨sorted, children, hsorted, ?_, ?_⟩
    · exact hsort.withDefault?_eq_some _ hchildren fun _ =>
        readChildren_sortFields fun _ _ => ih
    · rw [ofFields?_congr hsort, hnode]
      intro other hother
      cases hfind.symm.trans hother
      rw [hkind, NodeKind.ofJson?_sortFields hkind]

/-- A value without repeated names is read as a node if it is one with its fields in order. -/
theorem isSome_readWithin (h : json.IsRegular)
    (hsome : (readWithin fuel room json.sortFields).isSome) :
    (readWithin fuel room json).isSome := by
  induction fuel generalizing room json with
  | zero => cases hsome
  | succ fuel ih =>
    obtain ⟨node, hnode⟩ := Option.isSome_iff_exists.1 hsome
    obtain ⟨sorted, children, hsorted, hchildren, hnode⟩ := readWithin_succ_eq_some.1 hnode
    obtain ⟨fields, hrecord⟩ := Option.isSome_iff_exists.1
      (h.isSome_asRecord? (Option.isSome_iff_exists.2 ⟨_, hsorted⟩))
    obtain ⟨_, hother, hsort⟩ := Json.asRecord?_sortFields hrecord
    cases hsorted.symm.trans hother
    have hregular : ∀ {name json}, fields.find? name = some json → json.IsRegular :=
      fun hfind => h.asRecord? hrecord _ (Sorted.mem_of_find? hfind)
    obtain ⟨found, hfound⟩ := Option.isSome_iff_exists.1 (hsort.isSome_withDefault? "children"
      (fun _ hfind => isSome_readChildren (hregular hfind) fun _ hinner => ih hinner)
      (Option.isSome_iff_exists.2 ⟨_, hchildren⟩))
    -- what is read of the children as they stand is what is read of them in order
    have hsame := hsort.withDefault?_eq_some _ hfound fun _ =>
      readChildren_sortFields fun _ _ => readWithin_sortFields
    cases hchildren.symm.trans hsame
    rw [ofFields?_congr hsort fun _ hfind => NodeKind.ofJson?_sortFields_eq (hregular hfind)]
      at hnode
    exact Option.isSome_iff_exists.2
      ⟨node, readWithin_succ_eq_some.2 ⟨fields, children, hrecord, hfound, hnode⟩⟩

end Nodes

/-! ## Stored values -/

theorem ofValue_eq_ok {bytes : Bytes} {node : Node} :
    ofValue bytes = .ok (some node) ↔
      ∃ fields, (Json.parse? bytes).filter (·.isSound Json.maxDepth) = some (.object fields) ∧
        fields.any (·.1 == some "kind") = true ∧
        ofJson? Json.maxDepth (Json.object fields).sortFields = some node := by
  unfold ofValue
  constructor
  · intro h
    split at h
    case h_1 => cases h
    case h_2 fields hparse =>
      split at h
      case isTrue hkind =>
        split at h
        case h_1 => cases h
        case h_2 hread =>
          cases h
          exact ⟨fields, hparse, hkind, hread⟩
      case isFalse => cases h
    case h_3 => cases h
  · rintro ⟨fields, hparse, hkind, hread⟩
    rw [hparse]
    simp only [hkind, if_true, hread]

/-- An object that is read as a node has a field for its kind. -/
theorem any_kind_of_readWithin {fuel room : ℕ} {fields : List (Option String × Json)} {node : Node}
    (h : readWithin fuel room (.object fields) = some node) :
    fields.any (·.1 == some "kind") = true := by
  obtain _ | fuel := fuel
  · cases h
  obtain ⟨known, _, hrecord, -, hnode⟩ := readWithin_succ_eq_some.1 h
  obtain ⟨json, hfind, -⟩ := kind_of_ofFields? hnode
  obtain ⟨-, ⟨_, harray, -⟩ | ⟨all, hall, rfl, -⟩⟩ := Json.asRecord?_eq_some.1 hrecord
  · cases harray
  · cases hall
    have hmem : ("kind", json) ∈ all := List.mem_of_mem_filter (Sorted.mem_of_find? hfind)
    rw [List.any_eq_true]
    exact ⟨_, List.mem_map_of_mem hmem, rfl⟩

/-- What a look-up finds in a value is what a scan finds there, if the value is an object and all
of it can be read. -/
theorem ofValue_of_ofBytes? {bytes : Bytes} {node : Node} (h : ofBytes? bytes = some node) :
    ∃ json, Json.parse? bytes = some json ∧
      ofValue bytes =
        if json.isSound Json.maxDepth then .ok (if json.isObject then some node else none)
        else .error .undecodable := by
  obtain ⟨json, hparse, hread⟩ := Option.bind_eq_some_iff.1 h
  have hsorted : ofJson? Json.maxDepth json.sortFields = some node :=
    readWithin_sortFields hread
  refine ⟨json, hparse, ?_⟩
  unfold ofValue
  rw [hparse, Option.filter_some]
  by_cases hsound : json.isSound Json.maxDepth = true
  · rw [if_pos hsound, if_pos hsound]
    cases json with
    | object fields =>
      simp only [any_kind_of_readWithin hread, if_true, hsorted]
      rfl
    | _ => rfl
  · rw [if_neg hsound, if_neg hsound]

/-- What a scan finds in a value is what a look-up finds there, or the look-up refuses a repeated
name. -/
theorem ofBytes?_of_ofValue {bytes : Bytes} {node : Node} (h : ofValue bytes = .ok (some node)) :
    ∃ json, Json.parse? bytes = some json ∧
      (ofBytes? bytes = some node ∨ ofBytes? bytes = none ∧ json.namesOnce = false) := by
  obtain ⟨fields, hfilter, -, hsorted⟩ := ofValue_eq_ok.1 h
  obtain ⟨hparse, hsound⟩ := Option.filter_eq_some_iff.1 hfilter
  have hbytes : ofBytes? bytes = ofJson? Json.maxDepth (.object fields) := by
    unfold ofBytes?
    rw [hparse, Option.bind_some]
  rw [hbytes]
  refine ⟨.object fields, hparse, ?_⟩
  cases hread : ofJson? Json.maxDepth (.object fields) with
  | some found =>
    cases hsorted.symm.trans (readWithin_sortFields hread)
    exact .inl rfl
  | none =>
    refine .inr ⟨rfl, Bool.eq_false_iff.2 fun honce => ?_⟩
    have hsome := isSome_readWithin ⟨⟨_, hsound⟩, honce⟩
      (Option.isSome_iff_exists.2 ⟨node, hsorted⟩)
    rw [show readWithin _ _ (Json.object fields) = none from hread] at hsome
    cases hsome

end Node

end CrawlGraph
