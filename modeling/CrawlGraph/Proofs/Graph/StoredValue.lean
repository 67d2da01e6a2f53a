import CrawlGraph.Proofs.Graph.NodeOrder

/-!
# Stored values

The lists, the counts and the mark of a build are written and read back like nodes, and a scan comes
by all of them. It tells nodes from other values by their field `kind` and reads them with their
fields in order. So what is stored as a node is read as that node (`ofValue_bytes`), and a list, a
count or the mark as none (`ofValue_ids`, `ofValue_int64`, `ofValue_completion`).
-/

namespace CrawlGraph

/-! ## Lists and the mark of a build -/

theorem isPlain_idsToJson (ids : List Int64) : (idsToJson ids).IsPlain := by
  apply Json.isPlain_array
  intro item hitem
  obtain ⟨_, -, rfl⟩ := List.mem_map.1 hitem
  trivial

namespace Completion

/-- The fields of the mark of a complete build. -/
def fields (completion : Completion) : Json.Fields :=
  [("completedAt", Json.ofString completion.completedAt),
    ("urlCount", Json.ofInt completion.urlCount.toInt),
    ("domainCount", Json.ofInt completion.domainCount.toInt),
    ("malformedCount", Json.ofInt completion.malformedCount.toInt)]

theorem ofJson?_toJson {room : ℕ} (hroom : 0 < room) (completion : Completion) :
    ofJson? room completion.toJson = some completion := by
  have hnodup : (completion.fields.map Prod.fst).Nodup := by
    show ["completedAt", "urlCount", "domainCount", "malformedCount"].Nodup
    decide
  have hrecord : completion.toJson.asRecord? room
      ["completedAt", "urlCount", "domainCount", "malformedCount"] 4 = some completion.fields :=
    Json.asRecord?_ofFields hroom 4 (fun _ hfield => List.mem_map_of_mem hfield) hnodup
  have hint64 : ∀ name (n : Int64), (name, Json.ofInt n.toInt) ∈ completion.fields →
      completion.fields.required? name Json.asInt64? = some n := by
    intro name n hmem
    exact Json.required?_of_mem hnodup hmem (Json.asInt64?_ofInt n)
  unfold ofJson?
  rw [hrecord, Option.bind_eq_bind, Option.bind_some,
    Json.required?_of_mem hnodup (by simp [fields])
      (Json.asString?_ofString completion.completedAt),
    hint64 "urlCount" completion.urlCount (by simp [fields]),
    hint64 "domainCount" completion.domainCount (by simp [fields]),
    hint64 "malformedCount" completion.malformedCount (by simp [fields])]
  rfl

theorem isPlain_toJson (completion : Completion) : completion.toJson.IsPlain :=
  Json.isPlain_ofFields (by simp [Json.ofString, Json.ofInt, Json.IsPlain])

theorem isSound_toJson (completion : Completion) (room : ℕ) :
    completion.toJson.isSound (room + 1) = true := by
  have hstring : ∀ s, (Json.ofString s).isSound room = true := fun _ => rfl
  exact Json.isSound_ofFields (by simp [hstring, Json.isSound_int64])

end Completion

namespace Node

/-! ## Soundness -/

theorem isSound_fields (node : Node) {room : ℕ} (hroom : 0 < room) :
    ∀ field ∈ node.fields, field.2.isSound room = true := by
  obtain ⟨room, rfl⟩ : ∃ k, room = k + 1 := ⟨room - 1, by omega⟩
  have hids : (Json.array (node.outlinks.map fun id => Json.ofInt id.toInt)).isSound (room + 1) =
      true := by
    apply Json.isSound_array
    intro item hitem
    obtain ⟨id, -, rfl⟩ := List.mem_map.1 hitem
    exact Json.isSound_int64 id
  have hstring : ∀ s, (Json.ofString s).isSound (room + 1) = true := fun _ => rfl
  have hbool : ∀ b, (Json.bool b).isSound (room + 1) = true := fun _ => rfl
  simp [fields, hids, hstring, hbool, Json.isSound_int64, Json.isSound_int32, Json.isSound_uint64,
    Json.isSound_ofOption]

theorem isSound_toJson {depth room : ℕ} {node : Node} (h : node.Nested depth)
    (hroom : 2 * depth + 2 ≤ room) : node.toJson.isSound room = true := by
  induction depth generalizing node room with
  | zero =>
    obtain ⟨room, rfl⟩ : ∃ k, room = k + 1 := ⟨room - 1, by omega⟩
    rw [toJson_eq, fieldsWith, if_pos (List.isEmpty_iff.2 h), List.append_nil]
    exact Json.isSound_ofFields (isSound_fields node (by omega))
  | succ depth ih =>
    obtain ⟨room, rfl⟩ : ∃ k, room = k + 2 := ⟨room - 2, by omega⟩
    rw [toJson_eq]
    apply Json.isSound_ofFields
    intro field hfield
    rcases List.mem_append.1 hfield with hfield | hfield
    · exact isSound_fields node (by omega) field hfield
    · split at hfield
      · cases hfield
      · rw [List.mem_singleton] at hfield
        subst hfield
        apply Json.isSound_ofFields
        intro entry hentry
        obtain ⟨child, hchild, rfl⟩ := List.mem_map.1 hentry
        exact ih (h.2 child hchild) (by omega)

/-! ## Values -/

theorem parse?_bytes {json : Json} (hplain : json.IsPlain)
    (hsound : json.isSound Json.maxDepth = true) :
    (Json.parse? json.bytes).filter (·.isSound Json.maxDepth) = some json := by
  have hparse : Json.parse? json.bytes = some json := Json.parse?_compactText hplain
  rw [hparse, Option.filter_some, if_pos hsound]

/-- **Scanned nodes.** What is stored as a node is read by a scan as that node. -/
theorem ofValue_bytes {depth : ℕ} {node : Node} (h : node.Nested depth)
    (hdepth : 2 * depth + 2 ≤ Json.maxDepth) : ofValue node.toJson.bytes = .ok (some node) := by
  have hread : ofJson? Json.maxDepth node.toJson.sortFields = some node :=
    readWithin_sortFields (readWithin_toJson h (by omega) hdepth)
  have hparse := parse?_bytes (isPlain_toJson h) (isSound_toJson h hdepth)
  obtain ⟨fields, hfields, hkind⟩ : ∃ fields, node.toJson = .object fields ∧
      fields.any (·.1 == some "kind") = true := ⟨_, toJson_eq node, rfl⟩
  rw [hfields] at hread hparse ⊢
  exact ofValue_eq_ok.2 ⟨fields, hparse, hkind, hread⟩

theorem ofValue_ids (ids : List Int64) : ofValue (idsToJson ids).bytes = .ok none := by
  have hsound : (idsToJson ids).isSound Json.maxDepth = true := by
    apply Json.isSound_array
    intro item hitem
    obtain ⟨id, -, rfl⟩ := List.mem_map.1 hitem
    exact Json.isSound_int64 id
  unfold ofValue
  rw [parse?_bytes (isPlain_idsToJson ids) hsound]
  rfl

theorem ofValue_int64 (n : Int64) : ofValue (Json.ofInt n.toInt).bytes = .ok none := by
  have hplain : (Json.ofInt n.toInt).IsPlain := trivial
  unfold ofValue
  rw [parse?_bytes hplain (Json.isSound_int64 n)]
  rfl

theorem ofValue_completion (completion : Completion) :
    ofValue completion.toJson.bytes = .ok none := by
  unfold ofValue
  rw [parse?_bytes completion.isPlain_toJson (completion.isSound_toJson _)]
  rfl

end Node

end CrawlGraph
