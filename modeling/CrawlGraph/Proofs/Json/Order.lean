import Mathlib.Data.Set.List
import CrawlGraph.Proofs.Json.Sound

/-!
# Values and the order of their fields

Putting the fields of objects in order changes nothing for a reader that does not look at their
order, unless a name is repeated: of the fields with one name only the last one is left then.

1. Plain values are read alike before and after (`IgnoresOrder`).
2. A record that is read has the same fields after it (`asRecord?_sortFields`), and in a value
   without repeated names the other way round (`IsRegular.isSome_asRecord?`).
-/

namespace CrawlGraph.Json

/-! ## Repeated names -/

mutual

/-- Whether no object in a value has a name twice. -/
def namesOnce : Json → Bool
  | .null => true
  | .bool _ => true
  | .number _ => true
  | .string _ => true
  | .array items => itemsNameOnce items
  | .object fields => decide (fields.map Prod.fst).Nodup && fieldsNameOnce fields

/-- `namesOnce` for all items of an array. -/
def itemsNameOnce : List Json → Bool
  | [] => true
  | item :: items => namesOnce item && itemsNameOnce items

/-- `namesOnce` for the values of all fields of an object. -/
def fieldsNameOnce : List (Option String × Json) → Bool
  | [] => true
  | (_, value) :: fields => namesOnce value && fieldsNameOnce fields

end

theorem itemsNameOnce_eq (items : List Json) : itemsNameOnce items = items.all namesOnce := by
  induction items with
  | nil => rfl
  | cons item items ih => rw [itemsNameOnce, ih, List.all_cons]

theorem fieldsNameOnce_eq (fields : List (Option String × Json)) :
    fieldsNameOnce fields = fields.all fun field => field.2.namesOnce := by
  induction fields with
  | nil => rfl
  | cons field fields ih => rw [fieldsNameOnce, ih, List.all_cons]

/-- A value of which all can be read and in which no name is repeated. -/
structure IsRegular (json : Json) : Prop where
  sound : ∃ room, json.isSound room = true
  once : json.namesOnce = true

namespace IsRegular

theorem items {items : List Json} (h : (Json.array items).IsRegular) :
    ∀ item ∈ items, item.IsRegular := by
  obtain ⟨⟨room, hsound⟩, honce⟩ := h
  obtain _ | room := room
  · cases hsound
  have hsound : areSound room items = true := hsound
  have honce : itemsNameOnce items = true := honce
  rw [areSound_eq, List.all_eq_true] at hsound
  rw [itemsNameOnce_eq, List.all_eq_true] at honce
  exact fun item hitem => ⟨⟨room, hsound item hitem⟩, honce item hitem⟩

/-- The names of all fields of an object stand for texts. -/
theorem eq_ofFields {fields : List (Option String × Json)} (h : (Json.object fields).IsRegular) :
    ∃ named : Fields, Json.object fields = ofFields named := by
  obtain ⟨room, hsound⟩ := h.sound
  obtain _ | room := room
  · cases hsound
  have hsound : fieldsSound room fields = true := hsound
  rw [fieldsSound_eq, List.all_eq_true] at hsound
  have hnamed : fields ∈ Set.range (List.map fun field : String × Json =>
      (some field.1, field.2)) := by
    rw [Set.range_list_map]
    intro field hfield
    obtain ⟨name, hname⟩ :=
      Option.isSome_iff_exists.1 (Bool.and_eq_true_iff.1 (hsound field hfield)).1
    exact ⟨(name, field.2), Prod.ext hname.symm rfl⟩
  obtain ⟨named, rfl⟩ := hnamed
  exact ⟨named, rfl⟩

theorem fields {fields : Fields} (h : (ofFields fields).IsRegular) :
    (fields.map Prod.fst).Nodup ∧ ∀ field ∈ fields, field.2.IsRegular := by
  obtain ⟨⟨room, hsound⟩, honce⟩ := h
  obtain _ | room := room
  · cases hsound
  have hsound : fieldsSound room (fields.map _) = true := hsound
  rw [fieldsSound_eq, List.all_map, List.all_eq_true] at hsound
  obtain ⟨hnodup, honce⟩ := Bool.and_eq_true_iff.1 honce
  rw [fieldsNameOnce_eq, List.all_map, List.all_eq_true] at honce
  constructor
  · have hnodup := of_decide_eq_true hnodup
    rw [List.map_map] at hnodup
    refine List.Nodup.of_map some ?_
    rw [List.map_map]
    exact hnodup
  · exact fun field hfield => ⟨⟨room, hsound field hfield⟩, honce field hfield⟩

end IsRegular

/-- Whether a value is an object. -/
def isObject : Json → Bool
  | .object _ => true
  | _ => false

/-! ## Plain values -/

/-- A reader reads a value just as it reads that value with its fields in order. -/
def IgnoresOrder {α : Type} (read : Json → Option α) : Prop :=
  ∀ json : Json, read json.sortFields = read json

theorem ignoresOrder_asString? : IgnoresOrder asString? := by
  intro json
  cases json <;> rfl

theorem ignoresOrder_asBool? : IgnoresOrder asBool? := by
  intro json
  cases json <;> rfl

theorem ignoresOrder_asInt? : IgnoresOrder asInt? := by
  intro json
  cases json <;> rfl

theorem ignoresOrder_asInt64? : IgnoresOrder asInt64? :=
  fun json => congrArg (Option.bind · Text.int64?) (ignoresOrder_asInt? json)

theorem ignoresOrder_asInt32? : IgnoresOrder asInt32? :=
  fun json => congrArg (Option.bind · Text.int32?) (ignoresOrder_asInt? json)

theorem ignoresOrder_asUInt64? : IgnoresOrder asUInt64? :=
  fun json => congrArg (Option.bind · Text.uint64?) (ignoresOrder_asInt? json)

section Readers

variable {α : Type} {read : Json → Option α} (hread : IgnoresOrder read)

include hread

theorem IgnoresOrder.asOption? : IgnoresOrder (asOption? read) := by
  intro json
  have hsome := congrArg (Option.map some) (hread json)
  cases json with
  | null => rfl
  | _ => exact hsome

theorem IgnoresOrder.asList? (room : ℕ) : IgnoresOrder (asList? room read) := by
  intro json
  cases json with
  | array items =>
    have hitems : (sortItems items).mapM read = items.mapM read := by
      rw [sortItems_eq, List.mapM_map]
      exact congrArg (List.mapM · items) (funext hread)
    show (if room = 0 then none else (sortItems items).mapM read) = _
    rw [hitems]
    rfl
  | _ => rfl

end Readers

/-! ## Records -/

theorem asObject?_eq_some {room : ℕ} {json : Json} {fields : Fields} :
    json.asObject? room = some fields ↔ 0 < room ∧ json = ofFields fields := by
  refine ⟨fun h => ?_, fun ⟨hroom, hjson⟩ => hjson ▸ asObject?_ofFields hroom fields⟩
  unfold asObject? at h
  split at h
  case h_1 named =>
    split at h
    · cases h
    refine ⟨Nat.pos_of_ne_zero ‹_›, congrArg Json.object ?_⟩
    induction named generalizing fields with
    | nil =>
      cases h
      rfl
    | cons field named ih =>
      rw [List.mapM_cons] at h
      obtain ⟨_, hfield, h⟩ := Option.bind_eq_some_iff.1 h
      obtain ⟨rest, hrest, h⟩ := Option.bind_eq_some_iff.1 h
      cases h
      obtain ⟨name, hname, rfl⟩ := Option.map_eq_some_iff.1 hfield
      rw [List.map_cons, ← ih hrest]
      exact congrArg (· :: named) (Prod.ext hname rfl)
  case h_2 => cases h

theorem Fields.find?_eq (fields : Fields) (name : String) :
    fields.find? name = Sorted.find? name fields := rfl

/-- Fields have the values of other fields, put in order. -/
def Fields.IsSortOf (sorted fields : Fields) : Prop :=
  ∀ name, sorted.find? name = (fields.find? name).map sortFields

namespace Fields.IsSortOf

variable {α : Type} {sorted fields : Fields} (h : sorted.IsSortOf fields) (name : String)
  {read : Json → Option α}

include h

theorem required?_congr
    (hread : ∀ json, fields.find? name = some json → read json.sortFields = read json) :
    sorted.required? name read = fields.required? name read := by
  unfold Fields.required?
  rw [h name]
  cases hfield : fields.find? name with
  | none => rfl
  | some json => exact hread json hfield

theorem required? (hread : IgnoresOrder read) :
    sorted.required? name read = fields.required? name read :=
  h.required?_congr name fun json _ => hread json

theorem optional? (hread : IgnoresOrder read) :
    sorted.optional? name read = fields.optional? name read := by
  unfold Fields.optional?
  rw [h name]
  cases fields.find? name with
  | none => rfl
  | some json => exact hread.asOption? json

theorem withDefault?_eq_some {default a : α} (ha : fields.withDefault? name read default = some a)
    (hread : ∀ json, read json = some a → read json.sortFields = some a) :
    sorted.withDefault? name read default = some a := by
  unfold Fields.withDefault? at ha ⊢
  rw [h name]
  cases hfield : fields.find? name with
  | none =>
    rw [hfield] at ha
    exact ha
  | some json =>
    rw [hfield] at ha
    exact hread json ha

theorem isSome_withDefault?
    (hread : ∀ json, fields.find? name = some json →
      (read json.sortFields).isSome → (read json).isSome)
    {default : α} (hsome : (sorted.withDefault? name read default).isSome) :
    (fields.withDefault? name read default).isSome := by
  unfold Fields.withDefault? at hsome ⊢
  rw [h name] at hsome
  cases hfield : fields.find? name with
  | none => rfl
  | some json =>
    rw [hfield] at hsome
    exact hread json hfield hsome

end Fields.IsSortOf

section Records

variable {room : ℕ} {names : List String} {atLeast : ℕ} {json : Json} {fields : Fields}

/-- A record is an array of some of its values, or an object in which no known name is repeated. -/
theorem asRecord?_eq_some :
    json.asRecord? room names atLeast = some fields ↔
      0 < room ∧
        ((∃ items, json = .array items ∧ atLeast ≤ items.length ∧ items.length ≤ names.length ∧
            names.zip items = fields) ∨
          ∃ all, json = ofFields all ∧ all.filter (fun field => names.contains field.1) = fields ∧
            (fields.map Prod.fst).Nodup) := by
  constructor
  · intro h
    unfold asRecord? at h
    split at h
    case h_1 items =>
      simp only [Bool.or_eq_true, decide_eq_true_eq, Option.ite_none_left_eq_some, not_or, not_lt,
        Option.some.injEq] at h
      obtain ⟨⟨⟨hroom, hleast⟩, hmost⟩, hfields⟩ := h
      exact ⟨Nat.pos_of_ne_zero hroom, .inl ⟨items, rfl, hleast, hmost, hfields⟩⟩
    case h_2 =>
      obtain ⟨all, hall, h⟩ := Option.bind_eq_some_iff.1 h
      obtain ⟨hroom, hjson⟩ := asObject?_eq_some.1 hall
      obtain ⟨hnodup, hfields⟩ := Option.ite_none_right_eq_some.1 h
      cases hfields
      exact ⟨hroom, .inr ⟨all, hjson, rfl, hnodup⟩⟩
  · rintro ⟨hroom, ⟨items, rfl, hleast, hmost, rfl⟩ | ⟨all, rfl, rfl, hnodup⟩⟩
    · refine if_neg ?_
      simp only [Bool.or_eq_true, decide_eq_true_eq, not_or, not_lt]
      exact ⟨⟨Nat.pos_iff_ne_zero.1 hroom, hleast⟩, hmost⟩
    · show ((ofFields all).asObject? room).bind _ = _
      rw [asObject?_ofFields hroom, Option.bind_some]
      exact if_pos hnodup

/-- A record with its values put in order is read, and has the same fields. -/
theorem asRecord?_sortFields (h : json.asRecord? room names atLeast = some fields) :
    ∃ sorted, json.sortFields.asRecord? room names atLeast = some sorted ∧
      sorted.IsSortOf fields := by
  obtain ⟨hroom, ⟨items, rfl, hleast, hmost, rfl⟩ | ⟨all, rfl, rfl, hnodup⟩⟩ :=
    asRecord?_eq_some.1 h
  · have hlength : (items.map sortFields).length = items.length := List.length_map _
    refine ⟨names.zip (items.map sortFields), asRecord?_eq_some.2 ⟨hroom, .inl
      ⟨items.map sortFields, ?_, hlength ▸ hleast, hlength ▸ hmost, rfl⟩⟩, fun name => ?_⟩
    · rw [sortFields, sortItems_eq]
    · rw [List.zip_map_right, Fields.find?_eq, Fields.find?_eq, ← Sorted.find?_map]
      rfl
  · set known := all.filter fun field => names.contains field.1
    refine ⟨_, asRecord?_eq_some.2 ⟨hroom, .inr ⟨_, sortFields_ofFields all, rfl, ?_⟩⟩,
      fun name => ?_⟩
    · have hascending := (Sorted.ascending_ofList (all.map fun field =>
        (field.1, field.2.sortFields))).filter fun field => names.contains field.1
      exact Sorted.Ascending.nodup_keys hascending
    · -- each known name stands there once, so the last of its fields is the first one
      have hreverse : known.reverse = all.reverse.filter fun field => names.contains field.1 :=
        (List.filter_reverse ..).symm
      rw [Fields.find?_eq, Fields.find?_eq, Sorted.find?_filter fun key => names.contains key,
        Sorted.find?_ofList, ← List.map_reverse, Sorted.find?_map,
        Sorted.find?_of_perm known.reverse_perm.symm hnodup, hreverse,
        Sorted.find?_filter fun key => names.contains key]
      split <;> rfl

theorem IsRegular.asRecord? (h : json.IsRegular)
    (hrecord : json.asRecord? room names atLeast = some fields) :
    ∀ field ∈ fields, field.2.IsRegular := by
  obtain ⟨-, ⟨items, rfl, -, -, rfl⟩ | ⟨all, rfl, rfl, -⟩⟩ := asRecord?_eq_some.1 hrecord
  · exact fun field hfield => h.items field.2 (List.of_mem_zip hfield).2
  · exact fun field hfield => h.fields.2 field (List.mem_of_mem_filter hfield)

/-- Without repeated names a record is read if it is one after its fields are put in order. -/
theorem IsRegular.isSome_asRecord? (h : json.IsRegular)
    (hsome : (json.sortFields.asRecord? room names atLeast).isSome) :
    (json.asRecord? room names atLeast).isSome := by
  obtain ⟨sorted, hsorted⟩ := Option.isSome_iff_exists.1 hsome
  obtain ⟨hroom, ⟨items, hitems, hleast, hmost, -⟩ | ⟨all, hall, -⟩⟩ :=
    asRecord?_eq_some.1 hsorted
  · cases json with
    | array before =>
      rw [sortFields, sortItems_eq] at hitems
      cases hitems
      rw [List.length_map] at hleast hmost
      exact Option.isSome_iff_exists.2
        ⟨_, asRecord?_eq_some.2 ⟨hroom, .inl ⟨before, rfl, hleast, hmost, rfl⟩⟩⟩
    | _ => cases hitems
  · cases json with
    | object fields =>
      obtain ⟨named, hnamed⟩ := h.eq_ofFields
      rw [hnamed] at h ⊢
      refine Option.isSome_iff_exists.2
        ⟨_, asRecord?_eq_some.2 ⟨hroom, .inr ⟨named, rfl, rfl, ?_⟩⟩⟩
      exact h.fields.1.sublist (List.filter_sublist.map Prod.fst)
    | _ => cases hall

end Records

end CrawlGraph.Json
