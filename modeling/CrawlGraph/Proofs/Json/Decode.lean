import CrawlGraph.Json.Decode
import CrawlGraph.Proofs.Grouping
import CrawlGraph.Proofs.Json.RoundTrip

/-!
# Records read back

What the readers of plain values make of what is written for such a value, and the fields of a
record that has each of its names once (`asRecord?_ofFields`, `required?_of_mem`).
-/

namespace CrawlGraph.Json

/-! ## Plain values -/

@[simp] theorem asString?_ofString (s : String) : (ofString s).asString? = some s := rfl

@[simp] theorem asInt64?_ofInt (n : Int64) : (ofInt n.toInt).asInt64? = some n :=
  Text.int64?_toInt n

@[simp] theorem asInt32?_ofInt (n : Int32) : (ofInt n.toInt).asInt32? = some n :=
  Text.int32?_toInt n

@[simp] theorem asUInt64?_ofInt (n : UInt64) : (ofInt n.toNat).asUInt64? = some n :=
  Text.uint64?_toNat n

@[simp] theorem asOption?_ofOption (s : Option String) :
    (ofOption ofString s).asOption? asString? = some s := by cases s <;> rfl

theorem mapM_eq_some {α β : Type} {read : α → Option β} {items : List α} {found : List β} :
    items.mapM read = some found ↔ items.map read = found.map some := by
  induction items generalizing found with
  | nil => cases found <;> simp
  | cons item items ih => cases found <;> simp [Option.bind_eq_some_iff, ← ih]

/-- A list that is read item by item: each item gives what it is read as, and nothing else is there.
-/
theorem exists_of_mapM {α β : Type} {read : α → Option β} {items : List α} {found : List β}
    (h : items.mapM read = some found) :
    (∀ item ∈ items, ∃ b, read item = some b) ∧
      ∀ b ∈ found, ∃ item ∈ items, read item = some b := by
  have hmap := mapM_eq_some.1 h
  constructor
  · intro item hitem
    have hmem : read item ∈ found.map some := hmap ▸ List.mem_map_of_mem hitem
    obtain ⟨b, -, hb⟩ := List.mem_map.1 hmem
    exact ⟨b, hb.symm⟩
  · intro b hb
    have hmem : some b ∈ items.map read := hmap ▸ List.mem_map_of_mem hb
    exact List.mem_map.1 hmem

theorem mapM_map_some {α β γ : Type} (read : β → Option γ) (write : α → β) (f : α → γ)
    {l : List α} (h : ∀ a ∈ l, read (write a) = some (f a)) :
    (l.map write).mapM read = some (l.map f) := by
  rw [mapM_eq_some, List.map_map, List.map_map]
  exact List.map_congr_left h

theorem asList?_array {α : Type} {room : ℕ} (hroom : 0 < room) {read : Json → Option α}
    {write : α → Json} (h : ∀ a, read (write a) = some a) (l : List α) :
    (Json.array (l.map write)).asList? room read = some l := by
  show (if room = 0 then none else (l.map write).mapM read) = some l
  rw [if_neg (Nat.pos_iff_ne_zero.1 hroom)]
  exact (mapM_map_some read write id fun a _ => h a).trans (congrArg some (List.map_id l))

/-! ## Records -/

theorem asObject?_ofFields {room : ℕ} (hroom : 0 < room) (fields : Fields) :
    (ofFields fields).asObject? room = some fields := by
  show (if room = 0 then none else List.mapM _ (fields.map _)) = some fields
  rw [if_neg (Nat.pos_iff_ne_zero.1 hroom)]
  refine Eq.trans (b := some (fields.map id)) ?_ (congrArg some (List.map_id fields))
  exact mapM_map_some _ _ id fun _ _ => rfl

/-- A record with known names, each once, has the fields that were written. -/
theorem asRecord?_ofFields {room : ℕ} (hroom : 0 < room) {names : List String} (atLeast : ℕ)
    {fields : Fields} (hknown : ∀ field ∈ fields, field.1 ∈ names)
    (hnodup : (fields.map Prod.fst).Nodup) :
    (ofFields fields).asRecord? room names atLeast = some fields := by
  show ((ofFields fields).asObject? room).bind _ = some fields
  rw [asObject?_ofFields hroom, Option.bind_some, List.filter_eq_self.2, if_pos hnodup]
  intro field hfield
  exact List.contains_iff_mem.2 (hknown field hfield)

section Fields

variable {α : Type} {fields : Fields} (hnodup : (fields.map Prod.fst).Nodup) {name : String}
  {json : Json} (hmem : (name, json) ∈ fields)

include hnodup hmem

theorem find?_of_mem_fields : fields.find? name = some json := by
  have hfind := find?_of_unique (p := fun field : String × Json => field.1 == name) hmem
    (beq_self_eq_true _) fun other hother heq =>
      List.inj_on_of_nodup_map hnodup hother hmem (eq_of_beq heq)
  unfold Fields.find?
  rw [hfind]
  rfl

theorem required?_of_mem {read : Json → Option α} {a : α} (h : read json = some a) :
    fields.required? name read = some a := by
  unfold Fields.required?
  rw [find?_of_mem_fields hnodup hmem, Option.bind_some, h]

theorem optional?_of_mem {read : Json → Option α} {a : Option α}
    (h : json.asOption? read = some a) :
    fields.optional? name read = some a := by
  unfold Fields.optional?
  rw [find?_of_mem_fields hnodup hmem]
  exact h

theorem withDefault?_of_mem {read : Json → Option α} {a : α} (h : read json = some a)
    (default : α) :
    fields.withDefault? name read default = some a := by
  unfold Fields.withDefault?
  rw [find?_of_mem_fields hnodup hmem]
  exact h

end Fields

theorem withDefault?_of_not_mem {α : Type} {fields : Fields} {name : String}
    (h : name ∉ fields.map Prod.fst) (read : Json → Option α) (default : α) :
    fields.withDefault? name read default = some default := by
  have hfind : fields.find? name = none := by
    unfold Fields.find?
    rw [Option.map_eq_none_iff, List.find?_eq_none]
    rintro field hfield heq
    apply h
    rw [← eq_of_beq heq]
    exact List.mem_map_of_mem hfield
  unfold Fields.withDefault?
  rw [hfind]

/-! ## Plain texts -/

theorem isPlain_array {items : List Json} (h : ∀ item ∈ items, item.IsPlain) :
    (Json.array items).IsPlain := by
  show ArePlain items
  induction items with
  | nil => trivial
  | cons item items ih =>
    exact ⟨h item List.mem_cons_self, ih fun item hitem => h item (List.mem_cons_of_mem _ hitem)⟩

theorem isPlain_ofFields {fields : Fields} (h : ∀ field ∈ fields, field.2.IsPlain) :
    (ofFields fields).IsPlain := by
  show FieldsPlain (fields.map _)
  induction fields with
  | nil => trivial
  | cons field fields ih =>
    exact ⟨rfl, h field List.mem_cons_self,
      ih fun field hfield => h field (List.mem_cons_of_mem _ hfield)⟩

end CrawlGraph.Json
