import CrawlGraph.Proofs.Json.Decode
import CrawlGraph.Proofs.Sorted

/-!
# Values as scans read them

A scan reads a value only if it is sound, and reads it with the fields of its objects in order. What
is written is sound as long as its parts are and there is room for one more container
(`isSound_array`, `isSound_ofFields`), and putting it in order does so with each of its objects
(`sortFields_ofFields`).
-/

namespace CrawlGraph.Json

variable {room : ℕ}

/-! ## Soundness -/

theorem isSmall_of_length {digits : List Char} (h : digits.length ≤ 20) :
    isSmall digits 0 = true := by
  have hlength : (digits.dropWhile (· == '0')).length ≤ digits.length :=
    List.length_dropWhile_le _ _
  have hplaces : ((digits.dropWhile (· == '0')).length : ℤ) + 0 < 300 := by omega
  unfold isSmall
  exact if_pos (by rw [decide_eq_true hplaces, Bool.or_true])

/-- Twenty digits are enough for all numbers of 64 bits. -/
theorem isFinite_int {n : ℤ} (h : n.natAbs < 10 ^ 20) : (Number.int n).isFinite = true :=
  isSmall_of_length ((Nat.length_toDigits_le_iff (by decide) (by decide)).2 h)

theorem isSound_int64 (n : Int64) : (ofInt n.toInt).isSound room = true := by
  have hlt := n.toInt_lt
  have hle := n.le_toInt
  exact isFinite_int (by omega)

theorem isSound_int32 (n : Int32) : (ofInt n.toInt).isSound room = true := by
  have hlt := n.toInt_lt
  have hle := n.le_toInt
  exact isFinite_int (by omega)

theorem isSound_uint64 (n : UInt64) : (ofInt n.toNat).isSound room = true := by
  have hlt := n.toNat_lt
  exact isFinite_int (by omega)

theorem isSound_ofOption (s : Option String) : (ofOption ofString s).isSound room = true := by
  cases s <;> rfl

theorem areSound_eq (items : List Json) : areSound room items = items.all (·.isSound room) := by
  induction items with
  | nil => rfl
  | cons item items ih => rw [areSound, ih, List.all_cons]

theorem fieldsSound_eq (fields : List (Option String × Json)) :
    fieldsSound room fields =
      fields.all fun field => field.1.isSome && field.2.isSound room := by
  induction fields with
  | nil => rfl
  | cons field fields ih => rw [fieldsSound, ih, List.all_cons]

theorem isSound_array {items : List Json} (h : ∀ item ∈ items, item.isSound room = true) :
    (Json.array items).isSound (room + 1) = true := by
  show areSound room items = true
  rw [areSound_eq, List.all_eq_true]
  exact h

theorem isSound_ofFields {fields : Fields} (h : ∀ field ∈ fields, field.2.isSound room = true) :
    (ofFields fields).isSound (room + 1) = true := by
  show fieldsSound room (fields.map _) = true
  rw [fieldsSound_eq, List.all_map, List.all_eq_true]
  exact h

/-! ## Order -/

theorem sortItems_eq (items : List Json) : sortItems items = items.map sortFields := by
  induction items with
  | nil => rfl
  | cons item items ih => rw [sortItems, ih, List.map_cons]

theorem sortFields_ofFields (fields : Fields) :
    (ofFields fields).sortFields =
      ofFields (Sorted.ofList (fields.map fun field => (field.1, field.2.sortFields))) := by
  have hsorted : sortedFields (fields.map fun field => (some field.1, field.2)) =
      fields.map fun field => (field.1, field.2.sortFields) := by
    induction fields with
    | nil => rfl
    | cons field fields ih => rw [List.map_cons, sortedFields, ih, List.map_cons]
  rw [← hsorted]
  unfold ofFields
  rw [sortFields]

end CrawlGraph.Json
