import CrawlGraph.Proofs.Json.Atoms
import CrawlGraph.Proofs.Text.Utf8

/-!
# JSON values read back

A value is read from its own text: `parse?_compactText`. Numbers in decimals and strings that stand
for no text are left out (`IsPlain`).

1. Each container is read if what stands in it is (`readValue_array`, `readItems_cons`, ...).
2. So values, items and fields are read as they were written, by induction on all three together
   (`readValue_compactText`). Each step takes one unit of fuel and goes along with at least one
   character, so twice the length of the text is enough.
-/

namespace CrawlGraph.Json

/-! ## Values -/

mutual

/-- Whether a value has neither numbers in decimals nor strings that stand for no text. -/
def IsPlain : Json → Prop
  | .null => True
  | .bool _ => True
  | .number (.int _) => True
  | .number (.decimal _) => False
  | .string text => text.isSome
  | .array items => ArePlain items
  | .object fields => FieldsPlain fields

/-- `IsPlain` for all items of an array. -/
def ArePlain : List Json → Prop
  | [] => True
  | item :: items => IsPlain item ∧ ArePlain items

/-- `IsPlain` for all fields of an object. -/
def FieldsPlain : List (Option String × Json) → Prop
  | [] => True
  | (key, value) :: fields => key.isSome ∧ IsPlain value ∧ FieldsPlain fields

end

theorem skipSpace_cons {c : Char} (h : isSpace (some c) = false) (input : Input) :
    skipSpace (some c :: input) = some c :: input := List.dropWhile_cons_of_neg (by simp [h])

theorem text_ne_nil (n : ℤ) : Number.text (.int n) ≠ [] := by
  cases n with
  | ofNat n =>
    rw [show Number.text (.int (Int.ofNat n)) = _ from Text.toList_toString_natCast n]
    exact Nat.toDigits_ne_nil
  | negSucc n =>
    rw [show Number.text (.int (Int.negSucc n)) = _ from Text.toList_toString_neg n]
    exact List.cons_ne_nil _ _

theorem not_isSpace_of_isNumberChar {c : Char} (h : isNumberChar c) : isSpace (some c) = false := by
  rw [← Bool.not_eq_true]
  intro hspace
  have hspace : c = ' ' ∨ c = '\n' ∨ c = '\r' ∨ c = '\t' := by
    simpa [isSpace, or_assoc] using hspace
  rcases hspace with rfl | rfl | rfl | rfl <;> exact absurd h (by decide)

theorem withCommas_cons_cons (text text' : List Char) (texts : List (List Char)) :
    withCommas (text :: text' :: texts) = text ++ ',' :: withCommas (text' :: texts) := by
  simp [withCommas, List.intercalate]

/-- A value starts neither with white space nor with a closing bracket. -/
theorem compactText_head {json : Json} (h : json.IsPlain) :
    ∃ c cs, compactText json = c :: cs ∧ isSpace (some c) = false ∧ c ≠ ']' := by
  cases json with
  | null => exact ⟨_, _, rfl, by decide⟩
  | bool b => cases b <;> exact ⟨_, _, rfl, by decide⟩
  | number n =>
    cases n with
    | decimal text => exact h.elim
    | int n =>
      obtain ⟨c, cs, htext⟩ := List.exists_cons_of_ne_nil (text_ne_nil n)
      have hc := isNumberChar_text n c (htext ▸ List.mem_cons_self)
      refine ⟨c, cs, htext, not_isSpace_of_isNumberChar hc, ?_⟩
      rintro rfl
      exact absurd hc (by decide)
  | string text => exact ⟨'"', _, rfl, by decide⟩
  | array items => exact ⟨'[', _, rfl, by decide⟩
  | object fields => exact ⟨openBrace, _, rfl, by decide⟩

theorem readValue_number (n : ℤ) (fuel : ℕ) {rest : Input} (hrest : EndsNumber rest) :
    readValue (fuel + 1) ((Number.text (.int n)).map some ++ rest) =
      some (.number (.int n), rest) := by
  have hpart := numberPart_append (isNumberChar_text n) hrest
  have hdrop : ((Number.text (.int n)).map some ++ rest).drop (Number.text (.int n)).length =
      rest := by
    rw [← List.length_map (f := some), List.drop_left]
  obtain ⟨c, cs, htext⟩ := List.exists_cons_of_ne_nil (text_ne_nil n)
  have hc := isNumberChar_text n c (htext ▸ List.mem_cons_self)
  have hskip : skipSpace ((Number.text (.int n)).map some ++ rest) =
      (Number.text (.int n)).map some ++ rest := by
    rw [htext]
    exact skipSpace_cons (not_isSpace_of_isNumberChar hc) _
  have hhead : ((Number.text (.int n)).map some ++ rest).head? = some (some c) := by
    rw [htext]
    rfl
  unfold readValue
  rw [hskip]
  split
  case h_7 =>
    simp only [hpart, ofText?_text, Option.map_some, hdrop]
  all_goals
    rename_i heq
    rw [heq] at hhead
    cases hhead
    exact absurd hc (by decide)

theorem stringText_append (s : String) (rest : Input) :
    (stringText (some s)).map some ++ rest =
      some '"' :: ((s.toList.flatMap escapeChar).map some ++ some '"' :: rest) := by
  simp [stringText]

theorem readValue_string (s : String) (fuel : ℕ) (rest : Input) :
    readValue (fuel + 1) ((stringText (some s)).map some ++ rest) =
      some (.string (some s), rest) := by
  unfold readValue
  rw [stringText_append, skipSpace_cons (by decide)]
  show (readString _).map _ = _
  rw [readString_append]
  rfl

/-! ### Containers -/

section Containers

variable {fuel : ℕ} {input more rest : Input} {item value : Json} {items : List Json} {key : String}
  {fields : List (Option String × Json)}

/-- Reads an array from after its opening bracket on, as `readValue` does. -/
def readArray (fuel : ℕ) (input : Input) : Option (Json × Input) :=
  match skipSpace input with
  | some ']' :: rest => some (.array [], rest)
  | rest => (readItems fuel rest).map fun (items, rest) => (.array items, rest)

theorem readValue_array {c : Char} (hhead : input.head? = some (some c))
    (hspace : isSpace (some c) = false) (hclose : c ≠ ']')
    (h : readItems fuel input = some (items, rest)) :
    readValue (fuel + 1) (some '[' :: input) = some (.array items, rest) := by
  obtain ⟨input, rfl⟩ : ∃ input', input = some c :: input' := List.head?_eq_some_iff.1 hhead
  unfold readValue
  rw [skipSpace_cons (by decide)]
  show readArray fuel (some c :: input) = _
  unfold readArray
  rw [skipSpace_cons hspace]
  split
  · rename_i heq
    cases heq
    exact absurd rfl hclose
  · rw [h]
    rfl

theorem readItems_last (h : readValue fuel input = some (item, some ']' :: rest)) :
    readItems (fuel + 1) input = some ([item], rest) := by
  unfold readItems
  rw [h]
  rfl

theorem readItems_cons (h : readValue fuel input = some (item, some ',' :: more))
    (hmore : readItems fuel more = some (items, rest)) :
    readItems (fuel + 1) input = some (item :: items, rest) := by
  unfold readItems
  rw [h]
  show (readItems fuel more).bind _ = _
  rw [hmore]
  rfl

theorem readValue_object (h : readFields fuel (some '"' :: input) = some (fields, rest)) :
    readValue (fuel + 1) (some openBrace :: some '"' :: input) = some (.object fields, rest) := by
  unfold readValue
  show (readFields fuel (some '"' :: input)).map _ = _
  rw [h]
  rfl

theorem readFields_last (h : readValue fuel input = some (value, some closeBrace :: rest)) :
    readFields (fuel + 1) ((stringText (some key)).map some ++ some ':' :: input) =
      some ([(some key, value)], rest) := by
  unfold readFields
  rw [stringText_append]
  show (readString _).bind _ = _
  rw [readString_append]
  show (readValue fuel input).bind _ = _
  rw [h]
  rfl

theorem readFields_cons (h : readValue fuel input = some (value, some ',' :: more))
    (hmore : readFields fuel more = some (fields, rest)) :
    readFields (fuel + 1) ((stringText (some key)).map some ++ some ':' :: input) =
      some ((some key, value) :: fields, rest) := by
  unfold readFields
  rw [stringText_append]
  show (readString _).bind _ = _
  rw [readString_append]
  show (readValue fuel input).bind _ = _
  rw [h]
  show (readFields fuel more).bind _ = _
  rw [hmore]
  rfl

end Containers

theorem endsNumber_some {c : Char} (h : isNumberChar c = false) (rest : Input) :
    EndsNumber (some c :: rest) := by
  rintro _ ⟨⟩
  exact h

theorem withCommas_compactItems_head {item : Json} (h : item.IsPlain) (items : List Json) :
    ∃ c cs, withCommas (compactItems (item :: items)) = c :: cs ∧ isSpace (some c) = false ∧
      c ≠ ']' := by
  obtain ⟨c, cs, htext, hc⟩ := compactText_head h
  cases items with
  | nil => exact ⟨c, cs, by simpa [compactItems, withCommas, List.intercalate] using htext, hc⟩
  | cons item' items =>
    rw [compactItems, compactItems, withCommas_cons_cons, htext]
    exact ⟨c, _, rfl, hc⟩

theorem withCommas_compactFields_head (key : String) (value : Json)
    (fields : List (Option String × Json)) :
    ∃ cs, withCommas (compactFields ((some key, value) :: fields)) = '"' :: cs := by
  cases fields with
  | nil => exact ⟨_, rfl⟩
  | cons field fields =>
    obtain ⟨key', value'⟩ := field
    rw [compactFields, compactFields, withCommas_cons_cons]
    exact ⟨_, rfl⟩

mutual

/-- A value is read as it was written, where twice the length of its text is fuel enough. -/
theorem readValue_compactText (json : Json) (h : json.IsPlain) (fuel : ℕ)
    (hfuel : 2 * (compactText json).length ≤ fuel + 1) {rest : Input} (hrest : EndsNumber rest) :
    readValue fuel ((compactText json).map some ++ rest) = some (json, rest) := by
  obtain ⟨fuel, rfl⟩ : ∃ k, fuel = k + 1 := by
    obtain ⟨c, cs, htext, -⟩ := compactText_head h
    rw [htext, List.length_cons] at hfuel
    exact ⟨fuel - 1, by omega⟩
  match json with
  | .null => rfl
  | .bool true => rfl
  | .bool false => rfl
  | .number (.int n) => exact readValue_number n fuel hrest
  | .string (some text) => exact readValue_string text fuel rest
  | .array [] => rfl
  | .array (item :: items) =>
    obtain ⟨c, cs, htext, hspace, hclose⟩ := withCommas_compactItems_head h.1 items
    have hlength : (compactText (.array (item :: items))).length =
        (withCommas (compactItems (item :: items))).length + 2 := by simp [compactText]
    have hread := readItems_compactItems (item :: items) h (List.cons_ne_nil _ _) fuel
      (by omega) rest
    have hsplit : (compactText (.array (item :: items))).map some ++ rest =
        some '[' :: ((withCommas (compactItems (item :: items))).map some ++ some ']' :: rest) := by
      simp [compactText]
    rw [hsplit]
    exact readValue_array (by rw [htext]; rfl) hspace hclose hread
  | .object [] => rfl
  | .object ((some key, value) :: fields) =>
    obtain ⟨cs, htext⟩ := withCommas_compactFields_head key value fields
    have hlength : (compactText (.object ((some key, value) :: fields))).length =
        (withCommas (compactFields ((some key, value) :: fields))).length + 2 := by
      simp [compactText]
    have hread := readFields_compactFields ((some key, value) :: fields) h (List.cons_ne_nil _ _)
      fuel (by omega) rest
    have hsplit : (compactText (.object ((some key, value) :: fields))).map some ++ rest =
        some openBrace :: ((withCommas (compactFields ((some key, value) :: fields))).map some ++
          some closeBrace :: rest) := by
      simp [compactText]
    rw [hsplit]
    rw [htext] at hread ⊢
    exact readValue_object hread

/-- The items of an array that is not empty are read as they were written. -/
theorem readItems_compactItems (items : List Json) (h : ArePlain items) (hne : items ≠ [])
    (fuel : ℕ) (hfuel : 2 * (withCommas (compactItems items)).length ≤ fuel) (rest : Input) :
    readItems fuel ((withCommas (compactItems items)).map some ++ some ']' :: rest) =
      some (items, rest) := by
  match items with
  | [] => exact absurd rfl hne
  | [item] =>
    have htext : withCommas (compactItems [item]) = compactText item := by
      simp [compactItems, withCommas, List.intercalate]
    rw [htext] at hfuel ⊢
    obtain ⟨fuel, rfl⟩ : ∃ k, fuel = k + 1 := by
      obtain ⟨c, cs, hcons, -⟩ := compactText_head h.1
      rw [hcons, List.length_cons] at hfuel
      exact ⟨fuel - 1, by omega⟩
    exact readItems_last (readValue_compactText item h.1 fuel hfuel (endsNumber_some rfl _))
  | item :: item' :: items =>
    have htext : withCommas (compactItems (item :: item' :: items)) =
        compactText item ++ ',' :: withCommas (compactItems (item' :: items)) := by
      rw [compactItems, compactItems, withCommas_cons_cons]
    rw [htext] at hfuel ⊢
    simp only [List.length_append, List.length_cons] at hfuel
    obtain ⟨fuel, rfl⟩ : ∃ k, fuel = k + 1 := ⟨fuel - 1, by omega⟩
    have hsplit :
        (compactText item ++ ',' :: withCommas (compactItems (item' :: items))).map some ++
          some ']' :: rest =
        (compactText item).map some ++ some ',' ::
          ((withCommas (compactItems (item' :: items))).map some ++ some ']' :: rest) := by
      simp
    rw [hsplit]
    exact readItems_cons
      (readValue_compactText item h.1 fuel (by omega) (endsNumber_some rfl _))
      (readItems_compactItems (item' :: items) h.2 (List.cons_ne_nil _ _) fuel (by omega) rest)

/-- The fields of an object that is not empty are read as they were written. -/
theorem readFields_compactFields (fields : List (Option String × Json)) (h : FieldsPlain fields)
    (hne : fields ≠ []) (fuel : ℕ) (hfuel : 2 * (withCommas (compactFields fields)).length ≤ fuel)
    (rest : Input) :
    readFields fuel ((withCommas (compactFields fields)).map some ++ some closeBrace :: rest) =
      some (fields, rest) := by
  match fields with
  | [] => exact absurd rfl hne
  | [(some key, value)] =>
    have htext : withCommas (compactFields [(some key, value)]) =
        stringText (some key) ++ ':' :: compactText value := by
      simp [compactFields, withCommas, List.intercalate]
    rw [htext] at hfuel ⊢
    simp only [List.length_append, List.length_cons] at hfuel
    obtain ⟨fuel, rfl⟩ : ∃ k, fuel = k + 1 := ⟨fuel - 1, by omega⟩
    have hsplit : (stringText (some key) ++ ':' :: compactText value).map some ++
        some closeBrace :: rest = (stringText (some key)).map some ++ some ':' ::
          ((compactText value).map some ++ some closeBrace :: rest) := by
      simp
    rw [hsplit]
    exact readFields_last
      (readValue_compactText value h.2.1 fuel (by omega) (endsNumber_some rfl _))
  | (some key, value) :: (key', value') :: fields =>
    have htext : withCommas (compactFields ((some key, value) :: (key', value') :: fields)) =
        stringText (some key) ++ ':' :: (compactText value ++
          ',' :: withCommas (compactFields ((key', value') :: fields))) := by
      rw [compactFields, compactFields, withCommas_cons_cons]
      simp
    rw [htext] at hfuel ⊢
    simp only [List.length_append, List.length_cons] at hfuel
    obtain ⟨fuel, rfl⟩ : ∃ k, fuel = k + 1 := ⟨fuel - 1, by omega⟩
    have hsplit : (stringText (some key) ++ ':' :: (compactText value ++
        ',' :: withCommas (compactFields ((key', value') :: fields)))).map some ++
          some closeBrace :: rest =
        (stringText (some key)).map some ++ some ':' :: ((compactText value).map some ++
          some ',' :: ((withCommas (compactFields ((key', value') :: fields))).map some ++
            some closeBrace :: rest)) := by
      simp
    rw [hsplit]
    exact readFields_cons
      (readValue_compactText value h.2.1 fuel (by omega) (endsNumber_some rfl _))
      (readFields_compactFields ((key', value') :: fields) h.2.2 (List.cons_ne_nil _ _) fuel
        (by omega) rest)

end

/-- **Round trip.** A value is read from its own text. -/
theorem parse?_compactText {json : Json} (h : json.IsPlain) :
    parse? (Utf8.encode (compactText json)) = some json := by
  have hend : EndsNumber [] := by rintro _ ⟨⟩
  have hread := readValue_compactText json h (2 * ((compactText json).map some).length + 2)
    (by rw [List.length_map]; omega) hend
  rw [List.append_nil] at hread
  unfold parse?
  rw [Utf8.decodeGaps_encode]
  show (readValue _ _).bind _ = _
  rw [hread]
  rfl

end CrawlGraph.Json
