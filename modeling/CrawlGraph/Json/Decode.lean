import CrawlGraph.Json.Basic
import CrawlGraph.Text.Number

/-!
# Reading JSON values

What the values of other types are written as in JSON. A record is an object with its fields in any
order, or an array with its fields in their own order. Fields that a record does not have are passed
over; a field may not be given twice.

Main definitions: `Json.asRecord?`, `Json.Fields.required?`, and the readers of plain values.
-/

namespace CrawlGraph.Json

/-- The fields of a record by name. -/
abbrev Fields := List (String × Json)

/-- The text of a string. -/
def asString? : Json → Option String
  | .string text => text
  | _ => none

/-- A truth value. -/
def asBool? : Json → Option Bool
  | .bool b => some b
  | _ => none

/-- An integer. -/
def asInt? : Json → Option Int
  | .number (.int n) => some n
  | _ => none

/-- An integer of 64 bits with a sign. -/
def asInt64? (json : Json) : Option Int64 := json.asInt?.bind Text.int64?

/-- An integer of 32 bits with a sign. -/
def asInt32? (json : Json) : Option Int32 := json.asInt?.bind Text.int32?

/-- An integer of 64 bits without a sign. -/
def asUInt64? (json : Json) : Option UInt64 := json.asInt?.bind Text.uint64?

/-- A value that may be null. -/
def asOption? {α : Type} (read : Json → Option α) : Json → Option (Option α)
  | .null => some none
  | json => (read json).map some

/-- A list, if there is room for one more container. -/
def asList? {α : Type} (room : Nat) (read : Json → Option α) : Json → Option (List α)
  | .array items => if room = 0 then none else items.mapM read
  | _ => none

/-- The keys and values of an object, if there is room for one more container and each key stands
for a text. -/
def asObject? (room : Nat) : Json → Option Fields
  | .object fields =>
    if room = 0 then none else fields.mapM fun (key, value) => key.map fun key => (key, value)
  | _ => none

/-- The fields of a record with the given names, of which an array may leave out those after the
first `atLeast`. -/
def asRecord? (room : Nat) (names : List String) (atLeast : Nat) (json : Json) : Option Fields :=
  match json with
  | .array items =>
    if room = 0 || items.length < atLeast || names.length < items.length then none
    else some (names.zip items)
  | json => do
    let fields ← json.asObject? room
    let known := fields.filter fun (key, _) => names.contains key
    if (known.map Prod.fst).Nodup then some known else none

/-- The value of a field. -/
def Fields.find? (fields : Fields) (name : String) : Option Json :=
  (List.find? (fun field => field.1 == name) fields).map Prod.snd

/-- A field that must be given. -/
def Fields.required? {α : Type} (fields : Fields) (name : String) (read : Json → Option α) :
    Option α := (fields.find? name).bind read

/-- A field that may be missing or null. -/
def Fields.optional? {α : Type} (fields : Fields) (name : String) (read : Json → Option α) :
    Option (Option α) :=
  match fields.find? name with
  | none => some none
  | some json => json.asOption? read

/-- A field that has a value of its own if it is missing. -/
def Fields.withDefault? {α : Type} (fields : Fields) (name : String) (read : Json → Option α)
    (default : α) : Option α :=
  match fields.find? name with
  | none => some default
  | some json => read json

end CrawlGraph.Json
