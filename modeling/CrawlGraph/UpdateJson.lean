import CrawlGraph.Json.Decode
import CrawlGraph.Json.Parser
import CrawlGraph.Json.Printer
import CrawlGraph.Update

/-!
# Updates in JSON

An update is an object of its session key, URL, offset and fact. A fact is an object whose field
`type` tells what it is.
-/

namespace CrawlGraph

open Json (ofString ofInt ofOption ofFields)

/-- The fields of an answer. -/
def Answer.fields (answer : Answer) : List (String × Json) :=
  [("statusCode", ofInt answer.statusCode.toInt),
    ("contentType", ofOption ofString answer.contentType),
    ("contentLength", ofInt answer.contentLength.toInt)]

/-- The names of the fields of an answer. -/
def Answer.fieldNames : List String := ["statusCode", "contentType", "contentLength"]

/-- Reads an answer from its fields. -/
def Answer.ofFields? (fields : Json.Fields) : Option Answer := do
  return {
    statusCode := ← fields.required? "statusCode" Json.asInt32?
    contentType := ← fields.optional? "contentType" Json.asString?
    contentLength := ← fields.required? "contentLength" Json.asInt64? }

/-- A fact as an object. -/
def Fact.toJson : Fact → Json
  | .request referrer host =>
    ofFields [("type", ofString "request"), ("referrer", ofOption ofString referrer),
      ("host", ofOption ofString host)]
  | .response answer => ofFields (("type", ofString "response") :: answer.fields)
  | .metadata via seed =>
    ofFields [("type", ofString "metadata"), ("viaUrl", ofOption ofString via),
      ("seed", .bool seed)]
  | .exchange answer => ofFields (("type", ofString "exchange") :: answer.fields)

/-- The names of the fields of each type of fact, and how it is read from them. -/
def Fact.readers : List (String × List String × (Json.Fields → Option Fact)) :=
  [("request", ["referrer", "host"], fun fields => do
      return .request (← fields.optional? "referrer" Json.asString?)
        (← fields.optional? "host" Json.asString?)),
    ("response", Answer.fieldNames, fun fields => (Answer.ofFields? fields).map .response),
    ("metadata", ["viaUrl", "seed"], fun fields => do
      return .metadata (← fields.optional? "viaUrl" Json.asString?)
        (← fields.required? "seed" Json.asBool?)),
    ("exchange", Answer.fieldNames, fun fields => (Answer.ofFields? fields).map .exchange)]

/-- The type of a fact and the rest of its JSON value. In an array the type comes first. -/
def Fact.split? : Json → Option (String × Json)
  | .array (type :: items) => type.asString?.map fun type => (type, .array items)
  | .object fields =>
    match fields.filter fun field => field.1 == some "type" with
    | [(_, type)] => type.asString?.map fun type =>
      (type, .object (fields.filter fun field => field.1 != some "type"))
    | _ => none
  | _ => none

/-- Reads a fact. All that it holds has to be readable, unknown fields included. -/
def Fact.ofJson? (room : Nat) (json : Json) : Option Fact := do
  if !json.isSound room then none
  let (type, rest) ← Fact.split? json
  let (_, names, read) ← Fact.readers.find? (·.1 = type)
  read (← rest.asRecord? room names names.length)

/-- An update as an object. -/
def Update.toJson (update : Update) : Json :=
  ofFields [("sessionKey", ofString update.sessionKey), ("url", ofString update.url),
    ("offset", ofInt update.offset.toNat), ("fact", update.fact.toJson)]

/-- The text of an update. -/
def Update.text (update : Update) : String := update.toJson.compact

/-- Reads an update in which no more than `room` containers stand inside each other. -/
def Update.ofJson? (room : Nat) (json : Json) : Option Update := do
  let fields ← json.asRecord? room ["sessionKey", "url", "offset", "fact"] 4
  return {
    sessionKey := ← fields.required? "sessionKey" Json.asString?
    url := ← fields.required? "url" Json.asString?
    offset := ← fields.required? "offset" Json.asUInt64?
    fact := ← fields.required? "fact" (Fact.ofJson? (room - 1)) }

/-- Reads the text of an update. -/
def Update.ofBytes? (bytes : Bytes) : Option Update :=
  (Json.parse? bytes).bind (Update.ofJson? Json.maxDepth)

end CrawlGraph
