import CrawlGraph.CommandLine.Parser
import CrawlGraph.Query.Search
import CrawlGraph.Store.Pool

/-!
# Requests

What can be asked for on the command line: to index a folder, to query a stored graph, or to export
it.

Main definitions: `Request`, `rule`, `Request.ofArguments`.
-/

namespace CrawlGraph.CommandLine

/-- What is to be done for a job and run. -/
inductive Task where
  /-- Index a folder. The seeds are lines, those given first and then those of a file. -/
  | index (directory : String) (seeds : List String) (seedFile : Option String)
  | query (query : Query)
  | exportTo (folder : String)
  deriving DecidableEq, Repr

/-- What is asked for. -/
structure Request where
  isQuiet : Bool
  /-- The root folder of the stores, in which a tilde can stand for the home folder. -/
  store : String
  /-- The number of stores that may be open at once. -/
  capacity : Nat
  id : RunId
  task : Task
  deriving DecidableEq, Repr

/-- Why a request is refused. -/
inductive Refusal where
  | usage (fault : UsageFault)
  /-- The text of a search filter is none. -/
  | badFilter
  deriving DecidableEq, Repr

/-- The words for a refusal. -/
def Refusal.message : Refusal → String
  | .usage fault => fault.message
  | .badFilter => "Invalid search filter: unexpected value"

/-! ## The rules -/

/-- The options that say which job and run is meant. -/
def idOptions : List OptionRule :=
  [{ name := "job", letter := some 'j', effect := .value .int64, isRequired := true },
    { name := "run", letter := some 'r', effect := .value .int32 }]

/-- The command that indexes a folder. -/
def indexRule : CommandRule where
  name := "index"
  options := idOptions ++
    [{ name := "dir", letter := some 'd', effect := .value .path, isRequired := true },
      { name := "seed", effect := .values .text },
      { name := "seeds-file", effect := .value .path },
      { name := "no-progress", effect := .switch }]

/-- A query about one node. -/
def nodeRule (name : String) : CommandRule where
  name
  operand := some { name := "ID", kind := .int64 }

/-- The query that searches for URLs. -/
def searchRule : CommandRule where
  name := "search"
  options :=
    [{ name := "domain", effect := .values .text },
      { name := "content-type", effect := .values .text },
      { name := "status", effect := .values .int32 },
      { name := "filter", effect := .value .text
        excludes := ["domain", "content-type", "status"] }]

/-- The command that queries a stored graph. -/
def queryRule : CommandRule where
  name := "query"
  options := idOptions
  commands :=
    [{ name := "get", operand := some { name := "KEY", kind := .text } },
      nodeRule "node", nodeRule "outlinks", nodeRule "children", { name := "domains" },
      { name := "seeds" }, { name := "malformed" }, nodeRule "hop-path", searchRule,
      { name := "status" }]

/-- The command that exports a stored graph. -/
def exportRule : CommandRule where
  name := "export"
  options := idOptions ++
    [{ name := "output", letter := some 'o', effect := .value .path, isRequired := true }]

/-- All that can be given to the program of a name. -/
def rule (program : String) : CommandRule where
  name := program
  options :=
    [{ name := "quiet", letter := some 'q', effect := .switch },
      { name := "store", letter := some 's', effect := .value .text },
      { name := "pool-size", effect := .value .count }]
  commands := [indexRule, queryRule, exportRule]

/-- The root folder of the stores of a program, if none is given. -/
def defaultStore (program : String) : String := "~/.local/share/" ++ program ++ "/"

/-! ## Reading requests -/

/-- A value that has to be given. -/
def require {α : Type} : Option α → Except Refusal α
  | none => .error (.usage .missingArgument)
  | some a => .ok a

/-- The job and run that are meant; the run is one unless it is given. -/
def runId (given : Given) : Except Refusal RunId := do
  let job ← require (given.number? "job")
  return ⟨Int64.ofInt job, Int32.ofInt ((given.number? "run").getD 1)⟩

/-- The filter of a search: all of it as JSON, or each list by its option. -/
def filterOf (given : Given) : Except Refusal Filter :=
  match given.text? "filter" with
  | some text =>
    match Filter.ofBytes? (Utf8.ofString text) with
    | none => .error .badFilter
    | some filter => .ok filter
  | none =>
    .ok {
      domainNames := given.texts "domain"
      contentTypes := given.texts "content-type"
      statusCodes := (given.numbers "status").map Int32.ofInt }

/-- The query that a command stands for. -/
def queryOf (name : String) (given : Given) : Except Refusal Query :=
  let node (query : Int64 → Query) : Except Refusal Query :=
    (require (given.number? "ID")).map fun id => query (Int64.ofInt id)
  match name with
  | "get" => (require (given.text? "KEY")).map .get
  | "node" => node .node
  | "outlinks" => node .outlinks
  | "children" => node .children
  | "domains" => .ok .domains
  | "seeds" => .ok .seeds
  | "malformed" => .ok .malformed
  | "hop-path" => node .hopPath
  | "search" => (filterOf given).map .search
  | "status" => .ok .status
  | _ => .error (.usage .unknownCommand)

/-- The task that a command stands for. -/
def taskOf (name : String) (given : Given) : Except Refusal Task :=
  match name with
  | "index" => do
    return .index (← require (given.text? "dir")) (given.texts "seed") (given.text? "seeds-file")
  | "query" =>
    match given.next with
    | none => .error (.usage .missingCommand)
    | some (name, given) => (queryOf name given).map .query
  | "export" => (require (given.text? "output")).map .exportTo
  | _ => .error (.usage .unknownCommand)

namespace Request

/-- The request that has been given to the program of a name. -/
def ofGiven (program : String) (given : Given) : Except Refusal Request := do
  let (name, inner) ←
    match given.next with
    | none => throw (.usage .missingCommand)
    | some next => pure next
  return {
    isQuiet := given.has "quiet"
    store := (given.text? "store").getD (defaultStore program)
    capacity := ((given.number? "pool-size").map Int.toNat).getD defaultCapacity
    id := ← runId inner
    task := ← taskOf name inner }

/-- Reads the arguments of the program of a name. -/
def ofArguments (program : String) (arguments : List String) : Except Refusal Request := do
  ofGiven program (← ((rule program).parse arguments).mapError Refusal.usage)

end Request

end CrawlGraph.CommandLine
