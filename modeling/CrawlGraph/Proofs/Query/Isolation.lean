import CrawlGraph.Export.Files
import CrawlGraph.Proofs.Store.Saved
import CrawlGraph.Proofs.Store.Scope
import CrawlGraph.Query.Search

/-!
# Jobs that share a store

Whatever is written for one job into a store, all that is read for another one stays the same, also
if the number of one of them starts with that of the other (`sameFor_runAll`).

1. What is read for a job comes from the records in its scope alone (`sameFor_of_get?`).
2. What is written for a job goes into its own scope (`get?_run`).
-/

namespace CrawlGraph

/-! ## What is read for a job -/

namespace Database

/-- All that is read for a job is the same in two stores. -/
structure SameFor (job : Int64) (db other : Database) : Prop where
  record : ∀ key, StoreKey.IsInScope job key → other.table.get? key = db.table.get? key
  node : ∀ id, other.node? job id = db.node? job id
  ids : ∀ name, other.ids job name = db.ids job name
  urlCount : other.urlCount job = db.urlCount job
  status : other.status job = db.status job
  hopPath : ∀ id, other.hopPath job id = db.hopPath job id
  outlinks : ∀ id, other.outlinks job id = db.outlinks job id
  children : ∀ id, other.children job id = db.children job id
  list : ∀ name, other.list job name = db.list job name
  search : ∀ filter, other.search job filter = db.search job filter
  /-- All questions but those for the value of a key, which need not be one of the job. -/
  answer : ∀ query : Query, (∀ key, query ≠ .get key) →
    query.answer other job = query.answer db job
  /-- The files and the summary of an export, and whether it fails. -/
  exported : ∀ root disk, Export.ofDatabase root (.ok other.table) job disk =
    Export.ofDatabase root (.ok db.table) job disk

section SameRecords

variable {job : Int64} {db other : Database}
  (h : ∀ key, StoreKey.IsInScope job key → other.table.get? key = db.table.get? key)

include h

theorem read?_congr {α : Type} (name : String) (read : Json → Option α) :
    other.read? (StoreKey.named job name) read = db.read? (StoreKey.named job name) read := by
  have hvalue : other.value? (StoreKey.named job name) = db.value? (StoreKey.named job name) :=
    h _ (StoreKey.isInScope_named job name)
  unfold read?
  rw [hvalue]

theorem node?_congr : other.node? job = db.node? job := by
  funext id
  exact read?_congr h (toString id) _

theorem ids_congr : other.ids job = db.ids job := by
  funext name
  unfold ids
  rw [read?_congr h]

theorem nodes_congr : other.nodes job = db.nodes job := by
  funext found
  unfold nodes
  rw [node?_congr h]

theorem urlCount_congr : other.urlCount job = db.urlCount job := by
  unfold urlCount
  rw [read?_congr h]

theorem pathFrom_congr (fuel : ℕ) (visited : List Int64) (id : Int64) :
    other.pathFrom job fuel visited id = db.pathFrom job fuel visited id := by
  induction fuel generalizing visited id with
  | zero => rfl
  | succ fuel ih =>
    unfold pathFrom
    simp only [node?_congr h, ih]

/-- What is read for a job comes from the records in its scope. -/
theorem sameFor_of_get? : db.SameFor job other := by
  have hnode := node?_congr h
  have hnodes := nodes_congr h
  have hstatus : other.status job = db.status job := read?_congr h StoreKey.buildComplete _
  have hpath : ∀ id, other.hopPath job id = db.hopPath job id := pathFrom_congr h longestPath []
  have houtlinks : ∀ id, other.outlinks job id = db.outlinks job id := by
    intro id
    unfold outlinks
    rw [hnode, hnodes]
  have hchildren : ∀ id, other.children job id = db.children job id := by
    intro id
    unfold children
    rw [hnode, hnodes]
  have hlist : ∀ name, other.list job name = db.list job name := by
    intro name
    unfold list
    rw [ids_congr h, hnodes]
  have hsearch : ∀ filter, other.search job filter = db.search job filter := by
    intro filter
    unfold search
    rw [urlCount_congr h, hnodes]
  constructor
  case record => exact h
  case node => exact congrFun hnode
  case ids => exact congrFun (ids_congr h)
  case urlCount => exact urlCount_congr h
  case status => exact hstatus
  case hopPath => exact hpath
  case outlinks => exact houtlinks
  case children => exact hchildren
  case list => exact hlist
  case search => exact hsearch
  case answer =>
    intro query hquery
    cases query with
    | get key => exact absurd rfl (hquery key)
    | node id => exact congrArg (Except.map _) (congrFun hnode id)
    | outlinks id => exact congrArg (Except.map _) (houtlinks id)
    | children id => exact congrArg (Except.map _) (hchildren id)
    | domains => exact congrArg (Except.map _) (hlist StoreKey.rootDomains)
    | seeds => exact congrArg (Except.map _) (hlist StoreKey.rootUrls)
    | malformed => exact congrArg (Except.map _) (hlist StoreKey.malformedUrls)
    | hopPath id => exact congrArg (Except.map _) (hpath id)
    | search filter => exact congrArg (Except.map _) (hsearch filter)
    | status => exact congrArg (Except.map _) hstatus
  case exported =>
    intro root disk
    have htable : Export.ofTable (.ok other.table) job = Export.ofTable (.ok db.table) job := by
      unfold Export.ofTable
      dsimp only
      rw [Scan.collect_scope, Scan.collect_scope, Scan.collect_scope, Scan.collect_scope,
        Table.ofJob_congr h]
    unfold Export.ofDatabase
    rw [htable]

end SameRecords

end Database

/-! ## What is written for a job -/

/-- Something that is stored for a job. -/
inductive Deposit (job : Int64) where
  | putNode (node : Node)
  | putIds (name : String) (ids : List Int64)
  | saveNetwork (network : Network) (completedAt : String) (job_eq : network.job = job)

namespace Deposit

variable {job : Int64}

/-- What a store keeps after something has been stored, or has been refused in part or as a whole.
-/
def run (db : Database) : Deposit job → Database
  | .putNode node => (db.writeNode job node).toOption.getD db
  | .putIds name ids => (db.writeIds job name ids).toOption.getD db
  | .saveNetwork network completedAt _ => (db.saveNetwork network completedAt).2

/-- What a store keeps after deposits in order. -/
def runAll (db : Database) (deposits : List (Deposit job)) : Database := deposits.foldl run db

theorem get?_write (db : Database) (name : String) (json : Json) {key : Bytes}
    (hkey : ¬ StoreKey.IsInScope job key) :
    ((db.write (StoreKey.named job name) json).toOption.getD db).table.get? key =
      db.table.get? key := by
  cases hwrite : db.write (StoreKey.named job name) json with
  | error failure => rfl
  | ok saved =>
    refine (Database.get?_of_put hwrite key).trans (if_neg ?_)
    rintro rfl
    exact hkey (StoreKey.isInScope_named job name)

theorem get?_saveNetwork {db : Database} {network : Network} {completedAt : String} {key : Bytes}
    (hkey : ¬ StoreKey.IsInScope network.job key) :
    (db.saveNetwork network completedAt).2.table.get? key = db.table.get? key := by
  have hnot : key ∉ network.records.map Prod.fst := by
    intro hmem
    obtain ⟨record, hrecord, rfl⟩ := List.mem_map.1 hmem
    exact hkey (isInScope_records hrecord)
  unfold Database.saveNetwork
  cases hall : db.putAll network.records with
  | error failure => rfl
  | ok saved =>
    have hsaved := Database.get?_putAll_of_not_mem hall hnot
    have hmarked := get?_write saved StoreKey.buildComplete
      (network.completion completedAt).toJson hkey
    dsimp only
    cases hmark : saved.write (StoreKey.named network.job StoreKey.buildComplete)
        (network.completion completedAt).toJson with
    | error failure => exact hsaved
    | ok marked =>
      rw [hmark] at hmarked
      exact hmarked.trans hsaved

/-- What is stored for a job leaves all records outside its scope. -/
theorem get?_run (db : Database) (deposit : Deposit job) {key : Bytes}
    (hkey : ¬ StoreKey.IsInScope job key) :
    (deposit.run db).table.get? key = db.table.get? key := by
  cases deposit with
  | putNode node => exact get?_write db _ _ hkey
  | putIds name ids => exact get?_write db _ _ hkey
  | saveNetwork network completedAt job_eq =>
    rw [← job_eq] at hkey
    exact get?_saveNetwork hkey

theorem get?_runAll (db : Database) (deposits : List (Deposit job)) {key : Bytes}
    (hkey : ¬ StoreKey.IsInScope job key) :
    (runAll db deposits).table.get? key = db.table.get? key := by
  induction deposits generalizing db with
  | nil => rfl
  | cons deposit deposits ih => exact (ih _).trans (get?_run db deposit hkey)

/-- **Isolation.** What is stored for a job changes nothing that is read for another one. -/
theorem sameFor_runAll {job other : Int64} (h : job ≠ other) (db : Database)
    (deposits : List (Deposit job)) : db.SameFor other (runAll db deposits) := by
  refine Database.sameFor_of_get? fun key hkey => get?_runAll db deposits fun hjob => ?_
  exact h (StoreKey.isInScope_unique hjob hkey)

/-- A graph and a list of job 1 are stored beside a node of job 12, under a name that looks like a
key of that job, and a node of job -1 is left alone as well. -/
theorem sameFor_runAll_prefix :
    let node : Node := { id := 1, kind := .url, url := "http://b.example/" }
    let network := Network.ofUpdates 1 [] [⟨"a", "http://a.example/", 0, .metadata none true⟩]
    let deposits : List (Deposit 1) :=
      [.saveNetwork network "now" (job_ofUpdates 1 [] _), .putIds "2/1" [7],
        .putNode { node with id := 2 }]
    ∃ db, (Database.writeNode {} 12 node >>= fun db => db.writeNode (-1) node) = .ok db ∧
      (runAll db deposits).table.records.length = 11 ∧
      (1 : Int64) ≠ 12 ∧ db.SameFor 12 (runAll db deposits) ∧
      (1 : Int64) ≠ -1 ∧ db.SameFor (-1) (runAll db deposits) := by
  intro node network deposits
  refine ⟨_, rfl, by decide +kernel, by decide, ?_, by decide, ?_⟩
  · exact sameFor_runAll (by decide) _ deposits
  · exact sameFor_runAll (by decide) _ deposits

end Deposit

end CrawlGraph
