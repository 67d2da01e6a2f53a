import CrawlGraph.Proofs.Graph.Sums

/-!
# Accounts of domains

The sums of a finished domain and of its buckets are the exact ones over the URLs that belong to it:
`accounts_ofUpdates`.

1. What a builder counts of a capture is at most what its updates say came back, so the sums of all
   captures stay within 64 bits (`countable_placed`).
2. A domain counts the captures whose URLs have its name (`accounts_domainNode`), and those are the
   URLs with its identifier (`members_ofUpdates`).
-/

namespace CrawlGraph

/-! ## Accounts -/

/-- A node has exact sums over answers, in its buckets of content types those of each type, and in
their buckets of status codes those of each type and code. -/
structure Node.Accounts (domain : Node) (answers : List Answer) : Prop where
  sums : domain.totals.Sum answers
  types : Buckets Answer.typeKey domain.children answers
  statuses : ∀ type ∈ domain.children,
    Buckets Answer.statusKey type.2.children (answers.filter fun answer => answer.typeKey = type.1)
  /-- The buckets of status codes are those of single codes. -/
  codes : ∀ type ∈ domain.children, ∀ status ∈ type.2.children, ∃ code, status.1 = toString code ∧
    status.2.totals.Sum
      (answers.filter fun answer => answer.typeKey = type.1 ∧ answer.statusCode = code)

/-- Each capture is a success or a failure. -/
def Totals.Balanced (totals : Totals) : Prop :=
  totals.urls.toInt = totals.success.toInt + totals.failed.toInt

/-- The sums of a node are those of its buckets together. -/
def Node.AddsUp (node : Node) : Prop :=
  ∀ counter : Counter, (counter.read node.totals).toInt =
    (node.children.map fun entry => (counter.read entry.2.totals).toInt).sum

/-- The sums of a node and of its buckets agree at each of the three levels. -/
structure Node.Coherent (domain : Node) : Prop where
  balanced : domain.totals.Balanced
  addsUp : domain.AddsUp
  types_balanced : ∀ type ∈ domain.children, type.2.totals.Balanced
  types_addUp : ∀ type ∈ domain.children, type.2.AddsUp
  statuses_balanced : ∀ type ∈ domain.children, ∀ status ∈ type.2.children,
    status.2.totals.Balanced

theorem Totals.Sum.balanced {totals : Totals} {answers : List Answer} (h : totals.Sum answers) :
    totals.Balanced := by
  have hurls := h .urls
  have hsuccess := h .success
  have hfailed := h .failed
  rw [Counter.urls_eq_success_add_failed, Nat.cast_add, ← hsuccess, ← hfailed] at hurls
  exact hurls

theorem Buckets.addsUp {key : Answer → String} {node : Node} {answers : List Answer}
    (hsums : node.totals.Sum answers) (h : Buckets key node.children answers) : node.AddsUp := by
  intro counter
  rw [hsums counter, h.add_up counter]

/-- Exact sums agree. -/
theorem Node.Accounts.coherent {domain : Node} {answers : List Answer}
    (h : domain.Accounts answers) : domain.Coherent where
  balanced := h.sums.balanced
  addsUp := h.types.addsUp h.sums
  types_balanced type htype := (h.types.sums type htype).balanced
  types_addUp type htype := (h.statuses type htype).addsUp (h.types.sums type htype)
  statuses_balanced type htype status hstatus :=
    ((h.statuses type htype).sums status hstatus).balanced

theorem statusKey_inj {answer answer' : Answer} :
    answer.statusKey = answer'.statusKey ↔ answer.statusCode = answer'.statusCode := by
  refine ⟨?_, congrArg toString⟩
  intro h
  exact Int32.toInt_inj.1 (Int.repr_injective h)

/-- Sums and buckets that have been counted one answer after another are exact. -/
theorem accounts_of_counted {domain : Node} {answers : List Answer} (h : Countable answers)
    (htotals : domain.totals = answers.foldl Totals.add {})
    (hchildren : domain.children = bucketsOf Answer.typeKey Answer.inType answers) :
    domain.Accounts answers := by
  have htypes : ∀ type ∈ domain.children,
      type.2.children = bucketsOf Answer.statusKey Answer.inStatus
        (answers.filter fun answer => answer.typeKey = type.1) := by
    intro type htype
    rw [hchildren] at htype
    exact (bucketOf_inType (bucketOf_of_mem _ _ htype)).2
  have hstatuses : ∀ type ∈ domain.children,
      Buckets Answer.statusKey type.2.children
        (answers.filter fun answer => answer.typeKey = type.1) := by
    intro type htype
    rw [htypes type htype]
    exact buckets_bucketsOf _ _ (h.sublist List.filter_sublist) fun hfound =>
      (bucketOf_inStatus hfound).1
  constructor
  case sums =>
    rw [htotals]
    exact sum_foldl_count h
  case types =>
    rw [hchildren]
    exact buckets_bucketsOf _ _ h fun hfound => (bucketOf_inType hfound).1
  case statuses => exact hstatuses
  case codes =>
    intro type htype status hstatus
    have hbuckets := hstatuses type htype
    obtain ⟨answer, -, hkey⟩ := (hbuckets.keys status.1).1 (List.mem_map_of_mem hstatus)
    refine ⟨answer.statusCode, hkey.symm, ?_⟩
    have hsums := hbuckets.sums status hstatus
    rw [List.filter_filter, ← hkey] at hsums
    simpa only [statusKey_inj, Bool.decide_and, Bool.and_comm] using hsums

theorem Node.Accounts.of_links {domain : Node} {answers : List Answer} (h : domain.Accounts answers)
    (edges : List (Node × Node)) : (Graph.linkDomain edges domain).Accounts answers := by
  obtain ⟨outlinks, hlinked⟩ := Graph.linkDomain_eq edges domain
  rw [hlinked]
  exact ⟨h.sums, h.types, h.statuses, h.codes⟩

/-- A domain has the sums over the URLs of its name. -/
theorem accounts_domainNode {urls : List Node} (h : Countable (urls.map Node.answer))
    (name : String) (id : Int64) :
    (Graph.domainNode urls name id).Accounts ((Graph.membersOf urls name).map Node.answer) := by
  have hsub : ((Graph.membersOf urls name).map Node.answer).Sublist (urls.map Node.answer) :=
    List.filter_sublist.map Node.answer
  rw [Graph.domainNode_eq]
  exact accounts_of_counted (h.sublist hsub) rfl rfl

/-! ## What updates say came back -/

/-- The number of bytes that an update says came back. A negative length counts as none. -/
def Update.size (update : Update) : ℕ :=
  (update.fact.answer?.map fun answer => answer.contentLength.toInt.toNat).getD 0

theorem Update.size_eq {update : Update} {answer? : Option Answer}
    (h : update.fact.answer? = answer?) :
    update.size = (answer?.map fun answer => answer.contentLength.toInt.toNat).getD 0 := by
  rw [← h]
  rfl

/-- A session counts one of its answers, so no more than all of them. -/
theorem size_ofUpdates_le (seeds : List String) (key : String) (id : Int64) (own : List Update) :
    Counter.size.weight (Session.ofUpdates seeds key id own).node.answer ≤
      (own.map Update.size).sum := by
  show (((lastTold (·.answer?) own).map fun found : Answer × UInt64 =>
    found.1.contentLength).getD 0).toInt.toNat ≤ _
  cases hlast : lastTold (·.answer?) own with
  | none => exact Nat.zero_le _
  | some found =>
    obtain ⟨update, hupdate, htold⟩ := exists_of_lastTold hlast
    obtain ⟨answer, hanswer, rfl⟩ := Option.map_eq_some_iff.1 htold
    have hsize : update.size = answer.contentLength.toInt.toNat := Update.size_eq hanswer
    rw [Option.map_some, Option.getD_some, ← hsize]
    exact List.single_le_sum (fun _ _ => Nat.zero_le _) _ (List.mem_map_of_mem hupdate)

/-- What a builder counts of all captures is at most what all updates say came back. -/
theorem size_sessionsOf_le (seeds : List String) (updates : List Update) :
    Counter.size.sum ((sessionsOf seeds updates).map fun session => session.node.answer) ≤
      (updates.map Update.size).sum := by
  have howns : ∀ key, updatesOf key updates =
      updates.filter fun update => update.sessionKey = key :=
    fun key => List.filter_congr fun update _ => beq_eq_decide _ _
  calc Counter.size.sum ((sessionsOf seeds updates).map fun session => session.node.answer)
      ≤ ((sessionKeys updates).zipIdx.map fun entry =>
          ((updatesOf entry.1 updates).map Update.size).sum).sum := by
        unfold Counter.sum sessionsOf
        rw [List.map_map, List.map_map]
        exact List.sum_le_sum fun _ _ => size_ofUpdates_le ..
    _ = ((sessionKeys updates).map fun key =>
          ((updates.filter fun update => update.sessionKey = key).map Update.size).sum).sum := by
        simp only [← howns]
        conv_rhs => rw [← List.zipIdx_map_fst 0 (sessionKeys updates), List.map_map]
        rfl
    _ = (updates.map Update.size).sum :=
        sum_groups (·.sessionKey) Update.size (nodup_sessionKeys updates) fun update hupdate =>
          mem_sessionKeys.2 ⟨update, hupdate, rfl⟩

/-! ## Finished graphs -/

section Finished

variable {job : Int64} {seeds : List String} {updates : List Update}
  (h : (Network.ofUpdates job seeds updates).Fits)

theorem answers_placed :
    (Builder.ofUpdates job seeds updates).placed.map Node.answer =
      (sessionsOf seeds updates).map fun session => session.node.answer := by
  unfold Builder.placed Builder.counted
  rw [List.map_map, List.map_map]
  rfl

include h

theorem countable_placed (hsize : (updates.map Update.size).sum < 2 ^ 63) :
    Countable ((Builder.ofUpdates job seeds updates).placed.map Node.answer) := by
  intro counter
  by_cases hcounter : counter = .size
  · subst hcounter
    rw [answers_placed]
    exact Nat.lt_of_le_of_lt (size_sessionsOf_le seeds updates) hsize
  · refine Nat.lt_of_le_of_lt (Counter.sum_le_length _ hcounter) ?_
    rw [List.length_map, length_placed, ← length_urls job seeds]
    exact Nat.lt_of_le_of_lt (Nat.le_add_right _ _) h

/-- The URLs with the identifier of a domain are the captures with its name. -/
theorem members_ofUpdates {entry : String × Int64}
    (hentry : entry ∈ (Builder.ofUpdates job seeds updates).domainIds) :
    ((Network.ofUpdates job seeds updates).urls.filter (·.domainId == entry.2)).map Node.answer =
      (Graph.membersOf (Builder.ofUpdates job seeds updates).placed entry.1).map Node.answer := by
  rw [urls_ofUpdates h, List.filter_map, List.map_map]
  refine congrArg (List.map Node.answer) (List.filter_congr fun node hnode => ?_)
  show (node.domainId == entry.2) = _
  rw [Bool.eq_iff_iff, beq_iff_eq, beq_iff_eq, domainId_eq_iff h hnode hentry]

end Finished

/-- **Accounts.** Each domain of a finished graph has the exact sums over its URLs, by content type
and by status code. -/
theorem accounts_ofUpdates (job : Int64) (seeds : List String) (updates : List Update)
    (h : (Network.ofUpdates job seeds updates).Fits)
    (hsize : (updates.map Update.size).sum < 2 ^ 63) :
    let network := Network.ofUpdates job seeds updates
    ∀ domain ∈ network.domains,
      domain.Accounts
          ((network.urls.filter (·.domainId == domain.id)).map Node.answer) ∧
        domain.Coherent := by
  intro network domain hdomain
  rw [show network.domains = _ from domains_ofUpdates] at hdomain
  obtain ⟨⟨name, id⟩, hentry, rfl⟩ := List.mem_map.1 hdomain
  have haccounts := (accounts_domainNode (countable_placed h hsize) name id).of_links
    (Graph.edges (Builder.ofUpdates job seeds updates).placed)
  have hid := (Graph.id_linkDomain (Graph.edges (Builder.ofUpdates job seeds updates).placed)
    (Graph.domainNode (Builder.ofUpdates job seeds updates).placed name id)).trans
    (Graph.id_domainNode _ name id)
  refine ⟨?_, haccounts.coherent⟩
  show Node.Accounts _ ((network.urls.filter (·.domainId == Node.id _)).map Node.answer)
  rw [hid, members_ofUpdates h hentry]
  exact haccounts

/-- A domain with a success, a failure and a length that is not known. -/
theorem accounts_ofUpdates_three :
    let network := Network.ofUpdates 1 [] [
      ⟨"a", "http://a.example/", 0, .response ⟨200, some "text/html", 100⟩⟩,
      ⟨"b", "http://a.example/b", 10, .response ⟨404, some "text/html", 20⟩⟩,
      ⟨"c", "http://a.example/c", 20, .exchange ⟨200, none, -1⟩⟩]
    network.Fits ∧
      (∀ domain ∈ network.domains, domain.Accounts
        ((network.urls.filter (·.domainId == domain.id)).map Node.answer)) ∧
      network.domains.map (fun domain => (domain.url, domain.totals)) =
        [("a.example", ⟨3, 2, 1, 120⟩)] := by
  intro network
  have hfits : network.Fits := fits_of_length (by decide)
  exact ⟨hfits, fun domain hdomain =>
    (accounts_ofUpdates _ _ _ hfits (by decide +kernel) domain hdomain).1, by decide +kernel⟩

end CrawlGraph
