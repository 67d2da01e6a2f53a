import CrawlGraph.Proofs.Graph.DomainLinks
import CrawlGraph.Proofs.Graph.UrlSums
import CrawlGraph.Proofs.Index.Sizes

/-!
# Bounds of counters

No sum in the graph of some archives is larger than the archives, and no number of URLs is larger
than that of all URLs: `bounded_of_streams`. So none of the additions that make them leaves 64 bits.

1. A counter adds up answers of different captures, one after another. If the sums over all captures
   stay below `2 ^ 63`, each of these additions is exact and what it makes is within the bounds
   (`counts_of_subperm`).
2. A URL adds up its own answer and those of the URLs that were found on it (`totals_linked`,
   `foundOn_ofUpdates`); a domain those of its URLs; and a bucket those of them with its key
   (`counts_of_buckets`).
3. All captures together say that less came back than the bytes of the archives (`sum_sizes_le`).
-/

namespace CrawlGraph

/-! ## Counters -/

/-- Sums that have been made by adding up answers one after another. -/
structure Totals.Counts (totals : Totals) (answers : List Answer) (size count : ℕ) : Prop where
  eq : totals = answers.foldl Totals.add {}
  /-- No addition leaves 64 bits. -/
  exact : ∀ front answer back, answers = front ++ answer :: back → ∀ counter : Counter,
    (counter.read ((front.foldl Totals.add {}).add answer)).toInt =
      (counter.read (front.foldl Totals.add {})).toInt + counter.weight answer
  size_nonneg : 0 ≤ totals.size.toInt
  size_le : totals.size.toInt ≤ size
  /-- What is counted of URLs is no more than so many. -/
  count_nonneg : ∀ counter : Counter, counter ≠ .size → 0 ≤ (counter.read totals).toInt
  count_le : ∀ counter : Counter, counter ≠ .size → (counter.read totals).toInt ≤ count

section Counts

variable {answers all : List Answer} {limit : ℕ}

/-- Answers that are among those of all captures are counted within the bounds. -/
theorem counts_of_subperm (hall : Countable all) (hsize : Counter.size.sum all ≤ limit)
    (h : answers.Subperm all) :
    Totals.Counts (answers.foldl Totals.add {}) answers limit all.length := by
  have hcountable : Countable answers := fun counter =>
    Nat.lt_of_le_of_lt (counter.sum_subperm h) (hall counter)
  have hsums := sum_foldl_count hcountable
  constructor
  case eq => rfl
  case exact =>
    rintro front answer back rfl counter
    have hfront : Countable (front ++ [answer]) :=
      hcountable.sublist (List.Sublist.append_left (List.singleton_sublist.2 List.mem_cons_self) _)
    have hbefore := sum_foldl_count (hfront.sublist (List.sublist_append_left _ _)) counter
    have hafter := sum_foldl_count hfront counter
    rw [List.foldl_concat, Counter.sum_append, Counter.sum_singleton] at hafter
    rw [hafter, hbefore, Nat.cast_add]
  case size_nonneg =>
    rw [show Totals.size _ = Counter.size.read _ from rfl, hsums .size]
    exact Int.natCast_nonneg _
  case size_le =>
    rw [show Totals.size _ = Counter.size.read _ from rfl, hsums .size]
    exact Int.ofNat_le.2 ((Counter.size.sum_subperm h).trans hsize)
  case count_nonneg =>
    intro counter _
    rw [hsums counter]
    exact Int.natCast_nonneg _
  case count_le =>
    intro counter hcounter
    rw [hsums counter]
    exact Int.ofNat_le.2 ((counter.sum_subperm h).trans (Counter.sum_le_length all hcounter))

end Counts

/-! ## Nodes -/

/-- The captures that are found on a node of a finished graph. -/
def Network.foundOn (network : Network) (node : Node) : List Node :=
  network.urls.filter fun child => child.parentId == node.id

/-- The captures of a domain of a finished graph. -/
def Network.membersOf (network : Network) (domain : Node) : List Node :=
  network.urls.filter fun node => node.domainId == domain.id

/-- The counters of all nodes of a graph count answers of its captures, and are bounded by the sum
of all sizes and by the number of all captures. -/
structure Network.Bounded (network : Network) (size : ℕ) : Prop where
  /-- A capture counts itself and those that are found on it. -/
  urls : ∀ node ∈ network.urls,
    node.totals.Counts ((node :: network.foundOn node).map Node.answer) size network.urls.length
  domains : ∀ domain ∈ network.domains,
    domain.totals.Counts ((network.membersOf domain).map Node.answer) size network.urls.length
  types : ∀ domain ∈ network.domains, ∀ type ∈ domain.children,
    type.2.totals.Counts (((network.membersOf domain).map Node.answer).filter fun answer =>
      answer.typeKey = type.1) size network.urls.length
  statuses : ∀ domain ∈ network.domains, ∀ type ∈ domain.children, ∀ status ∈ type.2.children,
    status.2.totals.Counts ((((network.membersOf domain).map Node.answer).filter fun answer =>
      answer.typeKey = type.1).filter fun answer => answer.statusKey = status.1) size
      network.urls.length
  /-- There are identifiers for all nodes. -/
  fits : network.Fits

/-- The buckets of counted answers count the answers of their keys. -/
theorem counts_of_buckets {domain : Node} {answers all : List Answer} {limit : ℕ}
    (hall : Countable all) (hsize : Counter.size.sum all ≤ limit) (hsub : answers.Sublist all)
    (hchildren : domain.children = bucketsOf Answer.typeKey Answer.inType answers) :
    ∀ type ∈ domain.children,
      type.2.totals.Counts (answers.filter fun answer => answer.typeKey = type.1) limit
          all.length ∧
        ∀ status ∈ type.2.children,
          status.2.totals.Counts ((answers.filter fun answer => answer.typeKey = type.1).filter
            fun answer => answer.statusKey = status.1) limit all.length := by
  intro type htype
  rw [hchildren] at htype
  obtain ⟨htotals, hstatuses⟩ := bucketOf_inType (bucketOf_of_mem _ _ htype)
  have htypeSub := (List.filter_sublist (p := fun answer => answer.typeKey = type.1)).trans hsub
  refine ⟨htotals ▸ counts_of_subperm hall hsize htypeSub.subperm, fun status hstatus => ?_⟩
  rw [hstatuses] at hstatus
  rw [(bucketOf_inStatus (bucketOf_of_mem _ _ hstatus)).1]
  exact counts_of_subperm hall hsize (List.filter_sublist.trans htypeSub).subperm

section Nodes

variable {job : Int64} {seeds : List String} {updates : List Update}

variable (h : (Network.ofUpdates job seeds updates).Fits)

include h

theorem foundOn_ofUpdates {node : Node}
    (hnode : node ∈ (Builder.ofUpdates job seeds updates).placed) :
    ((Network.ofUpdates job seeds updates).foundOn
        (Graph.linked (Builder.ofUpdates job seeds updates).placed node)).map Node.answer =
      (Graph.foundOn (Builder.ofUpdates job seeds updates).placed node).map Node.answer := by
  have hfound := congrArg (List.map Node.answer) (filter_parentId h hnode)
  rw [List.map_map] at hfound
  exact hfound

theorem answers_membersOf {entry : String × Int64}
    (hentry : entry ∈ (Builder.ofUpdates job seeds updates).domainIds) :
    ((Network.ofUpdates job seeds updates).membersOf
        (Graph.finishedDomain (Builder.ofUpdates job seeds updates).placed entry)).map
          Node.answer =
      (Graph.membersOf (Builder.ofUpdates job seeds updates).placed entry.1).map Node.answer := by
  unfold Network.membersOf
  rw [Graph.id_finishedDomain]
  exact members_ofUpdates h hentry

/-- The counters of a graph are bounded by what all its updates say came back. -/
theorem bounded_ofUpdates {size : ℕ} (hle : (updates.map Update.size).sum ≤ size)
    (hlt : size < 2 ^ 63) : (Network.ofUpdates job seeds updates).Bounded size := by
  set all := (Builder.ofUpdates job seeds updates).placed.map Node.answer with hanswers
  have hall : Countable all := countable_placed h (Nat.lt_of_le_of_lt hle hlt)
  have hsize : Counter.size.sum all ≤ size := by
    rw [hanswers, answers_placed]
    exact (size_sessionsOf_le seeds updates).trans hle
  have hcount : (Network.ofUpdates job seeds updates).urls.length = all.length := by
    rw [List.length_map, length_placed, length_urls]
  have hmembers : ∀ name, ((Graph.membersOf (Builder.ofUpdates job seeds updates).placed name).map
      Node.answer).Sublist all := fun name => List.filter_sublist.map Node.answer
  have hbuckets : ∀ entry, _ := fun entry : String × Int64 =>
    counts_of_buckets hall hsize (hmembers entry.1)
      (Graph.children_finishedDomain (Builder.ofUpdates job seeds updates).placed entry)
  constructor
  case fits => exact h
  all_goals rw [hcount]
  case urls =>
    rw [urls_ofUpdates h, List.forall_mem_map]
    intro node hnode
    rw [totals_linked hnode, List.map_cons, List.map_cons, foundOn_ofUpdates h hnode]
    exact counts_of_subperm hall hsize (subperm_foundOn h hnode)
  all_goals rw [domains_eq, List.forall_mem_map]
  case domains =>
    intro entry hentry
    rw [Graph.totals_finishedDomain, answers_membersOf h hentry]
    exact counts_of_subperm hall hsize (hmembers entry.1).subperm
  case types =>
    intro entry hentry type htype
    rw [answers_membersOf h hentry]
    exact (hbuckets entry type htype).1
  case statuses =>
    intro entry hentry type htype
    rw [answers_membersOf h hentry]
    exact (hbuckets entry type htype).2

end Nodes

/-! ## Archives -/

/-- **Bounds.** In the graph of archives with fewer than `2 ^ 63` bytes together, no addition leaves
64 bits, and all sums are bounded: those of sizes by the number of bytes, and the numbers of URLs by
that of all URLs. -/
theorem bounded_of_streams (job : Int64) (seeds : List String) (streams : List Archive.Stream)
    (h : Archive.Stream.total streams < 2 ^ 63) :
    (Network.ofUpdates job seeds (streams.flatMap Archive.Stream.updates)).Bounded
      (Archive.Stream.total streams) := by
  have hsizes := Archive.sum_sizes_le streams h
  exact bounded_ofUpdates (fits_of_length (by omega)) (by omega) h

/-- Two captures, one from an archive of each format. -/
theorem bounded_of_streams_two :
    let page := "WARC/1.0\nWARC-Type: response\nWARC-Record-ID: a\n" ++
      "WARC-Target-URI: http://a/\nContent-Length: 18\n\nHTTP/1.1 200\n\nbody"
    let found := "http://a/b 0.0.0.0 0 text/html 14\nHTTP/1.1 404\n\n"
    let streams : List Archive.Stream :=
      [⟨.warc, Utf8.ofString page, none⟩, ⟨.arc, Utf8.ofString found, none⟩]
    let network := Network.ofUpdates 1 [] (streams.flatMap Archive.Stream.updates)
    Archive.Stream.total streams < 2 ^ 63 ∧ network.Bounded (Archive.Stream.total streams) ∧
      network.domains.map (fun domain => (domain.url, domain.totals)) = [("a", ⟨2, 1, 1, 4⟩)] := by
  intro page found streams network
  have htotal : Archive.Stream.total streams < 2 ^ 63 := by decide +kernel
  exact ⟨htotal, bounded_of_streams 1 [] streams htotal, by decide +kernel⟩

end CrawlGraph
