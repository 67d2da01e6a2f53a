import CrawlGraph.Proofs.Graph.DomainLinks
import CrawlGraph.Proofs.Graph.Domains

/-!
# What buckets say about their URLs

Each bucket of a domain has the content type of the URLs that it counts, unless some of them have no
content type and others have the content type `unknown`: these share a bucket, and it has what the
first of them has (`labelled_ofUpdates`, `unknown_type_shared`).

1. What a bucket says is what its first answer made it say (`map_bucketOf_cons`).
2. Answers of one key have one content type, or the key is `unknown` (`forall_eq_iff`), so the first
   one speaks for all of them but for that key (`describes_of_first`).
3. A URL keeps its name and its answer when it is linked, so the answers that a domain has counted
   are those of its URLs in the finished graph (`map_answer_membersOf`).
-/

namespace CrawlGraph

/-- Some answers have no content type, and others have the content type `unknown`. -/
def MixesTypes (answers : List Answer) : Prop :=
  (∃ answer ∈ answers, answer.contentType = none) ∧
    ∃ answer ∈ answers, answer.contentType = some unknownType

/-- A bucket counts answers, which have the content type of a key. What it says about the content
type is what the first of them says, and holds for all of them unless two kinds are mixed. -/
structure Node.Describes (bucket : Node) (type : String) (answers : List Answer) : Prop where
  totals : bucket.totals = answers.foldl Totals.add {}
  first : answers.head?.map Answer.contentType = some bucket.contentType
  known : type ≠ unknownType → bucket.contentType = some type
  all_iff : (∀ answer ∈ answers, answer.contentType = bucket.contentType) ↔ ¬MixesTypes answers

/-- The buckets of a domain are labelled: there is one for each content type of some answers and, in
it, one for each status code, and each of them describes the answers that it counts. -/
structure Node.Labelled (domain : Node) (answers : List Answer) : Prop where
  nodup : (domain.children.map Prod.fst).Nodup
  keys : ∀ k, k ∈ domain.children.map Prod.fst ↔ ∃ answer ∈ answers, answer.typeKey = k
  types : ∀ type ∈ domain.children,
    type.2.Describes type.1 (answers.filter fun answer => answer.typeKey = type.1)
  nodup_statuses : ∀ type ∈ domain.children, (type.2.children.map Prod.fst).Nodup
  statusKeys : ∀ type ∈ domain.children, ∀ k, k ∈ type.2.children.map Prod.fst ↔
    ∃ answer ∈ answers, answer.typeKey = type.1 ∧ answer.statusKey = k
  statuses : ∀ type ∈ domain.children, ∀ status ∈ type.2.children,
    status.2.Describes type.1
      (answers.filter fun answer => answer.typeKey = type.1 ∧ answer.statusKey = status.1)
  codes : ∀ type ∈ domain.children, ∀ status ∈ type.2.children, ∀ answer ∈ answers,
    answer.typeKey = type.1 → answer.statusKey = status.1 →
      answer.statusCode = status.2.statusCode

/-! ## First answers -/

section First

variable {β : Type} {step : Answer → Option Node → Node} (tell : Node → β)

/-- What counting does not change is what the first answer made of it. -/
theorem map_bucketOf_cons (hkeep : ∀ answer found, tell (step answer (some found)) = tell found)
    (first : Answer) (answers : List Answer) :
    (bucketOf step (first :: answers)).map tell = some (tell (step first none)) := by
  unfold bucketOf
  rw [List.foldl_cons]
  generalize step first none = found
  induction answers generalizing found with
  | nil => rfl
  | cons answer answers ih => rw [List.foldl_cons, ih, hkeep]

theorem tell_bucketOf (hkeep : ∀ answer found, tell (step answer (some found)) = tell found)
    {answers : List Answer} {node : Node} (h : bucketOf step answers = some node) :
    answers.head?.map (fun answer => tell (step answer none)) = some (tell node) := by
  cases answers with
  | nil => cases h
  | cons first answers =>
    rw [List.head?_cons, Option.map_some, ← map_bucketOf_cons tell hkeep first answers, h,
      Option.map_some]

end First

/-! ## Content types of one key -/

section Types

variable {answers : List Answer} {key : String} {type : Option String} {bucket : Node}

theorem contentType_of_typeKey {answer : Answer} (h : answer.typeKey ≠ unknownType) :
    answer.contentType = some answer.typeKey := by
  unfold Answer.typeKey at h ⊢
  cases htype : answer.contentType with
  | none => exact absurd (by rw [htype]; rfl) h
  | some type => rfl

/-- Answers of one key have the same content type, unless one has none and the other `unknown`. -/
theorem contentType_cases {answer other : Answer} (h : answer.typeKey = other.typeKey) :
    answer.contentType = other.contentType ∨
      answer.contentType = none ∧ other.contentType = some unknownType ∨
      answer.contentType = some unknownType ∧ other.contentType = none := by
  unfold Answer.typeKey at h
  cases hanswer : answer.contentType with
  | none =>
    cases hother : other.contentType with
    | none => exact .inl rfl
    | some type =>
      rw [hanswer, hother, Option.getD_none, Option.getD_some] at h
      exact .inr (.inl ⟨rfl, congrArg some h.symm⟩)
  | some type =>
    cases hother : other.contentType with
    | none =>
      rw [hanswer, hother, Option.getD_some, Option.getD_none] at h
      exact .inr (.inr ⟨congrArg some h, rfl⟩)
    | some type' =>
      rw [hanswer, hother, Option.getD_some, Option.getD_some] at h
      exact .inl (congrArg some h)

/-- The content type of the first of some answers of one key is that of all of them, unless two
kinds are mixed. -/
theorem forall_eq_iff (hkeys : ∀ answer ∈ answers, answer.typeKey = key)
    (hfirst : answers.head?.map Answer.contentType = some type) :
    (∀ answer ∈ answers, answer.contentType = type) ↔ ¬MixesTypes answers := by
  constructor
  · rintro hall ⟨⟨absent, habsent, hnone⟩, literal, hliteral, hsome⟩
    rw [hall absent habsent] at hnone
    rw [hall literal hliteral, hnone] at hsome
    cases hsome
  · intro hmixes answer hanswer
    obtain ⟨first, hhead, rfl⟩ := Option.map_eq_some_iff.1 hfirst
    have hmem := List.mem_of_mem_head? hhead
    have hkey : answer.typeKey = first.typeKey := (hkeys _ hanswer).trans (hkeys _ hmem).symm
    -- if it differs from the first one, the two of them are the two kinds
    obtain hsame | ⟨hnone, hsome⟩ | ⟨hsome, hnone⟩ := contentType_cases hkey
    · exact hsame
    · exact absurd ⟨⟨answer, hanswer, hnone⟩, first, hmem, hsome⟩ hmixes
    · exact absurd ⟨⟨first, hmem, hnone⟩, answer, hanswer, hsome⟩ hmixes

/-- A bucket that has the content type of its first answer describes its answers. -/
theorem describes_of_first (hkeys : ∀ answer ∈ answers, answer.typeKey = key)
    (htotals : bucket.totals = answers.foldl Totals.add {})
    (hfirst : answers.head?.map Answer.contentType = some bucket.contentType) :
    bucket.Describes key answers where
  totals := htotals
  first := hfirst
  known hknown := by
    obtain ⟨first, hhead, hcontent⟩ := Option.map_eq_some_iff.1 hfirst
    have hkey := hkeys _ (List.mem_of_mem_head? hhead)
    rw [← hcontent, contentType_of_typeKey (hkey ▸ hknown), hkey]
  all_iff := forall_eq_iff hkeys hfirst

/-- The bucket of a content type describes the answers of its key. -/
theorem describes_inType (hkeys : ∀ answer ∈ answers, answer.typeKey = key)
    (h : bucketOf Answer.inType answers = some bucket) : bucket.Describes key answers :=
  describes_of_first hkeys (bucketOf_inType h).1
    (tell_bucketOf Node.contentType (fun _ _ => rfl) h)

/-- The bucket of a status code describes the answers of its key. -/
theorem describes_inStatus (hkeys : ∀ answer ∈ answers, answer.typeKey = key)
    (h : bucketOf Answer.inStatus answers = some bucket) : bucket.Describes key answers :=
  describes_of_first hkeys (bucketOf_inStatus h).1
    (tell_bucketOf Node.contentType (fun _ _ => rfl) h)

end Types

/-! ## Domains -/

/-- Buckets that have been counted one answer after another are labelled. -/
theorem labelled_of_counted {domain : Node} {answers : List Answer}
    (hchildren : domain.children = bucketsOf Answer.typeKey Answer.inType answers) :
    domain.Labelled answers := by
  have htypes : ∀ type ∈ domain.children,
      bucketOf Answer.inType (answers.filter fun answer => answer.typeKey = type.1) =
        some type.2 := by
    rw [hchildren]
    exact fun type htype => bucketOf_of_mem _ _ htype
  have hstatuses : ∀ type ∈ domain.children, type.2.children =
      bucketsOf Answer.statusKey Answer.inStatus
        (answers.filter fun answer => answer.typeKey = type.1) :=
    fun type htype => (bucketOf_inType (htypes type htype)).2
  -- a status code is counted inside the bucket of a type, so among the answers of that type
  have hfilter : ∀ type status : String,
      ((answers.filter fun answer => answer.typeKey = type).filter fun answer =>
        answer.statusKey = status) =
      answers.filter fun answer => answer.typeKey = type ∧ answer.statusKey = status := by
    intro type status
    rw [List.filter_filter]
    simp only [Bool.decide_and, Bool.and_comm]
  have hbucket : ∀ type ∈ domain.children, ∀ status ∈ type.2.children,
      bucketOf Answer.inStatus (answers.filter fun answer =>
        answer.typeKey = type.1 ∧ answer.statusKey = status.1) = some status.2 := by
    intro type htype status hstatus
    rw [hstatuses type htype] at hstatus
    rw [← hfilter]
    exact bucketOf_of_mem _ _ hstatus
  constructor
  case nodup =>
    rw [hchildren]
    exact (ascending_bucketsOf _ _ _).nodup_keys
  case keys =>
    rw [hchildren]
    exact mem_keys_bucketsOf _ _ answers
  case types =>
    exact fun type htype =>
      describes_inType (fun _ hanswer => of_decide_eq_true (List.mem_filter.1 hanswer).2)
        (htypes type htype)
  case nodup_statuses =>
    intro type htype
    rw [hstatuses type htype]
    exact (ascending_bucketsOf _ _ _).nodup_keys
  case statusKeys =>
    intro type htype k
    rw [hstatuses type htype, mem_keys_bucketsOf]
    simp only [List.mem_filter, decide_eq_true_eq, and_assoc]
  case statuses =>
    exact fun type htype status hstatus =>
      describes_inStatus (fun _ hanswer => (of_decide_eq_true (List.mem_filter.1 hanswer).2).1)
        (hbucket type htype status hstatus)
  case codes =>
    intro type htype status hstatus answer hanswer htype' hstatus'
    have hcode := tell_bucketOf Node.statusCode (fun _ _ => rfl)
      (hbucket type htype status hstatus)
    obtain ⟨first, hhead, hfirst⟩ := Option.map_eq_some_iff.1 hcode
    have hkey := (of_decide_eq_true (List.mem_filter.1 (List.mem_of_mem_head? hhead)).2).2
    rw [← hfirst]
    exact statusKey_inj.1 (hstatus'.trans hkey.symm)

namespace Graph

theorem answer_linkUrl (edges : List (Node × Node)) (node : Node) :
    (linkUrl edges node).answer = node.answer := by
  obtain ⟨parentId, outlinks, totals, hlinked⟩ := exists_linkUrl_eq edges node
  rw [hlinked]
  rfl

end Graph

section Finished

variable {job : Int64} {seeds : List String} {updates : List Update}

/-- The URLs of a domain have the answers of the captures of its name. -/
theorem map_answer_membersOf (name : String) :
    (Graph.membersOf (Network.ofUpdates job seeds updates).urls name).map Node.answer =
      (Graph.membersOf (Builder.ofUpdates job seeds updates).placed name).map Node.answer := by
  rw [urls_eq_linkUrl, Graph.membersOf, List.filter_map, List.map_map]
  simp only [Function.comp_def, Graph.url_linkUrl, Graph.answer_linkUrl]
  rfl

/-- The buckets of a domain of a finished graph are labelled. -/
theorem labelled_of_mem_domains {domain : Node}
    (h : domain ∈ (Network.ofUpdates job seeds updates).domains) :
    domain.Labelled
      ((Graph.membersOf (Network.ofUpdates job seeds updates).urls domain.url).map
        Node.answer) := by
  rw [domains_eq] at h
  obtain ⟨entry, -, rfl⟩ := List.mem_map.1 h
  rw [Graph.url_finishedDomain, map_answer_membersOf]
  exact labelled_of_counted (Graph.children_finishedDomain _ entry)

/-- A URL whose name tells a domain has one of this name in the graph. -/
theorem mem_domains_of_domainOf {node : Node} {name : String}
    (h : node ∈ (Network.ofUpdates job seeds updates).urls)
    (hname : Url.domainOf node.url = some name) :
    name ∈ (Network.ofUpdates job seeds updates).domains.map Node.url := by
  rw [urls_eq_linkUrl] at h
  obtain ⟨placed, hplaced, rfl⟩ := List.mem_map.1 h
  rw [Graph.url_linkUrl] at hname
  rw [names_domains, ← Builder.map_fst_domainIds]
  exact mem_map_fst_domainIds.2 ⟨placed, hplaced, hname⟩

end Finished

/-- **Buckets.** The buckets of each domain of a finished graph describe the URLs of the domain that
they count, and each URL whose name tells a domain is counted in one of the graph. -/
theorem labelled_ofUpdates (job : Int64) (seeds : List String) (updates : List Update) :
    let network := Network.ofUpdates job seeds updates
    (∀ domain ∈ network.domains,
        domain.Labelled ((Graph.membersOf network.urls domain.url).map Node.answer)) ∧
      ∀ node ∈ network.urls, ∀ name, Url.domainOf node.url = some name →
        name ∈ network.domains.map Node.url :=
  ⟨fun _ hdomain => labelled_of_mem_domains hdomain,
    fun _ hnode _ hname => mem_domains_of_domainOf hnode hname⟩

/-- A URL without a content type, and one of the same domain whose content type is `unknown`: they
are counted in one bucket, which says that there is no content type. -/
theorem unknown_type_shared :
    let network := Network.ofUpdates 1 [] [
      ⟨"a", "http://a.example/", 0, .exchange ⟨200, none, 1⟩⟩,
      ⟨"b", "http://a.example/b", 10, .exchange ⟨200, some "unknown", 2⟩⟩]
    ∃ domain ∈ network.domains, ∃ type ∈ domain.children,
      (type.2.contentType = none ∧ type.2.totals = ⟨2, 2, 0, 3⟩) ∧
        ∃ node ∈ Graph.membersOf network.urls domain.url,
          node.answer.typeKey = type.1 ∧ node.contentType ≠ type.2.contentType := by
  decide +kernel

end CrawlGraph
