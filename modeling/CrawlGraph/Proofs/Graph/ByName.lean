import CrawlGraph.Proofs.Graph.DomainLinks

/-!
# Domains by name

Archives can be read in any order: as long as the updates of each session stay in their order, the
domains of the finished graph are the same, read by name (`sameByName_of_perm`). Identifiers, the
order of links and the first capture of a URL may differ.

1. Apart from their numbers the captures of both graphs are the same (`perm_unnumbered`), as each of
   them is read off the updates of its own session.
2. The sums and buckets of a domain do not depend on the order in which its URLs are counted
   (`foldl_add_of_perm`, `map_bucketsOf_of_perm`).
3. Two domains are linked if a URL of one was found on some URL of the other, whichever capture of
   that URL came first (`linksNames_iff`, `reaches_iff`).
-/

namespace CrawlGraph

/-! ## Captures without their numbers -/

/-- What a capture says, without its place among the others. -/
def Node.unnumbered (node : Node) : Node := { node with id := 0, domainId := missingId }

theorem unnumbered_placed (job : Int64) (seeds : List String) (updates : List Update) :
    (Builder.ofUpdates job seeds updates).placed.map Node.unnumbered =
      (sessionKeys updates).map fun key =>
        (Session.ofUpdates seeds key 0 (updatesOf key updates)).counted := by
  unfold Builder.placed Builder.counted Builder.ofUpdates sessionsOf
  simp only [List.map_map]
  conv_rhs => rw [← List.zipIdx_map_fst 0 (sessionKeys updates), List.map_map]
  rfl

section Perm

variable {updates others : List Update}

theorem perm_sessionKeys (hperm : updates.Perm others) :
    (sessionKeys updates).Perm (sessionKeys others) := by
  refine (List.perm_ext_iff_of_nodup (nodup_sessionKeys _) (nodup_sessionKeys _)).2 fun key => ?_
  rw [mem_sessionKeys, mem_sessionKeys]
  simp only [hperm.mem_iff]

/-- But for their numbers the captures are the same, in another order. -/
theorem perm_unnumbered (job : Int64) (seeds : List String) (hperm : updates.Perm others)
    (hown : ∀ key ∈ sessionKeys updates, updatesOf key updates = updatesOf key others) :
    ((Builder.ofUpdates job seeds updates).placed.map Node.unnumbered).Perm
      ((Builder.ofUpdates job seeds others).placed.map Node.unnumbered) := by
  have hcaptures : (sessionKeys updates).map (fun key =>
      (Session.ofUpdates seeds key 0 (updatesOf key updates)).counted) =
      (sessionKeys updates).map fun key =>
        (Session.ofUpdates seeds key 0 (updatesOf key others)).counted := by
    refine List.map_congr_left fun key hkey => ?_
    rw [hown key hkey]
  rw [unnumbered_placed, unnumbered_placed, hcaptures]
  exact (perm_sessionKeys hperm).map _

end Perm

/-! ## Sums and buckets -/

/-- It does not matter in which order answers are counted. -/
instance : RightCommutative Totals.add where
  right_comm totals first second := by
    have hsize : totals.size + max first.contentLength 0 + max second.contentLength 0 =
        totals.size + max second.contentLength 0 + max first.contentLength 0 := by
      rw [Int64.add_assoc, Int64.add_comm (max first.contentLength 0), ← Int64.add_assoc]
    unfold Totals.add Totals.count
    by_cases hfirst : isSuccess first.statusCode <;>
      by_cases hsecond : isSuccess second.statusCode <;> simp [hfirst, hsecond, hsize]

theorem foldl_add_of_perm {answers others : List Answer} (h : answers.Perm others) :
    answers.foldl Totals.add {} = others.foldl Totals.add {} := h.foldl_eq _

section Buckets

variable {β : Type} {step : Answer → Option Node → Node} {tell : Node → β}
  {sum : List Answer → β}
  (htell : ∀ {answers : List Answer} {node : Node}, bucketOf step answers = some node →
    tell node = sum answers)
  (hsum : ∀ {answers others : List Answer}, answers.Perm others → sum answers = sum others)

include htell hsum

theorem map_bucketOf_of_perm {answers others : List Answer} (h : answers.Perm others) :
    (bucketOf step answers).map tell = (bucketOf step others).map tell := by
  cases hanswers : bucketOf step answers with
  | none =>
    obtain rfl := (bucketOf_eq_none _).1 hanswers
    rw [List.nil_perm.1 h, (bucketOf_eq_none _).2 rfl]
  | some node =>
    cases hothers : bucketOf step others with
    | none =>
      obtain rfl := (bucketOf_eq_none _).1 hothers
      rw [List.perm_nil.1 h, (bucketOf_eq_none _).2 rfl] at hanswers
      cases hanswers
    | some other => rw [Option.map_some, Option.map_some, htell hanswers, htell hothers, hsum h]

/-- What buckets tell does not depend on the order of the answers if what a single one tells does
not. -/
theorem map_bucketsOf_of_perm (key : Answer → String) {answers others : List Answer}
    (h : answers.Perm others) :
    (bucketsOf key step answers).map (fun entry => (entry.1, tell entry.2)) =
      (bucketsOf key step others).map fun entry => (entry.1, tell entry.2) := by
  have hascending : ∀ found, Sorted.Ascending
      ((bucketsOf key step found).map fun entry => (entry.1, tell entry.2)) := by
    intro found
    unfold Sorted.Ascending
    rw [List.pairwise_map]
    exact ascending_bucketsOf key step found
  refine Sorted.eq_of_find? (hascending _) (hascending _) fun k => ?_
  rw [Sorted.find?_map, Sorted.find?_map, find?_bucketsOf, find?_bucketsOf]
  exact map_bucketOf_of_perm htell hsum (h.filter _)

end Buckets

/-- The sums of a node, and the keys of the buckets in it with theirs. -/
def Node.sums (node : Node) : Totals × List (String × Totals) :=
  (node.totals, node.children.map fun entry => (entry.1, entry.2.totals))

/-- The content types of a domain, each with its sums and those of the status codes in it. -/
def Node.tally (domain : Node) : List (String × Totals × List (String × Totals)) :=
  domain.children.map fun entry => (entry.1, entry.2.sums)

/-- The sums of a bucket of a content type, as its answers make them. -/
def sumsOf (answers : List Answer) : Totals × List (String × Totals) :=
  (answers.foldl Totals.add {},
    (bucketsOf Answer.statusKey Answer.inStatus answers).map fun entry =>
      (entry.1, entry.2.totals))

theorem sums_inType {answers : List Answer} {node : Node}
    (h : bucketOf Answer.inType answers = some node) : node.sums = sumsOf answers := by
  obtain ⟨htotals, hchildren⟩ := bucketOf_inType h
  unfold Node.sums sumsOf
  rw [htotals, hchildren]

theorem sumsOf_of_perm {answers others : List Answer} (h : answers.Perm others) :
    sumsOf answers = sumsOf others := by
  have hstatuses := map_bucketsOf_of_perm (fun hfound => (bucketOf_inStatus hfound).1)
    foldl_add_of_perm Answer.statusKey h
  unfold sumsOf
  rw [foldl_add_of_perm h, hstatuses]

/-! ## Domains of captures -/

namespace Graph

variable {urls others : List Node}

/-- A URL of the domain `b` was found on one of the domain `a`. -/
def LinksNames (urls : List Node) (a b : String) : Prop :=
  a ≠ b ∧ ∃ child ∈ urls, Url.domainOf child.url = some b ∧
    ∃ parent ∈ urls, child.via = some parent.url ∧ Url.domainOf parent.url = some a

section Perm

variable (h : (urls.map Node.unnumbered).Perm (others.map Node.unnumbered))

include h

theorem perm_membersOf (name : String) :
    ((membersOf urls name).map Node.unnumbered).Perm
      ((membersOf others name).map Node.unnumbered) := by
  have hmembers : ∀ nodes : List Node, (membersOf nodes name).map Node.unnumbered =
      (nodes.map Node.unnumbered).filter fun node => Url.domainOf node.url == some name := by
    intro nodes
    rw [List.filter_map]
    rfl
  rw [hmembers, hmembers]
  exact h.filter _

theorem perm_answers (name : String) :
    ((membersOf urls name).map Node.answer).Perm ((membersOf others name).map Node.answer) := by
  have hanswers := (perm_membersOf h name).map Node.answer
  rw [List.map_map, List.map_map] at hanswers
  exact hanswers

theorem any_isSeed_of_perm (name : String) :
    (membersOf urls name).any (·.isSeed) = (membersOf others name).any (·.isSeed) := by
  have hany := (perm_membersOf h name).any_eq (f := Node.isSeed)
  rw [List.any_map, List.any_map] at hany
  exact hany

/-- Each capture is one of the other list, but for its numbers. -/
theorem exists_unnumbered {node : Node} (hnode : node ∈ urls) :
    ∃ other ∈ others, other.url = node.url ∧ other.via = node.via := by
  obtain ⟨other, hother, heq⟩ := List.mem_map.1 (h.mem_iff.1 (List.mem_map_of_mem hnode))
  have hurl : other.unnumbered.url = node.unnumbered.url := by rw [heq]
  have hvia : other.unnumbered.via = node.unnumbered.via := by rw [heq]
  exact ⟨other, hother, hurl, hvia⟩

theorem LinksNames.of_perm {a b : String} (hlinks : LinksNames urls a b) :
    LinksNames others a b := by
  obtain ⟨hne, child, hchild, hchildName, parent, hparent, hvia, hparentName⟩ := hlinks
  obtain ⟨child', hchild', hchildUrl, hchildVia⟩ := exists_unnumbered h hchild
  obtain ⟨parent', hparent', hparentUrl, -⟩ := exists_unnumbered h hparent
  refine ⟨hne, child', hchild', ?_, parent', hparent', ?_, ?_⟩
  · rw [hchildUrl, hchildName]
  · rw [hchildVia, hvia, hparentUrl]
  · rw [hparentUrl, hparentName]

end Perm

/-- Whichever capture of a URL comes first, it has the domain of all of them. -/
theorem linksNames_iff (h : Unlinked urls) {a b : String} :
    LinksNames urls a b ↔ a ≠ b ∧ ∃ child ∈ urls, Url.domainOf child.url = some b ∧
      ∃ parent, parent? urls child = some parent ∧ Url.domainOf parent.url = some a := by
  refine and_congr_right fun hne => exists_congr fun child => and_congr_right fun hchild =>
    and_congr_right fun hchildName => ?_
  constructor
  · rintro ⟨parent, hparent, hvia, hparentName⟩
    obtain ⟨first, hfirst⟩ : ∃ first, urls.find? (·.url == parent.url) = some first :=
      Option.isSome_iff_exists.1 (List.find?_isSome.2 ⟨parent, hparent, beq_self_eq_true _⟩)
    have hurl : first.url = parent.url := by simpa using List.find?_some hfirst
    refine ⟨first, parent?_eq_some.2 ⟨⟨_, hvia, hfirst⟩, ?_⟩, hurl ▸ hparentName⟩
    -- a URL that was found on itself has but one domain
    intro hid
    obtain rfl := h.eq_of_id (List.mem_of_find?_eq_some hfirst) hchild hid
    rw [hurl, hparentName] at hchildName
    exact hne (Option.some.inj hchildName)
  · rintro ⟨parent, hparent, hparentName⟩
    obtain ⟨⟨via, hvia, hfound⟩, -⟩ := parent?_eq_some.1 hparent
    obtain rfl : parent.url = via := by simpa using List.find?_some hfound
    exact ⟨parent, List.mem_of_find?_eq_some hfound, hvia, hparentName⟩

end Graph

/-! ## Finished graphs -/

/-- A domain of a graph has a link to the domain of a name. -/
def Network.Reaches (network : Network) (domain : Node) (name : String) : Prop :=
  ∃ other ∈ network.domains, other.id ∈ domain.outlinks ∧ other.url = name

/-- Domains of two graphs say the same but for identifiers and the order of links. -/
structure Network.SameDomain (network other : Network) (a b : Node) : Prop where
  isSeed : a.isSeed = b.isSeed
  totals : a.totals = b.totals
  /-- The content types and status codes are the same and have the same sums. -/
  tally : a.tally = b.tally
  reaches : ∀ name, network.Reaches a name ↔ other.Reaches b name

/-- The domains of two graphs are the same, read by name. -/
structure Network.SameByName (network other : Network) : Prop where
  names : ∀ name, name ∈ network.domains.map Node.url ↔ name ∈ other.domains.map Node.url
  domains : ∀ a ∈ network.domains, ∀ b ∈ other.domains, a.url = b.url →
    network.SameDomain other a b

section Finished

variable {job : Int64} {seeds : List String} {updates others : List Update}

theorem reaches_iff (h : (Network.ofUpdates job seeds updates).Fits) {entry : String × Int64}
    (hentry : entry ∈ (Builder.ofUpdates job seeds updates).domainIds) {name : String} :
    (Network.ofUpdates job seeds updates).Reaches
        (Graph.finishedDomain (Builder.ofUpdates job seeds updates).placed entry) name ↔
      Graph.LinksNames (Builder.ofUpdates job seeds updates).placed entry.1 name := by
  have hids : ∀ other ∈ (Builder.ofUpdates job seeds updates).domainIds,
      other.2 ≠ entry.2 ↔ entry.1 ≠ other.1 := by
    intro other hother
    refine not_congr ⟨fun hid => ?_, fun hname => ?_⟩
    · rw [List.inj_on_of_nodup_map h.nodup_domainIds hother hentry hid]
    · rw [List.inj_on_of_nodup_map Builder.nodup_map_fst_domainIds hentry hother hname]
  unfold Network.Reaches
  rw [Graph.linksNames_iff h.unlinked, domains_eq]
  simp only [List.mem_map, exists_exists_and_eq_and, Graph.id_finishedDomain,
    Graph.url_finishedDomain, Graph.mem_outlinks_finishedDomain]
  constructor
  · rintro ⟨other, hother, ⟨hne, -, child, hchild, hchildId, parent, hparent, hparentId⟩, rfl⟩
    exact ⟨(hids other hother).1 hne, child, hchild, (domainId_eq_iff h hchild hother).1 hchildId,
      parent, hparent,
      (domainId_eq_iff h (Graph.mem_of_parent? hparent) hentry).1 hparentId⟩
  · rintro ⟨hne, child, hchild, hchildName, parent, hparent, hparentName⟩
    obtain ⟨id, hother, hchildId⟩ := exists_entry h hchild hchildName
    exact ⟨(name, id), hother, ⟨(hids _ hother).2 hne, h.ne_missing hother, child, hchild, hchildId,
      parent, hparent, (domainId_eq_iff h (Graph.mem_of_parent? hparent) hentry).2 hparentName⟩, rfl⟩

section Perm

variable (hperm : updates.Perm others)
  (hown : ∀ key ∈ sessionKeys updates, updatesOf key updates = updatesOf key others)

include hperm hown

theorem perm_domainNames :
    (Builder.ofUpdates job seeds updates).domainNames.Perm
      (Builder.ofUpdates job seeds others).domainNames := by
  have hcaptures := perm_unnumbered job seeds hperm hown
  refine (List.perm_ext_iff_of_nodup Builder.nodup_domainNames Builder.nodup_domainNames).2
    fun name => ?_
  rw [← Builder.map_fst_domainIds, ← Builder.map_fst_domainIds, mem_map_fst_domainIds,
    mem_map_fst_domainIds]
  constructor
  · rintro ⟨node, hnode, hname⟩
    obtain ⟨other, hother, hurl, -⟩ := Graph.exists_unnumbered hcaptures hnode
    exact ⟨other, hother, hurl ▸ hname⟩
  · rintro ⟨node, hnode, hname⟩
    obtain ⟨other, hother, hurl, -⟩ := Graph.exists_unnumbered hcaptures.symm hnode
    exact ⟨other, hother, hurl ▸ hname⟩

/-- Both graphs have as many nodes. -/
theorem Network.Fits.of_perm (h : (Network.ofUpdates job seeds updates).Fits) :
    (Network.ofUpdates job seeds others).Fits := by
  unfold Network.Fits at h ⊢
  rw [length_urls, length_domains] at h ⊢
  rw [← (perm_sessionKeys hperm).length_eq, ← (perm_domainNames hperm hown).length_eq]
  exact h

end Perm

end Finished

/-- **Order.** Updates in another order in which those of each session stay in theirs give the same
domains, read by name. -/
theorem sameByName_of_perm (job : Int64) (seeds : List String) {updates others : List Update}
    (hperm : updates.Perm others)
    (hown : ∀ key ∈ sessionKeys updates, updatesOf key updates = updatesOf key others)
    (h : (Network.ofUpdates job seeds updates).Fits) :
    (Network.ofUpdates job seeds updates).SameByName (Network.ofUpdates job seeds others) := by
  have h' := h.of_perm hperm hown
  have hcaptures := perm_unnumbered job seeds hperm hown
  constructor
  case names =>
    intro name
    rw [names_domains, names_domains]
    exact (perm_domainNames hperm hown).mem_iff
  case domains =>
    simp only [domains_eq, List.forall_mem_map]
    intro a ha b hb hname
    rw [Graph.url_finishedDomain, Graph.url_finishedDomain] at hname
    constructor
    case isSeed =>
      rw [Graph.isSeed_finishedDomain, Graph.isSeed_finishedDomain, hname]
      exact Graph.any_isSeed_of_perm hcaptures b.1
    case totals =>
      rw [Graph.totals_finishedDomain, Graph.totals_finishedDomain, hname]
      exact foldl_add_of_perm (Graph.perm_answers hcaptures b.1)
    case tally =>
      unfold Node.tally
      rw [Graph.children_finishedDomain, Graph.children_finishedDomain, hname]
      exact map_bucketsOf_of_perm sums_inType sumsOf_of_perm Answer.typeKey
        (Graph.perm_answers hcaptures b.1)
    case reaches =>
      intro name
      rw [reaches_iff h ha, reaches_iff h' hb, hname]
      exact ⟨.of_perm hcaptures, .of_perm hcaptures.symm⟩

/-- A URL that was captured twice, and a URL that was found on it, read in two orders. -/
theorem sameByName_of_perm_twice :
    let first : Update := ⟨"a", "http://a.example/", 0, .exchange ⟨200, some "text/html", 5⟩⟩
    let again : Update := ⟨"b", "http://a.example/", 10, .exchange ⟨404, none, 7⟩⟩
    let found : Update := ⟨"c", "http://c.example/", 20, .exchange ⟨200, none, -1⟩⟩
    let told : Update := ⟨"c", "http://c.example/", 30, .metadata (some "http://a.example/") true⟩
    let updates := [first, again, found, told]
    let others := [found, again, told, first]
    let network := Network.ofUpdates 1 [] updates
    let other := Network.ofUpdates 1 [] others
    updates.Perm others ∧
      (∀ key ∈ sessionKeys updates, updatesOf key updates = updatesOf key others) ∧
      network.Fits ∧ network.SameByName other ∧
      network.domains.map (fun domain => (domain.id, domain.url, domain.totals, domain.outlinks)) =
        [(4, "a.example", ⟨2, 1, 1, 12⟩, [5]), (5, "c.example", ⟨1, 1, 0, 0⟩, [])] ∧
      other.domains.map (fun domain => (domain.id, domain.url, domain.totals, domain.outlinks)) =
        [(4, "c.example", ⟨1, 1, 0, 0⟩, []), (5, "a.example", ⟨2, 1, 1, 12⟩, [4])] := by
  intro first again found told updates others network other
  have hperm : updates.Perm others := by decide +kernel
  have hown : ∀ key ∈ sessionKeys updates, updatesOf key updates = updatesOf key others := by
    decide +kernel
  have hfits : network.Fits := fits_of_length (by decide)
  exact ⟨hperm, hown, hfits, sameByName_of_perm 1 [] hperm hown hfits, by decide +kernel,
    by decide +kernel⟩

end CrawlGraph
