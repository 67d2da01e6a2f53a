import CrawlGraph.Proofs.Graph.Buckets
import CrawlGraph.Proofs.Index.Sizes
import CrawlGraph.Proofs.Query.Searched
import CrawlGraph.Proofs.Text.Ascii

/-!
# Searches by content type

In the saved graph of some archives, a search for the key of a content type finds each URL that the
bucket of this key counts, and a search for the key and a status code those in the bucket of the
code (`findsCounted_of_streams`). The key `unknown` is left out: a search for it does not find URLs
without a content type.

1. The media type of a response is in a normal form (`isMediaType_of_mediaType?`), and a content
   type of a graph is that of some response (`exists_update_of_contentType`).
2. A URL that is counted in the bucket of another key than `unknown` has this key for its content
   type (`contentType_of_mem_countedByType`), and white space cannot be cut from it, so a filter
   that asks for the key accepts the URL (`accepts_own_type`).
-/

namespace CrawlGraph

/-! ## Media types -/

namespace Archive

/-- The normal form of media types: something is left of them without their parameters and the white
space at their ends, and it is in small letters. -/
structure IsMediaType (type : String) : Prop where
  ne_empty : type ≠ ""
  no_parameter : ';' ∉ type.toList
  trimmed : Text.IsTrimmed type.toList
  small : ∀ c ∈ type.toList, c.isUpper = false

variable {type : String} {record : Record} {update : Update} {answer : Answer}

theorem isMediaType_of_mediaType? {value : String} (h : mediaType? value = some type) :
    IsMediaType type := by
  unfold mediaType? at h
  dsimp only at h
  split at h
  · cases h
  rename_i hne
  cases h
  constructor
  case ne_empty =>
    intro hempty
    refine hne (List.isEmpty_iff.2 ?_)
    simpa [Text.lower] using hempty
  case no_parameter =>
    rw [String.toList_ofList]
    intro hmem
    obtain ⟨c, hc, hlower⟩ := List.mem_map.1 hmem
    obtain rfl := Text.eq_of_toLower_eq (by decide) hlower
    have hplain := List.mem_takeWhile_imp (Text.mem_of_mem_trim hc)
    simp at hplain
  case trimmed =>
    rw [String.toList_ofList]
    exact (Text.isTrimmed_trim _).lower
  case small =>
    rw [String.toList_ofList]
    intro c hc
    obtain ⟨d, -, rfl⟩ := List.mem_map.1 hc
    exact Char.isUpper_toLower_eq_false d

theorem isMediaType_of_answer (h : record.answer = .ok answer) :
    ∀ type ∈ answer.contentType, IsMediaType type := by
  obtain ⟨response, -, hanswer⟩ := bind_eq_ok.1 h
  cases hanswer
  intro type htype
  obtain ⟨value, -, hvalue⟩ := Option.bind_eq_some_iff.1 htype
  exact isMediaType_of_mediaType? hvalue

/-- An answer that is read from an archive has a content type in normal form, or none. -/
theorem isMediaType_of_mem_updates {stream : Stream} (h : update ∈ stream.updates)
    (hanswer : update.fact.answer? = some answer) :
    ∀ type ∈ answer.contentType, IsMediaType type := by
  obtain ⟨record, -, hupdate⟩ := mem_recordUpdates.1 h
  exact isMediaType_of_answer (answer_of_update hupdate hanswer)

end Archive

/-! ## Content types of graphs -/

/-- The content type of a session is that of one of its answers. -/
theorem exists_update_of_session {seeds : List String} {key : String} {id : Int64}
    {own : List Update} {type : String}
    (h : (Session.ofUpdates seeds key id own).node.contentType = some type) :
    ∃ update ∈ own, ∃ answer, update.fact.answer? = some answer ∧
      answer.contentType = some type := by
  obtain ⟨found, hlast, hfound⟩ := Option.bind_eq_some_iff.1 h
  obtain ⟨update, hupdate, htold⟩ := exists_of_lastTold hlast
  obtain ⟨answer, hanswer, rfl⟩ := Option.map_eq_some_iff.1 htold
  exact ⟨update, hupdate, answer, hanswer, hfound⟩

section Finished

variable {job : Int64} {seeds : List String} {updates : List Update}

theorem answers_urls :
    (Network.ofUpdates job seeds updates).urls.map Node.answer =
      (sessionsOf seeds updates).map fun session => session.node.answer := by
  rw [urls_eq_linkUrl, List.map_map, ← @answers_placed job]
  exact List.map_congr_left fun node _ => Graph.answer_linkUrl _ node

/-- The content type of a URL is that of one of the answers. -/
theorem exists_update_of_contentType {node : Node}
    (hnode : node ∈ (Network.ofUpdates job seeds updates).urls) {type : String}
    (htype : node.contentType = some type) :
    ∃ update ∈ updates, ∃ answer, update.fact.answer? = some answer ∧
      answer.contentType = some type := by
  have hmem := List.mem_map_of_mem (f := Node.answer) hnode
  rw [answers_urls] at hmem
  obtain ⟨session, hsession, hsame⟩ := List.mem_map.1 hmem
  obtain ⟨⟨key, i⟩, -, rfl⟩ := List.mem_map.1 hsession
  have hcontent : (Session.ofUpdates seeds key (Int64.ofNat (i + 1))
      (updatesOf key updates)).node.contentType = some type :=
    (congrArg Answer.contentType hsame).trans htype
  obtain ⟨update, hupdate, htold⟩ := exists_update_of_session hcontent
  exact ⟨update, List.mem_of_mem_filter hupdate, htold⟩

end Finished

theorem isMediaType_of_mem_urls {job : Int64} {seeds : List String} {streams : List Archive.Stream}
    {node : Node}
    (hnode : node ∈ (Network.ofUpdates job seeds (streams.flatMap Archive.Stream.updates)).urls) :
    ∀ type ∈ node.contentType, Archive.IsMediaType type := by
  intro type htype
  obtain ⟨update, hupdate, answer, hanswer, hcontent⟩ := exists_update_of_contentType hnode htype
  obtain ⟨stream, -, hstream⟩ := List.mem_flatMap.1 hupdate
  exact Archive.isMediaType_of_mem_updates hstream hanswer type hcontent

/-! ## URLs in buckets -/

namespace Network

variable {network : Network} {domain : Node} {type status : String} {node : Node}

/-- The URLs of a domain that are counted in the bucket of a content type. -/
def countedByType (network : Network) (domain : Node) (type : String) : List Node :=
  (Graph.membersOf network.urls domain.url).filter fun node => node.answer.typeKey = type

/-- The URLs of a domain that are counted in the bucket of a content type and in it in that of a
status code. -/
def countedByStatus (network : Network) (domain : Node) (type status : String) : List Node :=
  (Graph.membersOf network.urls domain.url).filter fun node =>
    node.answer.typeKey = type ∧ node.answer.statusKey = status

theorem mem_countedByType :
    node ∈ network.countedByType domain type ↔
      node ∈ Graph.membersOf network.urls domain.url ∧ node.answer.typeKey = type := by
  simp [countedByType]

theorem mem_countedByStatus :
    node ∈ network.countedByStatus domain type status ↔
      node ∈ network.countedByType domain type ∧ node.answer.statusKey = status := by
  simp [countedByStatus, countedByType, and_assoc]

theorem mem_urls_of_mem_countedByType (h : node ∈ network.countedByType domain type) :
    node ∈ network.urls := (Graph.mem_membersOf.1 (mem_countedByType.1 h).1).1

theorem answers_countedByType :
    (network.countedByType domain type).map Node.answer =
      ((Graph.membersOf network.urls domain.url).map Node.answer).filter fun answer =>
        answer.typeKey = type := by
  rw [List.filter_map]
  rfl

theorem answers_countedByStatus :
    (network.countedByStatus domain type status).map Node.answer =
      ((Graph.membersOf network.urls domain.url).map Node.answer).filter fun answer =>
        answer.typeKey = type ∧ answer.statusKey = status := by
  rw [List.filter_map]
  rfl

theorem contentType_of_mem_countedByType (htype : type ≠ unknownType)
    (h : node ∈ network.countedByType domain type) : node.contentType = some type := by
  obtain ⟨-, rfl⟩ := mem_countedByType.1 h
  exact contentType_of_typeKey htype

end Network

/-! ## Searches -/

/-- A filter that asks for a content type as it is accepts the URLs that have it. -/
theorem accepts_own_type {node : Node} {type : String} {codes : List Int32}
    (htype : Archive.IsMediaType type) (hnode : node.contentType = some type)
    (hcodes : codes ≠ [] → node.statusCode ∈ codes) :
    Filter.Accepts { contentTypes := [type], statusCodes := codes } node where
  domain := absurd rfl
  type _ := by
    refine ⟨type, List.mem_singleton_self _, type, hnode, ?_⟩
    rw [Text.trim_of_isTrimmed htype.trimmed]
  status := hcodes

/-- A bucket counts some URLs, and a search gives them all. -/
structure Database.FindsCounted (db : Database) (job : Int64) (filter : Filter) (bucket : Node)
    (nodes : List Node) : Prop where
  totals : bucket.totals = (nodes.map Node.answer).foldl Totals.add {}
  found : ∃ found, db.search job filter = .ok found ∧ nodes ⊆ found

theorem Database.SearchGives.subset {db : Database} {job : Int64} {filter : Filter}
    {urls nodes : List Node} {p : Node → Prop} (h : db.SearchGives job filter urls p)
    (hnodes : ∀ node ∈ nodes, node ∈ urls ∧ p node) :
    ∃ found, db.search job filter = .ok found ∧ nodes ⊆ found := by
  obtain ⟨found, hfound, -, hmem⟩ := h
  exact ⟨found, hfound, fun node hnode => (hmem node).2 (hnodes node hnode)⟩

/-- **Content types.** The content types of URLs from archives are in normal form. In a store into
which the graph of the archives has been saved, a search for the key of a content type gives all
URLs that its bucket counts, and a search for it and the number of a status code those of the bucket
in it. -/
theorem findsCounted_of_streams (job : Int64) (seeds : List String)
    (streams : List Archive.Stream)
    (hfits : (Network.ofUpdates job seeds (streams.flatMap Archive.Stream.updates)).Fits)
    (before saved : Database) (completedAt : String) (count : ℕ)
    (hsaved : before.saveNetwork
      (Network.ofUpdates job seeds (streams.flatMap Archive.Stream.updates)) completedAt =
      (.ok count, saved)) :
    let network := Network.ofUpdates job seeds (streams.flatMap Archive.Stream.updates)
    (∀ node ∈ network.urls, ∀ type ∈ node.contentType, Archive.IsMediaType type) ∧
      ∀ domain ∈ network.domains, ∀ type ∈ domain.children, type.1 ≠ unknownType →
        saved.FindsCounted job { contentTypes := [type.1] } type.2
            (network.countedByType domain type.1) ∧
          ∀ status ∈ type.2.children, ∃ code, Text.readInt32 status.1.toList = some code ∧
            saved.FindsCounted job { contentTypes := [type.1], statusCodes := [code] } status.2
              (network.countedByStatus domain type.1 status.1) := by
  intro network
  have hnormal : ∀ node ∈ network.urls, ∀ type ∈ node.contentType, Archive.IsMediaType type :=
    fun node hnode => isMediaType_of_mem_urls hnode
  have hstorable : network.Storable := storable_ofUpdates hfits
  have hgives := Database.searchGives_of_keeps
    (Database.keeps_of_save hstorable.nodup_ids hsaved) hstorable
  rw [job_ofUpdates] at hgives
  refine ⟨hnormal, ?_⟩
  intro domain hdomain type htype hknown
  have hlabelled := labelled_of_mem_domains hdomain
  -- no other content type has the key of this bucket, as it is not the one of missing types
  have hown : ∀ node ∈ network.countedByType domain type.1,
      node ∈ network.urls ∧ node.contentType = some type.1 ∧ Archive.IsMediaType type.1 := by
    intro node hnode
    have hurl := Network.mem_urls_of_mem_countedByType hnode
    have hcontent := Network.contentType_of_mem_countedByType hknown hnode
    exact ⟨hurl, hcontent, hnormal node hurl type.1 hcontent⟩
  refine ⟨⟨?_, (hgives _).subset fun node hnode => ?_⟩, fun status hstatus => ?_⟩
  · rw [(hlabelled.types type htype).totals, Network.answers_countedByType]
  · obtain ⟨hurl, hcontent, hnormal⟩ := hown node hnode
    exact ⟨hurl, accepts_own_type hnormal hcontent (absurd rfl)⟩
  · obtain ⟨answer, -, -, hcode⟩ :=
      (hlabelled.statusKeys type htype status.1).1 (List.mem_map_of_mem hstatus)
    refine ⟨answer.statusCode, ?_, ?_, (hgives _).subset fun node hnode => ?_⟩
    · rw [← hcode]
      exact Text.readInt32_toString answer.statusCode
    · rw [(hlabelled.statuses type htype status hstatus).totals, Network.answers_countedByStatus]
    · obtain ⟨htypeNode, hstatusNode⟩ := Network.mem_countedByStatus.1 hnode
      obtain ⟨hurl, hcontent, hnormal⟩ := hown node htypeNode
      refine ⟨hurl, accepts_own_type hnormal hcontent fun _ => List.mem_singleton.2 ?_⟩
      exact statusKey_inj.1 (hstatusNode.trans hcode.symm)

/-- Two pages from archives of both formats, with the same media type in other letters and with a
parameter. -/
theorem findsCounted_of_streams_two :
    let page := "WARC/1.0\nWARC-Type: response\nWARC-Record-ID: a\n" ++
      "WARC-Target-URI: http://a/\nContent-Length: 45\n\n" ++
      "HTTP/1.1 200\nContent-Type: Text/HTML ;q=1\n\nhi"
    let other := "http://a/b 0.0.0.0 0 - 39\nHTTP/1.1 404\nContent-Type: \ttext/html\n\n"
    let streams : List Archive.Stream :=
      [⟨.warc, Utf8.ofString page, none⟩, ⟨.arc, Utf8.ofString other, none⟩]
    let network := Network.ofUpdates 1 [] (streams.flatMap Archive.Stream.updates)
    network.Fits ∧ ∃ count saved, ({} : Database).saveNetwork network "now" = (.ok count, saved) ∧
      (∀ domain ∈ network.domains, ∀ type ∈ domain.children, type.1 ≠ unknownType →
        saved.FindsCounted 1 { contentTypes := [type.1] } type.2
          (network.countedByType domain type.1)) ∧
      network.domains.map (fun domain => domain.children.map fun type =>
          (type.1, (network.countedByType domain type.1).map Node.id)) =
        [[("text/html", [1, 2])]] := by
  intro page other streams network
  have hupdates : streams.flatMap Archive.Stream.updates =
      [⟨"a", "http://a/", 0, .response ⟨200, some "text/html", 2⟩⟩,
        ⟨"http://a/b", "http://a/b", 0, .exchange ⟨404, some "text/html", 0⟩⟩] := by
    decide +kernel
  have hfits : network.Fits := fits_of_length (by rw [hupdates]; decide)
  obtain ⟨saved, hsave⟩ := Database.exists_save {} network "now" rfl
  obtain ⟨-, hfinds⟩ := findsCounted_of_streams 1 [] streams hfits {} saved "now" _ hsave
  refine ⟨hfits, _, saved, hsave,
    fun domain hdomain type htype hknown => (hfinds domain hdomain type htype hknown).1, ?_⟩
  simp only [network, hupdates]
  decide +kernel

end CrawlGraph
