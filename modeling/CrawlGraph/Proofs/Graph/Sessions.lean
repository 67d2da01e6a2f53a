import CrawlGraph.Proofs.Graph.Identifiers
import CrawlGraph.Proofs.Grouping

/-!
# What a builder knows

A builder folds updates into sessions one at a time. `Builder.ofUpdates` says the same in one go:
there is a session for each key, in the order of the first updates, and `Session.ofUpdates` reads
its node off the updates of its own key alone.

1. An update of a known session extends the list that its node is read off (`merge_ofUpdates`); one
   of a new session starts such a list (`merge_first`).
2. So a step of a builder is a step of the list of updates (`apply_ofUpdates`), and a run leaves
   what the updates since the last reset say (`performAll_start`).
-/

namespace CrawlGraph

/-! ## What single facts say -/

namespace Fact

/-- What came back, if a fact tells it. -/
def answer? : Fact → Option Answer
  | .response answer => some answer
  | .exchange answer => some answer
  | _ => none

/-- What a request says about where its URL was found, if a fact is one. -/
def hints? : Fact → Option Hints
  | .request referrer host => some { referrer, host }
  | _ => none

/-- Where the URL was found, if a fact tells it. -/
def via? : Fact → Option String
  | .metadata via _ => via
  | _ => none

/-- Whether a fact tells that the crawl started from the URL. -/
def isSeed : Fact → Bool
  | .metadata _ seed => seed
  | _ => false

/-- Which records of a capture a fact stands for. -/
def parsed : Fact → Parsed
  | .request _ _ => { request := true }
  | .response _ => { response := true }
  | .metadata _ _ => { metadata := true }
  | .exchange _ => { request := true, response := true, metadata := true }

end Fact

/-- What came back, and where its record starts, if an update tells it. -/
def Update.answer? (update : Update) : Option (Answer × UInt64) :=
  update.fact.answer?.map fun answer => (answer, update.offset)

/-! ## Sessions from their updates -/

/-- The keys of all sessions, each once, in the order of their first updates. -/
def sessionKeys (updates : List Update) : List String := (updates.map (·.sessionKey)).eraseDups

/-- The updates of one session, in order. -/
def updatesOf (key : String) (updates : List Update) : List Update :=
  updates.filter (·.sessionKey == key)

/-- What the last update that tells something tells. -/
def lastTold {α : Type} (tell : Update → Option α) (updates : List Update) : Option α :=
  (updates.filterMap tell).getLast?

/-- The session that a list of updates of its key makes: what came back is what the last answer
says, the URL and, without an answer, the offset are those of the first update. -/
def Session.ofUpdates (seeds : List String) (key : String) (id : Int64) (own : List Update) :
    Session :=
  let url := (own.head?.map (·.url)).getD ""
  let last := lastTold (·.answer?) own
  { key
    node := {
      id, kind := .url, url
      isSeed := own.any (·.fact.isSeed) || (seeds.map Url.normalize).contains (Url.normalize url)
      statusCode := (last.map fun found => found.1.statusCode).getD 0
      contentType := last.bind fun found => found.1.contentType
      contentLength := (last.map fun found => found.1.contentLength).getD 0
      offset := (last.map Prod.snd).getD ((own.head?.map (·.offset)).getD 0)
      via := lastTold (·.fact.via?) own
      parsed := {
        request := own.any (·.fact.parsed.request)
        response := own.any (·.fact.parsed.response)
        metadata := own.any (·.fact.parsed.metadata) } }
    hints := (lastTold (·.fact.hints?) own).getD {} }

/-- All sessions that a list of updates makes. -/
def sessionsOf (seeds : List String) (updates : List Update) : List Session :=
  (sessionKeys updates).zipIdx.map fun (key, i) =>
    Session.ofUpdates seeds key (Int64.ofNat (i + 1)) (updatesOf key updates)

/-- The builder that a list of updates makes. -/
def Builder.ofUpdates (job : Int64) (seeds : List String) (updates : List Update) : Builder :=
  { job
    seeds := seeds.map Url.normalize
    numbering := { urls := Int64.ofNat (sessionKeys updates).length }
    sessions := sessionsOf seeds updates }

/-! ## Runs of a builder -/

/-- What can be done with a builder before its graph is finished. -/
inductive Builder.Step where
  | apply (update : Update)
  | init
  deriving DecidableEq, Repr

namespace Builder

/-- A builder after a step. -/
def perform (builder : Builder) : Step → Builder
  | .apply update => builder.apply update
  | .init => builder.init

/-- A builder after steps in order. -/
def performAll (builder : Builder) (steps : List Step) : Builder := steps.foldl perform builder

/-- The updates that a step leaves of those before it. -/
def Step.keep (updates : List Update) : Step → List Update
  | .apply update => updates ++ [update]
  | .init => []

/-- The updates since the last reset. -/
def Step.recent (steps : List Step) : List Update := steps.foldl Step.keep []

end Builder

/-! ## Keys -/

theorem mem_sessionKeys {updates : List Update} {key : String} :
    key ∈ sessionKeys updates ↔ ∃ update ∈ updates, update.sessionKey = key := by
  simp [sessionKeys]

theorem nodup_sessionKeys (updates : List Update) : (sessionKeys updates).Nodup :=
  nodup_eraseDups _

theorem sessionKeys_concat (updates : List Update) (update : Update) :
    sessionKeys (updates ++ [update]) =
      if update.sessionKey ∈ sessionKeys updates then sessionKeys updates
      else sessionKeys updates ++ [update.sessionKey] := by
  unfold sessionKeys
  rw [List.map_append, List.map_singleton, eraseDups_concat]
  simp only [List.mem_eraseDups]

theorem updatesOf_concat_self (updates : List Update) (update : Update) :
    updatesOf update.sessionKey (updates ++ [update]) =
      updatesOf update.sessionKey updates ++ [update] := by
  simp [updatesOf]

theorem updatesOf_concat_of_ne {key : String} (updates : List Update) {update : Update}
    (h : update.sessionKey ≠ key) :
    updatesOf key (updates ++ [update]) = updatesOf key updates := by
  simp [updatesOf, h]

theorem updatesOf_ne_nil {key : String} {updates : List Update} (h : key ∈ sessionKeys updates) :
    updatesOf key updates ≠ [] := by
  obtain ⟨update, hmem, rfl⟩ := mem_sessionKeys.1 h
  exact List.ne_nil_of_mem (List.mem_filter.2 ⟨hmem, beq_self_eq_true _⟩)

theorem updatesOf_eq_nil {key : String} {updates : List Update} (h : key ∉ sessionKeys updates) :
    updatesOf key updates = [] := by
  refine List.filter_eq_nil_iff.2 fun update hmem heq => h ?_
  exact mem_sessionKeys.2 ⟨update, hmem, eq_of_beq heq⟩

@[simp] theorem lastTold_nil {α : Type} (tell : Update → Option α) :
    lastTold tell [] = none := rfl

@[simp] theorem lastTold_singleton {α : Type} (tell : Update → Option α) (update : Update) :
    lastTold tell [update] = tell update := by
  unfold lastTold
  cases h : tell update <;> simp [h]

@[simp] theorem lastTold_concat {α : Type} (tell : Update → Option α) (updates : List Update)
    (update : Update) :
    lastTold tell (updates ++ [update]) = (tell update).or (lastTold tell updates) := by
  unfold lastTold
  cases h : tell update <;> simp [h, List.getLast?_append]

theorem exists_of_lastTold {α : Type} {tell : Update → Option α} {updates : List Update} {told : α}
    (h : lastTold tell updates = some told) : ∃ update ∈ updates, tell update = some told :=
  List.mem_filterMap.1 (List.mem_of_getLast? h)

/-! ## Steps -/

section Merge

variable {builder : Builder} {seeds : List String}
  (hseeds : builder.seeds = seeds.map Url.normalize)

include hseeds

/-- An update of a known session extends the list that the session is read off. -/
theorem merge_ofUpdates {key : String} {id : Int64} {own : List Update} (hown : own ≠ [])
    (update : Update) :
    builder.merge update (Session.ofUpdates seeds key id own) =
      Session.ofUpdates seeds key id (own ++ [update]) := by
  have hhead : (own ++ [update]).head? = own.head? := List.head?_append_of_ne_nil _ hown
  obtain ⟨sessionKey, url, offset, fact⟩ := update
  cases fact with
  | metadata via seed =>
    simp [Builder.merge, Session.ofUpdates, Session.learn, Update.answer?, hseeds, hhead,
      Fact.answer?, Fact.hints?, Fact.via?, Fact.isSeed, Fact.parsed]
    exact Bool.or_right_comm _ _ _
  | _ =>
    simp [Builder.merge, Session.ofUpdates, Session.learn, Node.answered, Update.answer?, hseeds,
      hhead, Fact.answer?, Fact.hints?, Fact.via?, Fact.isSeed, Fact.parsed]

/-- The first update of a session starts the list that the session is read off. -/
theorem merge_first (id : Int64) (update : Update) :
    builder.merge update
        { key := update.sessionKey
          node := { id, kind := .url, url := update.url, offset := update.offset } } =
      Session.ofUpdates seeds update.sessionKey id [update] := by
  obtain ⟨sessionKey, url, offset, fact⟩ := update
  cases fact with
  | metadata via seed =>
    simp [Builder.merge, Session.ofUpdates, Session.learn, Update.answer?, Fact.answer?,
      Fact.hints?, Fact.via?, Fact.isSeed, Fact.parsed, hseeds]
    exact Bool.or_comm _ _
  | _ =>
    simp [Builder.merge, Session.ofUpdates, Session.learn, Node.answered, Update.answer?,
      Fact.answer?, Fact.hints?, Fact.via?, Fact.isSeed, Fact.parsed, hseeds]

end Merge

theorem map_key_sessionsOf (seeds : List String) (updates : List Update) :
    (sessionsOf seeds updates).map Session.key = sessionKeys updates := by
  unfold sessionsOf
  rw [List.map_map]
  exact List.zipIdx_map_fst 0 _

theorem any_key_sessionsOf (seeds : List String) (updates : List Update) (key : String) :
    (sessionsOf seeds updates).any (·.key == key) = decide (key ∈ sessionKeys updates) := by
  rw [← map_key_sessionsOf seeds updates]
  simp [List.any_eq]

/-- An update of a known session changes that session only. -/
theorem sessionsOf_concat_known (builder : Builder) {seeds : List String}
    (hseeds : builder.seeds = seeds.map Url.normalize) {updates : List Update} {update : Update}
    (h : update.sessionKey ∈ sessionKeys updates) :
    sessionsOf seeds (updates ++ [update]) = (sessionsOf seeds updates).map fun session =>
      if session.key == update.sessionKey then builder.merge update session else session := by
  unfold sessionsOf
  rw [sessionKeys_concat, if_pos h, List.map_map]
  refine List.map_congr_left ?_
  rintro ⟨key, i⟩ -
  show Session.ofUpdates _ _ _ _ = if key == update.sessionKey then _ else _
  by_cases hkey : key = update.sessionKey
  · subst hkey
    rw [if_pos (beq_self_eq_true _), merge_ofUpdates hseeds (updatesOf_ne_nil h),
      updatesOf_concat_self]
  · rw [if_neg (mt eq_of_beq hkey), updatesOf_concat_of_ne updates (Ne.symm hkey)]

/-- The first update of a session leaves the other sessions as they are. -/
theorem sessionsOf_concat_new (builder : Builder) {seeds : List String}
    (hseeds : builder.seeds = seeds.map Url.normalize) {updates : List Update} {update : Update}
    (h : update.sessionKey ∉ sessionKeys updates) :
    sessionsOf seeds (updates ++ [update]) = sessionsOf seeds updates ++
      [builder.merge update
        { key := update.sessionKey
          node := {
            id := Int64.ofNat ((sessionKeys updates).length + 1), kind := .url, url := update.url
            offset := update.offset } }] := by
  unfold sessionsOf
  rw [sessionKeys_concat, if_neg h, List.zipIdx_append, List.map_append, merge_first hseeds]
  congr 1
  · refine List.map_congr_left ?_
    rintro ⟨key, i⟩ hmem
    have hkey : key ∈ sessionKeys updates := (List.mem_zipIdx hmem).2.2 ▸ List.getElem_mem _
    show Session.ofUpdates _ _ _ _ = Session.ofUpdates _ _ _ _
    rw [updatesOf_concat_of_ne updates fun heq => h (heq ▸ hkey)]
  · simp [updatesOf_concat_self, updatesOf_eq_nil h]

/-- A step of a builder is a step of the list of updates. -/
theorem apply_ofUpdates (job : Int64) (seeds : List String) (updates : List Update)
    (update : Update) :
    (Builder.ofUpdates job seeds updates).apply update =
      Builder.ofUpdates job seeds (updates ++ [update]) := by
  have hany : (Builder.ofUpdates job seeds updates).sessions.any (·.key == update.sessionKey) =
      decide (update.sessionKey ∈ sessionKeys updates) := any_key_sessionsOf ..
  unfold Builder.apply
  rw [hany]
  by_cases h : update.sessionKey ∈ sessionKeys updates
  · rw [if_pos (decide_eq_true h)]
    unfold Builder.ofUpdates
    rw [sessionsOf_concat_known (Builder.ofUpdates job seeds updates) rfl h, sessionKeys_concat,
      if_pos h]
    rfl
  · rw [if_neg (by simpa using h)]
    have hid : (Builder.ofUpdates job seeds updates).numbering.addUrl.urls =
        Int64.ofNat ((sessionKeys updates).length + 1) := (Int64.ofNat_add _ 1).symm
    unfold Builder.ofUpdates at hid ⊢
    rw [sessionsOf_concat_new (Builder.ofUpdates job seeds updates) rfl h, sessionKeys_concat,
      if_neg h, List.length_append, List.length_singleton, ← hid]
    rfl

/-- **Runs.** After any steps a builder knows what the updates since the last reset say. -/
theorem performAll_start (job : Int64) (seeds : List String) (steps : List Builder.Step) :
    (Builder.start job seeds).performAll steps =
      Builder.ofUpdates job seeds (Builder.Step.recent steps) := by
  induction steps using List.reverseRecOn with
  | nil => rfl
  | append_singleton steps step ih =>
    unfold Builder.performAll Builder.Step.recent at ih ⊢
    rw [List.foldl_concat, List.foldl_concat, ih]
    cases step with
    | apply update => exact apply_ofUpdates job seeds _ update
    | init => rfl

theorem applyAll_start (job : Int64) (seeds : List String) (updates : List Update) :
    (Builder.start job seeds).applyAll updates = Builder.ofUpdates job seeds updates := by
  induction updates using List.reverseRecOn with
  | nil => rfl
  | append_singleton updates update ih =>
    unfold Builder.applyAll at ih ⊢
    rw [List.foldl_concat, ih, apply_ofUpdates]

theorem ids_sessionsOf (seeds : List String) (updates : List Update) :
    (sessionsOf seeds updates).map (fun session => session.node.id) =
      firstIds (sessionsOf seeds updates).length := by
  unfold sessionsOf firstIds
  rw [List.length_map, List.length_zipIdx, List.range_eq_range', ← List.zipIdx_map_snd 0,
    List.map_map, List.map_map]
  rfl

theorem eq_ofUpdates {seeds : List String} {updates : List Update} {session : Session}
    (h : session ∈ sessionsOf seeds updates) :
    session =
      Session.ofUpdates seeds session.key session.node.id (updatesOf session.key updates) := by
  obtain ⟨found, -, rfl⟩ := List.mem_map.1 h
  rfl

theorem mem_sessionsOf_concat {seeds : List String} {updates : List Update} {session : Session}
    (h : session ∈ sessionsOf seeds updates) {update : Update}
    (hkey : session.key ≠ update.sessionKey) :
    session ∈ sessionsOf seeds (updates ++ [update]) := by
  obtain ⟨⟨key, i⟩, hmem, rfl⟩ := List.mem_map.1 h
  have hkey : update.sessionKey ≠ key := Ne.symm hkey
  refine List.mem_map.2 ⟨(key, i), ?_, ?_⟩
  · rw [sessionKeys_concat]
    split
    · exact hmem
    · rw [List.zipIdx_append]
      exact List.mem_append_left _ hmem
  · show Session.ofUpdates _ _ _ _ = Session.ofUpdates _ _ _ _
    rw [updatesOf_concat_of_ne updates hkey]

/-- What a builder knows is what a list of updates says. -/
structure Builder.Reflects (builder : Builder) (seeds : List String) (updates : List Update) :
    Prop where
  /-- There is one session for each key, in the order of the first updates. -/
  keys : builder.sessions.map Session.key = sessionKeys updates
  nodup : (builder.sessions.map Session.key).Nodup
  keys_iff : ∀ key, key ∈ builder.sessions.map Session.key ↔
    ∃ update ∈ updates, update.sessionKey = key
  /-- The nodes are numbered from one. -/
  ids : builder.sessions.map (fun session => session.node.id) = firstIds builder.sessions.length
  /-- Each session is read off the updates of its own key. -/
  own : ∀ session ∈ builder.sessions, session =
    Session.ofUpdates seeds session.key session.node.id (updatesOf session.key updates)
  /-- One more update leaves the other sessions as they are. -/
  frame : ∀ update, ∀ session ∈ builder.sessions, session.key ≠ update.sessionKey →
    session ∈ (builder.apply update).sessions

/-- **Sessions.** After any updates and resets a builder knows what the updates since the last reset
say, and nothing else. -/
theorem reflects_recent (job : Int64) (seeds : List String) (steps : List Builder.Step) :
    ((Builder.start job seeds).performAll steps).Reflects seeds (Builder.Step.recent steps) := by
  rw [performAll_start]
  set updates := Builder.Step.recent steps
  have hkeys : (Builder.ofUpdates job seeds updates).sessions.map Session.key =
      sessionKeys updates := map_key_sessionsOf seeds updates
  constructor
  case keys => exact hkeys
  case nodup =>
    rw [hkeys]
    exact nodup_sessionKeys updates
  case keys_iff =>
    intro key
    rw [hkeys]
    exact mem_sessionKeys
  case ids => exact ids_sessionsOf seeds updates
  case own => exact fun session hsession => eq_ofUpdates hsession
  case frame =>
    intro update session hsession hkey
    rw [apply_ofUpdates]
    exact mem_sessionsOf_concat hsession hkey

end CrawlGraph
