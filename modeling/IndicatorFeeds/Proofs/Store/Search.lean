import IndicatorFeeds.Proofs.Store.Sent
import IndicatorFeeds.World

/-!
Searches for all documents of an index. A server that shows the first documents after a place in the
order of ids is asked for page after page, each from the last document of the page before, until one is
not full; what is found then are all the documents. A page that cannot be read ends a search without any
of them.
-/

namespace IndicatorFeeds.Store

open Json (Value Tree)

/-- A search for so many documents in the order of their ids, from the start or after an id. -/
structure Query where
  size : Nat
  after : Option String
deriving DecidableEq

namespace Query

/-- A search for all documents with their versions, by their ids. -/
def read? (t : Tree) : Option Query := do
  let f ← t.fields ["size", "seq_no_primary_term", "query", "sort", "search_after"]
  let size ← f.required "size" Tree.natural
  let versions ← f.required "seq_no_primary_term" Tree.boolean
  let _ ← f.required "query" fun t => do
    (← t.fields ["match_all"]).required "match_all" (·.fields [])
  let order ← f.required "sort"
    (Tree.listOf fun t => do (← t.fields ["_id"]).required "_id" Tree.text)
  let after ← f.withDefault "search_after" Tree.texts []
  if versions && order = ["asc"] && after.length ≤ 1 then return ⟨size, after.head?⟩ else none

/-- The search that a request asks for. -/
def ofRequest? (request : Http.Request) : Option Query :=
  (request.body.bind fun body => Tree.parse? body.toList).bind read?

/-- The documents that a search finds among all, which are in the order of their ids. -/
def found (q : Query) (documents : List Document) : List Document :=
  (documents.filter fun d => q.after.all (· < d.id)).take q.size

end Query

/-- A hit shows a document with its version and its id as its place. The document's source is the value
that the reader makes of the source that is shown: integers beyond 64 bits become doubles there, and
doubles may come out next to what is written. There is one if the source is `Readable`. -/
def ShowsHit (depth : Nat) (t : Tree) (d : Document) : Prop :=
  ∃ f source, t.fields ["_id", "_seq_no", "_primary_term", "_source", "sort"] = some f ∧
    f.find? "_id" = some (.string d.id) ∧
    f.find? "_seq_no" = some (.number (some (.int d.version.seqNo))) ∧
    f.find? "_primary_term" = some (.number (some (.int d.version.primaryTerm))) ∧
    f.find? "_source" = some source ∧ source.value? depth = some d.source ∧
    f.find? "sort" = some (.array [.string d.id])

/-- A reply shows documents as the hits of a search. -/
def ShowsPage (depth : Nat) (reply : Http.Reply) (documents : List Document) : Prop :=
  reply.isSuccess = true ∧ ∃ t outer hits inner shown,
    reply.json? = some t ∧ t.fields ["hits"] = some outer ∧ outer.find? "hits" = some hits ∧
    hits.fields ["hits"] = some inner ∧ inner.find? "hits" = some (.array shown) ∧
    List.Forall₂ (ShowsHit depth) shown documents

/-- A reply has a hit with a source that the reader makes no value of. -/
def ShowsUnreadable (depth : Nat) (reply : Http.Reply) : Prop :=
  ∃ t outer hits inner shown, reply.json? = some t ∧ t.fields ["hits"] = some outer ∧
    outer.find? "hits" = some hits ∧ hits.fields ["hits"] = some inner ∧
    inner.find? "hits" = some (.array shown) ∧ ∃ hit ∈ shown, ∃ f source,
      hit.fields ["_id", "_seq_no", "_primary_term", "_source", "sort"] = some f ∧
      f.find? "_source" = some source ∧ ¬source.Readable depth

/-- Every search at a URL for a page of documents is answered with what it finds among these. -/
def Serves (depth : Nat) (url : Url) (documents : List Document) (replies : Replies) : Prop :=
  ∀ asked request after, request.url = url →
    Query.ofRequest? request = some ⟨Remote.pageSize, after⟩ →
      ∃ reply, replies asked (.http request) = some reply ∧
        ShowsPage depth reply (Query.found ⟨Remote.pageSize, after⟩ documents)

namespace Remote

/-- The request for the page after an id. -/
def searchRequest (plain : Http.Request) (after : Option String) : Http.Request :=
  { plain with
    contentType := some "application/json"
    body := some (searchBody (after.map fun id => [.string id])).render }

private theorem exact_searchBody (after : Option String) :
    (searchBody (after.map fun id => [.string id])).Exact := by
  have size : (Value.nat pageSize).Exact := Value.exact_nat (by decide)
  have nothing : (Value.ofFields []).Exact := Value.exact_ofFields nofun
  have all : (Value.ofFields [("match_all", .ofFields [])]).Exact :=
    Value.exact_ofFields (by simp [nothing])
  have order : (Value.array [.ofFields [("_id", .string "asc")]]).Exact :=
    .array (by simp [Value.exact_ofFields])
  have place (id : String) : (Value.array [.string id]).Exact := .array (by simp)
  cases after <;> exact Value.exact_ofFields (by simp [size, all, order, place])

theorem ofRequest?_searchRequest (plain : Http.Request) (after : Option String) :
    Query.ofRequest? (searchRequest plain after) = some ⟨pageSize, after⟩ := by
  have parsed := (exact_searchBody after).parse?_print
  simp only [Query.ofRequest?, searchRequest, Option.bind_some, Value.render, String.toList_ofList,
    parsed]
  cases after <;> simp [searchBody, Query.read?, Tree.fields_ofFields, Tree.Fields.required,
    Tree.Fields.withDefault, Tree.listOf, Tree.texts, Tree.text, Tree.boolean, Tree.ofValue,
    Tree.ofItems]

/-- A document and its id as the place after it. -/
def hitOf (d : Document) : Hit := ⟨d, [.string d.id]⟩

/-- How deep the source of a hit may be written. -/
def sourceDepth : Nat := Tree.maxDepth - hitDepth

example : sourceDepth = 123 := rfl

theorem readHit?_of_shows {t : Tree} {d : Document} (shows : ShowsHit sourceDepth t d) :
    readHit? t = some (hitOf d) := by
  obtain ⟨f, source, fields, id, seqNo, primaryTerm, written, whole, sort⟩ := shows
  have whole : Tree.value? (Tree.maxDepth - hitDepth) source = some d.source := whole
  simp [readHit?, fields, Tree.Fields.required, Tree.Fields.optional, Tree.Fields.withDefault, id,
    seqNo, primaryTerm, written, whole, sort, Tree.text, Tree.nullable, Tree.natural, Tree.listOf,
    Tree.value?, hitOf]

theorem mapM_readHit? {shown : List Tree} {documents : List Document}
    (shows : List.Forall₂ (ShowsHit sourceDepth) shown documents) :
    shown.mapM readHit? = some (documents.map hitOf) := by
  induction shows with
  | nil => rfl
  | cons first _ ih => simp [readHit?_of_shows first, ih]

theorem readHit?_unreadable {t source : Tree} {f : Tree.Fields}
    (fields : t.fields ["_id", "_seq_no", "_primary_term", "_source", "sort"] = some f)
    (written : f.find? "_source" = some source) (unreadable : ¬source.Readable sourceDepth) :
    readHit? t = none := by
  have unread : source.value? (Tree.maxDepth - hitDepth) = none :=
    Option.not_isSome_iff_eq_none.mp fun read => unreadable (Tree.isSome_value?_iff.mp read)
  simp [readHit?, fields, Tree.Fields.required, written, unread]

private theorem mapM_eq_none {read : Tree → Option Hit} {shown : List Tree} {hit : Tree}
    (member : hit ∈ shown) (unread : read hit = none) : shown.mapM read = none := by
  induction member with
  | head rest => simp [unread]
  | tail first _ ih => simp [ih]

/-- The hits that a reply to a search is read as, or why there are none. -/
def hitsOf (index : String) (request : Http.Request) (reply : Option Http.Reply) :
    Except Error (List Hit) :=
  (received request reply).bind (successAs "_search" index none readPage?)

theorem hitsOf_shows {reply : Http.Reply} {documents : List Document}
    (shows : ShowsPage sourceDepth reply documents) (index : String) (request : Http.Request) :
    hitsOf index request (some reply) = .ok (documents.map hitOf) := by
  obtain ⟨success, t, outer, hits, inner, shown, tree, outerFields, outerHits, innerFields,
    innerHits, each⟩ := shows
  show successAs "_search" index none readPage? reply = _
  simp [successAs, success, tree, readPage?, outerFields, Tree.Fields.required, outerHits,
    innerFields, innerHits, Tree.listOf, mapM_readHit? each]

/-- A reply that is missing, no success or not to be read as a page. -/
def Refused (reply : Option Http.Reply) : Prop :=
  ∀ there, reply = some there → there.isSuccess = false ∨ there.json?.bind readPage? = none

theorem refused_of_showsUnreadable {reply : Http.Reply} (shows : ShowsUnreadable sourceDepth reply) :
    Refused (some reply) := by
  obtain ⟨t, outer, hits, inner, shown, tree, outerFields, outerHits, innerFields, innerHits, hit,
    member, f, source, fields, written, unreadable⟩ := shows
  rintro there ⟨⟩
  right
  have unread := mapM_eq_none member (readHit?_unreadable fields written unreadable)
  simp [tree, readPage?, outerFields, Tree.Fields.required, outerHits, innerFields, innerHits,
    Tree.listOf, unread]

theorem hitsOf_refused {reply : Option Http.Reply} (refused : Refused reply) (index : String)
    (request : Http.Request) : ∃ e, hitsOf index request reply = .error e := by
  cases reply with
  | none => exact ⟨_, rfl⟩
  | some there =>
    show ∃ e, successAs "_search" index none readPage? there = .error e
    unfold successAs
    rcases refused there rfl with failed | unread
    · exact ⟨_, if_neg (by simp [failed])⟩
    · rw [unread]
      split <;> exact ⟨_, rfl⟩

theorem hitsOf_unreadable {reply : Http.Reply} {t : Tree} (success : reply.isSuccess = true)
    (tree : reply.json? = some t) (unread : readPage? t = none) (index : String)
    (request : Http.Request) :
    hitsOf index request (some reply) = .error (unreadable "_search") := by
  show successAs "_search" index none readPage? reply = _
  simp [successAs, success, tree, unread]

theorem run_pages_succ (r : Remote) (index : String) (limit : Nat) (after : Option (List Value))
    (replies : Replies) (asked : List Request) :
    (r.pages index (limit + 1) after).run replies.answer asked =
      match r.request .post s!"{index}/_search" [] (.json (searchBody after)) with
      | .error e => (.ok (.error e), asked)
      | .ok request =>
        match hitsOf index request (replies asked (.http request)) with
        | .error e => (.ok (.error e), asked ++ [.http request])
        | .ok hits =>
          if hits.length < pageSize then
            (.ok (.ok (hits.map (·.document))), asked ++ [.http request])
          else
            let more := (r.pages index limit (hits.getLast?.map (·.sort))).run replies.answer
              (asked ++ [.http request])
            (more.1.map (·.map (hits.map (·.document) ++ ·)), more.2) := by
  simp only [pages, page, bind, pure, Program.run_bind, run_send]
  cases r.request .post s!"{index}/_search" [] (.json (searchBody after)) with
  | error e => rfl
  | ok request =>
    simp only [Program.run, hitsOf]
    cases (received request (replies asked (.http request))).bind
      (successAs "_search" index none readPage?) with
    | error e => rfl
    | ok hits =>
      dsimp only
      split
      · rfl
      · exact Program.run_bind_done _ _ _

section

variable {r : Remote} {index : String} {plain : Http.Request} {replies : Replies}
  {documents before rest : List Document} {limit : Nat}

/-- The id of the last of some documents. -/
def lastId (documents : List Document) : Option String := documents.getLast?.map (·.id)

theorem found_lastId (ascending : (before ++ rest).Pairwise (·.id < ·.id)) (size : Nat) :
    Query.found ⟨size, lastId before⟩ (before ++ rest) = rest.take size := by
  unfold Query.found lastId
  rcases before.eq_nil_or_concat with rfl | ⟨start, last, rfl⟩
  · exact congrArg _ (List.filter_eq_self.mpr fun _ _ => rfl)
  · rw [List.concat_eq_append] at ascending ⊢
    obtain ⟨upTo, -, beyond⟩ := List.pairwise_append.mp ascending
    have notAfter : ∀ d ∈ start ++ [last], ¬last.id < d.id := by
      intro d member
      rcases List.mem_append.mp member with earlier | same
      · exact String.lt_asymm ((List.pairwise_append.mp upTo).2.2 d earlier last (by simp))
      · exact List.mem_singleton.mp same ▸ String.lt_irrefl _
    have after : ∀ d ∈ rest, last.id < d.id := beyond last (by simp)
    have none : (start ++ [last]).filter (fun d => last.id < d.id) = [] :=
      List.filter_eq_nil_iff.mpr fun d member => by simpa using notAfter d member
    have all : rest.filter (fun d => last.id < d.id) = rest :=
      List.filter_eq_self.mpr fun d member => decide_eq_true (after d member)
    simp only [List.getLast?_concat, Option.map_some, Option.all_some,
      List.filter_append (start ++ [last]), none, all, List.nil_append]

/-- The requests for pages from the place after some documents on. -/
def searchRequests (plain : Http.Request) (before rest : List Document) : List Request :=
  (List.range (rest.length / pageSize + 1)).map fun k =>
    .http (searchRequest plain (lastId (before ++ rest.take (pageSize * k))))

theorem searchRequests_short (short : rest.length < pageSize) :
    searchRequests plain before rest = [.http (searchRequest plain (lastId before))] := by
  simp [searchRequests, Nat.div_eq_of_lt short]

theorem searchRequests_full (full : pageSize ≤ rest.length) :
    searchRequests plain before rest = .http (searchRequest plain (lastId before)) ::
      searchRequests plain (before ++ rest.take pageSize) (rest.drop pageSize) := by
  have positive : 0 < pageSize := by decide
  have fewer : rest.length / pageSize = (rest.drop pageSize).length / pageSize + 1 := by
    rw [List.length_drop, Nat.div_eq_sub_div positive full]
  rw [searchRequests, fewer, List.range_succ_eq_map]
  simp [searchRequests, Nat.mul_add, Nat.add_comm, List.take_add]

/-- From a place on, a search finds all documents after it. -/
theorem run_pages_rest (before : List Document)
    (addressed : r.request .post s!"{index}/_search" [] .nothing = .ok plain)
    (serves : Serves sourceDepth plain.url (before ++ rest) replies)
    (ascending : (before ++ rest).Pairwise (·.id < ·.id))
    (enough : rest.length / pageSize < limit) (asked : List Request) :
    (r.pages index limit ((lastId before).map fun id => [.string id])).run replies.answer asked =
      (.ok (.ok rest), asked ++ searchRequests plain before rest) := by
  induction limit generalizing before rest asked with
  | zero => cases enough
  | succ limit ih =>
    have formed : r.request .post s!"{index}/_search" []
        (.json (searchBody ((lastId before).map fun id => [.string id]))) =
          .ok (searchRequest plain (lastId before)) := by
      rw [request_json, addressed]
      rfl
    obtain ⟨reply, answered, shows⟩ := serves asked (searchRequest plain (lastId before)) _ rfl
      (ofRequest?_searchRequest plain (lastId before))
    rw [found_lastId ascending] at shows
    have read := hitsOf_shows shows index (searchRequest plain (lastId before))
    have shown : (rest.take pageSize).map ((·.document) ∘ hitOf) = rest.take pageSize :=
      List.map_id _
    simp only [run_pages_succ, formed, answered, read, List.length_map, List.length_take,
      List.map_map, shown]
    by_cases full : pageSize ≤ rest.length
    · have there : rest.take pageSize ≠ [] := by
        rw [← List.length_pos_iff, List.length_take, Nat.min_eq_left full]
        decide
      have place : ((rest.take pageSize).map hitOf).getLast?.map (·.sort) =
          (lastId (before ++ rest.take pageSize)).map fun id => [.string id] := by
        rw [lastId, List.getLast?_append, Option.or_of_isSome (by simpa using there),
          List.getLast?_map, Option.map_map, Option.map_map]
        rfl
      have whole : before ++ rest.take pageSize ++ rest.drop pageSize = before ++ rest := by
        rw [List.append_assoc, List.take_append_drop]
      have fewer : (rest.drop pageSize).length / pageSize < limit := by
        have positive : 0 < pageSize := by decide
        rw [Nat.div_eq_sub_div positive full] at enough
        simpa using enough
      have later := ih _ (whole.symm ▸ serves) (whole.symm ▸ ascending) fewer
      rw [if_neg (by omega), place, later, searchRequests_full full]
      simp [Except.map, List.append_assoc]
    · have short := Nat.not_le.mp full
      rw [if_pos (by omega), searchRequests_short short, List.take_of_length_le (by omega)]

theorem run_pages_error {after : Option (List Value)} {request : Http.Request} {e : Error}
    {asked : List Request}
    (formed : r.request .post s!"{index}/_search" [] (.json (searchBody after)) = .ok request)
    (read : hitsOf index request (replies asked (.http request)) = .error e) (limit : Nat) :
    (r.pages index (limit + 1) after).run replies.answer asked =
      (.ok (.error e), asked ++ [.http request]) := by
  rw [run_pages_succ, formed]
  simp only [read]

private theorem prefix_run_pages {after : Option (List Value)} {first : Http.Request}
    (formed : r.request .post s!"{index}/_search" [] (.json (searchBody after)) = .ok first)
    (replies : Replies) (limit : Nat) (asked : List Request) :
    asked ++ [.http first] <+: ((r.pages index (limit + 1) after).run replies.answer asked).2 := by
  rw [run_pages_succ, formed]
  dsimp only
  split
  · exact List.prefix_refl _
  · split
    · exact List.prefix_refl _
    · exact Program.prefix_run _ _

/-- A page that is refused is the last one that is asked for, and nothing is found. -/
theorem run_pages_refused {after : Option (List Value)} (asked : List Request)
    {earlier later : List Request} {request : Http.Request}
    (requests : ((r.pages index limit after).run replies.answer asked).2 =
      asked ++ earlier ++ .http request :: later)
    (refused : Refused (replies (asked ++ earlier) (.http request))) :
    (∃ e, ((r.pages index limit after).run replies.answer asked).1 = .ok (.error e)) ∧
      later = [] := by
  induction limit generalizing after asked earlier with
  | zero => simp [pages, Program.run] at requests
  | succ limit ih =>
    cases formed : r.request .post s!"{index}/_search" [] (.json (searchBody after)) with
    | error e => simp [run_pages_succ, formed] at requests
    | ok first =>
      have begins := prefix_run_pages formed replies limit asked
      rw [requests, List.append_assoc, List.prefix_append_right_inj] at begins
      cases earlier with
      | nil =>
        obtain rfl : first = request := by simpa using begins
        rw [List.append_nil] at refused
        obtain ⟨e, read⟩ := hitsOf_refused refused index first
        rw [run_pages_error formed read] at requests ⊢
        exact ⟨⟨e, rfl⟩, by simpa using requests⟩
      | cons head earlier =>
        obtain rfl : .http first = head := by simpa using begins
        rw [List.append_cons asked (.http first) earlier] at requests refused
        cases read : hitsOf index first (replies asked (.http first)) with
        | error e => simp [run_pages_error formed read] at requests
        | ok hits =>
          simp only [run_pages_succ, formed, read] at requests ⊢
          split at requests
          · simp at requests
          · rename_i full
            obtain ⟨⟨e, failed⟩, last⟩ := ih _ requests refused
            rw [if_neg full, failed]
            exact ⟨⟨e, rfl⟩, last⟩

end

/-- A hit as a server writes it. -/
def hitValue (d : Document) : Value :=
  .ofFields [("_id", .string d.id), ("_seq_no", .nat d.version.seqNo),
    ("_primary_term", .nat d.version.primaryTerm), ("_source", d.source),
    ("sort", .array [.string d.id])]

/-- A page of hits as a server writes it. -/
def pageValue (documents : List Document) : Value :=
  .ofFields [("timed_out", .bool false),
    ("hits", .ofFields [("max_score", .null), ("hits", .array (documents.map hitValue))])]

/-- A server that holds documents. -/
def showing (documents : List Document) : Replies
  | _, .http request => (Query.ofRequest? request).map fun q =>
    ⟨200, Text.encodeUtf8 (pageValue (q.found documents)).print, true⟩
  | _, r => (World.answer r {}).1

theorem showing_searchRequest (documents : List Document) (asked : List Request)
    (plain : Http.Request) (after : Option String) :
    showing documents asked (.http (searchRequest plain after)) = some
      ⟨200, Text.encodeUtf8 (pageValue (Query.found ⟨pageSize, after⟩ documents)).print, true⟩ := by
  have asks := ofRequest?_searchRequest plain after
  generalize searchRequest plain after = request at asks
  show Option.map _ (Query.ofRequest? request) = _
  rw [asks]
  rfl

/-- A document that can be written and read back from so deep. -/
structure Writable (depth : Nat) (d : Document) : Prop where
  seqNo : d.version.seqNo < UInt64.size
  primaryTerm : d.version.primaryTerm < UInt64.size
  exact : d.source.Exact
  whole : Value.Whole depth d.source

theorem exact_hitValue {depth : Nat} {d : Document} (writable : Writable depth d) :
    (hitValue d).Exact := by
  have seqNo := Value.exact_nat writable.seqNo
  have primaryTerm := Value.exact_nat writable.primaryTerm
  have place : (Value.array [.string d.id]).Exact := .array (by simp)
  exact Value.exact_ofFields (by simp [seqNo, primaryTerm, writable.exact, place])

theorem showsHit_hitValue {depth : Nat} {d : Document} (writable : Writable depth d) :
    ShowsHit depth (.ofValue (hitValue d)) d :=
  ⟨_, _, Tree.fields_ofFields _ _, rfl, rfl, rfl, rfl, writable.whole.value?_ofValue, rfl⟩

theorem json?_pageValue {depth : Nat} {documents : List Document}
    (writable : ∀ d ∈ documents, Writable depth d) :
    Http.Reply.json? ⟨200, Text.encodeUtf8 (pageValue documents).print, true⟩ =
      some (.ofValue (pageValue documents)) := by
  have hits : (Value.array (documents.map hitValue)).Exact := .array (by
    simpa using fun d member => exact_hitValue (writable d member))
  have inner : (Value.ofFields
      [("max_score", .null), ("hits", .array (documents.map hitValue))]).Exact :=
    Value.exact_ofFields (by simp [Value.Exact.null, hits])
  have page : (pageValue documents).Exact := Value.exact_ofFields (by simp [inner])
  simp [Http.Reply.json?, Text.decodeUtf8_encodeUtf8, Except.toOption, page.parse?_print]

theorem serves_showing {depth : Nat} {documents : List Document} (url : Url)
    (writable : ∀ d ∈ documents, Writable depth d) :
    Serves depth url documents (showing documents) := by
  intro asked request after _ asks
  have each : ∀ d ∈ Query.found ⟨pageSize, after⟩ documents, Writable depth d := fun d member =>
    writable d (List.mem_filter.mp (List.mem_of_mem_take member)).1
  refine ⟨_, congrArg (Option.map _) asks, rfl, _, _, _, _, Tree.ofItems _, json?_pageValue each,
    Tree.fields_ofFields _ _, rfl, Tree.fields_ofFields _ _, rfl, ?_⟩
  generalize Query.found ⟨pageSize, after⟩ documents = shown at each
  induction shown with
  | nil => exact .nil
  | cons d rest ih =>
    have ⟨first, others⟩ := List.forall_mem_cons.mp each
    exact .cons (showsHit_hitValue first) (ih others)

/-- A search for all documents asks a server that holds them, with sources that the reader makes values
of, for one page more than they fill; it finds each of them once, in the order of their ids. A page that
is missing, no success or not to be read as one ends the search without any documents, and one that
shows another source is not to be read. -/
theorem searchAll_pages (r : Remote) (index : String) (replies : Replies) :
    r.answer (.searchAll index) = r.pages index pageLimit none ∧
      (∀ plain documents limit, r.request .post s!"{index}/_search" [] .nothing = .ok plain →
        documents.Pairwise (·.id < ·.id) → Serves sourceDepth plain.url documents replies →
          documents.length / pageSize < limit →
            (r.pages index limit none).outcome replies =
              (.ok (.ok documents), (List.range (documents.length / pageSize + 1)).map fun k =>
                .http (searchRequest plain (lastId (documents.take (pageSize * k)))))) ∧
      (∀ limit earlier request later,
        ((r.pages index limit none).outcome replies).2 = earlier ++ .http request :: later →
          Refused (replies earlier (.http request)) →
            (∃ e, ((r.pages index limit none).outcome replies).1 = .ok (.error e)) ∧ later = []) ∧
      ∀ reply, ShowsUnreadable sourceDepth reply → Refused (some reply) := by
  refine ⟨rfl, ?_, ?_, fun _ => refused_of_showsUnreadable⟩
  · intro plain documents limit addressed ascending serves enough
    exact run_pages_rest [] addressed serves ascending enough []
  · intro limit earlier request later requests refused
    exact run_pages_refused [] requests refused

private def feeds : String := "feeds"

/-- The request for a page of feeds, before it is said where the page begins. -/
private def feedSearch : Http.Request where
  method := .post
  url := ⟨"http", some ⟨"", none, .domain "node", some 9200⟩, .segments ["feeds", "_search"], none,
    none⟩

private theorem request_feeds :
    node.request .post s!"{feeds}/_search" [] .nothing = .ok feedSearch := by
  have formed : (node.request .post s!"{feeds}/_search" [] .nothing).toOption =
      some feedSearch := by decide +kernel
  cases made : node.request .post s!"{feeds}/_search" [] .nothing with
  | error e => simp [made, Except.toOption] at formed
  | ok plain => simpa [made, Except.toOption] using formed

private def numbered (n : Nat) : Document where
  id := String.ofList (List.replicate (n + 1) 'a')
  version := ⟨n, 1⟩
  source := .string "feed"

private theorem replicate_lt {m n : Nat} (less : m < n) :
    List.replicate m 'a' < List.replicate n 'a' := by
  induction n generalizing m with
  | zero => cases less
  | succ n ih =>
    cases m with
    | zero => exact List.nil_lt_cons _ _
    | succ m => exact List.cons_lt_cons_self.mpr (ih (Nat.lt_of_succ_lt_succ less))

private def thousand : List Document := (List.range 1000).map numbered

private theorem ascending_thousand : thousand.Pairwise (·.id < ·.id) := by
  refine List.pairwise_map.mpr (List.pairwise_lt_range.imp fun less => ?_)
  refine String.lt_iff.mpr ?_
  rw [numbered, numbered, String.toList_ofList, String.toList_ofList]
  exact replicate_lt (Nat.succ_lt_succ less)

private theorem writable_thousand : ∀ d ∈ thousand, Writable sourceDepth d := by
  intro d member
  obtain ⟨n, less, rfl⟩ := List.mem_map.mp member
  have fits : n < UInt64.size := Nat.lt_trans (List.mem_range.mp less) (by decide)
  exact ⟨fits, (by decide : 1 < UInt64.size), .string _, .string _⟩

private theorem lastId_thousand : lastId thousand = some (numbered 999).id := by
  rw [lastId, thousand, List.getLast?_map, List.getLast?_range]
  rfl

/-- A thousand documents fill a page, so there is another request, for what comes after the last of them.
Where nothing answers, nothing is found. -/
theorem searchAll_pages_thousand :
    node.request .post s!"{feeds}/_search" [] .nothing = .ok feedSearch ∧
      thousand.Pairwise (·.id < ·.id) ∧
      Serves sourceDepth feedSearch.url thousand (showing thousand) ∧
      (node.pages feeds 2 none).outcome (showing thousand) =
        (.ok (.ok thousand), [.http (searchRequest feedSearch none),
          .http (searchRequest feedSearch (some (numbered 999).id))]) ∧
      ∃ e, ((node.pages feeds 2 none).outcome fun _ r => (World.answer r {}).1).1 =
        .ok (.error e) := by
  have serves := serves_showing feedSearch.url writable_thousand
  have filled : thousand.length = pageSize := by rw [thousand, List.length_map, List.length_range]; rfl
  refine ⟨request_feeds, ascending_thousand, serves, ?_, ?_⟩
  · obtain ⟨-, found, -, -⟩ := searchAll_pages node feeds (showing thousand)
    have all := found feedSearch thousand 2 request_feeds ascending_thousand serves
      (by rw [filled]; decide)
    have second : thousand.take (pageSize * 1) = thousand := List.take_of_length_le (by omega)
    have twice : List.range (pageSize / pageSize + 1) = [0, 1] := rfl
    rw [filled, twice] at all
    simp only [List.map_cons, List.map_nil, second, lastId_thousand] at all
    exact all
  · obtain ⟨-, -, ends, -⟩ := searchAll_pages node feeds fun _ r => (World.answer r {}).1
    refine (ends 2 [] (searchRequest feedSearch none) [] ?_ nofun).1
    rw [Program.outcome, run_pages_succ, request_json, request_feeds]
    rfl

/-- Lists in lists. -/
private def nested : Nat → Value
  | 0 => .null
  | depth + 1 => .array [nested depth]

private theorem exact_nested (depth : Nat) : (nested depth).Exact := by
  induction depth with
  | zero => exact .null
  | succ depth ih => exact .array (List.forall_mem_singleton.mpr ih)

private theorem whole_nested (depth : Nat) : Value.Whole depth (nested depth) := by
  induction depth with
  | zero => exact .null
  | succ depth ih => exact .array (List.forall_mem_singleton.mpr ih)

private theorem not_readable_nested (depth : Nat) :
    ¬(Tree.ofValue (nested (depth + 1))).Readable depth := by
  induction depth with
  | zero => nofun
  | succ depth ih =>
    rintro (_ | _ | _ | _ | ⟨each⟩)
    exact ih (each _ (by simp [Tree.ofItems]))

private def deep : Document := ⟨"a", ⟨0, 1⟩, nested (sourceDepth + 1)⟩

private theorem writable_deep : ∀ d ∈ [deep], Writable (sourceDepth + 1) d :=
  List.forall_mem_singleton.mpr ⟨(by decide : 0 < UInt64.size), (by decide : 1 < UInt64.size),
    exact_nested _, whole_nested _⟩

private theorem showing_deep : showing [deep] [] (.http (searchRequest feedSearch none)) =
    some ⟨200, Text.encodeUtf8 (pageValue [deep]).print, true⟩ := by
  have alone : Query.found ⟨pageSize, none⟩ [deep] = [deep] := rfl
  rw [showing_searchRequest, alone]

private theorem hitsOf_deep : hitsOf feeds (searchRequest feedSearch none)
    (showing [deep] [] (.http (searchRequest feedSearch none))) = .error (unreadable "_search") := by
  have hit : readHit? (.ofValue (hitValue deep)) = none :=
    readHit?_unreadable (Tree.fields_ofFields _ _) rfl (not_readable_nested _)
  have unread : readPage? (.ofValue (pageValue [deep])) = none := by
    simp [readPage?, pageValue, Tree.fields_ofFields, Tree.Fields.required, Tree.listOf,
      Tree.ofValue, Tree.ofItems, hit]
  rw [showing_deep]
  exact hitsOf_unreadable rfl (json?_pageValue writable_deep) unread _ _

/-- A document whose source is written one level deeper than the reader goes ends a search without any
documents, although the server shows it. -/
theorem searchAll_deep_unreadable :
    node.request .post s!"{feeds}/_search" [] .nothing = .ok feedSearch ∧
      [deep].Pairwise (·.id < ·.id) ∧
      Serves (sourceDepth + 1) feedSearch.url [deep] (showing [deep]) ∧
      ((node.answer (.searchAll feeds)).outcome (showing [deep])).1 =
        .ok (.error (unreadable "_search")) := by
  refine ⟨request_feeds, List.pairwise_singleton _ _, serves_showing _ writable_deep, ?_⟩
  have formed : node.request .post s!"{feeds}/_search" [] (.json (searchBody none)) =
      .ok (searchRequest feedSearch none) := by
    rw [request_json, request_feeds]
    rfl
  exact congrArg Prod.fst (run_pages_error formed hitsOf_deep (pageLimit - 1))

end Remote

end IndicatorFeeds.Store
