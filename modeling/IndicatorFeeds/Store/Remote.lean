import IndicatorFeeds.Program

namespace IndicatorFeeds.Store

/-- A search server. -/
structure Remote where
  /-- What requests are relative to; its path ends in a slash. -/
  base : Url

namespace Remote

def ofUrl (url : Url) : Remote := ⟨url.asDirectory⟩

/-- How many documents a search returns at most. -/
def pageSize : Nat := 1000

def url (r : Remote) (path : String) : Except Error Url :=
  (r.base.join path).mapError fun refusal =>
    .backend s!"invalid store path {path}: {refusal.message}"

/-- What is sent along with a request. -/
inductive Payload where
  | nothing
  | json (value : Json.Value)
  /-- JSON values, each on a line of its own. -/
  | lines (text : String)

private def withPayload (request : Http.Request) : Payload → Http.Request
  | .nothing => request
  | .json value =>
    { request with contentType := some "application/json", body := some value.render }
  | .lines text =>
    { request with contentType := some "application/x-ndjson", body := some text }

def request (r : Remote) (method : Http.Method) (path : String) (fields : List (String × String))
    (payload : Payload) : Except Error Http.Request := do
  let url ← r.url path
  let request ← (Http.prepare method url fields).mapError .transport
  return withPayload request payload

theorem request_json (r : Remote) (method : Http.Method) (path : String)
    (fields : List (String × String)) (value : Json.Value) :
    r.request method path fields (.json value) =
      (r.request method path fields .nothing).map fun plain =>
        { plain with contentType := some "application/json", body := some value.render } := by
  simp only [request]
  cases r.url path with
  | error e => rfl
  | ok url => simp only [bind, Except.bind]; cases Http.prepare method url fields <;> rfl

theorem request_lines (r : Remote) (method : Http.Method) (path : String)
    (fields : List (String × String)) (text : String) :
    r.request method path fields (.lines text) =
      (r.request method path fields .nothing).map fun plain =>
        { plain with contentType := some "application/x-ndjson", body := some text } := by
  simp only [request]
  cases r.url path with
  | error e => rfl
  | ok url => simp only [bind, Except.bind]; cases Http.prepare method url fields <;> rfl

def send (r : Remote) (method : Http.Method) (path : String) (fields : List (String × String) := [])
    (payload : Payload := .nothing) : Program (Except Error Http.Reply) :=
  match r.request method path fields payload with
  | .error e => return .error e
  | .ok request => do
    match ← Program.request (.http request) with
    | some reply => return .ok reply
    | none => return .error (.transport (Http.unanswered request.url))

/-- The JSON of a reply as a value. -/
def bodyValue? (reply : Http.Reply) : Option Json.Value :=
  reply.json?.bind (Json.Tree.value? Json.Tree.maxDepth)

/-- What the server says has gone wrong with an index or a document. -/
def errorOf (reply : Http.Reply) (index : String) (id : Option String) : Error :=
  let body := (bodyValue? reply).getD .null
  match ((body.field "error").field "type").string? with
  | some "resource_already_exists_exception" => .alreadyExists index
  | some "index_not_found_exception" => .indexNotFound index
  | _ =>
    match reply.status, id with
    | 409, some id => .versionConflict index id
    | 409, none => .alreadyExists index
    | 404, some id => .documentNotFound index id
    | 404, none => .indexNotFound index
    | status, _ => .backend s!"{Http.statusText status} on {index}: {body.render}"

/-- A reply whose body is not what it should be. -/
def unreadable (what : String) : Error :=
  .backend s!"invalid {what} body: {Http.Reply.unreadable}"

/-- The body of a success. -/
def successBody (index : String) (reply : Http.Reply) : Except Error Json.Value :=
  if reply.isSuccess then
    match bodyValue? reply with
    | some value => .ok value
    | none => .error (unreadable "response")
  else .error (errorOf reply index none)

/-- The body of a success, read as what it should be. -/
def successAs (what index : String) (id : Option String) (read : Json.Tree → Option α)
    (reply : Http.Reply) : Except Error α :=
  if reply.isSuccess then
    match reply.json?.bind read with
    | some a => .ok a
    | none => .error (unreadable what)
  else .error (errorOf reply index id)

private def done : Except Error α → Except Error Unit := Except.map fun _ => ()

/-- What is to be done with a document: it is indexed, under its id if it has one. -/
def bulkAction (index : String) (id : Option String) : Json.Value :=
  .ofFields [("index", .ofFields (("_index", .string index) ::
    match id with
    | some id => [("_id", .string id)]
    | none => []))]

/-- The lines that write one document. -/
def bulkLines (index : String) (item : BulkItem) : List Char :=
  (bulkAction index item.id).print ++ '\n' :: item.source.print ++ ['\n']

/-- The lines that write documents. -/
def bulkPayload (index : String) (items : List BulkItem) : String :=
  String.ofList (items.flatMap (bulkLines index))

/-- The first error that a bulk write reports. -/
private def firstItemError (body : Json.Value) : Json.Value :=
  (((body.field "items").array?.getD []).findSome? fun item =>
    (item.field "index").field? "error").getD .null

private def checkItems (index : String) (body : Json.Value) : Except Error Unit :=
  match body.field "errors" with
  | .bool true =>
    .error (.backend s!"bulk write into {index} rejected items: {(firstItemError body).render}")
  | _ => .ok ()

private def readVersion? (t : Json.Tree) : Option Version := do
  let f ← t.fields ["_seq_no", "_primary_term"]
  return ⟨← f.required "_seq_no" Json.Tree.natural, ← f.required "_primary_term" Json.Tree.natural⟩

private def readDocument? (id : String) (t : Json.Tree) : Option (Option Document) := do
  let f ← t.fields ["found", "_seq_no", "_primary_term", "_source"]
  let found ← f.withDefault "found" Json.Tree.boolean false
  let seqNo ← f.optional "_seq_no" Json.Tree.natural
  let primaryTerm ← f.optional "_primary_term" Json.Tree.natural
  let source ← f.optional "_source" (Json.Tree.value? (Json.Tree.maxDepth - 1))
  match found, seqNo, primaryTerm, source with
  | true, some seqNo, some primaryTerm, some source =>
    return some ⟨id, ⟨seqNo, primaryTerm⟩, source⟩
  | _, _, _, _ => return none

private def versionFields (v : Version) : List (String × String) :=
  [("if_seq_no", toString v.seqNo), ("if_primary_term", toString v.primaryTerm)]

private def conditionFields : WriteCondition → List (String × String)
  | .create => [("op_type", "create")]
  | .ifVersion v => versionFields v
  | .overwrite => []

/-- Changes are waited for until searches see them. -/
private def waitFor : String × String := ("refresh", "wait_for")

private def documentPath (index id : String) : String := s!"{index}/_doc/{id}"

private def putError (index id : String) (condition : WriteCondition) (e : Error) : Error :=
  match condition, e with
  | .create, .versionConflict _ _ => .alreadyExists s!"{index}/{id}"
  | _, e => e

private def deleteError (index id : String) : Error → Error
  | .indexNotFound _ => .documentNotFound index id
  | e => e

/-- The number of a shard; a text that is none stands for zero. -/
private def shardNumber (text : String) : UInt32 :=
  let digits := match text.toList with
    | '+' :: rest => rest
    | cs => cs
  let n := Nat.ofDigitChars 10 digits 0
  if !digits.isEmpty && digits.all Char.isDigit && n < UInt32.size then .ofNat n else 0

private def readShard? (t : Json.Tree) : Option ShardStatus := do
  let f ← t.fields ["shard", "prirep", "state"]
  let shard ← f.required "shard" Json.Tree.text
  let role ← f.required "prirep" Json.Tree.text
  let state ← f.required "state" Json.Tree.text
  return ⟨shardNumber shard, role = "p", ShardState.parse state⟩

/-- A document found by a search, and where the search goes on after it. -/
structure Hit where
  document : Document
  sort : List Json.Value
deriving Inhabited

/-- How deep in a page of hits the values of a hit are. -/
def hitDepth : Nat := 4

/-- A document with its version and the place of it in the order of hits. -/
def readHit? (t : Json.Tree) : Option Hit := do
  let f ← t.fields ["_id", "_seq_no", "_primary_term", "_source", "sort"]
  let id ← f.required "_id" Json.Tree.text
  let seqNo ← f.optional "_seq_no" Json.Tree.natural
  let primaryTerm ← f.optional "_primary_term" Json.Tree.natural
  let source ← f.required "_source" (Json.Tree.value? (Json.Tree.maxDepth - hitDepth))
  let sort ← f.withDefault "sort"
    (Json.Tree.listOf (Json.Tree.value? (Json.Tree.maxDepth - hitDepth - 1))) []
  return ⟨⟨id, ⟨seqNo.getD 0, primaryTerm.getD 0⟩, source⟩, sort⟩

def readPage? (t : Json.Tree) : Option (List Hit) := do
  let outer ← t.fields ["hits"]
  outer.required "hits" fun t => do
    let inner ← t.fields ["hits"]
    inner.required "hits" (Json.Tree.listOf readHit?)

/-- A search for the documents that come after a place in the order of ids. -/
def searchBody (after : Option (List Json.Value)) : Json.Value :=
  .ofFields ([
    ("size", .nat pageSize),
    ("seq_no_primary_term", .bool true),
    ("query", .ofFields [("match_all", .ofFields [])]),
    ("sort", .array [.ofFields [("_id", .string "asc")]])] ++
    match after with
    | some sort => [("search_after", .array sort)]
    | none => [])

def page (r : Remote) (index : String) (after : Option (List Json.Value)) :
    Program (Except Error (List Hit)) := do
  let reply ← r.send .post s!"{index}/_search" [] (.json (searchBody after))
  return reply.bind (successAs "_search" index none readPage?)

/-- The documents of the pages from a place on, at most so many pages. A page that is not full is
the last one. -/
def pages (r : Remote) (index : String) :
    Nat → Option (List Json.Value) → Program (Except Error (List Document))
  | 0, _ => Program.fail (.fault .capacityOverflow)
  | limit + 1, after => do
    match ← r.page index after with
    | .error e => return .error e
    | .ok hits =>
      let found := hits.map (·.document)
      if hits.length < pageSize then return .ok found
      else
        let more ← r.pages index limit (hits.getLast?.map (·.sort))
        return more.map (found ++ ·)

/-- More pages than documents can be counted in 64 bits. -/
def pageLimit : Nat := UInt64.size

def answer (r : Remote) : (c : Call) → Program c.Answer
  | .createIndex index spec => do
    let mappings := match spec.mappings with
      | some mappings => [("mappings", mappings)]
      | none => []
    let reply ← r.send .put index [] (.json (.ofFields (("settings", spec.settings) :: mappings)))
    return done (reply.bind (successBody index))
  | .deleteIndex index => do
    return done ((← r.send .delete index).bind (successBody index))
  | .indexExists index => do
    return (← r.send .head index).bind fun reply =>
      if reply.isSuccess then .ok true
      else if reply.status = 404 then .ok false
      else .error (.backend s!"{Http.statusText reply.status} probing {index}")
  | .bulkIndex index items => do
    if items.isEmpty then return .ok ()
    let reply ← r.send .post "_bulk" [] (.lines (bulkPayload index items))
    return (reply.bind (successBody index)).bind (checkItems index)
  | .refreshIndex index => do
    return done ((← r.send .post s!"{index}/_refresh").bind (successBody index))
  | .forceMerge index maxSegments => do
    let reply ← r.send .post s!"{index}/_forcemerge"
      [("max_num_segments", toString maxSegments.toNat)]
    return done (reply.bind (successBody index))
  | .updateSettings index update => do
    let reply ← r.send .put s!"{index}/_settings" [] (.json update.settings)
    return done (reply.bind (successBody index))
  | .shardStates index => do
    let reply ← r.send .get s!"_cat/shards/{index}" [("format", "json")]
    return reply.bind (successAs "_cat/shards" index none (Json.Tree.listOf readShard?))
  | .getDocument index id => do
    return (← r.send .get (documentPath index id)).bind fun reply =>
      if reply.status = 404 then .ok none
      else successAs "_doc" index (some id) (readDocument? id) reply
  | .putDocument index id source condition => do
    let reply ← r.send .put (documentPath index id) (waitFor :: conditionFields condition)
      (.json source)
    return reply.bind fun reply =>
      if reply.isSuccess then successAs "write" index (some id) readVersion? reply
      else .error (putError index id condition (errorOf reply index (some id)))
  | .deleteDocument index id expected => do
    let fields := match expected with
      | some v => versionFields v
      | none => []
    return (← r.send .delete (documentPath index id) (waitFor :: fields)).bind fun reply =>
      if reply.isSuccess then .ok ()
      else .error (deleteError index id (errorOf reply index (some id)))
  | .searchAll index => r.pages index pageLimit none

/-- The program with its calls on a store answered by the server. -/
def serve (r : Remote) : Program α → Program α :=
  Program.refine fun
    | .store call => r.answer call
    | other => Program.request other

end Remote

end IndicatorFeeds.Store
