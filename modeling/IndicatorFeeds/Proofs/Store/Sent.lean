import IndicatorFeeds.Proofs.Json.Whole
import IndicatorFeeds.Proofs.Program.Replies
import IndicatorFeeds.Rotation.Populate
import IndicatorFeeds.Store.Remote

namespace IndicatorFeeds.Store

open Json (Value)

namespace Remote

/-- What is known of a request that has been answered so. -/
def received (request : Http.Request) : Option Http.Reply → Except Error Http.Reply
  | some reply => .ok reply
  | none => .error (.transport (Http.unanswered request.url))

theorem run_send (r : Remote) (method : Http.Method) (path : String)
    (fields : List (String × String)) (payload : Payload) (replies : Replies)
    (asked : List Request) :
    (r.send method path fields payload).run replies.answer asked =
      match r.request method path fields payload with
      | .error e => (.ok (.error e), asked)
      | .ok request =>
        (.ok (received request (replies asked (.http request))), asked ++ [.http request]) := by
  unfold send
  cases r.request method path fields payload with
  | error e => rfl
  | ok request =>
    refine (Program.run_bind ..).trans ?_
    simp only [Program.request, Program.run, Replies.answer]
    generalize replies asked (.http request) = reply
    cases reply <;> rfl

end Remote

/-- A document such as indices are filled with: an indicator, all of its texts as they may be, and a
time that is a word. -/
structure Posting where
  id : Option String
  iocType : String
  iocValue : String
  feedId : String
  timestamp : Int
  word : Json.IsWord timestamp

namespace Posting

def source (p : Posting) : Value :=
  .ofFields [("ioc_type", .string p.iocType), ("ioc_value", .string p.iocValue),
    ("feed_id", .string p.feedId), ("timestamp", .int p.timestamp)]

/-- Indexing is all that is asked for a document. -/
def action (index : String) (p : Posting) : Value :=
  match p.id with
  | none => .object [("index", .object [("_index", .string index)])]
  | some id => .object [("index", .object [("_id", .string id), ("_index", .string index)])]

def item (p : Posting) : BulkItem := ⟨p.id, p.source⟩

/-- The document of an indicator of a feed. -/
def ofIndicator (feed : Feed.Metadata) (timestamp : Instant) (value : String) : Posting where
  id := none
  iocType := feed.indicatorType
  iocValue := value
  feedId := feed.feedId
  timestamp := timestamp.millis
  word := ⟨Int.le_trans (by decide) timestamp.bounded.1,
    Int.lt_of_le_of_lt timestamp.bounded.2 (by decide)⟩

theorem bulkAction_id (index : String) (p : Posting) :
    Remote.bulkAction index p.id = p.action index := by
  have single (field : String × Value) : Json.Ascending [field] := List.pairwise_singleton _ _
  unfold Remote.bulkAction action
  rw [Value.ofFields_of_ascending (single _)]
  cases p.id with
  | none => rw [Value.ofFields_of_ascending (single _)]
  | some id => rfl

/-- What is to be done with the document and the document itself, each on a line of its own. -/
def lines (index : String) (p : Posting) : List (List Char) :=
  [(p.action index).print, p.source.print]

section

variable (index : String) (p : Posting)

private theorem exact_action : (p.action index).Exact := by
  rw [← bulkAction_id]
  cases p.id <;> exact Value.exact_ofFields (by simp [Value.exact_ofFields])

private theorem whole_action (depth : Nat) : Value.Whole (depth + 2) (p.action index) := by
  rw [← bulkAction_id]
  cases p.id <;> exact .ofFields (by simp [Value.Whole.ofFields, Value.Whole.string])

private theorem exact_source : p.source.Exact :=
  Value.exact_ofFields (by simp [Value.int, Value.Exact.int p.word])

private theorem whole_source (depth : Nat) : Value.Whole (depth + 1) p.source :=
  .ofFields (by simp [Value.int, Value.Whole.string, Value.Whole.number])

theorem parse?_lines : (p.lines index).map (fun line => Value.parse? (String.ofList line)) =
    [some (p.action index), some p.source] := by
  have action := (p.whole_action index _).parse?_render (p.exact_action index)
  have source := (p.whole_source _).parse?_render p.exact_source
  simp only [lines, List.map_cons, List.map_nil]
  rw [← Value.render, ← Value.render, action, source]

theorem lineFeed_not_mem_lines : ∀ line ∈ p.lines index, '\n' ∉ line :=
  List.forall_mem_cons.mpr ⟨(p.exact_action index).lineFeed_not_mem_print,
    List.forall_mem_singleton.mpr p.exact_source.lineFeed_not_mem_print⟩

end

end Posting

private theorem splitOn_ended {lines : List (List Char)} (single : ∀ line ∈ lines, '\n' ∉ line) :
    (lines.flatMap (· ++ ['\n'])).splitOn '\n' = lines ++ [[]] := by
  induction lines with
  | nil => rfl
  | cons line rest ih =>
    have ⟨first, others⟩ := List.forall_mem_cons.mp single
    have whole : line.splitOn '\n' = [line] := List.splitOnP_eq_singleton fun c member =>
      beq_false_of_ne fun same => first (same ▸ member)
    have parted : (line ++ '\n' :: rest.flatMap (· ++ ['\n'])).splitOn '\n' =
        line.splitOn '\n' ++ (rest.flatMap (· ++ ['\n'])).splitOn '\n' :=
      List.splitOnP_append_cons _ _ (beq_self_eq_true _)
    rw [List.flatMap_cons, List.append_assoc, List.singleton_append, parted, whole, ih others,
      List.cons_append, List.nil_append, List.cons_append]

theorem Remote.toList_bulkPayload (index : String) (postings : List Posting) :
    (bulkPayload index (postings.map Posting.item)).toList =
      (postings.flatMap (Posting.lines index)).flatMap (· ++ ['\n']) := by
  have lines (p : Posting) :
      bulkLines index p.item = (p.lines index).flatMap (· ++ ['\n']) := by
    simp [bulkLines, Posting.lines, Posting.item, ← p.bulkAction_id]
  simp [bulkPayload, List.flatMap_map, List.flatMap_assoc, lines]

/-- What is sent with a body of lines to where bulks are written, if a request can be formed. -/
def Remote.bulkRequests (r : Remote) (body : String) : List Request :=
  match r.request .post "_bulk" [] .nothing with
  | .error _ => []
  | .ok plain =>
    [.http { plain with contentType := some "application/x-ndjson", body := some body }]

/-- A bulk write sends its documents at once. Cut at line feeds, what it sends has two lines for each
document and nothing after them; read line by line, they are what is to be done with each document and
the document, in their order. -/
theorem Remote.bulkIndex_lines (r : Remote) (index : String) {postings : List Posting}
    (there : postings ≠ []) :
    ∃ body lines,
      (∀ replies, ((r.answer (.bulkIndex index (postings.map Posting.item))).outcome replies).2 =
        r.bulkRequests body) ∧
      body.toList.splitOn '\n' = lines ++ [[]] ∧
      lines.length = 2 * postings.length ∧
      lines.map (fun line => Value.parse? (String.ofList line)) =
        postings.flatMap fun p => [some (p.action index), some p.source] := by
  refine ⟨bulkPayload index (postings.map Posting.item), postings.flatMap (Posting.lines index),
    fun replies => ?_, ?_, ?_, ?_⟩
  · have some : ¬(postings.map Posting.item).isEmpty = true := by simpa using there
    rw [answer, if_neg some]
    simp only [Program.outcome, bind, pure, Program.run_bind, run_send, request_lines,
      Remote.bulkRequests]
    cases r.request .post "_bulk" [] .nothing with
    | error e => rfl
    | ok plain => rfl
  · rw [toList_bulkPayload]
    refine splitOn_ended fun line member => ?_
    obtain ⟨p, _, inLines⟩ := List.mem_flatMap.mp member
    exact p.lineFeed_not_mem_lines index line inLines
  · simp [List.length_flatMap, Posting.lines, List.map_const', Nat.mul_comm]
  · simp only [List.map_flatMap, Posting.parse?_lines]

/-- A server that is one node, addressed at its root. -/
def node : Remote where
  base := ⟨"http", some ⟨"", none, .domain "node", some 9200⟩, .segments [""], none, none⟩

private def blocklist : Feed.Metadata where
  feedId := "ips\r\n"
  url := node.base

/-- An indicator that looks like the end of a line and another action, and texts of quotes, controls
and backslashes. -/
private def hostile : List Posting :=
  [.ofIndicator blocklist .epoch "1.1.1.1\"\x7d\n\x7b\"delete\":\x7b\x7d\x7d\n",
    ⟨some "\n\"", "\x00\x1f", "\\n\u2028", "\"", -1, by decide, by decide⟩]

/-- Hostile texts do not leave their lines. -/
theorem Remote.bulkIndex_lines_hostile : hostile ≠ [] ∧ ∃ body lines,
    (∀ replies, ((node.answer (.bulkIndex "i" (hostile.map Posting.item))).outcome replies).2 =
      node.bulkRequests body) ∧
    (node.bulkRequests body).length = 1 ∧
    body.toList.splitOn '\n' = lines ++ [[]] ∧
    lines.length = 4 ∧
    lines.map (fun line => Value.parse? (String.ofList line)) = [
      some (.object [("index", .object [("_index", .string "i")])]),
      some (Rotation.indicatorDocument blocklist .epoch
        "1.1.1.1\"\x7d\n\x7b\"delete\":\x7b\x7d\x7d\n"),
      some (.object [("index", .object [("_id", .string "\n\""), ("_index", .string "i")])]),
      some (.object [("feed_id", .string "\""), ("ioc_type", .string "\x00\x1f"),
        ("ioc_value", .string "\\n\u2028"), ("timestamp", .int (-1))])] := by
  have there : hostile ≠ [] := nofun
  have formed : (node.request .post "_bulk" [] .nothing).isOk = true := by decide +kernel
  obtain ⟨body, lines, sent, split, two, parsed⟩ := bulkIndex_lines node "i" there
  refine ⟨there, body, lines, sent, ?_, split, two, parsed.trans rfl⟩
  unfold bulkRequests
  cases plain : node.request .post "_bulk" [] .nothing with
  | error e => simp [plain, Except.isOk, Except.toBool] at formed
  | ok plain => rfl

end IndicatorFeeds.Store
