import Mathlib.Data.List.Forall2
import IndexFeed.Http.Node
import IndexFeed.Proofs.Update.Traffic
import IndexFeed.Proofs.Url.Parsed

/-! What is exchanged with a node: one call for each request, and the answer read from what came of it. -/
namespace IndexFeed

open Program (Course course_pure_iff course_query_iff course_bind_iff)

namespace Outside

def exchange? : (query : Query) → Answer query → Option (Http.Call × Http.Exchange)
  | .exchange call, answer => some (call, answer)
  | .lookup _, _ | .log _, _ | .input, _ | .file _, _ => none

/-- The calls that were made, each with what came of it. -/
def exchanges (dialogue : Dialogue interface) : List (Http.Call × Http.Exchange) :=
  dialogue.filterMap fun ⟨query, answer⟩ => exchange? query answer

@[simp] theorem exchanges_append (first second : Dialogue interface) :
    exchanges (first ++ second) = exchanges first ++ exchanges second := List.filterMap_append

end Outside

namespace Http.Node
open Outside (exchanges)

/-- Whether the node is reached by the schemes of the web. -/
def IsWeb (node : Node) : Prop := node.base.scheme = "http" ∨ node.base.scheme = "https"

/-- What arrives of an exchange. -/
def arrived : Exchange → Except Error Reply
  | .ok reply => .ok reply
  | .error failure => .error (.transport failure)

/-- The answer that is read from what came of a call. -/
def received (exchange : Exchange) : Except Error Json := arrived exchange >>= value

/-- A call is answered well by a reply that tells of success and has JSON in it. -/
theorem isOk_received_iff {exchange : Exchange} :
    (received exchange).isOk = true ↔
      ∃ reply, exchange = .ok reply ∧ reply.status.isSuccess = true ∧
        ∃ content, Json.read reply.body = .ok content := by
  cases exchange with
  | error failure => simp [received, arrived, bind, Except.bind, Except.toBool]
  | ok reply =>
    change (value reply).isOk = true ↔ _
    rw [value]
    cases hsuccess : reply.status.isSuccess with
    | false => simp [hsuccess, Except.toBool]
    | true => cases hread : Json.read reply.body <;> simp [hsuccess, hread, Except.toBool]

variable {node : Node} {method : Method} {url : Url} {segments : List String} {body : Option Json}
  {dialogue : Dialogue Outside.interface}

private theorem contact_course {result : Except Error Reply}
    (hweb : url.scheme = "http" ∨ url.scheme = "https")
    (h : Course (node.contact method url body) dialogue result) :
    ∃ exchange, exchanges dialogue = [(⟨method, url, body.map Json.text, node.timeout⟩, exchange)] ∧
      result = arrived exchange := by
  rw [contact, if_pos hweb] at h
  obtain ⟨exchange, asked, _, ha, hnext, rfl⟩ := course_bind_iff.mp h
  obtain rfl := course_query_iff.mp ha
  cases exchange with
  | ok reply =>
    obtain ⟨rfl, rfl⟩ := course_pure_iff.mp hnext
    exact ⟨.ok reply, rfl, rfl⟩
  | error failure =>
    obtain ⟨rfl, rfl⟩ := course_pure_iff.mp hnext
    exact ⟨.error failure, rfl, rfl⟩

/-- The URL of segments is the one below the base. -/
theorem url_eq_ok_iff : node.url segments = .ok url ↔ node.base.below? segments = some url := by
  rw [Node.url]
  split
  · next found h => simp [h]
  · next h => simp [h]

/-- What lies below a node is reached by the scheme of its base. -/
theorem scheme_of_url (h : node.url segments = .ok url) : url.scheme = node.base.scheme := by
  rw [url_eq_ok_iff, Url.below?] at h
  split at h
  · exact nomatch h
  · obtain rfl := Option.some.inj h
    rfl

/-- The base of a node was read from some text. -/
theorem parse_base {settings : Settings} (hmade : ofSettings settings = .ok node) :
    ∃ text, Url.parse text = .ok node.base := by
  rw [ofSettings] at hmade
  split at hmade
  · exact nomatch hmade
  · split at hmade
    · next base hparsed =>
      obtain rfl := Except.ok.inj hmade
      exact ⟨_, hparsed⟩
    · exact nomatch hmade

/-- Segments can be added to every base on the web. -/
theorem isHierarchical_base {settings : Settings} (hmade : ofSettings settings = .ok node)
    (hweb : node.IsWeb) : node.base.IsHierarchical := by
  obtain ⟨text, hparsed⟩ := parse_base hmade
  exact Url.isHierarchical_of_parse hparsed (Url.isSpecial_of_web hweb)

private theorem exists_url (hbase : node.base.IsHierarchical) (segments : List String) :
    ∃ url, node.url segments = .ok url := by
  obtain ⟨-, path, hroute⟩ := hbase
  have hbelow : (node.base.below? segments).isSome = true := by
    rw [Url.below?, hroute]
    rfl
  obtain ⟨url, hfound⟩ := Option.isSome_iff_exists.mp hbelow
  exact ⟨url, url_eq_ok_iff.mpr hfound⟩

/-- The call that a node makes to reach what lies below it. -/
structure Calls (node : Node) (method : Method) (segments : List String) (body : Option Json)
    (call : Call) : Prop where
  method_eq : call.method = method
  url_eq : node.url segments = .ok call.url
  body_eq : call.body = body.map Json.text
  timeout_eq : call.timeout = node.timeout

/-- A program that reads the reply to a call makes this call alone. -/
theorem reading_course {α : Type} {read : Reply → Except Error α}
    {next : Except Error Reply → Program Outside.interface (Except Error α)}
    (hfailed : ∀ e, next (.error e) = pure (.error e))
    (hreplied : ∀ reply, next (.ok reply) = pure (read reply)) (hweb : node.IsWeb)
    (hbelow : node.url segments = .ok url) {result : Except Error α}
    (h : Course (node.contact method url body >>= next) dialogue result) :
    ∃ call exchange, exchanges dialogue = [(call, exchange)] ∧
      node.Calls method segments body call ∧ result = arrived exchange >>= read := by
  obtain ⟨_, asked, after, ha, htail, rfl⟩ := course_bind_iff.mp h
  have hscheme := scheme_of_url hbelow
  obtain ⟨exchange, hmade, rfl⟩ := contact_course (by rwa [hscheme]) ha
  have hended : after = [] ∧ result = arrived exchange >>= read := by
    cases exchange with
    | ok reply =>
      rw [arrived, hreplied] at htail
      exact course_pure_iff.mp htail
    | error failure =>
      rw [arrived, hfailed] at htail
      exact course_pure_iff.mp htail
  obtain ⟨rfl, rfl⟩ := hended
  exact ⟨⟨method, url, body.map Json.text, node.timeout⟩, exchange, by rw [List.append_nil, hmade],
    ⟨rfl, hbelow, rfl, rfl⟩, rfl⟩

/-- A request makes one call, whose exchange decides the answer. -/
theorem send_course {result : Except Error Json} (hbase : node.base.IsHierarchical)
    (hweb : node.IsWeb) (h : Course (node.send method segments body) dialogue result) :
    ∃ call exchange, exchanges dialogue = [(call, exchange)] ∧
      node.Calls method segments body call ∧ result = received exchange := by
  obtain ⟨url, hbelow⟩ := exists_url hbase segments
  rw [send, hbelow] at h
  refine reading_course ?_ ?_ hweb hbelow h
  · exact fun _ => rfl
  · exact fun _ => rfl

/-- Asking for an index makes one call, whose exchange decides whether it exists. -/
theorem indexExists_course {index : String} {result : Except Error Bool}
    (hbase : node.base.IsHierarchical) (hweb : node.IsWeb)
    (h : Course (node.indexExists index) dialogue result) :
    ∃ call exchange, exchanges dialogue = [(call, exchange)] ∧ node.Calls .head [index] none call ∧
      result = arrived exchange >>= existence := by
  obtain ⟨url, hbelow⟩ := exists_url hbase [index]
  rw [indexExists, hbelow] at h
  refine reading_course ?_ ?_ hweb hbelow h
  · exact fun _ => rfl
  · exact fun _ => rfl

def methodOf : Request → Method
  | .index _ => .put
  | .update _ | .search _ => .post

/-- Where a request is addressed below the node. -/
def placeOf : Request → List String
  | .index request => Node.segments request.target
  | .update request => Node.segments request.target ++ ["_update"]
  | .search request => [request.index, request.type, "_search"]

def contentOf : Request → Json
  | .index request => request.body
  | .update request => request.body.toJson
  | .search request => request.body

private theorem answer_eq (node : Node) (request : Request) : node.answer request =
    node.send (methodOf request) (placeOf request) (some (contentOf request)) := by
  cases request <;> rfl

/-- A request with its answer, carried by a call with what came of it. -/
structure Carries (node : Node) (sent : Request × Except Error Json) (exchanged : Call × Exchange) :
    Prop where
  calls : node.Calls (methodOf sent.1) (placeOf sent.1) (some (contentOf sent.1)) exchanged.1
  answer : sent.2 = received exchanged.2

/-- Each request of an update is carried by one call, in their order, and nothing else is called. -/
theorem carries_of_expands (hbase : node.base.IsHierarchical) (hweb : node.IsWeb)
    {inner : Dialogue Update.interface} (h : Program.Expands node.respond inner dialogue) :
    List.Forall₂ node.Carries (Update.calls inner) (exchanges dialogue) := by
  induction h with
  | nil => exact .nil
  | @cons query answer rest piece more hanswered hlater ih =>
    rw [Outside.exchanges_append]
    cases query with
    | send request =>
      rw [respond, answer_eq] at hanswered
      obtain ⟨call, exchange, hmade, hcalls, hread⟩ := send_course hbase hweb hanswered
      rw [hmade]
      exact .cons ⟨hcalls, hread⟩ ih
    | lookup selector =>
      obtain rfl := course_query_iff.mp hanswered
      exact ih
    | log event =>
      obtain rfl := course_query_iff.mp hanswered
      exact ih

end Http.Node
end IndexFeed
