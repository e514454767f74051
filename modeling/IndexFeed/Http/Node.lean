import IndexFeed.Json.Printer
import IndexFeed.Settings.Source
import IndexFeed.Update.Interface
import IndexFeed.Url.Parser

/-! All that a run asks of the outside, HTTP exchanges, lookups, files, the standard input and a log, and a
node of the index, reached over HTTP. -/
namespace IndexFeed

namespace Outside

/-- What is asked of the outside. -/
inductive Query where
  | exchange (call : Http.Call)
  | lookup (selector : Json)
  | log (event : Event)
  | input
  | file (path : String)

def Answer : Query → Type
  | .exchange _ => Http.Exchange
  | .lookup _ => Except Error (List String)
  | .log _ => Unit
  | .input => Except String String
  | .file _ => Stored

def interface : Interface := ⟨Query, Answer⟩

def exchange (call : Http.Call) : Program interface Http.Exchange :=
  Program.query (P := interface) (.exchange call)

def lookup (selector : Json) : Program interface (Except Error (List String)) :=
  Program.query (P := interface) (.lookup selector)

def log (event : Event) : Program interface Unit := Program.query (P := interface) (.log event)

def input : Program interface (Except String String) := Program.query (P := interface) .input

def file (path : String) : Program interface Stored := Program.query (P := interface) (.file path)

end Outside

namespace Http

/-- A node, known by the URL below which everything on it lies. -/
structure Node where
  base : Url
  timeout : Nat
  deriving DecidableEq, Repr

namespace Node

/-- Whether a colon and two slashes occur in a text. -/
def hasScheme : List Char → Bool
  | [] => false
  | ':' :: '/' :: '/' :: _ => true
  | _ :: rest => hasScheme rest

/-- The URL that a host stands for; without a scheme it is reached over HTTP. -/
def urlText (host : String) : String :=
  if hasScheme host.toList then host else "http://" ++ host

def ofSettings (settings : Settings) : Except Error Node :=
  let host := Text.trim settings.host
  if host = "" then .error (.settings .emptyHost)
  else
    match Url.parse (urlText host) with
    | .ok base => .ok ⟨base, settings.timeout⟩
    | .error fault => .error (.settings (.invalidHost host fault.message))

def url (node : Node) (segments : List String) : Except Error Url :=
  match node.base.below? segments with
  | some url => .ok url
  | none => .error (.settings (.notABase node.base.text))

/-- Sends a request to a URL; only web schemes are ever contacted. -/
def contact (node : Node) (method : Method) (url : Url) (body : Option Json) :
    Program Outside.interface (Except Error Reply) :=
  if url.scheme = "http" ∨ url.scheme = "https" then do
    match ← Outside.exchange ⟨method, url, body.map Json.text, node.timeout⟩ with
    | .ok reply => return .ok reply
    | .error failure => return .error (.transport failure)
  else pure (.error (.transport "URL scheme is not allowed"))

/-- The JSON of a successful reply. -/
def value (reply : Reply) : Except Error Json :=
  if reply.status.isSuccess then
    match Json.read reply.body with
    | .ok value => .ok value
    | .error _ => .error (.json .replyBody)
  else .error (.http reply.status reply.body)

/-- Sends a request below the node and reads the JSON of its reply. -/
def send (node : Node) (method : Method) (segments : List String) (body : Option Json) :
    Program Outside.interface (Except Error Json) :=
  match node.url segments with
  | .error e => pure (.error e)
  | .ok url => do
    match ← node.contact method url body with
    | .error e => return .error e
    | .ok reply => return value reply

def segments (target : Target) : List String := [target.index, target.type, target.id]

def get (node : Node) (target : Target) : Program Outside.interface (Except Error Json) :=
  node.send .get (segments target) none

def index (node : Node) (request : IndexRequest) : Program Outside.interface (Except Error Json) :=
  node.send .put (segments request.target) (some request.body)

def update (node : Node) (request : UpdateRequest) : Program Outside.interface (Except Error Json) :=
  node.send .post (segments request.target ++ ["_update"]) (some request.body.toJson)

def search (node : Node) (request : SearchRequest) : Program Outside.interface (Except Error Json) :=
  node.send .post [request.index, request.type, "_search"] (some request.body)

def answer (node : Node) : Request → Program Outside.interface (Except Error Json)
  | .index request => node.index request
  | .update request => node.update request
  | .search request => node.search request

def createIndex (node : Node) (index : String) : Program Outside.interface (Except Error Json) :=
  node.send .put [index] none

def deleteIndex (node : Node) (index : String) : Program Outside.interface (Except Error Json) :=
  node.send .delete [index] none

/-- Whether a reply says that the index is there. -/
def existence (reply : Reply) : Except Error Bool :=
  if reply.status.isSuccess then .ok true
  else if reply.status = Status.notFound then .ok false
  else .error (.http reply.status "")

def indexExists (node : Node) (index : String) : Program Outside.interface (Except Error Bool) :=
  match node.url [index] with
  | .error e => pure (.error e)
  | .ok url => do
    match ← node.contact .head url none with
    | .error e => return .error e
    | .ok reply => return existence reply

/-- Answers the questions of an update: requests by the node, all else by the outside. -/
def respond (node : Node) : (query : Update.Query) → Program Outside.interface (Update.Answer query)
  | .send request => node.answer request
  | .lookup selector => Outside.lookup selector
  | .log event => Outside.log event

/-- An update of the index on this node. -/
def perform {α : Type} (node : Node) (program : Program Update.interface α) :
    Program Outside.interface α :=
  program.expand node.respond

end Node

end Http
end IndexFeed
