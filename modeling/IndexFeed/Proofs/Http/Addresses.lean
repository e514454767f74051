import IndexFeed.Proofs.Http.Exchange
import IndexFeed.Proofs.Url.Added

/-! The URLs at which a node is asked for documents and for indices, and which names share one. -/
namespace IndexFeed.Http.Node

open Outside (exchanges)
open Program (course_of_run)
open Url (IsDotted Named visible)

variable {σ α : Type} {node : Node}

/-- The texts of the URLs that a run of a program requests. -/
def requestedUrls (responder : Responder Outside.interface σ) (state : σ)
    (program : Program Outside.interface α) : List String :=
  (exchanges (program.run responder state).2.1).map fun exchanged => exchanged.1.url.text

/-- A node of another scheme is never called, whatever is asked of it. -/
theorem requestedUrls_of_not_web (hother : ¬ node.IsWeb) (responder : Responder Outside.interface σ)
    (state : σ) :
    (∀ method segments body, requestedUrls responder state (node.send method segments body) = []) ∧
    ∀ index, requestedUrls responder state (node.indexExists index) = [] := by
  have huncontacted {segments : List String} {url : Url} (hbelow : node.url segments = .ok url)
      (method : Method) (body : Option Json) :
      node.contact method url body = pure (.error (.transport "URL scheme is not allowed")) := by
    rw [contact, scheme_of_url hbelow]
    exact if_neg hother
  constructor
  · intro method segments body
    rw [send]
    cases hbelow : node.url segments with
    | error e => rfl
    | ok url =>
      dsimp only
      rw [huncontacted hbelow]
      rfl
  · intro index
    rw [indexExists]
    cases hbelow : node.url [index] with
    | error e => rfl
    | ok url =>
      dsimp only
      rw [huncontacted hbelow]
      rfl

/-- Two programs that make one call each, to paths that differ in one segment, request the same URL only
if no more than tabs and line ends tells the segments apart. -/
theorem requestedUrls_eq_iff_of_calls {β : Type} {responder : Responder Outside.interface σ} {state : σ}
    {first : Program Outside.interface α} {second : Program Outside.interface β} {method : Method}
    {body body' : Option Json} (hbase : node.base.IsHierarchical) {a b : String}
    (ha : ¬ IsDotted a) (hb : ¬ IsDotted b) (before : List String) {after : List String}
    (hnamed : Named after)
    (h : ∃ call exchange, exchanges (first.run responder state).2.1 = [(call, exchange)] ∧
      node.Calls method (before ++ a :: after) body call)
    (h' : ∃ call exchange, exchanges (second.run responder state).2.1 = [(call, exchange)] ∧
      node.Calls method (before ++ b :: after) body' call) :
    requestedUrls responder state first = requestedUrls responder state second ↔
      visible a.toList = visible b.toList := by
  obtain ⟨call, exchange, hmade, hcalls⟩ := h
  obtain ⟨call', exchange', hmade', hcalls'⟩ := h'
  rw [requestedUrls, requestedUrls, hmade, hmade', List.map_singleton, List.map_singleton,
    List.singleton_inj]
  exact Url.text_below_eq_iff hbase.1 ha hb hnamed (url_eq_ok_iff.mp hcalls.url_eq)
    (url_eq_ok_iff.mp hcalls'.url_eq)

/-- A request makes one call, whatever the answer is. -/
theorem run_send (hbase : node.base.IsHierarchical) (hweb : node.IsWeb)
    (responder : Responder Outside.interface σ) (state : σ) (method : Method) (segments : List String)
    (body : Option Json) :
    ∃ call exchange,
      exchanges ((node.send method segments body).run responder state).2.1 = [(call, exchange)] ∧
        node.Calls method segments body call := by
  obtain ⟨call, exchange, hmade, hcalls, -⟩ := send_course hbase hweb (course_of_run rfl)
  exact ⟨call, exchange, hmade, hcalls⟩

private theorem run_indexExists (hbase : node.base.IsHierarchical) (hweb : node.IsWeb)
    (responder : Responder Outside.interface σ) (state : σ) (index : String) :
    ∃ call exchange,
      exchanges ((node.indexExists index).run responder state).2.1 = [(call, exchange)] ∧
        node.Calls .head [index] none call := by
  obtain ⟨call, exchange, hmade, hcalls, -⟩ := indexExists_course hbase hweb (course_of_run rfl)
  exact ⟨call, exchange, hmade, hcalls⟩

private theorem send_urls_eq_iff (hbase : node.base.IsHierarchical) (hweb : node.IsWeb)
    (responder : Responder Outside.interface σ) (state : σ) {a b : String} (ha : ¬ IsDotted a)
    (hb : ¬ IsDotted b) (method : Method) (before : List String) {after : List String}
    (hnamed : Named after) (body body' : Option Json) :
    requestedUrls responder state (node.send method (before ++ a :: after) body) =
        requestedUrls responder state (node.send method (before ++ b :: after) body') ↔
      visible a.toList = visible b.toList :=
  requestedUrls_eq_iff_of_calls hbase ha hb before hnamed
    (run_send hbase hweb responder state method (before ++ a :: after) body)
    (run_send hbase hweb responder state method (before ++ b :: after) body')

/-- Whether two names have one URL just where `same` holds: as the ids of documents of one type, which are
updated, written and read, and as the names of indices. -/
structure SharesUrls (node : Node) (responder : Responder Outside.interface σ) (state : σ) (a b : String)
    (same : Prop) : Prop where
  update : ∀ index type body body',
    requestedUrls responder state (node.update ⟨⟨index, type, a⟩, body⟩) =
      requestedUrls responder state (node.update ⟨⟨index, type, b⟩, body'⟩) ↔ same
  index : ∀ index type body body',
    requestedUrls responder state (node.index ⟨⟨index, type, a⟩, body⟩) =
      requestedUrls responder state (node.index ⟨⟨index, type, b⟩, body'⟩) ↔ same
  get : ∀ index type,
    requestedUrls responder state (node.get ⟨index, type, a⟩) =
      requestedUrls responder state (node.get ⟨index, type, b⟩) ↔ same
  createIndex : requestedUrls responder state (node.createIndex a) =
    requestedUrls responder state (node.createIndex b) ↔ same
  indexExists : requestedUrls responder state (node.indexExists a) =
    requestedUrls responder state (node.indexExists b) ↔ same
  deleteIndex : requestedUrls responder state (node.deleteIndex a) =
    requestedUrls responder state (node.deleteIndex b) ↔ same

/-- Below a base on the web, names that do not stand for a directory have one URL exactly if no more than
tabs and line ends tells them apart. -/
theorem sharesUrls_of_isHierarchical (responder : Responder Outside.interface σ) (state : σ)
    (hbase : node.base.IsHierarchical) (hweb : node.IsWeb) {a b : String} (ha : ¬ IsDotted a)
    (hb : ¬ IsDotted b) :
    node.SharesUrls responder state a b (visible a.toList = visible b.toList) := by
  have hurls := send_urls_eq_iff hbase hweb responder state ha hb
  have hupdate : Named ["_update"] := by
    intro segment hs
    obtain rfl := List.mem_singleton.mp hs
    decide
  have hlast : Named [] := fun _ hs => absurd hs List.not_mem_nil
  exact {
    update := fun index type _ _ => hurls .post [index, type] hupdate _ _
    index := fun index type _ _ => hurls .put [index, type] hlast _ _
    get := fun index type => hurls .get [index, type] hlast none none
    createIndex := hurls .put [] hlast none none
    indexExists := requestedUrls_eq_iff_of_calls hbase ha hb [] hlast
      (run_indexExists hbase hweb responder state a) (run_indexExists hbase hweb responder state b)
    deleteIndex := hurls .delete [] hlast none none }

/-- Two documents of one type are written and read at one URL exactly if no more than tabs and line ends
tells their ids apart, and so are two indices by their names; all this for ids and names that do not
stand for a directory. -/
theorem requestedUrls_eq_iff (responder : Responder Outside.interface σ) (state : σ)
    {settings : Settings} (hmade : ofSettings settings = .ok node) (hweb : node.IsWeb) {a b : String}
    (ha : ¬ IsDotted a) (hb : ¬ IsDotted b) :
    node.SharesUrls responder state a b (visible a.toList = visible b.toList) :=
  sharesUrls_of_isHierarchical responder state (isHierarchical_base hmade hweb) hweb ha hb

private def silence : Responder Outside.interface Unit where
  respond
    | _, .exchange _ => (.error "refused", ())
    | _, .lookup _ => (.ok [], ())
    | _, .log _ => ((), ())
    | _, .input => (.ok "", ())
    | _, .file _ => (.missing, ())

private def localNode : Node :=
  ⟨⟨"http", some ⟨[], .name "localhost", some 9200⟩, .segments [[]], none, none⟩, 30⟩

/-- An id with a slash and one with its escape are told apart; a line end is not seen. -/
theorem slash_and_percent_have_own_urls :
    let update id := localNode.update ⟨⟨"people", "person", id⟩, .script "s"⟩
    ofSettings .default = .ok localNode ∧ localNode.IsWeb ∧
    ¬ IsDotted "a/b" ∧ ¬ IsDotted "a%2Fb" ∧ ¬ IsDotted "a/\nb" ∧
    requestedUrls silence () (update "a/b") ≠ requestedUrls silence () (update "a%2Fb") ∧
    requestedUrls silence () (update "a/b") = requestedUrls silence () (update "a/\nb") := by
  intro update
  have hmade : ofSettings .default = .ok localNode := rfl
  have hweb : localNode.IsWeb := .inl rfl
  have hslash : ¬ IsDotted "a/b" := by decide
  have hpercent : ¬ IsDotted "a%2Fb" := by decide
  have hline : ¬ IsDotted "a/\nb" := by decide
  refine ⟨hmade, hweb, hslash, hpercent, hline, ?_, ?_⟩
  · intro hsame
    have hshown := ((requestedUrls_eq_iff silence () hmade hweb hslash hpercent).update _ _ _ _).mp hsame
    exact absurd hshown (by decide)
  · exact ((requestedUrls_eq_iff silence () hmade hweb hslash hline).update _ _ _ _).mpr (by decide)

/-- The ids "." and ".." are left out of the URL of a document, so that the two are written at one URL,
and so are the names of two indices. -/
theorem dots_share_url :
    let update id := localNode.update ⟨⟨"people", "person", id⟩, .script "s"⟩
    ofSettings .default = .ok localNode ∧ "." ≠ ".." ∧
    requestedUrls silence () (update ".") = ["http://localhost:9200/people/person/_update"] ∧
    requestedUrls silence () (update "..") = ["http://localhost:9200/people/person/_update"] ∧
    requestedUrls silence () (localNode.deleteIndex ".") =
      requestedUrls silence () (localNode.deleteIndex "..") := by
  refine ⟨rfl, by decide, rfl, rfl, rfl⟩

end IndexFeed.Http.Node
