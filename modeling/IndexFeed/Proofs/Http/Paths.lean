import IndexFeed.Proofs.Http.Addresses
import IndexFeed.Proofs.Url.Target

/-! The paths at which a node is asked for documents. A server reads the names of index, type and document
off them again, whatever characters these have. -/
namespace IndexFeed.Http.Node

open Outside (exchanges)
open Url (FillsSegment Named Segments decode? encodeSegment)

variable {σ α : Type} {node : Node}

/-- The paths that a run of a program requests, cut at their slashes. -/
def requestedPaths (responder : Responder Outside.interface σ) (state : σ)
    (program : Program Outside.interface α) : List (List (List Char)) :=
  (exchanges (program.run responder state).2.1).map fun exchanged => exchanged.1.url.pathPieces

/-- Whether a program requests a path of these segments, and nothing else; a node of another scheme than
those of the web is never asked. -/
def Requests (node : Node) (program : Program Outside.interface α) (segments : Segments) : Prop :=
  ∀ (σ : Type) (responder : Responder Outside.interface σ) (state : σ),
    (node.IsWeb → requestedPaths responder state program = [[] :: segments]) ∧
      (¬ node.IsWeb → requestedPaths responder state program = [])

private theorem isSeparate_base {settings : Settings} (hmade : ofSettings settings = .ok node)
    (hweb : node.IsWeb) : node.base.IsSeparate := by
  obtain ⟨text, hparsed⟩ := parse_base hmade
  obtain ⟨written, hroute⟩ := Url.route_of_parse hparsed hweb
  exact ⟨_, hroute, Url.separate_readPath true written⟩

/-- Named segments are requested below those of the base, each encoded by itself. -/
theorem send_requests (hbase : node.IsWeb → node.base.IsHierarchical ∧ node.base.IsSeparate)
    {own : Segments} (hown : node.base.Prefixed own) {segment : String} {rest : List String}
    (hnamed : Named (segment :: rest)) (method : Method) (body : Option Json) :
    node.Requests (node.send method (segment :: rest) body)
      (own ++ (segment :: rest).map (encodeSegment true)) := by
  intro σ responder state
  refine ⟨fun hweb => ?_, fun hother => ?_⟩
  · obtain ⟨hhierarchical, path, hroute, hseparate⟩ := hbase hweb
    obtain ⟨call, exchange, hasked, hcalls⟩ :=
      run_send hhierarchical hweb responder state method (segment :: rest) body
    have hbelow := url_eq_ok_iff.mp hcalls.url_eq
    have hpieces := Url.pathPieces_below hhierarchical.1 hroute hseparate hown hnamed hbelow
    rw [Url.isSpecial_of_web hweb] at hpieces
    rw [requestedPaths, hasked, List.map_singleton, hpieces]
    rfl
  · have hsilent := (requestedUrls_of_not_web hother responder state).1 method (segment :: rest) body
    rw [requestedPaths, List.map_eq_nil_iff.mp hsilent, List.map_nil]

private theorem named_concat {names : List String} (hn : ∀ name ∈ names, FillsSegment name) {last : String}
    (hl : FillsSegment last) : Named (names ++ [last]) :=
  Url.named_of_fillsSegment (List.forall_mem_append.mpr ⟨hn, by simpa using hl⟩)

/-- Whether the names of an index and a type, and of any document of them, are each one segment of the
paths that are requested below `own`, off which decoding reads the name again. -/
def RequestsNames (node : Node) (own : Segments) (index type : String) : Prop :=
  ∃ i t, decode? i = some index.toList ∧ decode? t = some type.toList ∧
    (∀ body, node.Requests (node.search ⟨index, type, body⟩) (own ++ [i, t, "_search".toList])) ∧
    ∀ id, FillsSegment id → ∃ d, decode? d = some id.toList ∧
      (∀ body, node.Requests (node.index ⟨⟨index, type, id⟩, body⟩) (own ++ [i, t, d])) ∧
      node.Requests (node.get ⟨index, type, id⟩) (own ++ [i, t, d]) ∧
      ∀ body, node.Requests (node.update ⟨⟨index, type, id⟩, body⟩)
        (own ++ [i, t, d, "_update".toList])

/-- Names are read off the paths below every base on the web whose own segments are told apart. -/
theorem requestsNames_of_isSeparate {node : Node}
    (hbase : node.IsWeb → node.base.IsHierarchical ∧ node.base.IsSeparate) {own : Segments}
    (hown : node.base.Prefixed own) {index type : String} (hi : FillsSegment index)
    (ht : FillsSegment type) : node.RequestsNames own index type := by
  have hrequests {segment : String} {rest : List String} (hnamed : Named (segment :: rest)) :=
    send_requests hbase hown hnamed
  have hnames : ∀ name ∈ [index, type], FillsSegment name := by simp [hi, ht]
  refine ⟨_, _, Url.decode?_encodeSegment true hi, Url.decode?_encodeSegment true ht,
    fun body => hrequests (named_concat hnames (by decide)) .post _, fun id hid => ?_⟩
  have hall : ∀ name ∈ [index, type, id], FillsSegment name := by simp [hi, ht, hid]
  have hnamed := Url.named_of_fillsSegment hall
  exact ⟨_, Url.decode?_encodeSegment true hid, fun body => hrequests hnamed .put _,
    hrequests hnamed .get none, fun body => hrequests (named_concat hall (by decide)) .post _⟩

/-- Below the segments of the base, whatever name stands for a document, its type or its index is one
segment of the path that is requested, and decoding that segment gives the name again. -/
theorem requestedPaths_decode {settings : Settings} {node : Node} (hmade : ofSettings settings = .ok node)
    {own : Segments} (hown : node.base.Prefixed own) {index type : String} (hi : FillsSegment index)
    (ht : FillsSegment type) : node.RequestsNames own index type :=
  requestsNames_of_isSeparate
    (fun hweb => ⟨isHierarchical_base hmade hweb, isSeparate_base hmade hweb⟩) hown hi ht

/-- Names with slashes, percent signs and other marks, below a base with a path of its own. -/
theorem escapes_below_es :
    ∃ node, ofSettings ⟨"http://proxy:8080/es/", none, none, 30⟩ = .ok node ∧ node.IsWeb ∧
      node.base.Prefixed ["es".toList] ∧
      FillsSegment "a/b" ∧ FillsSegment "%2F" ∧ FillsSegment "ä?#\\ " ∧
      ∃ i t d, decode? i = some "a/b".toList ∧ decode? t = some "%2F".toList ∧
        decode? d = some "ä?#\\ ".toList ∧
        node.Requests (node.get ⟨"a/b", "%2F", "ä?#\\ "⟩) ["es".toList, i, t, d] := by
  have hmade : ofSettings ⟨"http://proxy:8080/es/", none, none, 30⟩ = .ok
      ⟨⟨"http", some ⟨[], .name "proxy", some 8080⟩, .segments ["es".toList, []], none, none⟩, 30⟩ := by
    rfl
  have hprefixed : (Url.mk "http" (some ⟨[], .name "proxy", some 8080⟩) (.segments ["es".toList, []])
      none none).Prefixed ["es".toList] := ⟨by decide, .inr rfl⟩
  have hslash : FillsSegment "a/b" := by decide
  have hpercent : FillsSegment "%2F" := by decide
  have hmarks : FillsSegment "ä?#\\ " := by decide
  obtain ⟨i, t, hi, ht, -, hdocuments⟩ := requestedPaths_decode hmade hprefixed hslash hpercent
  obtain ⟨d, hd, -, hget, -⟩ := hdocuments _ hmarks
  exact ⟨_, hmade, .inl rfl, hprefixed, hslash, hpercent, hmarks, i, t, d, hi, ht, hd, hget⟩

end IndexFeed.Http.Node
